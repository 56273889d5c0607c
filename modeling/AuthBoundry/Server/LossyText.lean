import AuthBoundry.Library.ByteStreams
import AuthBoundry.Server.Requests

/-!
# What lossy decoding keeps

The bytes of a text are decoded to that text.  Whatever the bytes are, decoding
keeps the number of occurrences of each ASCII character, and undoing the
encoding of a form adds no separators and loses no quotation marks.
-/

namespace AuthBoundry

open Library

/-! ## Texts -/

theorem followers_append {low high : Nat} {second : UInt8}
    (bounds : low ≤ second.toNat ∧ second.toNat ≤ high)
    {later : List UInt8}
    (continued : ∀ byte ∈ later, 0x80 ≤ byte.toNat ∧ byte.toNat ≤ 0xBF)
    (rest : List UInt8) :
    followers low high (later.length + 1) (second :: (later ++ rest)) =
      second :: later := by
  induction later generalizing low high second with
  | nil =>
      simp only [followers, bounds.1, bounds.2, decide_true, Bool.and_self,
        if_true, List.length_nil, List.nil_append]
  | cons third later induction =>
      obtain ⟨thirdBounds, others⟩ := List.forall_mem_cons.mp continued
      have following := induction thirdBounds others
      simp only [followers, bounds.1, bounds.2, decide_true, Bool.and_self,
        if_true, List.length_cons, List.cons_append]
      exact congrArg (List.cons second) following

theorem toNat_ofNat_small {number : Nat} (small : number < 256) :
    (UInt8.ofNat number).toNat = number := by
  change number % 256 = number
  omega

/-- The number that a sequence of bytes stands for. -/
def sequenceValue (lead : Nat) (later : List Nat) : Nat :=
  later.foldl (fun value byte => value * 64 + byte % 64)
    (lead % 2 ^ (6 - later.length))

theorem foldl_ofNat {later : List Nat} (small : ∀ byte ∈ later, byte < 256)
    (value : Nat) :
    (later.map UInt8.ofNat).foldl
        (fun value byte => value * 64 + byte.toNat % 64) value =
      later.foldl (fun value byte => value * 64 + byte % 64) value := by
  induction later generalizing value with
  | nil => rfl
  | cons byte later induction =>
      obtain ⟨fits, others⟩ := List.forall_mem_cons.mp small
      rw [List.map_cons, List.foldl_cons, List.foldl_cons,
        toNat_ofNat_small fits]
      exact induction others _

theorem decodeLossy_sequence {lead next low high : Nat} {later : List Nat}
    (beyond : 0x80 ≤ lead) (fits : lead < 256)
    (sequence : sequenceOf lead = some (later.length + 1, low, high))
    (bounds : low ≤ next ∧ next ≤ high) (bounded : high ≤ 0xBF)
    (continued : ∀ byte ∈ later, 0x80 ≤ byte ∧ byte ≤ 0xBF)
    (fuel : Nat) (rest : List UInt8) :
    decodeLossy (fuel + 1)
        ((lead :: next :: later).map UInt8.ofNat ++ rest) =
      Char.ofNat (sequenceValue lead (next :: later)) ::
        decodeLossy fuel rest := by
  have leadByte := toNat_ofNat_small fits
  have nextByte := toNat_ofNat_small (show next < 256 by omega)
  have small : ∀ byte ∈ next :: later, byte < 256 := by
    intro byte member
    rcases List.mem_cons.mp member with rfl | further
    · omega
    · have := continued byte further
      omega
  have followed : followers low high (later.length + 1)
      (UInt8.ofNat next :: (later.map UInt8.ofNat ++ rest)) =
        (next :: later).map UInt8.ofNat := by
    have continuedBytes : ∀ byte ∈ later.map UInt8.ofNat,
        0x80 ≤ byte.toNat ∧ byte.toNat ≤ 0xBF := by
      intro byte member
      obtain ⟨number, further, rfl⟩ := List.mem_map.mp member
      rw [toNat_ofNat_small (small number (List.mem_cons_of_mem _ further))]
      exact continued number further
    have followed := followers_append (nextByte.symm ▸ bounds) continuedBytes
      rest
    rw [List.length_map] at followed
    exact followed
  have dropped : (UInt8.ofNat next :: (later.map UInt8.ofNat ++ rest)).drop
      ((next :: later).map UInt8.ofNat).length = rest := by
    simp
  rw [List.map_cons, List.map_cons, List.cons_append, List.cons_append,
    decodeLossy, leadByte, if_neg (Nat.not_lt.mpr beyond)]
  rw [sequence]
  dsimp only
  rw [followed, dropped, List.length_map, List.length_cons, beq_self_eq_true, if_pos rfl,
    foldl_ofNat small]
  rfl

theorem decodeLossy_ascii {first : UInt8} (ascii : first.toNat < 0x80)
    (fuel : Nat) (rest : List UInt8) :
    decodeLossy (fuel + 1) (first :: rest) =
      Char.ofNat first.toNat :: decodeLossy fuel rest := by
  rw [decodeLossy, if_pos ascii]

theorem decodeLossy_utf8EncodeChar (character : Char) (fuel : Nat)
    (rest : List UInt8) :
    decodeLossy (fuel + 1) (String.utf8EncodeChar character ++ rest) =
      character :: decodeLossy fuel rest := by
  have valid : character.val.toNat < 0xD800 ∨
      0xDFFF < character.val.toNat ∧ character.val.toNat < 0x110000 :=
    character.valid
  have whole : Char.ofNat character.val.toNat = character :=
    Char.ofNat_toNat character
  unfold String.utf8EncodeChar
  dsimp only
  generalize character.val.toNat = code at valid whole
  subst whole
  split
  · have byte := toNat_ofNat_small (show code < 256 by omega)
    rw [List.singleton_append, decodeLossy_ascii (by omega), byte]
  · split
    · have sequence : sequenceOf (code / 64 % 32 + 192) =
          some (1, 0x80, 0xBF) := by
        unfold sequenceOf
        simp only [beq_iff_eq, Bool.and_eq_true, decide_eq_true_eq]
        split_ifs <;> first | rfl | omega
      have value : sequenceValue (code / 64 % 32 + 192) [code % 64 + 128] =
          code := by
        change (code / 64 % 32 + 192) % 32 * 64 + (code % 64 + 128) % 64 = code
        omega
      have decoded := @decodeLossy_sequence _ _ _ _ [] (by omega) (by omega)
        sequence (show 0x80 ≤ code % 64 + 128 ∧ _ by omega) (by omega)
        (fun _ member => absurd member List.not_mem_nil) fuel rest
      rw [value] at decoded
      exact decoded
    · split
      · obtain ⟨low, high, sequence, bounds, bounded⟩ : ∃ low high,
            sequenceOf (code / 4096 % 16 + 224) = some (2, low, high) ∧
              (low ≤ code / 64 % 64 + 128 ∧ code / 64 % 64 + 128 ≤ high) ∧
                high ≤ 0xBF := by
          by_cases least : code / 4096 = 0
          · refine ⟨0xA0, 0xBF, ?_, by omega, by omega⟩
            rw [least]
            rfl
          · by_cases surrogates : code / 4096 = 13
            · refine ⟨0x80, 0x9F, ?_, by omega, by omega⟩
              rw [surrogates]
              rfl
            · refine ⟨0x80, 0xBF, ?_, by omega, by omega⟩
              unfold sequenceOf
              simp only [beq_iff_eq, Bool.and_eq_true, decide_eq_true_eq]
              split_ifs <;> first | rfl | omega
        have value : sequenceValue (code / 4096 % 16 + 224)
            [code / 64 % 64 + 128, code % 64 + 128] = code := by
          change ((code / 4096 % 16 + 224) % 16 * 64 +
              (code / 64 % 64 + 128) % 64) * 64 + (code % 64 + 128) % 64 = code
          omega
        have decoded := @decodeLossy_sequence _ _ _ _ [code % 64 + 128]
          (by omega) (by omega) sequence bounds bounded
          (List.forall_mem_singleton.mpr (by omega)) fuel rest
        rw [value] at decoded
        exact decoded
      · obtain ⟨low, high, sequence, bounds, bounded⟩ : ∃ low high,
            sequenceOf (code / 262144 % 8 + 240) = some (3, low, high) ∧
              (low ≤ code / 4096 % 64 + 128 ∧
                code / 4096 % 64 + 128 ≤ high) ∧ high ≤ 0xBF := by
          by_cases least : code / 262144 = 0
          · refine ⟨0x90, 0xBF, ?_, by omega, by omega⟩
            rw [least]
            rfl
          · by_cases greatest : code / 262144 = 4
            · refine ⟨0x80, 0x8F, ?_, by omega, by omega⟩
              rw [greatest]
              rfl
            · refine ⟨0x80, 0xBF, ?_, by omega, by omega⟩
              unfold sequenceOf
              simp only [beq_iff_eq, Bool.and_eq_true, decide_eq_true_eq]
              split_ifs <;> first | rfl | omega
        have value : sequenceValue (code / 262144 % 8 + 240)
            [code / 4096 % 64 + 128, code / 64 % 64 + 128, code % 64 + 128] =
              code := by
          change (((code / 262144 % 8 + 240) % 8 * 64 +
              (code / 4096 % 64 + 128) % 64) * 64 +
                (code / 64 % 64 + 128) % 64) * 64 + (code % 64 + 128) % 64 =
            code
          omega
        have decoded := @decodeLossy_sequence _ _ _ _
          [code / 64 % 64 + 128, code % 64 + 128] (by omega) (by omega)
          sequence bounds bounded
          (List.forall_mem_cons.mpr
            ⟨by omega, List.forall_mem_singleton.mpr (by omega)⟩) fuel rest
        rw [value] at decoded
        exact decoded

/-- The bytes of a text are decoded to it. -/
theorem fromUtf8Lossy_utf8 (text : String) :
    fromUtf8Lossy (utf8 text) = text := by
  have decoded : ∀ (characters : List Char) (fuel : Nat),
      characters.length ≤ fuel →
        decodeLossy fuel (characters.flatMap String.utf8EncodeChar) =
          characters := by
    intro characters
    induction characters with
    | nil =>
        intro fuel _
        cases fuel <;> rfl
    | cons first rest induction =>
        intro fuel enough
        cases fuel with
        | zero => cases enough
        | succ fuel =>
            rw [List.flatMap_cons, decodeLossy_utf8EncodeChar,
              induction fuel (Nat.le_of_succ_le_succ enough)]
  obtain ⟨characters, rfl⟩ : ∃ characters, text = String.ofList characters :=
    ⟨text.toList, String.ofList_toList.symm⟩
  unfold fromUtf8Lossy
  rw [utf8_ofList, decoded]
  induction characters with
  | nil => exact Nat.zero_le _
  | cons first rest induction =>
      have nonempty := List.length_pos_iff.mpr (utf8EncodeChar_ne_nil first)
      rw [List.flatMap_cons, List.length_append, List.length_cons]
      omega

/-! ## Occurrences -/

section Occurrences

variable {low high count lead : Nat} {bytes taken : List UInt8}

theorem followers_append_drop (low high count : Nat) (bytes : List UInt8) :
    followers low high count bytes ++
        bytes.drop (followers low high count bytes).length = bytes := by
  induction count generalizing low high bytes with
  | zero => cases bytes <;> rfl
  | succ count induction =>
      cases bytes with
      | nil => rfl
      | cons byte bytes =>
          rw [followers]
          split
          · rw [List.length_cons, List.drop_succ_cons, List.cons_append,
              induction]
          · rfl

theorem followers_bounds {byte : UInt8}
    (followed : followers low high count bytes = byte :: taken) :
    low ≤ byte.toNat ∧ byte.toNat ≤ high := by
  cases count with
  | zero => cases followed
  | succ count =>
      cases bytes with
      | nil => cases followed
      | cons first rest =>
          rw [followers] at followed
          split at followed
          · rename_i fits
            obtain ⟨rfl, -⟩ := List.cons.inj followed
            simpa only [Bool.and_eq_true, decide_eq_true_eq] using fits
          · cases followed

theorem followers_beyond (beyond : 0x80 ≤ low) (count : Nat)
    (bytes : List UInt8) :
    ∀ byte ∈ followers low high count bytes, 0x80 ≤ byte.toNat := by
  induction count generalizing low high bytes with
  | zero =>
      intro byte member
      cases bytes <;> cases member
  | succ count induction =>
      cases bytes with
      | nil =>
          intro byte member
          cases member
      | cons first rest =>
          intro byte member
          cases followed : followers low high (count + 1) (first :: rest) with
          | nil =>
              rw [followed] at member
              cases member
          | cons head taken =>
              have bounds := followers_bounds followed
              rw [followers] at followed
              split at followed
              · obtain ⟨rfl, rfl⟩ := List.cons.inj followed
                rw [followers, if_pos (by assumption)] at member
                rcases List.mem_cons.mp member with rfl | later
                · omega
                · exact induction (Nat.le_refl _) rest byte later
              · cases followed

theorem sequenceOf_cases {first : Nat}
    (sequence : sequenceOf first = some (count, low, high)) :
    (count = 1 ∧ 0xC2 ≤ first ∧ first ≤ 0xDF ∧ low = 0x80) ∨
      (count = 2 ∧ first = 0xE0 ∧ low = 0xA0 ∧ high = 0xBF) ∨
      (count = 2 ∧ 0xE1 ≤ first ∧ first ≤ 0xEF ∧ low = 0x80) ∨
      (count = 3 ∧ first = 0xF0 ∧ low = 0x90 ∧ high = 0xBF) ∨
      (count = 3 ∧ 0xF1 ≤ first ∧ first ≤ 0xF4 ∧ low = 0x80) := by
  unfold sequenceOf at sequence
  simp only [beq_iff_eq, Bool.and_eq_true, decide_eq_true_eq] at sequence
  split_ifs at sequence <;> cases sequence <;> omega

/-- No sequence stands for an ASCII character. -/
theorem sequenceValue_beyond {first : Nat}
    (sequence : sequenceOf first = some (count, low, high))
    (complete : (followers low high count bytes).length = count) :
    128 ≤ (followers low high count bytes).foldl
      (fun value byte => value * 64 + byte.toNat % 64)
      (first % 2 ^ (6 - count)) := by
  cases followed : followers low high count bytes with
  | nil =>
      rw [followed] at complete
      rcases sequenceOf_cases sequence with ⟨rfl, -⟩ | ⟨rfl, -⟩ | ⟨rfl, -⟩ |
        ⟨rfl, -⟩ | ⟨rfl, -⟩ <;> cases complete
  | cons second later =>
      have bounds := followers_bounds followed
      rw [followed] at complete
      rcases sequenceOf_cases sequence with ⟨rfl, lower, upper, rfl⟩ |
        ⟨rfl, rfl, rfl, rfl⟩ | ⟨rfl, lower, upper, rfl⟩ |
        ⟨rfl, rfl, rfl, rfl⟩ | ⟨rfl, lower, upper, rfl⟩
      · obtain rfl := List.eq_nil_of_length_eq_zero (Nat.succ.inj complete)
        change 128 ≤ first % 32 * 64 + second.toNat % 64
        omega
      · obtain ⟨third, rfl⟩ := List.length_eq_one_iff.mp
          (Nat.succ.inj complete)
        change 128 ≤ (0 * 64 + second.toNat % 64) * 64 + third.toNat % 64
        omega
      · obtain ⟨third, rfl⟩ := List.length_eq_one_iff.mp
          (Nat.succ.inj complete)
        change 128 ≤ (first % 16 * 64 + second.toNat % 64) * 64 +
          third.toNat % 64
        omega
      · obtain ⟨third, fourth, rfl⟩ := List.length_eq_two.mp
          (Nat.succ.inj complete)
        change 128 ≤ ((0 * 64 + second.toNat % 64) * 64 +
          third.toNat % 64) * 64 + fourth.toNat % 64
        omega
      · obtain ⟨third, fourth, rfl⟩ := List.length_eq_two.mp
          (Nat.succ.inj complete)
        change 128 ≤ ((first % 8 * 64 + second.toNat % 64) * 64 +
          third.toNat % 64) * 64 + fourth.toNat % 64
        omega

variable {mark : Char}

theorem toNat_ofNat_ascii {code : Nat} (small : code < 128) :
    (Char.ofNat code).toNat = code := by
  unfold Char.ofNat
  rw [dif_pos (Or.inl (by omega))]
  rfl

theorem ofNat_ne_of_beyond (positive : 0 < mark.toNat)
    (ascii : mark.toNat < 128) {code : Nat} (beyond : 128 ≤ code) :
    Char.ofNat code ≠ mark := by
  rintro rfl
  by_cases valid : code.isValidChar
  · have same : (Char.ofNat code).toNat = code := by
      rw [Char.ofNat, dif_pos valid]
      rfl
    omega
  · rw [Char.ofNat, dif_neg valid] at positive
    exact absurd positive (Nat.lt_irrefl 0)

theorem byte_ne_of_beyond (ascii : mark.toNat < 128) {byte : UInt8}
    (beyond : 0x80 ≤ byte.toNat) : byte ≠ UInt8.ofNat mark.toNat := by
  rintro rfl
  rw [toNat_ofNat_small (by omega)] at beyond
  omega

theorem count_beyond (ascii : mark.toNat < 128)
    (beyond : ∀ byte ∈ bytes, 0x80 ≤ byte.toNat) :
    bytes.count (UInt8.ofNat mark.toNat) = 0 := by
  apply List.count_eq_zero.mpr
  intro member
  exact byte_ne_of_beyond ascii (beyond _ member) rfl

/-- Decoding keeps the occurrences of an ASCII character. -/
theorem count_decodeLossy (positive : 0 < mark.toNat)
    (ascii : mark.toNat < 128) {fuel : Nat} (enough : bytes.length ≤ fuel) :
    (decodeLossy fuel bytes).count mark =
      bytes.count (UInt8.ofNat mark.toNat) := by
  induction fuel generalizing bytes with
  | zero =>
      obtain rfl := List.eq_nil_of_length_eq_zero (Nat.le_zero.mp enough)
      rfl
  | succ fuel induction =>
      cases bytes with
      | nil => rfl
      | cons first rest =>
          have shorter : rest.length ≤ fuel := Nat.le_of_succ_le_succ enough
          by_cases small : first.toNat < 0x80
          · rw [decodeLossy_ascii small, List.count_cons, List.count_cons,
              induction shorter]
            have alike : Char.ofNat first.toNat = mark ↔
                first = UInt8.ofNat mark.toNat := by
              constructor
              · rintro rfl
                rw [toNat_ofNat_ascii small, UInt8.ofNat_toNat]
              · rintro rfl
                rw [toNat_ofNat_small (by omega), Char.ofNat_toNat]
            simp only [beq_iff_eq, alike]
          · have beyond := Nat.not_lt.mp small
            rw [decodeLossy, if_neg small,
              List.count_cons_of_ne (byte_ne_of_beyond ascii beyond)]
            cases sequence : sequenceOf first.toNat with
            | none =>
                dsimp only
                rw [List.count_cons_of_ne (ofNat_ne_of_beyond positive ascii
                  (show 128 ≤ 0xFFFD by omega)), induction shorter]
            | some found =>
                obtain ⟨count, low, high⟩ := found
                dsimp only
                have bounds : 0x80 ≤ low := by
                  have cases := sequenceOf_cases sequence
                  omega
                have split := followers_append_drop low high count rest
                have foreign : (if (followers low high count rest).length ==
                      count then
                    Char.ofNat ((followers low high count rest).foldl
                      (fun value byte => value * 64 + byte.toNat % 64)
                      (first.toNat % 2 ^ (6 - count)))
                  else '\uFFFD') ≠ mark := by
                  split
                  · rename_i complete
                    exact ofNat_ne_of_beyond positive ascii
                      (sequenceValue_beyond sequence (beq_iff_eq.mp complete))
                  · exact ofNat_ne_of_beyond positive ascii
                      (show 128 ≤ 0xFFFD by omega)
                have left : (rest.drop
                    (followers low high count rest).length).length ≤ fuel := by
                  rw [List.length_drop]
                  omega
                rw [List.count_cons_of_ne foreign, induction left]
                conv_rhs => rw [← split, List.count_append,
                  count_beyond ascii (followers_beyond bounds count rest)]
                rw [Nat.zero_add]

theorem count_fromUtf8Lossy (positive : 0 < mark.toNat)
    (ascii : mark.toNat < 128) (bytes : List UInt8) :
    (fromUtf8Lossy bytes).toList.count mark =
      bytes.count (UInt8.ofNat mark.toNat) := by
  unfold fromUtf8Lossy
  rw [String.toList_ofList]
  exact count_decodeLossy positive ascii (Nat.le_refl _)

theorem count_utf8 (ascii : mark.toNat < 128) (text : String) :
    (utf8 text).count (UInt8.ofNat mark.toNat) = text.toList.count mark := by
  obtain ⟨characters, rfl⟩ : ∃ characters, text = String.ofList characters :=
    ⟨text.toList, String.ofList_toList.symm⟩
  rw [utf8_ofList, String.toList_ofList]
  induction characters with
  | nil => rfl
  | cons first rest induction =>
      rw [List.flatMap_cons, List.count_append, induction, List.count_cons,
        Nat.add_comm]
      congr 1
      by_cases small : first.toNat < 128
      · rw [utf8EncodeChar_ascii small, List.count_singleton]
        have alike : UInt8.ofNat first.toNat = UInt8.ofNat mark.toNat ↔
            first = mark :=
          ⟨char_eq_of_byte small ascii, fun same => by rw [same]⟩
        simp only [beq_iff_eq, alike]
      · have beyond := Nat.not_lt.mp small
        rw [count_beyond ascii fun byte => utf8EncodeChar_high beyond]
        have different : first ≠ mark := by
          rintro rfl
          omega
        rw [if_neg (by simpa using different)]

/-! ## Forms -/

theorem hexValue_beyond {byte : UInt8} {value : Nat}
    (digit : hexValue byte = some value) : 0x30 ≤ byte.toNat := by
  unfold hexValue at digit
  simp only [Bool.and_eq_true, decide_eq_true_eq] at digit
  split_ifs at digit <;> omega

/-- One list of bytes is another with some escapes undone. -/
inductive Undoes : List UInt8 → List UInt8 → Prop where
  | nil : Undoes [] []
  | kept (byte : UInt8) {undone rest : List UInt8} :
      Undoes undone rest → Undoes (byte :: undone) (byte :: rest)
  | escape (byte : UInt8) {high low : UInt8} {left right : Nat}
      {undone rest : List UInt8} (highDigit : hexValue high = some left)
      (lowDigit : hexValue low = some right) :
      Undoes undone rest →
      Undoes (byte :: undone) (0x25 :: high :: low :: rest)

theorem Undoes.refl (bytes : List UInt8) : Undoes bytes bytes := by
  induction bytes with
  | nil => exact .nil
  | cons byte bytes induction => exact .kept byte induction

theorem undoes_percentDecodeBytes (bytes : List UInt8) :
    Undoes (percentDecodeBytes bytes) bytes := by
  induction bytes using percentDecodeBytes.induct with
  | case1 byte high low rest escape left right lowDigit highDigit induction =>
      obtain rfl := beq_iff_eq.mp escape
      rw [percentDecodeBytes]
      simp only [BEq.rfl, if_true, highDigit, lowDigit]
      exact .escape _ highDigit lowDigit induction
  | case2 byte high low rest escape unread induction =>
      rw [percentDecodeBytes]
      simp only [escape, if_true]
      exact .kept byte induction
  | case3 byte high low rest plain induction =>
      rw [percentDecodeBytes]
      simp only [plain]
      exact .kept byte induction
  | case4 bytes short =>
      rw [percentDecodeBytes]
      · exact .refl bytes
      · exact short

/-- Undoing escapes loses no quotation mark. -/
theorem Undoes.count_quote {undone whole : List UInt8}
    (undoes : Undoes undone whole) :
    whole.count 0x22 ≤ undone.count 0x22 := by
  induction undoes with
  | nil => exact Nat.le_refl _
  | kept byte undoes induction =>
      rw [List.count_cons, List.count_cons]
      omega
  | @escape byte high low left right undone rest highDigit lowDigit undoes
      induction =>
      have different : ∀ digit value, hexValue digit = some value →
          digit ≠ 0x22 := by
        rintro digit value read rfl
        have beyond := hexValue_beyond read
        change 0x30 ≤ 0x22 at beyond
        omega
      rw [List.count_cons_of_ne (by decide),
        List.count_cons_of_ne (different high left highDigit),
        List.count_cons_of_ne (different low right lowDigit), List.count_cons]
      omega

/-- A percent sign is used up by each escape that is undone. -/
theorem Undoes.count_separators {undone whole : List UInt8}
    (undoes : Undoes undone whole) :
    undone.count 0x25 + undone.count 0x26 ≤
      whole.count 0x25 + whole.count 0x26 := by
  induction undoes with
  | nil => exact Nat.le_refl _
  | kept byte undoes induction =>
      simp only [List.count_cons]
      omega
  | @escape byte high low left right undone rest highDigit lowDigit undoes
      induction =>
      have single : (if byte == 0x25 then 1 else 0) +
          (if byte == 0x26 then 1 else 0) ≤ 1 := by
        by_cases percent : byte = 0x25
        · subst percent
          decide
        · simp only [beq_iff_eq, percent, if_false]
          split <;> omega
      have whole : (0x25 :: high :: low :: rest).count 0x25 ≥
          rest.count 0x25 + 1 := by
        rw [List.count_cons_self, List.count_cons, List.count_cons]
        omega
      have others : rest.count 0x26 ≤
          (0x25 :: high :: low :: rest).count 0x26 := by
        simp only [List.count_cons]
        omega
      rw [List.count_cons, List.count_cons]
      omega

theorem count_replaceChar_plus {mark : Char} (plus : mark ≠ '+')
    (space : mark ≠ ' ') (text : String) :
    (replaceChar '+' " " text).toList.count mark = text.toList.count mark := by
  unfold replaceChar
  rw [String.toList_ofList]
  induction text.toList with
  | nil => rfl
  | cons first rest induction =>
      rw [List.flatMap_cons, List.count_append, induction]
      by_cases replaced : first = '+'
      · subst replaced
        rw [if_pos (by rfl), List.count_cons_of_ne plus.symm]
        have blank : " ".toList = [' '] := rfl
        rw [blank, List.count_cons_of_ne space.symm, List.count_nil,
          Nat.zero_add]
      · rw [if_neg (by simpa using replaced), List.count_singleton,
          List.count_cons, Nat.add_comm]

theorem count_percentDecode {mark : Char} (positive : 0 < mark.toNat)
    (ascii : mark.toNat < 128) (input : String) :
    (percentDecode input).toList.count mark =
      (percentDecodeBytes (utf8 (replaceChar '+' " " input))).count
        (UInt8.ofNat mark.toNat) :=
  count_fromUtf8Lossy positive ascii _

theorem count_source {mark : Char} (ascii : mark.toNat < 128)
    (plus : mark ≠ '+') (space : mark ≠ ' ') (input : String) :
    (utf8 (replaceChar '+' " " input)).count (UInt8.ofNat mark.toNat) =
      input.toList.count mark :=
  (count_utf8 ascii _).trans (count_replaceChar_plus plus space input)

/-- A decoded field has every quotation mark of its source. -/
theorem count_quote_percentDecode (input : String) :
    input.toList.count '"' ≤ (percentDecode input).toList.count '"' := by
  have kept := (undoes_percentDecodeBytes
    (utf8 (replaceChar '+' " " input))).count_quote
  have source := @count_source '"' (by decide) (by decide) (by decide) input
  have decoded := @count_percentDecode '"' (by decide) (by decide) input
  rw [← source, decoded]
  exact kept

/-- A decoded field has no more separators and percent signs than its
source. -/
theorem count_separators_percentDecode (input : String) :
    (percentDecode input).toList.count '%' +
        (percentDecode input).toList.count '&' ≤
      input.toList.count '%' + input.toList.count '&' := by
  have kept := (undoes_percentDecodeBytes
    (utf8 (replaceChar '+' " " input))).count_separators
  rw [← @count_source '%' (by decide) (by decide) (by decide) input,
    ← @count_source '&' (by decide) (by decide) (by decide) input,
    @count_percentDecode '%' (by decide) (by decide) input,
    @count_percentDecode '&' (by decide) (by decide) input]
  exact kept

end Occurrences

end AuthBoundry
