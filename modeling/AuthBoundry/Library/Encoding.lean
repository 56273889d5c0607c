import AuthBoundry.Library.Text
import Mathlib.Data.UInt

/-!
# Texts that determine what they were made from

Joining by a separator is injective in a first part that does not contain the
separator, and so are fixed-width hexadecimal and decimal numbers.
-/

namespace Library

theorem append_separator_inj {α : Type} {separator : α}
    {first first' rest rest' : List α} (plain : separator ∉ first)
    (plain' : separator ∉ first')
    (same : first ++ separator :: rest = first' ++ separator :: rest') :
    first = first' ∧ rest = rest' := by
  induction first generalizing first' with
  | nil =>
      cases first' with
      | nil => exact ⟨rfl, List.tail_eq_of_cons_eq same⟩
      | cons item items =>
          have head := List.head_eq_of_cons_eq same
          exact absurd (head ▸ List.mem_cons_self) plain'
  | cons item items induction =>
      cases first' with
      | nil =>
          have head := List.head_eq_of_cons_eq same
          exact absurd (head ▸ List.mem_cons_self) plain
      | cons item' items' =>
          obtain ⟨rfl, tails⟩ := List.cons_eq_cons.mp same
          obtain ⟨rfl, rests⟩ := induction
            (fun member => plain (List.mem_cons_of_mem _ member))
            (fun member => plain' (List.mem_cons_of_mem _ member)) tails
          exact ⟨rfl, rests⟩

theorem append_last_separator_inj {α : Type} {separator : α}
    {front front' last last' : List α} (plain : separator ∉ last)
    (plain' : separator ∉ last')
    (same : front ++ separator :: last = front' ++ separator :: last') :
    front = front' ∧ last = last' := by
  have reversed := congrArg List.reverse same
  simp only [List.reverse_append, List.reverse_cons, List.append_assoc,
    List.singleton_append] at reversed
  obtain ⟨lasts, fronts⟩ := append_separator_inj
    (by simpa using plain) (by simpa using plain') reversed
  exact ⟨List.reverse_inj.mp fronts, List.reverse_inj.mp lasts⟩

theorem joined_inj {separator : Char} (mark : String)
    (marks : mark.toList = [separator])
    {first first' second second' third third' : String}
    (plainFirst : separator ∉ first.toList)
    (plainFirst' : separator ∉ first'.toList)
    (plainSecond : separator ∉ second.toList)
    (plainSecond' : separator ∉ second'.toList)
    (same : first ++ mark ++ second ++ mark ++ third =
      first' ++ mark ++ second' ++ mark ++ third') :
    first = first' ∧ second = second' ∧ third = third' := by
  have lists := congrArg String.toList same
  simp only [String.toList_append, marks, List.append_assoc,
    List.singleton_append] at lists
  obtain ⟨firsts, rest⟩ := append_separator_inj plainFirst plainFirst' lists
  obtain ⟨seconds, thirds⟩ :=
    append_separator_inj plainSecond plainSecond' rest
  exact ⟨String.toList_inj.mp firsts, String.toList_inj.mp seconds,
    String.toList_inj.mp thirds⟩

/-- Code words of which none begins another can be read back from their
concatenation. -/
theorem flatMap_injective {α β : Type} {code : α → List β}
    (nonempty : ∀ letter, code letter ≠ [])
    (apart : ∀ {letter other rest rest'},
      code letter ++ rest = code other ++ rest' → letter = other) :
    Function.Injective (List.flatMap code) := by
  intro left
  induction left with
  | nil =>
      intro right same
      cases right with
      | nil => rfl
      | cons letter right =>
          have parts := List.append_eq_nil_iff.mp same.symm
          exact absurd parts.1 (nonempty letter)
  | cons letter left induction =>
      intro right same
      cases right with
      | nil =>
          have parts := List.append_eq_nil_iff.mp same
          exact absurd parts.1 (nonempty letter)
      | cons other right =>
          rw [List.flatMap_cons, List.flatMap_cons] at same
          obtain rfl := apart same
          rw [induction (List.append_cancel_left same)]

theorem digitChar_inj : ∀ left < 16, ∀ right < 16,
    Nat.digitChar left = Nat.digitChar right → left = right := by
  decide

theorem hexDigits_mod_inj {width left right : Nat}
    (same : hexDigits width left = hexDigits width right) :
    left % 16 ^ width = right % 16 ^ width := by
  induction width generalizing left right with
  | zero => simp [Nat.mod_one]
  | succ width induction =>
      obtain ⟨leading, last⟩ := List.append_inj' same rfl
      have digits := digitChar_inj _ (Nat.mod_lt left (by decide)) _
        (Nat.mod_lt right (by decide)) (List.cons.inj last).1
      have quotients := induction leading
      rw [Nat.pow_succ, Nat.mul_comm, Nat.mod_mul, Nat.mod_mul, digits,
        quotients]

theorem hex16_inj {left right : UInt64} (same : hex16 left = hex16 right) :
    left = right := by
  have bounded : ∀ hash : UInt64, hash.toNat < 16 ^ 16 :=
    fun hash => hash.toNat_lt
  have digits := hexDigits_mod_inj (String.ofList_injective same)
  rw [Nat.mod_eq_of_lt (bounded left), Nat.mod_eq_of_lt (bounded right)]
    at digits
  exact UInt64.toNat_inj.mp digits

theorem hexDigits_eq_leftpad {width number : Nat} (positive : 0 < width)
    (bounded : number < 16 ^ width) :
    hexDigits width number =
      List.leftpad width '0' (Nat.toDigits 16 number) := by
  have zeros : ∀ width, hexDigits width 0 = List.replicate width '0' := by
    intro width
    induction width with
    | zero => rfl
    | succ width induction =>
        rw [hexDigits, Nat.zero_div, induction, List.replicate_succ']
        rfl
  induction width generalizing number with
  | zero => exact absurd positive (Nat.lt_irrefl 0)
  | succ width induction =>
      rw [hexDigits]
      by_cases small : number < 16
      · rw [Nat.div_eq_of_lt small, zeros, Nat.toDigits_of_lt_base small,
          Nat.mod_eq_of_lt small]
        simp [List.leftpad]
      · have wide : 0 < width := by
          rcases Nat.eq_zero_or_pos width with rfl | wide
          · exact absurd bounded (by simpa using small)
          · exact wide
        have less : number / 16 < 16 ^ width := by
          rw [Nat.div_lt_iff_lt_mul (by decide), ← Nat.pow_succ]
          exact bounded
        rw [induction wide less, Nat.toDigits_of_base_le (by decide)
          (Nat.le_of_not_lt small)]
        simp [List.leftpad]

theorem hex16_eq_leftpad (hash : UInt64) :
    hex16 hash =
      String.ofList (List.leftpad 16 '0' (Nat.toDigits 16 hash.toNat)) := by
  have bounded : hash.toNat < 16 ^ 16 := hash.toNat_lt
  rw [hex16, hexDigits_eq_leftpad (by decide) bounded]

/-- The hash as numbers without a limit compute it. -/
theorem toNat_fnv1a (bytes : List UInt8) :
    (fnv1a bytes).toNat = bytes.foldl
      (fun hash byte => ((hash ^^^ byte.toNat) * 0x100000001b3) % 2 ^ 64)
      0xcbf29ce484222325 := by
  have folded : ∀ (bytes : List UInt8) (hash : UInt64),
      (bytes.foldl (fun hash byte => (hash ^^^ byte.toUInt64) * 0x100000001b3)
        hash).toNat =
      bytes.foldl
        (fun hash byte => ((hash ^^^ byte.toNat) * 0x100000001b3) % 2 ^ 64)
        hash.toNat := by
    intro bytes
    induction bytes with
    | nil =>
        intro hash
        rfl
    | cons byte bytes induction =>
        intro hash
        rw [List.foldl_cons, List.foldl_cons, induction, UInt64.toNat_mul,
          UInt64.toNat_xor]
        rfl
  exact folded bytes _

theorem decimal_inj {left right : Nat}
    (same : toString left = toString right) : left = right := by
  have digits : Nat.toDigits 10 left = Nat.toDigits 10 right := by
    rw [← Nat.toList_repr, ← Nat.toList_repr]
    exact congrArg String.toList same
  have values := congrArg (Nat.ofDigitChars 10 · 0) digits
  simpa using values

theorem isDigit_of_mem_decimal {number : Nat} {digit : Char}
    (member : digit ∈ (toString number).toList) : digit.isDigit = true := by
  rw [Nat.toString_eq_repr, Nat.toList_repr] at member
  exact Nat.isDigit_of_mem_toDigits (by omega) (by omega) member

theorem not_mem_decimal {separator : Char}
    (nonDigit : separator.isDigit = false) (number : Nat) :
    separator ∉ (toString number).toList := by
  intro member
  have digit := isDigit_of_mem_decimal member
  simp [nonDigit] at digit

/-- A number is read as it is written. -/
theorem decimalValue_decimal (number : Nat) :
    decimalValue (toString number).toList = some number := by
  have folded : ∀ (digits : List Char) (value : Nat),
      (∀ digit ∈ digits, digit.isDigit = true) →
        digits.foldl
          (fun value digit => value.bind fun value =>
            if digit.isDigit then
              some (value * 10 + (digit.toNat - '0'.toNat))
            else
              none) (some value) = some (Nat.ofDigitChars 10 digits value) := by
    intro digits
    induction digits with
    | nil =>
        intro value _
        rfl
    | cons digit digits induction =>
        intro value isDigits
        obtain ⟨here, others⟩ := List.forall_mem_cons.mp isDigits
        rw [List.foldl_cons, Option.bind_some, if_pos here,
          induction _ others, Nat.ofDigitChars_cons, Nat.mul_comm]
  unfold decimalValue
  rw [if_neg (by simp),
    folded _ 0 fun digit => isDigit_of_mem_decimal, Nat.toString_eq_repr,
    Nat.toList_repr]
  simp

theorem parseU64_decimal (number : Nat) :
    parseU64 (toString number) =
      if number < 2 ^ 64 then some number else none := by
  unfold parseU64
  dsimp only
  split
  · rename_i digits plus
    have digit := @isDigit_of_mem_decimal number '+'
      (by rw [plus]; exact List.mem_cons_self)
    exact absurd digit (by decide)
  · rw [decimalValue_decimal, Option.bind_some]

theorem parseI64_decimal {number : Int}
    (lower : -9223372036854775808 ≤ number)
    (upper : number ≤ 9223372036854775807) :
    parseI64 (toString number) = some number := by
  cases number with
  | ofNat whole =>
      change parseI64 (toString whole) = _
      have bounded : -9223372036854775808 ≤ (whole : Int) ∧
          (whole : Int) ≤ 9223372036854775807 := ⟨lower, upper⟩
      unfold parseI64
      dsimp only
      split
      · rename_i digits sign
        have digit := @isDigit_of_mem_decimal whole '-'
          (by rw [sign]; exact List.mem_cons_self)
        exact absurd digit (by decide)
      · rename_i digits sign
        have digit := @isDigit_of_mem_decimal whole '+'
          (by rw [sign]; exact List.mem_cons_self)
        exact absurd digit (by decide)
      · rw [decimalValue_decimal, Option.bind_some, if_pos bounded]
        rfl
  | negSucc whole =>
      have written : (toString (Int.negSucc whole)).toList =
          '-' :: (toString (whole + 1)).toList := by
        change ("-" ++ Nat.repr (whole + 1)).toList = _
        rw [String.toList_append]
        rfl
      unfold parseI64
      rw [written]
      change ((decimalValue (toString (whole + 1)).toList).bind fun value =>
        if -9223372036854775808 ≤ -(value : Int) ∧
            -(value : Int) ≤ 9223372036854775807 then
          some (-(value : Int))
        else none) = _
      rw [decimalValue_decimal, Option.bind_some, if_pos ⟨by omega, by omega⟩]
      rfl

/-- A number at the end of a text can be read back. -/
theorem decimal_suffix_inj {separator : Char}
    (nonDigit : separator.isDigit = false) {front front' : List Char}
    {left right : Nat}
    (same : front ++ separator :: (toString left).toList =
      front' ++ separator :: (toString right).toList) : left = right := by
  obtain ⟨_, digits⟩ := append_last_separator_inj
    (not_mem_decimal nonDigit left) (not_mem_decimal nonDigit right) same
  exact decimal_inj (String.toList_inj.mp digits)

/-! ## Bytes -/

theorem byteArray_toList_loop (bytes : ByteArray) (index : Nat)
    (read : List UInt8) :
    ByteArray.toList.loop bytes index read =
      read.reverse ++ bytes.data.toList.drop index := by
  fun_induction ByteArray.toList.loop bytes index read with
  | case1 index read below induction =>
      have bound : index < bytes.data.toList.length := below
      rw [induction, List.drop_eq_getElem_cons bound]
      simp [ByteArray.get!, getElem!_pos bytes.data index below]
  | case2 index read above =>
      have beyond : bytes.data.toList.length ≤ index := Nat.le_of_not_lt above
      rw [List.drop_eq_nil_of_le beyond, List.append_nil]

theorem utf8_eq_data (text : String) :
    utf8 text = text.toByteArray.data.toList := by
  unfold utf8
  rw [ByteArray.toList, byteArray_toList_loop]
  simp

theorem utf8_inj {left right : String} (same : utf8 left = utf8 right) :
    left = right := by
  rw [utf8_eq_data, utf8_eq_data] at same
  exact String.toByteArray_inj.mp (ByteArray.ext (Array.toList_inj.mp same))

theorem utf8EncodeChar_lt {character : Char} {byte : UInt8}
    (member : byte ∈ String.utf8EncodeChar character) : byte.toNat < 0xFF := by
  unfold String.utf8EncodeChar at member
  dsimp only at member
  generalize character.val.toNat = code at member
  have reduced : ∀ number, (UInt8.ofNat number).toNat = number % 256 :=
    fun number => rfl
  -- One case for each number of bytes that a character can take.
  split at member
  · rw [List.mem_singleton.mp member, reduced]
    omega
  · split at member
    · simp only [List.mem_cons, List.not_mem_nil, or_false] at member
      rcases member with rfl | rfl <;> rw [reduced] <;> omega
    · split at member
      · simp only [List.mem_cons, List.not_mem_nil, or_false] at member
        rcases member with rfl | rfl | rfl <;> rw [reduced] <;> omega
      · simp only [List.mem_cons, List.not_mem_nil, or_false] at member
        rcases member with rfl | rfl | rfl | rfl <;> rw [reduced] <;> omega

/-- No text has the byte `0xFF`. -/
theorem not_mem_utf8 (text : String) : 0xFF ∉ utf8 text := by
  intro member
  have characters : utf8 text =
      text.toList.flatMap String.utf8EncodeChar := by
    rw [utf8_eq_data, ← String.utf8Encode_toList]
    simp [List.utf8Encode]
  rw [characters] at member
  obtain ⟨_, _, encoded⟩ := List.mem_flatMap.mp member
  exact absurd (utf8EncodeChar_lt encoded) (by decide)

end Library
