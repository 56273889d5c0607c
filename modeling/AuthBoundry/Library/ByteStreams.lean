import AuthBoundry.Library.Encoding

/-!
# Streams of bytes

A stream is the list of the bytes that are still to come.  A line is read
through its line feed, or to the end of the stream, and then decoded; a number
of bytes is read exactly or not at all.
-/

namespace Library

/-! ## UTF-8 -/

/-- The text that the bytes are the UTF-8 form of. -/
def decodeUtf8 (bytes : List UInt8) : Option String :=
  String.fromUTF8? ⟨bytes.toArray⟩

theorem decodeUtf8_eq_some_iff {bytes : List UInt8} {text : String} :
    decodeUtf8 bytes = some text ↔ bytes = utf8 text := by
  unfold decodeUtf8 String.fromUTF8?
  rw [utf8_eq_data]
  constructor
  · intro decoded
    split at decoded
    · obtain rfl := Option.some.inj decoded
      rfl
    · cases decoded
  · intro same
    subst same
    have whole : (⟨text.toByteArray.data.toList.toArray⟩ : ByteArray) =
        text.toByteArray :=
      rfl
    rw [whole, dif_pos text.isValidUTF8]
    rfl

theorem utf8_append (left right : String) :
    utf8 (left ++ right) = utf8 left ++ utf8 right := by
  rw [utf8_eq_data, utf8_eq_data, utf8_eq_data]
  simp

theorem utf8_ofList (characters : List Char) :
    utf8 (String.ofList characters) =
      characters.flatMap String.utf8EncodeChar := by
  rw [utf8_eq_data, ← String.utf8Encode_toList, String.toList_ofList]
  simp [List.utf8Encode]

def asciiBytes (characters : List Char) : List UInt8 :=
  characters.map fun character => UInt8.ofNat character.toNat

def IsAscii (characters : List Char) : Prop :=
  ∀ character ∈ characters, character.toNat < 128

instance (characters : List Char) : Decidable (IsAscii characters) :=
  decidable_of_iff
    (characters.all fun character => character.toNat < 128) (by
      simp [IsAscii])

theorem utf8EncodeChar_ascii {character : Char}
    (ascii : character.toNat < 128) :
    String.utf8EncodeChar character = [UInt8.ofNat character.toNat] := by
  unfold String.utf8EncodeChar
  dsimp only
  have small : character.val.toNat ≤ 0x7f := Nat.le_of_lt_succ ascii
  rw [if_pos small]
  rfl

/-- The form of any other character has no ASCII byte. -/
theorem utf8EncodeChar_high {character : Char}
    (high : 128 ≤ character.toNat) {byte : UInt8}
    (member : byte ∈ String.utf8EncodeChar character) : 128 ≤ byte.toNat := by
  have large : ¬character.val.toNat ≤ 0x7f := by
    have same : character.val.toNat = character.toNat := rfl
    omega
  unfold String.utf8EncodeChar at member
  dsimp only at member
  rw [if_neg large] at member
  generalize character.val.toNat = code at member
  have reduced : ∀ number, (UInt8.ofNat number).toNat = number % 256 :=
    fun number => rfl
  split at member
  · simp only [List.mem_cons, List.not_mem_nil, or_false] at member
    rcases member with rfl | rfl <;> rw [reduced] <;> omega
  · split at member
    · simp only [List.mem_cons, List.not_mem_nil, or_false] at member
      rcases member with rfl | rfl | rfl <;> rw [reduced] <;> omega
    · simp only [List.mem_cons, List.not_mem_nil, or_false] at member
      rcases member with rfl | rfl | rfl | rfl <;> rw [reduced] <;> omega

theorem utf8EncodeChar_ne_nil (character : Char) :
    String.utf8EncodeChar character ≠ [] := by
  unfold String.utf8EncodeChar
  dsimp only
  split_ifs <;> simp

theorem utf8_ascii {characters : List Char} (ascii : IsAscii characters) :
    utf8 (String.ofList characters) = asciiBytes characters := by
  rw [utf8_ofList]
  unfold asciiBytes
  induction characters with
  | nil => rfl
  | cons first rest induction =>
      obtain ⟨low, others⟩ := List.forall_mem_cons.mp ascii
      rw [List.flatMap_cons, utf8EncodeChar_ascii low, induction others]
      rfl

theorem utf8_eq_nil_iff {text : String} : utf8 text = [] ↔ text = "" := by
  have empty : utf8 "" = [] := by
    have ascii : IsAscii [] := by
      intro character member
      cases member
    exact utf8_ascii ascii
  constructor
  · intro same
    exact utf8_inj (same.trans empty.symm)
  · intro same
    rw [same, empty]

theorem char_eq_of_byte {character other : Char}
    (ascii : character.toNat < 128) (otherAscii : other.toNat < 128)
    (same : UInt8.ofNat character.toNat = UInt8.ofNat other.toNat) :
    character = other := by
  have numbers : character.toNat % 256 = other.toNat % 256 :=
    congrArg UInt8.toNat same
  have codes : character.toNat = other.toNat := by omega
  exact Char.toNat_inj.mp codes

/-- A text whose form begins with ASCII begins with those characters. -/
theorem utf8_eq_ascii_append {start : List Char} (ascii : IsAscii start)
    {text : String} {rest : List UInt8}
    (same : utf8 text = asciiBytes start ++ rest) :
    ∃ after, text = String.ofList (start ++ after) ∧
      rest = utf8 (String.ofList after) := by
  induction start generalizing text rest with
  | nil => exact ⟨text.toList, String.ofList_toList.symm,
      by rw [String.ofList_toList]; exact same.symm⟩
  | cons first start induction =>
      obtain ⟨low, others⟩ := List.forall_mem_cons.mp ascii
      have characters : utf8 text =
          text.toList.flatMap String.utf8EncodeChar := by
        rw [← utf8_ofList, String.ofList_toList]
      rw [characters] at same
      cases listed : text.toList with
      | nil =>
          rw [listed] at same
          cases same
      | cons other others' =>
          rw [listed, List.flatMap_cons] at same
          have headByte : asciiBytes (first :: start) ++ rest =
              UInt8.ofNat first.toNat :: (asciiBytes start ++ rest) :=
            rfl
          rw [headByte] at same
          by_cases otherLow : other.toNat < 128
          · rw [utf8EncodeChar_ascii otherLow] at same
            obtain ⟨sameByte, sameRest⟩ := List.cons.inj same
            obtain rfl := char_eq_of_byte otherLow low sameByte
            have shorter : utf8 (String.ofList others') =
                asciiBytes start ++ rest := by
              rw [utf8_ofList]
              exact sameRest
            obtain ⟨after, isText, isRest⟩ := induction others shorter
            refine ⟨after, ?_, isRest⟩
            apply String.toList_inj.mp
            rw [listed, String.toList_ofList]
            have tails := congrArg String.toList isText
            rw [String.toList_ofList, String.toList_ofList] at tails
            rw [tails]
            rfl
          · have wide : 128 ≤ other.toNat := Nat.le_of_not_lt otherLow
            cases encoded : String.utf8EncodeChar other with
            | nil => exact (utf8EncodeChar_ne_nil other encoded).elim
            | cons byte bytes =>
                have high := @utf8EncodeChar_high other wide byte
                  (encoded ▸ List.mem_cons_self)
                rw [encoded] at same
                have sameByte := (List.cons.inj same).1
                rw [sameByte] at high
                have reduced : (UInt8.ofNat first.toNat).toNat =
                    first.toNat % 256 :=
                  rfl
                omega

/-- A text whose form ends with ASCII ends with those characters. -/
theorem utf8_eq_append_ascii {finish : List Char} (ascii : IsAscii finish)
    {text : String} {rest : List UInt8}
    (same : utf8 text = rest ++ asciiBytes finish) :
    ∃ before, text = String.ofList (before ++ finish) ∧
      rest = utf8 (String.ofList before) := by
  induction finish using List.reverseRecOn generalizing text rest with
  | nil => exact ⟨text.toList,
      by rw [List.append_nil, String.ofList_toList],
      by rw [String.ofList_toList, same]; exact (List.append_nil _).symm⟩
  | append_singleton finish last induction =>
      have low : last.toNat < 128 :=
        ascii last (List.mem_append_right _ List.mem_cons_self)
      have others : IsAscii finish := fun character member =>
        ascii character (List.mem_append_left _ member)
      have characters : utf8 text =
          text.toList.flatMap String.utf8EncodeChar := by
        rw [← utf8_ofList, String.ofList_toList]
      have lastByte : rest ++ asciiBytes (finish ++ [last]) =
          rest ++ asciiBytes finish ++ [UInt8.ofNat last.toNat] := by
        unfold asciiBytes
        rw [List.map_append, List.append_assoc]
        rfl
      rw [characters, lastByte] at same
      rcases List.eq_nil_or_concat text.toList with
        none | ⟨init, other, listed⟩
      · rw [none] at same
        exact (List.append_ne_nil_of_right_ne_nil _
          (List.cons_ne_nil _ _) same.symm).elim
      · rw [listed, List.concat_eq_append, List.flatMap_append,
          List.flatMap_singleton] at same
        by_cases otherLow : other.toNat < 128
        · rw [utf8EncodeChar_ascii otherLow] at same
          obtain ⟨sameRest, sameByte⟩ := List.append_inj' same rfl
          obtain rfl := char_eq_of_byte otherLow low
            (List.cons.inj sameByte).1
          have shorter : utf8 (String.ofList init) =
              rest ++ asciiBytes finish := by
            rw [utf8_ofList]
            exact sameRest
          obtain ⟨before, isText, isRest⟩ := induction others shorter
          refine ⟨before, ?_, isRest⟩
          apply String.toList_inj.mp
          have heads := congrArg String.toList isText
          rw [String.toList_ofList, String.toList_ofList] at heads
          rw [listed, String.toList_ofList, heads, List.concat_eq_append,
            List.append_assoc]
        · have wide : 128 ≤ other.toNat := Nat.le_of_not_lt otherLow
          have ends := congrArg List.getLast? same
          rw [List.getLast?_append, List.getLast?_concat] at ends
          cases finished : (String.utf8EncodeChar other).getLast? with
          | none =>
              exact (utf8EncodeChar_ne_nil other
                (List.getLast?_eq_none_iff.mp finished)).elim
          | some byte =>
              rw [finished] at ends
              have sameByte : byte = UInt8.ofNat last.toNat :=
                Option.some.inj ends
              have high := utf8EncodeChar_high wide
                (List.mem_of_getLast? finished)
              rw [sameByte] at high
              have reduced : (UInt8.ofNat last.toNat).toNat =
                  last.toNat % 256 :=
                rfl
              omega

theorem decodeUtf8_between {start finish : List Char}
    (asciiStart : IsAscii start) (asciiFinish : IsAscii finish)
    {middle : List UInt8} {text : String} :
    decodeUtf8 (asciiBytes start ++ (middle ++ asciiBytes finish)) =
        some text ↔
      ∃ inner, decodeUtf8 middle = some inner ∧
        text = String.ofList (start ++ (inner.toList ++ finish)) := by
  rw [decodeUtf8_eq_some_iff]
  constructor
  · intro same
    obtain ⟨after, isText, isRest⟩ := utf8_eq_ascii_append asciiStart same.symm
    obtain ⟨before, isAfter, isMiddle⟩ :=
      utf8_eq_append_ascii asciiFinish isRest.symm
    refine ⟨String.ofList before, decodeUtf8_eq_some_iff.mpr isMiddle, ?_⟩
    have tails := congrArg String.toList isAfter
    rw [String.toList_ofList, String.toList_ofList] at tails
    rw [isText, tails, String.toList_ofList]
  · intro ⟨inner, decoded, isText⟩
    rw [isText, String.ofList_append, String.ofList_append, utf8_append,
      utf8_append, utf8_ascii asciiStart, utf8_ascii asciiFinish,
      String.ofList_toList, ← decodeUtf8_eq_some_iff.mp decoded]

/-! ## Lines -/

/-- The bytes through the next line feed, or all that are left. -/
def takeLine : List UInt8 → List UInt8 × List UInt8
  | [] => ([], [])
  | byte :: rest =>
      if byte == 0x0A then ([byte], rest)
      else (byte :: (takeLine rest).1, (takeLine rest).2)

theorem takeLine_append (stream : List UInt8) :
    (takeLine stream).1 ++ (takeLine stream).2 = stream := by
  induction stream with
  | nil => rfl
  | cons byte rest induction =>
      unfold takeLine
      split
      · rfl
      · exact congrArg _ induction

theorem takeLine_length_lt {stream : List UInt8}
    (nonempty : (takeLine stream).1 ≠ []) :
    (takeLine stream).2.length < stream.length := by
  have lengths := congrArg List.length (takeLine_append stream)
  rw [List.length_append] at lengths
  have positive := List.length_pos_iff.mpr nonempty
  omega

theorem takeLine_feed {line : List UInt8} (whole : 0x0A ∉ line)
    (rest : List UInt8) :
    takeLine (line ++ 0x0A :: rest) = (line ++ [0x0A], rest) := by
  induction line with
  | nil => rfl
  | cons byte line induction =>
      rw [List.mem_cons, not_or] at whole
      have other : ¬(byte == 0x0A) = true := by
        simpa using Ne.symm whole.1
      rw [List.cons_append, takeLine, if_neg other, induction whole.2]
      rfl

end Library
