import AuthBoundry.Library.Cuts
import AuthBoundry.Server.Client

/-!
# Responses that are read as they were sent

Every well-formed response of an upstream is read with its status, its fields
and its body, as far as its texts are UTF-8 and its framing shows in the last of
its framing fields, whatever the request was.
-/

namespace AuthBoundry

open Library
open scoped Library.Listed

/-! ## Characters and bytes -/

theorem isTokenChar_bounds {character : Char}
    (token : isTokenChar character = true) :
    (33 ≤ character.toNat ∧ character.toNat < 127) ∧ character ≠ ':' := by
  unfold isTokenChar at token
  rw [Bool.or_eq_true, Bool.or_eq_true, Bool.or_eq_true] at token
  rcases token with ((alphanumeric | mark) | apostrophe) | accent
  · have colon : character ≠ ':' := by
      intro isColon
      rw [isColon] at alphanumeric
      exact absurd alphanumeric (by decide)
    refine ⟨?_, colon⟩
    delta Char.isAlphanum Char.isAlpha Char.isUpper Char.isLower Char.isDigit
      at alphanumeric
    simp only [Bool.or_eq_true, Bool.and_eq_true,
      decide_eq_true_eq] at alphanumeric
    have upper : ∀ low high : UInt32, low ≤ character.val →
        character.val ≤ high → low.toNat ≤ character.toNat ∧
          character.toNat ≤ high.toNat :=
      fun _ _ least most => ⟨least, most⟩
    rcases alphanumeric with (⟨least, most⟩ | ⟨least, most⟩) | ⟨least, most⟩
    · obtain ⟨first, last⟩ := upper _ _ least most
      have lowest : ('A' : Char).val.toNat = 65 := rfl
      have highest : ('Z' : Char).val.toNat = 90 := rfl
      omega
    · obtain ⟨first, last⟩ := upper _ _ least most
      have lowest : ('a' : Char).val.toNat = 97 := rfl
      have highest : ('z' : Char).val.toNat = 122 := rfl
      omega
    · obtain ⟨first, last⟩ := upper _ _ least most
      have lowest : ('0' : Char).val.toNat = 48 := rfl
      have highest : ('9' : Char).val.toNat = 57 := rfl
      omega
  · have marks : ∀ other ∈ "!#$%&*+-.^_|~".toList,
        (33 ≤ other.toNat ∧ other.toNat < 127) ∧ other ≠ ':' := by
      decide
    exact marks character (List.contains_iff_mem.mp mark)
  · have code := beq_iff_eq.mp apostrophe
    refine ⟨by omega, ?_⟩
    intro isColon
    rw [isColon] at code
    exact absurd code (by decide)
  · have code := beq_iff_eq.mp accent
    refine ⟨by omega, ?_⟩
    intro isColon
    rw [isColon] at code
    exact absurd code (by decide)

theorem isWhitespace_visible {character : Char}
    (visible : 33 ≤ character.toNat ∧ character.toNat < 127) :
    isWhitespace character = false := by
  unfold isWhitespace
  rw [Bool.eq_false_iff]
  simp only [ne_eq, Bool.or_eq_true, Bool.and_eq_true, decide_eq_true_eq,
    beq_iff_eq]
  omega

theorem isBlankChar_iff {character : Char} :
    isBlankChar character = true ↔ character = ' ' ∨ character = '\t' := by
  unfold isBlankChar
  rw [Bool.or_eq_true, beq_iff_eq, beq_iff_eq]

theorem isWhitespace_of_isBlankChar {character : Char}
    (blank : isBlankChar character = true) : isWhitespace character = true := by
  rcases isBlankChar_iff.mp blank with rfl | rfl <;> decide

theorem mem_asciiBytes {characters : List Char} (ascii : IsAscii characters)
    {character : Char} (low : character.toNat < 128) :
    UInt8.ofNat character.toNat ∈ asciiBytes characters ↔
      character ∈ characters := by
  unfold asciiBytes
  rw [List.mem_map]
  constructor
  · intro ⟨other, member, same⟩
    rwa [← char_eq_of_byte (ascii other member) low same]
  · intro member
    exact ⟨character, member, rfl⟩

theorem byte_mem_utf8 {text : String} {character : Char}
    (member : character ∈ text.toList) (low : character.toNat < 128) :
    UInt8.ofNat character.toNat ∈ utf8 text := by
  have characters : utf8 text =
      text.toList.flatMap String.utf8EncodeChar := by
    rw [← utf8_ofList, String.ofList_toList]
  rw [characters]
  refine List.mem_flatMap.mpr ⟨character, member, ?_⟩
  rw [utf8EncodeChar_ascii low]
  exact List.mem_cons_self

/-! ## Lines -/

section Lines

variable {start finish : List Char} {middle rest : List UInt8}

theorem readLine_between (asciiStart : IsAscii start)
    (asciiFinish : IsAscii finish) (wholeStart : '\n' ∉ start)
    (wholeMiddle : 0x0A ∉ middle) (wholeFinish : '\n' ∉ finish) :
    readLine (asciiBytes start ++
        (middle ++ asciiBytes (finish ++ ['\n'])) ++ rest) =
      match decodeUtf8 middle with
      | some inner => .ok
          (String.ofList (start ++ (inner.toList ++ (finish ++ ['\n']))), rest)
      | none => .error (.error "stream did not contain valid UTF-8") := by
  have ended : asciiBytes (finish ++ ['\n']) = asciiBytes finish ++ [0x0A] := by
    unfold asciiBytes
    rw [List.map_append]
    rfl
  have whole : 0x0A ∉ asciiBytes start ++ (middle ++ asciiBytes finish) := by
    rw [List.mem_append, List.mem_append, not_or, not_or]
    have feed : (0x0A : UInt8) = UInt8.ofNat '\n'.toNat := rfl
    refine ⟨?_, wholeMiddle, ?_⟩
    · rw [feed, mem_asciiBytes asciiStart (by decide)]
      exact wholeStart
    · rw [feed, mem_asciiBytes asciiFinish (by decide)]
      exact wholeFinish
  have taken : takeLine (asciiBytes start ++
      (middle ++ asciiBytes (finish ++ ['\n'])) ++ rest) =
        (asciiBytes start ++ (middle ++ asciiBytes (finish ++ ['\n'])),
          rest) := by
    have cut := takeLine_feed whole rest
    rw [ended]
    simpa [List.append_assoc] using cut
  have asciiEnded : IsAscii (finish ++ ['\n']) := by
    intro character member
    rcases List.mem_append.mp member with inFinish | isFeed
    · exact asciiFinish character inFinish
    · rw [List.mem_singleton.mp isFeed]
      decide
  unfold readLine
  rw [taken]
  dsimp only
  cases decoded : decodeUtf8 middle with
  | some inner =>
      rw [(decodeUtf8_between asciiStart asciiEnded).mpr
        ⟨inner, decoded, rfl⟩]
  | none =>
      cases line : decodeUtf8 (asciiBytes start ++
          (middle ++ asciiBytes (finish ++ ['\n']))) with
      | none => rfl
      | some text =>
          obtain ⟨inner, found, _⟩ :=
            (decodeUtf8_between asciiStart asciiEnded).mp line
          rw [decoded] at found
          cases found

end Lines

/-! ## Fields -/

namespace FieldReading

variable {field : FieldLine} {inner : String}

def content (field : FieldLine) (inner : String) : List Char :=
  field.name ++ ':' :: (field.before ++ (inner.toList ++ field.after))

theorem name_bounds (wellFormed : field.WellFormed) {character : Char}
    (member : character ∈ field.name) :
    (33 ≤ character.toNat ∧ character.toNat < 127) ∧ character ≠ ':' :=
  isTokenChar_bounds (wellFormed.token character member)

theorem blank_bounds {blanks : List Char}
    (blank : ∀ character ∈ blanks, isBlankChar character = true)
    {character : Char} (member : character ∈ blanks) :
    character.toNat < 128 ∧ isLineEnd character = false := by
  rcases isBlankChar_iff.mp (blank character member) with rfl | rfl <;> decide

theorem isLineEnd_visible {character : Char} (visible : 33 ≤ character.toNat) :
    isLineEnd character = false := by
  unfold isLineEnd
  rw [Bool.or_eq_false_iff]
  constructor
  · rw [beq_eq_false_iff_ne]
    intro same
    rw [same] at visible
    exact absurd visible (by decide)
  · rw [beq_eq_false_iff_ne]
    intro same
    rw [same] at visible
    exact absurd visible (by decide)

theorem value_noLineEnd {value : List UInt8}
    (bytes : ∀ byte ∈ value, isFieldByte byte = true)
    (decoded : decodeUtf8 value = some inner) {character : Char}
    (member : character ∈ inner.toList) : isLineEnd character = false := by
  rw [decodeUtf8_eq_some_iff.mp decoded] at bytes
  cases ends : isLineEnd character with
  | false => rfl
  | true =>
      unfold isLineEnd at ends
      rw [Bool.or_eq_true, beq_iff_eq, beq_iff_eq] at ends
      have low : character.toNat < 128 := by
        rcases ends with rfl | rfl <;> decide
      have isByte := bytes _ (byte_mem_utf8 member low)
      rcases ends with rfl | rfl <;> exact absurd isByte (by decide)

theorem content_noLineEnd (wellFormed : field.WellFormed)
    (decoded : decodeUtf8 field.value = some inner) {character : Char}
    (member : character ∈ content field inner) :
    isLineEnd character = false := by
  unfold content at member
  rcases List.mem_append.mp member with inName | later
  · exact isLineEnd_visible (name_bounds wellFormed inName).1.1
  · rcases List.mem_cons.mp later with isColon | later
    · rw [isColon]
      decide
    · rcases List.mem_append.mp later with inBefore | later
      · exact (blank_bounds wellFormed.before inBefore).2
      · rcases List.mem_append.mp later with inValue | inAfter
        · exact value_noLineEnd wellFormed.value decoded inValue
        · exact (blank_bounds wellFormed.after inAfter).2

theorem trimLineEnd_line {text : List Char}
    (plain : ∀ character ∈ text, isLineEnd character = false) :
    trimLineEnd (String.ofList (text ++ lineEnd)) = String.ofList text := by
  unfold trimLineEnd
  rw [String.toList_ofList, List.reverse_append]
  have dropped : (lineEnd.reverse ++ text.reverse).dropWhile isLineEnd =
      text.reverse.dropWhile isLineEnd :=
    List.dropWhile_append_of_pos (by decide)
  have kept : text.reverse.dropWhile isLineEnd = text.reverse := by
    cases turned : text.reverse with
    | nil => rfl
    | cons first rest =>
        have member : first ∈ text := by
          rw [← List.mem_reverse, turned]
          exact List.mem_cons_self
        rw [List.dropWhile_cons_of_neg]
        rw [plain first member]
        exact Bool.false_ne_true
  rw [dropped, kept, List.reverse_reverse]

/-- The line of a field is read as its name in lower case and its value
trimmed. -/
theorem headerOf_content (wellFormed : field.WellFormed) :
    headerOf (String.ofList (content field inner)) =
      some (field.key, trim inner) := by
  have plain : ':' ∉ field.name := fun member =>
    (name_bounds wellFormed member).2 rfl
  have sameName : trimList field.name = field.name :=
    trimList_eq_self fun character member =>
      isWhitespace_visible (name_bounds wellFormed member).1
  have sameValue : trimList (field.before ++ (inner.toList ++ field.after)) =
      trimList inner.toList :=
    trimList_between
      (fun character member =>
        isWhitespace_of_isBlankChar (wellFormed.before character member))
      (fun character member =>
        isWhitespace_of_isBlankChar (wellFormed.after character member))
  unfold headerOf content
  rw [splitOnce_ofList plain, Option.map_some]
  dsimp only
  unfold trim FieldLine.key
  rw [String.toList_ofList, String.toList_ofList, sameName, sameValue]

theorem readLine_field (wellFormed : field.WellFormed) (rest : List UInt8) :
    readLine (field.bytes ++ rest) =
      match decodeUtf8 field.value with
      | some inner =>
          .ok (String.ofList (content field inner ++ lineEnd), rest)
      | none => .error (.error "stream did not contain valid UTF-8") := by
  have asciiStart : IsAscii (field.name ++ ':' :: field.before) := by
    intro character member
    rcases List.mem_append.mp member with inName | later
    · have bounds := (name_bounds wellFormed inName).1
      omega
    · rcases List.mem_cons.mp later with isColon | inBefore
      · rw [isColon]
        decide
      · exact (blank_bounds wellFormed.before inBefore).1
  have asciiFinish : IsAscii (field.after ++ ['\r']) := by
    intro character member
    rcases List.mem_append.mp member with inAfter | isReturn
    · exact (blank_bounds wellFormed.after inAfter).1
    · rw [List.mem_singleton.mp isReturn]
      decide
  have wholeStart : '\n' ∉ field.name ++ ':' :: field.before := by
    intro member
    rcases List.mem_append.mp member with inName | later
    · have bounds := (name_bounds wellFormed inName).1.1
      exact absurd bounds (by decide)
    · rcases List.mem_cons.mp later with isColon | inBefore
      · exact absurd isColon (by decide)
      · exact absurd (blank_bounds wellFormed.before inBefore).2 (by decide)
  have wholeFinish : '\n' ∉ field.after ++ ['\r'] := by
    intro member
    rcases List.mem_append.mp member with inAfter | isReturn
    · exact absurd (blank_bounds wellFormed.after inAfter).2 (by decide)
    · exact absurd (List.mem_singleton.mp isReturn) (by decide)
  have wholeValue : (0x0A : UInt8) ∉ field.value := by
    intro member
    exact absurd (wellFormed.value _ member) (by decide)
  have read := @readLine_between _ _ field.value rest asciiStart asciiFinish
    wholeStart wholeValue wholeFinish
  have sameLine : field.bytes ++ rest =
      asciiBytes (field.name ++ ':' :: field.before) ++
        (field.value ++ asciiBytes (field.after ++ ['\r'] ++ ['\n'])) ++
          rest := by
    rw [FieldLine.bytes, List.append_assoc field.after]
    rfl
  rw [sameLine, read]
  cases decodeUtf8 field.value with
  | none => rfl
  | some inner =>
      dsimp only
      congr 3
      simp [content, lineEnd]

theorem content_ne_empty : String.ofList (content field inner) ≠ "" := by
  intro empty
  have isNil := congrArg String.toList empty
  rw [String.toList_ofList] at isNil
  exact List.append_ne_nil_of_right_ne_nil _ (List.cons_ne_nil _ _) isNil

end FieldReading

open FieldReading

theorem readLine_lineEnd (rest : List UInt8) :
    readLine (asciiBytes lineEnd ++ rest) =
      .ok (String.ofList lineEnd, rest) := by
  have none : IsAscii ([] : List Char) := by
    intro character member
    cases member
  have ret : IsAscii ['\r'] := by
    intro character member
    rw [List.mem_singleton.mp member]
    decide
  have empty : decodeUtf8 [] = some "" :=
    decodeUtf8_eq_some_iff.mpr (utf8_eq_nil_iff.mpr rfl).symm
  have read := @readLine_between [] ['\r'] [] rest none ret (by decide)
    (by decide) (by decide)
  rw [empty] at read
  exact read

def fieldText (field : FieldLine) : String :=
  (decodeUtf8 field.value).getD ""

def readField (field : FieldLine) : String × String :=
  (field.key, trim (fieldText field))

section Heads

variable {fields : List FieldLine}

theorem readHeaders_fields
    (wellFormed : ∀ field ∈ fields, field.WellFormed)
    (texts : ∀ field ∈ fields, ∃ text, decodeUtf8 field.value = some text)
    (rest : List UInt8) :
    readHeaders (fields.flatMap FieldLine.bytes ++
        (asciiBytes lineEnd ++ rest)) =
      .ok (fields.map readField, rest) := by
  induction fields with
  | nil => exact readHeaders_of_end (readLine_lineEnd rest) (by decide)
  | cons field fields induction =>
      obtain ⟨here, others⟩ := List.forall_mem_cons.mp wellFormed
      obtain ⟨⟨inner, decoded⟩, otherTexts⟩ := List.forall_mem_cons.mp texts
      have read := readLine_field here (fields.flatMap FieldLine.bytes ++
        (asciiBytes lineEnd ++ rest))
      rw [decoded] at read
      dsimp only at read
      have trimmed : trimLineEnd
          (String.ofList (content field inner ++ lineEnd)) =
            String.ofList (content field inner) :=
        trimLineEnd_line fun character member =>
          content_noLineEnd here decoded member
      rw [List.flatMap_cons, List.append_assoc,
        readHeaders_of_line read (by rw [trimmed]; exact content_ne_empty),
        induction others otherTexts, trimmed, headerOf_content here]
      have text : fieldText field = inner := by
        unfold fieldText
        rw [decoded]
        rfl
      rw [List.map_cons, readField, text]
      rfl

theorem readHeaders_broken
    (wellFormed : ∀ field ∈ fields, field.WellFormed)
    {broken : FieldLine} (member : broken ∈ fields)
    (undecodable : decodeUtf8 broken.value = none) (rest : List UInt8) :
    ∃ failure, readHeaders (fields.flatMap FieldLine.bytes ++
      (asciiBytes lineEnd ++ rest)) = .error failure := by
  induction fields with
  | nil => cases member
  | cons field fields induction =>
      obtain ⟨here, others⟩ := List.forall_mem_cons.mp wellFormed
      have read := readLine_field here (fields.flatMap FieldLine.bytes ++
        (asciiBytes lineEnd ++ rest))
      rw [List.flatMap_cons, List.append_assoc]
      cases decoded : decodeUtf8 field.value with
      | none =>
          rw [decoded] at read
          exact ⟨_, readHeaders_of_error read⟩
      | some inner =>
          rw [decoded] at read
          dsimp only at read
          have later : broken ∈ fields := by
            rcases List.mem_cons.mp member with same | later
            · rw [same, decoded] at undecodable
              cases undecodable
            · exact later
          obtain ⟨failure, failed⟩ := induction others later
          have trimmed : trimLineEnd
              (String.ofList (content field inner ++ lineEnd)) =
                String.ofList (content field inner) :=
            trimLineEnd_line fun character member =>
              content_noLineEnd here decoded member
          refine ⟨failure, ?_⟩
          rw [readHeaders_of_line read
            (by rw [trimmed]; exact content_ne_empty), failed]
          rfl

end Heads

/-! ## The status line -/

/-- The first word of a text. -/
theorem splitWhitespace_word {word : List Char} (nonempty : word ≠ [])
    (visible : ∀ character ∈ word, isWhitespace character = false)
    (after : List Char) :
    splitWhitespace (String.ofList (word ++ ' ' :: after)) =
      String.ofList word :: splitWhitespace (String.ofList after) := by
  have blank : isWhitespace ' ' = true := by decide
  have kept : ([word].filter fun word => !word.isEmpty) = [word] :=
    List.filter_cons_of_pos (by simpa using nonempty)
  unfold splitWhitespace
  rw [String.toList_ofList, String.toList_ofList,
    List.splitOnP_append_cons _ _ blank, List.splitOnP_eq_singleton visible,
    List.filter_append, kept]
  rfl

section StatusLines

variable {head : ResponseHead}

theorem isDigit_bounds {character : Char} (digit : character.isDigit = true) :
    48 ≤ character.toNat ∧ character.toNat ≤ 57 := by
  simp only [Char.isDigit, Bool.and_eq_true, decide_eq_true_eq] at digit
  exact ⟨digit.1, digit.2⟩

end StatusLines

end AuthBoundry
