import AuthBoundry.Library.Parts
import AuthBoundry.Server.ForwardedBodies
import AuthBoundry.Server.ReceivedRequests

/-!
# Requests that are given back

The client writes the target, the names and the values of a request as they
are.  Reading what it wrote gives the request back exactly if nothing in them is
taken for a separator or trimmed, no two fields share a name, and the body is
within the limit.
-/

namespace AuthBoundry

open Library
open scoped Library.Listed

/-! ## Texts -/

theorem dropWhile_isWhitespace_lower (text : List Char) :
    (text.map Char.toLower).dropWhile isWhitespace =
      (text.dropWhile isWhitespace).map Char.toLower := by
  rw [List.dropWhile_map]
  congr 2
  funext character
  exact isWhitespace_toLower character

theorem trimList_lower (text : List Char) :
    trimList (text.map Char.toLower) = (trimList text).map Char.toLower := by
  unfold trimList
  rw [dropWhile_isWhitespace_lower, ← List.map_reverse,
    dropWhile_isWhitespace_lower, List.map_reverse]

theorem trimList_trimList (text : List Char) :
    trimList (trimList text) = trimList text := by
  obtain ⟨before, after, trims⟩ := exists_trimmed isWhitespace text
  have cut : trimList text = trimList (before ++ (trimList text ++ after)) :=
    congrArg trimList trims.cut
  rw [trimList_between trims.blankBefore trims.blankAfter] at cut
  exact cut.symm

theorem trim_asciiLower (text : String) :
    trim (asciiLower text) = asciiLower (trim text) := by
  unfold trim asciiLower
  rw [String.toList_ofList, String.toList_ofList, trimList_lower]

/-- A character that is not a letter is in a text in lower case exactly if it
is in the text. -/
theorem mem_asciiLower {text : String} {mark : Char}
    (unlettered : mark.toNat < 65) :
    mark ∈ (asciiLower text).toList ↔ mark ∈ text.toList := by
  unfold asciiLower
  rw [String.toList_ofList, List.mem_map]
  constructor
  · intro ⟨character, member, lowered⟩
    rcases toLower_cases character with same | ⟨bounds, moved⟩
    · rwa [← lowered, same]
    · rw [lowered] at moved
      omega
  · intro member
    refine ⟨mark, member, ?_⟩
    rcases toLower_cases mark with same | ⟨bounds, _⟩
    · exact same
    · omega

theorem feed_mem_utf8 {text : String} :
    0x0A ∈ utf8 text ↔ '\n' ∈ text.toList := by
  constructor
  · intro member
    rw [← String.ofList_toList (s := text), utf8_ofList] at member
    obtain ⟨character, inText, isByte⟩ := List.mem_flatMap.mp member
    by_cases low : character.toNat < 128
    · rw [utf8EncodeChar_ascii low, List.mem_singleton] at isByte
      have feed : character = '\n' :=
        char_eq_of_byte low (by decide) isByte.symm
      rwa [← feed]
    · have high := utf8EncodeChar_high (Nat.le_of_not_lt low) isByte
      exact absurd high (by decide)
  · intro member
    exact byte_mem_utf8 member (by decide)

theorem readLine_text {text : String} (whole : '\n' ∉ text.toList)
    (rest : List UInt8) :
    readLine (utf8 (text ++ "\n") ++ rest) = .ok (text ++ "\n", rest) := by
  have feed : utf8 "\n" = [0x0A] := @utf8_ascii ['\n'] (by decide)
  rw [readLine_eq_ok_iff, utf8_append, feed, List.append_assoc,
    List.singleton_append]
  exact takeLine_feed (fun member => whole (feed_mem_utf8.mp member)) rest

/-! ## The headers of any stream -/

theorem takeLine_whole (stream : List UInt8) :
    ∃ line, 0x0A ∉ line ∧
      ((takeLine stream).1 = line ++ [0x0A] ∨ (takeLine stream).1 = line) := by
  induction stream with
  | nil => exact ⟨[], List.not_mem_nil, .inr rfl⟩
  | cons byte rest induction =>
      unfold takeLine
      split
      · rename_i feed
        rw [beq_iff_eq.mp feed]
        exact ⟨[], List.not_mem_nil, .inl rfl⟩
      · rename_i other
        have differs : (0x0A : UInt8) ≠ byte := by
          intro same
          rw [same, beq_self_eq_true] at other
          exact other rfl
        obtain ⟨line, whole, ended | unended⟩ := induction
        · refine ⟨byte :: line, ?_, .inl ?_⟩
          · rw [List.mem_cons, not_or]
            exact ⟨differs, whole⟩
          · rw [ended]
            rfl
        · refine ⟨byte :: line, ?_, .inr ?_⟩
          · rw [List.mem_cons, not_or]
            exact ⟨differs, whole⟩
          · rw [unended]

theorem trimLineEnd_whole {stream rest : List UInt8} {line : String}
    (taken : takeLine stream = (utf8 line, rest)) :
    '\n' ∉ (trimLineEnd line).toList := by
  have kept : ∀ text : List Char, '\n' ∉ text →
      '\n' ∉ text.reverse.dropWhile isLineEnd := by
    intro text whole member
    exact whole (List.mem_reverse.mp
      ((List.dropWhile_sublist isLineEnd).subset member))
  unfold trimLineEnd
  rw [String.toList_ofList, List.mem_reverse]
  obtain ⟨bytes, whole, ended | ended⟩ := takeLine_whole stream
  · have isAscii : IsAscii ['\n'] := by decide
    have same : utf8 line = bytes ++ asciiBytes ['\n'] := by
      rw [taken] at ended
      exact ended
    obtain ⟨before, isLine, isBytes⟩ := utf8_eq_append_ascii isAscii same
    rw [isBytes, feed_mem_utf8, String.toList_ofList] at whole
    rw [isLine, String.toList_ofList, List.reverse_append]
    exact kept before whole
  · have same : utf8 line = bytes := by
      rw [taken] at ended
      exact ended
    apply kept
    rw [← feed_mem_utf8, same]
    exact whole

theorem headerOf_bounds {line key value : String}
    (whole : '\n' ∉ line.toList) (found : headerOf line = some (key, value)) :
    (':' ∉ key.toList ∧ '\n' ∉ key.toList ∧ trim key = key) ∧
      '\n' ∉ value.toList := by
  unfold headerOf at found
  obtain ⟨⟨name, content⟩, split, same⟩ := Option.map_eq_some_iff.mp found
  have isKey : asciiLower (trim name) = key := (Prod.mk.inj same).1
  have isValue : trim content = value := (Prod.mk.inj same).2
  have cut := splitOnce_eq_some split
  rw [cut, List.mem_append, List.mem_cons, not_or, not_or] at whole
  have inTrim : ∀ {character : Char} {text : String},
      character ∈ (trim text).toList → character ∈ text.toList := by
    intro character text member
    unfold trim at member
    rw [String.toList_ofList] at member
    exact (trimList_sublist _).subset member
  rw [← isKey, ← isValue]
  refine ⟨⟨?_, ?_, ?_⟩, fun member => whole.2.2 (inTrim member)⟩
  · intro member
    exact splitOnce_absent split
      (inTrim ((mem_asciiLower (by decide)).mp member))
  · intro member
    exact whole.1 (inTrim ((mem_asciiLower (by decide)).mp member))
  · rw [trim_asciiLower]
    unfold trim
    rw [String.toList_ofList, trimList_trimList]

/-- The names and values of headers hold no separator, whatever is read. -/
theorem headerLines_bounds {stream rest : List UInt8}
    {headers : List (String × String)}
    (lines : HeaderLines stream headers rest) :
    ∀ header ∈ headers,
      (':' ∉ header.1.toList ∧ '\n' ∉ header.1.toList ∧
        trim header.1 = header.1) ∧ '\n' ∉ header.2.toList := by
  induction lines with
  | ended => intro header member; cases member
  | line taken _ _ induction =>
      intro header member
      rcases List.mem_append.mp member with here | later
      · exact headerOf_bounds (trimLineEnd_whole taken)
          (Option.mem_toList.mp here)
      · exact induction header later

/-! ## The lines that are written -/

/-- Nothing in the field is taken for a separator. -/
structure UnseparatedField (field : String × String) : Prop where
  name : ':' ∉ field.1.toList ∧ '\n' ∉ field.1.toList ∧ trim field.1 = field.1
  value : '\n' ∉ field.2.toList

section Lines

variable {field : String × String}

theorem writtenLine_eq (field : String × String) :
    writtenLine field = field.1 ++ ": " ++ field.2 ++ "\r" ++ "\n" := by
  change field.1 ++ ": " ++ field.2 ++ "\r\n" = _
  rw [← String.toList_inj]
  simp

theorem exists_lineEnds (value : List Char) :
    ∃ kept ends, value = kept ++ ends ∧
      (∀ character ∈ ends, isLineEnd character = true) ∧
      ∀ before : List Char, trimLineEnd
          (String.ofList (before ++ ' ' :: (value ++ lineEnd))) =
        String.ofList (before ++ ' ' :: kept) := by
  have cut : value.rdropWhile isLineEnd ++ value.rtakeWhile isLineEnd =
      value := List.rdropWhile_append_rtakeWhile
  have ends : ∀ character ∈ value.rtakeWhile isLineEnd,
      isLineEnd character = true :=
    fun character member => List.mem_rtakeWhile_imp member
  refine ⟨_, _, cut.symm, ends, ?_⟩
  intro before
  have dropped : (lineEnd.reverse ++ (value.reverse ++
      (' ' :: before.reverse))).dropWhile isLineEnd =
        (value.rdropWhile isLineEnd).reverse ++ ' ' :: before.reverse := by
    rw [List.dropWhile_append_of_pos (by decide), List.dropWhile_append,
      List.rdropWhile, List.reverse_reverse]
    split
    · rename_i none
      rw [List.isEmpty_iff.mp none, List.nil_append]
      exact List.dropWhile_cons_of_neg (by decide)
    · rfl
  unfold trimLineEnd
  rw [String.toList_ofList]
  have turned : (before ++ ' ' :: (value ++ lineEnd)).reverse =
      lineEnd.reverse ++ (value.reverse ++ (' ' :: before.reverse)) := by
    simp
  rw [turned, dropped]
  simp

theorem headerOf_written (unseparated : UnseparatedField field) :
    headerOf (trimLineEnd (writtenLine field)) =
      some (readPair (asciiLower field.1, field.2)) := by
  obtain ⟨kept, ends, cut, lineEnds, trimmed⟩ :=
    exists_lineEnds field.2.toList
  have isLine : writtenLine field = String.ofList
      ((field.1.toList ++ [':']) ++ ' ' :: (field.2.toList ++ lineEnd)) := by
    rw [writtenLine_eq, ← String.toList_inj]
    simp [lineEnd]
  have isValue : trim (String.ofList (' ' :: kept)) = trim field.2 := by
    have blankEnds : ∀ character ∈ ends, isWhitespace character = true := by
      intro character member
      have isEnd := lineEnds character member
      unfold isLineEnd at isEnd
      rw [Bool.or_eq_true, beq_iff_eq, beq_iff_eq] at isEnd
      rcases isEnd with rfl | rfl <;> decide
    have nothing : ∀ character ∈ ([] : List Char),
        isWhitespace character = true := by
      intro character member
      cases member
    have first := @trimList_between [' '] kept [] (by decide) nothing
    have second := @trimList_between [] kept ends nothing blankEnds
    rw [List.append_nil] at first
    rw [List.nil_append] at second
    unfold trim
    rw [cut, second, String.toList_ofList]
    exact congrArg _ first
  unfold headerOf
  rw [isLine, trimmed, List.append_assoc, List.singleton_append,
    splitOnce_ofList unseparated.name.1, Option.map_some]
  dsimp only
  rw [String.ofList_toList, unseparated.name.2.2, isValue]
  rfl

theorem readLine_written (unseparated : UnseparatedField field)
    (rest : List UInt8) :
    readLine (utf8 (writtenLine field) ++ rest) =
      .ok (writtenLine field, rest) := by
  rw [writtenLine_eq]
  apply readLine_text
  have name := unseparated.name.2.1
  have value := unseparated.value
  simp [name, value]

theorem readHeaders_written {fields : List (String × String)}
    (unseparated : ∀ field ∈ fields, UnseparatedField field)
    (rest : List UInt8) :
    readHeaders (fields.flatMap (fun field => utf8 (writtenLine field)) ++
        (utf8 "\r\n" ++ rest)) =
      .ok ((fields.map fun field => (asciiLower field.1, field.2)).map readPair,
        rest) := by
  induction fields with
  | nil =>
      have ending : readLine (utf8 "\r\n" ++ rest) = .ok ("\r\n", rest) :=
        @readLine_text "\r" (by decide) rest
      exact readHeaders_of_end ending (by decide)
  | cons field fields induction =>
      obtain ⟨here, others⟩ := List.forall_mem_cons.mp unseparated
      have isHeader := headerOf_written here
      have content : trimLineEnd (writtenLine field) ≠ "" := by
        intro empty
        have none : headerOf "" = none := by decide
        rw [empty, none] at isHeader
        cases isHeader
      rw [List.flatMap_cons, List.append_assoc,
        readHeaders_of_line (readLine_written here _) content,
        induction others, isHeader]
      rfl

end Lines

/-! ## Numbers -/

theorem trim_decimal (number : Nat) :
    trim (toString number) = toString number := by
  unfold trim
  rw [trimList_eq_self, String.ofList_toList]
  intro character member
  have bounds := isDigit_bounds (isDigit_of_mem_decimal member)
  exact isWhitespace_visible (by omega)

end AuthBoundry
