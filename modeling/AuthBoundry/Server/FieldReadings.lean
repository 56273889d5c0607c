import AuthBoundry.Server.ChangeReader

/-!
# What the fields of a body are read as

In a text of data whose members have different names, a field is read from the
member of its name when the name has no escapes and the colon follows it at
once, and is not found otherwise.
-/

namespace AuthBoundry

open Library
open scoped Library.Listed

/-! ## Readers of one member -/

theorem isWhitespace_blank (blank : Blank) : isWhitespace blank.char = true := by
  cases blank <;> decide

theorem exists_first_of_numeral (numeral : Numeral) :
    ∃ first rest, numeral.text = first :: rest ∧ first ∈ numeralChars := by
  obtain ⟨first, rest, same⟩ := List.exists_cons_of_ne_nil numeral.text_ne_nil
  refine ⟨first, rest, same, numeral.text_subset ?_⟩
  rw [same]
  exact List.mem_cons_self

/-- A piece of data starts with something to see. -/
theorem exists_first (value : JsonText) :
    ∃ first rest, value.text = first :: rest ∧ isWhitespace first = false := by
  cases value with
  | null => exact ⟨_, _, rfl, by decide⟩
  | bool value => cases value <;> exact ⟨_, _, rfl, by decide⟩
  | number numeral =>
      obtain ⟨first, rest, same, member⟩ := exists_first_of_numeral numeral
      have visible : ∀ character ∈ numeralChars,
          isWhitespace character = false := by decide
      exact ⟨first, rest, same, visible first member⟩
  | string spelling => exact ⟨_, _, rfl, by decide⟩
  | emptyArray blanks => exact ⟨_, _, rfl, by decide⟩
  | array items => exact ⟨_, _, rfl, by decide⟩
  | emptyObject blanks => exact ⟨_, _, rfl, by decide⟩
  | object members => exact ⟨_, _, rfl, by decide⟩

theorem dropWhile_pad (pad : Blanks) (value : JsonText) (rest : List Char) :
    (pad.text ++ (value.text ++ rest)).dropWhile isWhitespace =
      value.text ++ rest := by
  obtain ⟨first, others, same, visible⟩ := exists_first value
  induction pad with
  | nil =>
      rw [same]
      simp [Blanks.text, visible]
  | cons blank pad inductionHypothesis =>
      have skipped := isWhitespace_blank blank
      simpa [Blanks.text, skipped] using inductionHypothesis

theorem readsMember_of_values {β : Type} {reader : List Char → β}
    (reads : ∀ (value : JsonText) (rest : List Char), Separated rest →
      reader (value.text ++ rest) = reader value.text) :
    ReadsMember fun rest => reader (rest.dropWhile isWhitespace) := by
  intro pad value rest separated
  have alone := dropWhile_pad pad value []
  rw [List.append_nil] at alone
  change reader _ = reader _
  rw [dropWhile_pad, alone]
  exact reads value rest separated

def quotedText : JsonText → Option String
  | .string spelling => some (String.ofList (upToQuote spelling.text))
  | _ => none

theorem quotedValue_of_ne {first : Char} (other : first ≠ '"')
    (rest : List Char) : quotedValue (first :: rest) = none := by
  rw [quotedValue]
  rintro after same
  exact other (List.cons.inj same).1

theorem quotedValue_text (value : JsonText) (rest : List Char) :
    quotedValue (value.text ++ rest) = quotedText value := by
  cases value with
  | string spelling =>
      have stops : ∀ first ∈ ('"' :: rest).head?, (first != '"') = false := by
        intro first member
        obtain rfl := Option.some.inj member
        rfl
      have read : upToQuote (spelling.text ++ '"' :: rest) =
          upToQuote spelling.text := takeWhile_append_of_head stops
      simp [JsonText.text, Spelling.quoted, quotedValue, quotedText, read]
  | number numeral =>
      obtain ⟨first, others, same, member⟩ := exists_first_of_numeral numeral
      have other : ∀ character ∈ numeralChars, character ≠ '"' := by decide
      rw [JsonText.text, same, List.cons_append,
        quotedValue_of_ne (other first member)]
      rfl
  | bool value => cases value <;> rfl
  | _ => rfl

/-- What is read from a truth value. -/
def boolText : JsonText → Option Bool
  | .bool value => some value
  | _ => none

theorem boolValue_of_ne {first : Char} (notTrue : first ≠ 't')
    (notFalse : first ≠ 'f') (rest : List Char) :
    boolValue (first :: rest) = none := by
  have trueText : "true".toList = ['t', 'r', 'u', 'e'] := rfl
  have falseText : "false".toList = ['f', 'a', 'l', 's', 'e'] := rfl
  simp [boolValue, trueText, falseText, List.isPrefixOf, notTrue.symm,
    notFalse.symm]

theorem boolValue_text (value : JsonText) (rest : List Char) :
    boolValue (value.text ++ rest) = boolText value := by
  cases value with
  | bool value => cases value <;> rfl
  | number numeral =>
      obtain ⟨first, others, same, member⟩ := exists_first_of_numeral numeral
      have other : ∀ character ∈ numeralChars,
          character ≠ 't' ∧ character ≠ 'f' := by decide
      obtain ⟨notTrue, notFalse⟩ := other first member
      rw [JsonText.text, same, List.cons_append,
        boolValue_of_ne notTrue notFalse]
      rfl
  | _ => rfl

/-- The number before a point or an exponent, where 64 bits hold it. -/
def wholePart (numeral : Numeral) : Option ℤ :=
  let whole := numeral.sign.factor * numeral.whole.value
  if numeral.sign = .plus then
    none
  else if -9223372036854775808 ≤ whole ∧ whole ≤ 9223372036854775807 then
    some whole
  else
    none

/-- The count that is read from a number. -/
def numberText : JsonText → Option ℤ
  | .number numeral => wholePart numeral
  | _ => none

/-- The digits of a number that is read from a text. -/
def numberValue (rest : List Char) : Option ℤ :=
  parseI64 (String.ofList (rest.takeWhile isNumberChar))

theorem decimalValue_text (digits : Digits) (written : digits ≠ []) :
    decimalValue digits.text = some digits.value := by
  have folded : ∀ (digits : Digits) (value : Nat),
      digits.text.foldl
        (fun value digit => value.bind fun value =>
          if digit.isDigit then
            some (value * 10 + (digit.toNat - '0'.toNat))
          else
            none) (some value) =
        some (digits.foldl
          (fun value digit => value * 10 + digit.val) value) := by
    intro digits
    induction digits with
    | nil => exact fun value => rfl
    | cons digit digits inductionHypothesis =>
        intro value
        have isDigit : ∀ digit : Fin 10,
            (Nat.digitChar digit.val).isDigit = true ∧
              (Nat.digitChar digit.val).toNat - '0'.toNat = digit.val := by
          decide
        obtain ⟨first, same⟩ := isDigit digit
        rw [Digits.text, List.map_cons, List.foldl_cons, Option.bind_some,
          if_pos first, same]
        exact inductionHypothesis _
  have nonempty : digits.text.isEmpty = false := by
    simpa [Digits.text] using written
  rw [decimalValue, nonempty]
  exact folded digits 0

theorem takeWhile_digits (digits : Digits) (rest : List Char) :
    (digits.text ++ rest).takeWhile isNumberChar =
      digits.text ++ rest.takeWhile isNumberChar := by
  refine List.takeWhile_append_of_pos fun character member => ?_
  obtain ⟨digit, -, rfl⟩ := List.mem_map.mp member
  have kept : ∀ digit : Fin 10,
      isNumberChar (Nat.digitChar digit.val) = true := by decide
  exact kept digit

/-- Nothing after the digits of a number is read with them. -/
theorem takeWhile_tail (numeral : Numeral) {rest : List Char}
    (separated : Separated rest) :
    (numeral.tail ++ rest).takeWhile isNumberChar = [] := by
  have closed : rest.takeWhile isNumberChar = [] := by
    cases rest with
    | nil => rfl
    | cons first rest =>
        have unread : ∀ closer ∈ closers, isNumberChar closer = false := by
          decide
        simp [unread first (separated first rfl)]
  have point : isNumberChar '.' = false := by decide
  rw [Numeral.tail]
  by_cases whole : numeral.fraction.isEmpty = true
  · rw [if_pos whole]
    cases numeral.exponent with
    | none => exact closed
    | some exponent =>
        have lead : isNumberChar (if exponent.capital then 'E' else 'e') =
            false := by
          split <;> decide
        simp [Exponent.text, lead]
  · rw [if_neg whole]
    simp [point]

/-- Digits that 64 bits hold are read as the number they stand for. -/
theorem parseI64_digits (digits : Digits) (written : digits ≠ []) :
    parseI64 (String.ofList digits.text) =
      if (-9223372036854775808 : ℤ) ≤ digits.value ∧
          (digits.value : ℤ) ≤ 9223372036854775807 then
        some (digits.value : ℤ)
      else
        none := by
  have read := decimalValue_text digits written
  have unsigned : ∀ first rest, digits.text = first :: rest →
      first ≠ '-' ∧ first ≠ '+' := by
    intro first rest same
    have member : first ∈ digits.text := by
      rw [same]
      exact List.mem_cons_self
    obtain ⟨digit, -, rfl⟩ := List.mem_map.mp member
    have plain : ∀ digit : Fin 10, Nat.digitChar digit.val ≠ '-' ∧
        Nat.digitChar digit.val ≠ '+' := by
      decide
    exact plain digit
  rw [parseI64, String.toList_ofList]
  split
  · next rest same => exact absurd rfl (unsigned _ _ same).1
  · next rest same => exact absurd rfl (unsigned _ _ same).2
  · rw [read]
    rfl

theorem numberValue_text (value : JsonText) {rest : List Char}
    (separated : Separated rest) :
    numberValue (value.text ++ rest) = numberText value := by
  cases value with
  | bool value => cases value <;> rfl
  | number numeral =>
      have after := takeWhile_tail numeral separated
      have digits := takeWhile_digits numeral.whole (numeral.tail ++ rest)
      rw [after, List.append_nil] at digits
      rw [JsonText.text, Numeral.text, List.append_assoc, List.append_assoc,
        numberValue, numberText, wholePart]
      cases numeral.sign with
      | unsigned =>
          rw [Sign.text, List.nil_append, digits,
            parseI64_digits numeral.whole numeral.written]
          simp [Sign.factor]
      | minus =>
          have kept : isNumberChar '-' = true := by decide
          rw [Sign.text, List.singleton_append, List.takeWhile_cons, if_pos kept,
            digits, parseI64, String.toList_ofList]
          simp [Sign.factor, decimalValue_text numeral.whole numeral.written]
      | plus => rfl
  | _ => rfl

/-- A blank and a word are met where they are all that is written. -/
def Literal (word : JsonText) (entry : Entry) : Prop :=
  entry.key.pad = [.space] ∧ entry.value = word

/-- The words that are searched for as they are written. -/
def IsWord (word : JsonText) : Prop := word = .null ∨ word = .bool true

theorem word_prefix_iff {word : JsonText} (isWord : IsWord word)
    (value : JsonText) (rest : List Char) :
    word.text <+: value.text ++ rest ↔ value = word := by
  constructor
  · intro starts
    cases value with
    | number numeral =>
        obtain ⟨first, others, same, member⟩ := exists_first_of_numeral numeral
        have other : ∀ character ∈ numeralChars,
            character ≠ 't' ∧ character ≠ 'n' := by decide
        rw [JsonText.text, same] at starts
        rcases isWord with rfl | rfl
        · exact absurd (List.cons_prefix_cons.mp starts).1.symm
            (other first member).2
        · exact absurd (List.cons_prefix_cons.mp starts).1.symm
            (other first member).1
    | null =>
        rcases isWord with rfl | rfl
        · rfl
        · exact absurd (List.cons_prefix_cons.mp starts).1 (by decide)
    | bool value =>
        rcases isWord with rfl | rfl
        · cases value <;>
            exact absurd (List.cons_prefix_cons.mp starts).1 (by decide)
        · cases value with
          | true => rfl
          | false => exact absurd (List.cons_prefix_cons.mp starts).1 (by decide)
    | string _ | emptyArray _ | array _ | emptyObject _ | object _ =>
        rcases isWord with rfl | rfl <;>
          exact absurd (List.cons_prefix_cons.mp starts).1 (by decide)
  · rintro rfl
    exact List.prefix_append _ _

theorem literal_prefix_iff {word : JsonText} (isWord : IsWord word)
    (pad : Blanks) (value : JsonText) (rest : List Char) :
    ' ' :: word.text <+: pad.text ++ (value.text ++ rest) ↔
      pad = [.space] ∧ value = word := by
  cases pad with
  | nil =>
      obtain ⟨first, others, same, visible⟩ := exists_first value
      have other : ' ' ≠ first := by
        rintro rfl
        exact absurd visible (by decide)
      rw [same]
      simp [Blanks.text, other]
  | cons blank pad =>
      cases pad with
      | nil =>
          have blanks : Blanks.text [blank] ++ (value.text ++ rest) =
              blank.char :: (value.text ++ rest) := rfl
          rw [blanks, List.cons_prefix_cons, word_prefix_iff isWord]
          cases blank <;> simp [Blank.char]
      | cons other pad =>
          have blanks : Blanks.text (blank :: other :: pad) ++
              (value.text ++ rest) =
                blank.char :: other.char ::
                  (Blanks.text pad ++ (value.text ++ rest)) := rfl
          have visible : word.text.head? ≠ some other.char := by
            rcases isWord with rfl | rfl <;> cases other <;> decide
          obtain ⟨first, others, same, -⟩ := exists_first word
          rw [same] at visible
          have different : first ≠ other.char := fun equal =>
            visible (congrArg some equal)
          rw [blanks, same, List.cons_prefix_cons, List.cons_prefix_cons]
          simp [different]

/-! ## Fields of a document -/

section Documents

variable {document : Document} {field : String}

/-- A name of a field: one or more letters and underscores. -/
def IsField (field : String) : Prop :=
  field.toList ≠ [] ∧ Lettered field.toList

instance (field : String) : Decidable (IsField field) :=
  inferInstanceAs (Decidable (_ ∧ _))

/-- What a search meets is written plainly under that name, and only that. -/
theorem mem_afterEach_iff (distinct : document.Distinct) (isField : IsField field)
    {β : Type} {reader : List Char → β} (readsMember : ReadsMember reader)
    (read : β) :
    read ∈ (afterEach (fieldPattern field.toList) document.text).map reader ↔
      document.Shows field fun entry => reader entry.written = read := by
  have slashless : '\\' ∉ field.toList := isField.2.not_mem (by decide)
  rw [document.search readsMember isField.2 isField.1, distinct.filter_met]
  simp only [List.mem_map, List.mem_filter, decide_eq_true_eq,
    Entry.spelled_iff slashless, String.ofList_toList]
  constructor
  · rintro ⟨entry, ⟨member, same, plain⟩, reads⟩
    exact ⟨entry, member, same, plain, reads⟩
  · rintro ⟨entry, member, same, plain, reads⟩
    exact ⟨entry, ⟨member, same, plain⟩, reads⟩

/-- A field is read from the first member that is met under its name. -/
theorem field_eq (document : Document) (isField : IsField field) {β : Type}
    {reader : List Char → Option β} {meaning : JsonText → Option β}
    (reads : ∀ (value : JsonText) (rest : List Char), Separated rest →
      reader (value.text ++ rest) = meaning value) :
    (afterField document.text field).bind reader =
      (document.met field).bind fun entry => meaning entry.value := by
  have alone : ∀ value : JsonText, reader value.text = meaning value := by
    intro value
    have same := reads value [] .nil
    rwa [List.append_nil] at same
  have readsMember : ReadsMember fun rest =>
      reader (rest.dropWhile isWhitespace) := by
    refine readsMember_of_values fun value rest separated => ?_
    rw [reads value rest separated, alone]
  have written : ∀ entry : Entry,
      reader (entry.written.dropWhile isWhitespace) = meaning entry.value := by
    intro entry
    have dropped := dropWhile_pad entry.key.pad entry.value []
    rw [List.append_nil] at dropped
    rw [Entry.written, dropped, alone]
  have met := document.search readsMember isField.2 isField.1
  simp only [written] at met
  have first := congrArg List.head? met
  rw [List.head?_map, List.head?_map, List.head?_filter] at first
  rw [afterField, Document.met]
  cases found : (afterEach (fieldPattern field.toList) document.text).head? <;>
    cases entry : document.entries.find? (Entry.Met field.toList) <;>
      simp_all

/-- A field is read from the member of its name, if that is written plainly. -/
theorem field_eq_some_iff (distinct : document.Distinct)
    (isField : IsField field) {β : Type} {reader : List Char → Option β}
    {meaning : JsonText → Option β}
    (reads : ∀ (value : JsonText) (rest : List Char), Separated rest →
      reader (value.text ++ rest) = meaning value) (read : β) :
    (afterField document.text field).bind reader = some read ↔
      document.Shows field fun entry => meaning entry.value = some read := by
  have slashless : '\\' ∉ field.toList := isField.2.not_mem (by decide)
  rw [field_eq document isField reads, Option.bind_eq_some_iff]
  simp only [Document.met_eq_some_iff distinct slashless, and_assoc]
  rfl

theorem extractQuotedField_eq (document : Document) (isField : IsField field) :
    extractQuotedField document.text field =
      (document.met field).bind fun entry => quotedText entry.value :=
  field_eq document isField fun value rest _ => quotedValue_text value rest

theorem extractNumberField_eq (document : Document) (isField : IsField field) :
    extractNumberField document.text field =
      (document.met field).bind fun entry => numberText entry.value :=
  field_eq document isField
    fun value _ separated => numberValue_text value separated

theorem extractQuotedField_eq_some_iff (distinct : document.Distinct)
    (isField : IsField field) (value : String) :
    extractQuotedField document.text field = some value ↔
      document.Shows field fun entry =>
        quotedText entry.value = some value :=
  field_eq_some_iff distinct isField
    (fun value rest _ => quotedValue_text value rest) value

theorem extractBoolField_eq_some_iff (distinct : document.Distinct)
    (isField : IsField field) (value : Bool) :
    extractBoolField document.text field = some value ↔
      document.Shows field fun entry => boolText entry.value = some value :=
  field_eq_some_iff distinct isField
    (fun value rest _ => boolValue_text value rest) value

theorem extractNumberField_eq_some_iff (distinct : document.Distinct)
    (isField : IsField field) (value : ℤ) :
    extractNumberField document.text field = some value ↔
      document.Shows field fun entry => numberText entry.value = some value :=
  field_eq_some_iff distinct isField
    (fun value _ separated => numberValue_text value separated) value

theorem bodyContains_iff (body : List Char) (word : String) :
    bodyContains body word = true ↔ word.toList <:+: body := by
  rw [bodyContains, containsText_iff, String.toList_ofList]

/-- A keyword is found where some string is spelled with it. -/
theorem bodyContains_keyword_iff {word : String}
    (keyword : Keyword word.toList) :
    bodyContains document.text word = true ↔
      Mentions word.toList document.strings := by
  rw [bodyContains_iff, document.infix_iff keyword]

/-- A member with a word is found when one space stands between them. -/
theorem bodyContains_literal_iff (distinct : document.Distinct)
    (isField : IsField field) {word : JsonText} (isWord : IsWord word)
    {searched : String}
    (spelled : searched.toList =
      fieldPattern field.toList ++ ' ' :: word.text) :
    bodyContains document.text searched = true ↔
      document.Shows field (Literal word) := by
  have readsMember : ReadsMember fun rest =>
      decide (' ' :: word.text <+: rest) := by
    intro pad value rest _
    have alone := literal_prefix_iff isWord pad value []
    rw [List.append_nil] at alone
    exact decide_eq_decide.mpr
      ((literal_prefix_iff isWord pad value rest).trans alone.symm)
  have written : ∀ entry : Entry,
      decide (' ' :: word.text <+: entry.written) = true ↔
        Literal word entry := by
    intro entry
    have alone := literal_prefix_iff isWord entry.key.pad entry.value []
    rw [List.append_nil] at alone
    rw [decide_eq_true_eq]
    exact alone
  have met := mem_afterEach_iff distinct isField readsMember true
  simp only [written, List.mem_map, decide_eq_true_eq] at met
  rw [bodyContains_iff, spelled, infix_append_pattern_iff, met]

end Documents

end AuthBoundry
