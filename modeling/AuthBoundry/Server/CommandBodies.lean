import AuthBoundry.Server.ChangeReadings

/-!
# The bodies of the command line

A body that the command line builds is a text of data: one object, its names
written plainly and one space after each colon and comma.  Only the strings
may need escapes.
-/

namespace AuthBoundry

open Library
open scoped Library.Listed

namespace Cli

/-! ## Escaped strings -/

def spell (character : Char) : SpelledChar :=
  if quote : character = '"' then
    .escaped ['"'] '"' (.short (by decide))
  else if slash : character = '\\' then
    .escaped ['\\'] '\\' (.short (by decide))
  else
    .raw character ⟨quote, slash⟩

def spelling (text : String) : Spelling := text.toList.map spell

/-- The text has nothing that is written with a backslash. -/
def NeedsNoEscape (text : String) : Prop :=
  '"' ∉ text.toList ∧ '\\' ∉ text.toList

instance (text : String) : Decidable (NeedsNoEscape text) :=
  inferInstanceAs (Decidable (_ ∧ _))

theorem spell_value (character : Char) : (spell character).value = character := by
  rw [spell]
  split
  · next quote => exact quote.symm
  · split
    · next slash => exact slash.symm
    · rfl

theorem spelling_value (text : String) : (spelling text).value = text.toList := by
  rw [spelling, Spelling.value, List.map_map]
  exact List.map_id'' spell_value _

theorem spell_isRaw_iff (character : Char) :
    (spell character).IsRaw ↔ character ≠ '"' ∧ character ≠ '\\' := by
  rw [spell]
  split
  · next quote => simp [SpelledChar.IsRaw, quote]
  · next quote =>
      split
      · next slash => simp [SpelledChar.IsRaw, slash]
      · next slash => simp [SpelledChar.IsRaw, quote, slash]

theorem spelling_raw_iff (text : String) :
    (spelling text).Raw ↔ NeedsNoEscape text := by
  rw [Spelling.Raw, spelling, List.forall_mem_map]
  simp only [spell_isRaw_iff]
  constructor
  · intro plain
    exact ⟨fun member => (plain _ member).1 rfl,
      fun member => (plain _ member).2 rfl⟩
  · rintro ⟨quoteless, slashless⟩ character member
    constructor
    · rintro rfl
      exact quoteless member
    · rintro rfl
      exact slashless member

theorem spelling_text (text : String) :
    (spelling text).text = (escape text).toList := by
  have single : ∀ character : Char, (spell character).text =
      (if character == '\\' then "\\\\".toList else [character]).flatMap
        fun character =>
          if character == '"' then "\\\"".toList else [character] := by
    intro character
    rw [spell]
    split
    · next quote =>
        subst quote
        decide
    · next quote =>
        split
        · next slash =>
            subst slash
            decide
        · next slash => simp [SpelledChar.text, quote, slash]
  rw [spelling, Spelling.text, List.flatMap_map, escape, replaceChar,
    replaceChar]
  simp only [String.toList_ofList, List.flatMap_assoc, single]

theorem spelling_text_of_plain {text : String} (plain : NeedsNoEscape text) :
    (spelling text).text = text.toList := by
  rw [((spelling_raw_iff text).mpr plain).text_eq, spelling_value]

/-! ## Documents -/

abbrev Field := String × JsonText

def key (before : Blanks) (field : String) : KeyText :=
  { before, name := spelling field, gap := [], pad := [.space] }

def members (before : Blanks) (first : Field) : List Field → MemberTexts
  | [] => .last (key before first.1) first.2 []
  | second :: rest =>
      .more (key before first.1) first.2 [] (members [.space] second rest)

def document (first : Field) (rest : List Field) : Document :=
  { before := [], body := .object (members [] first rest), after := [] }

/-- A field as the command line writes it. -/
def fieldText (field : Field) : String :=
  bareField field.1 (String.ofList field.2.text)

theorem key_text (before : Blanks) {field : Field}
    (plain : NeedsNoEscape field.1) (rest : List Char) :
    (key before field.1).text (field.2.text ++ rest) =
      before.text ++ ((fieldText field).toList ++ rest) := by
  have quoted : (spelling field.1).quoted =
      '"' :: (field.1.toList ++ ['"']) := by
    rw [Spelling.quoted, spelling_text_of_plain plain]
  have opening : "\"".toList = ['"'] := rfl
  have closing : "\": ".toList = ['"', ':', ' '] := rfl
  simp [KeyText.text, key, quoted, fieldText, bareField, Blanks.text,
    Blank.char, opening, closing]

theorem members_text (before : Blanks) (first : Field) (rest : List Field)
    (plain : ∀ field ∈ first :: rest, NeedsNoEscape field.1) :
    (members before first rest).text =
      before.text ++
        (", ".intercalate ((first :: rest).map fieldText)).toList := by
  induction rest generalizing before first with
  | nil =>
      have written := key_text before (plain first List.mem_cons_self) []
      rw [members, MemberTexts.text, Blanks.text, List.map_nil, written,
        List.map_singleton, String.intercalate_singleton, List.append_nil]
  | cons second rest inductionHypothesis =>
      have others := inductionHypothesis [.space] second
        fun field member => plain field (List.mem_cons_of_mem _ member)
      have comma : ", ".toList = [',', ' '] := rfl
      have space : Blanks.text [.space] = [' '] := rfl
      rw [members, MemberTexts.text, Blanks.text, List.map_nil,
        List.append_assoc, key_text before (plain first List.mem_cons_self),
        others]
      simp only [List.map_cons, String.intercalate_cons_cons,
        String.toList_append, comma, space]
      simp

theorem document_text (first : Field) (rest : List Field)
    (plain : ∀ field ∈ first :: rest, NeedsNoEscape field.1) :
    (document first rest).text =
      (braced ((first :: rest).map fieldText)).toList := by
  have opening : "\x7b".toList = ['\x7b'] := rfl
  have closing : "\x7d".toList = ['\x7d'] := rfl
  have inside := members_text [] first rest plain
  simp [Document.text, document, JsonText.text, Blanks.text, inside, braced,
    opening, closing]

/-! ## What the documents have -/

def fieldEntry (before : Blanks) (field : Field) : Entry :=
  ⟨key before field.1, field.2⟩

section Documents

variable {first : Field} {rest : List Field}

theorem members_values (before : Blanks) (first : Field) (rest : List Field) :
    (members before first rest).values =
      (first :: rest).map fun field => (field.1, field.2.value) := by
  have named : ∀ field : String, String.ofList (spelling field).value = field := by
    intro field
    rw [spelling_value, String.ofList_toList]
  induction rest generalizing before first with
  | nil => simp [members, MemberTexts.values, key, named]
  | cons second rest inductionHypothesis =>
      rw [members, MemberTexts.values, inductionHypothesis]
      simp [key, named]

theorem members_entries (before : Blanks) (first : Field) (rest : List Field)
    (flat : ∀ field ∈ first :: rest, field.2.entries = []) :
    (members before first rest).entries =
      fieldEntry before first :: rest.map (fieldEntry [.space]) := by
  induction rest generalizing before first with
  | nil =>
      rw [members, MemberTexts.entries, flat first List.mem_cons_self]
      rfl
  | cons second rest inductionHypothesis =>
      have others := inductionHypothesis [.space] second
        fun field member => flat field (List.mem_cons_of_mem _ member)
      rw [members, MemberTexts.entries, flat first List.mem_cons_self, others]
      rfl

theorem members_strings (before : Blanks) (first : Field) (rest : List Field) :
    (members before first rest).strings =
      (first :: rest).flatMap fun field =>
        spelling field.1 :: field.2.strings := by
  induction rest generalizing before first with
  | nil => simp [members, MemberTexts.strings, key]
  | cons second rest inductionHypothesis =>
      rw [members, MemberTexts.strings, inductionHypothesis]
      simp [key]

theorem memberEntries_of_flat (fields : List Field)
    (flat : ∀ field ∈ fields, field.2.entries = []) :
    JsonValue.memberEntries
        (fields.map fun field => (field.1, field.2.value)) =
      fields.map fun field => (field.1, field.2.value) := by
  induction fields with
  | nil => rfl
  | cons field fields inductionHypothesis =>
      obtain ⟨flatField, flatRest⟩ := List.forall_mem_cons.mp flat
      have none : field.2.value.entries = [] := by
        rw [← field.2.entries_value, flatField]
        rfl
      rw [List.map_cons, JsonValue.memberEntries, none,
        inductionHypothesis flatRest, List.nil_append]

theorem document_stated (flat : ∀ field ∈ first :: rest, field.2.entries = []) :
    (document first rest).value.entries =
      (first :: rest).map fun field => (field.1, field.2.value) := by
  rw [← memberEntries_of_flat _ flat, ← members_values []]
  rfl

theorem document_names (flat : ∀ field ∈ first :: rest, field.2.entries = []) :
    (document first rest).value.entries.map Prod.fst =
      (first :: rest).map Prod.fst := by
  rw [document_stated flat, List.map_map]
  rfl

/-- What the command line writes under a name is what is met under it. -/
theorem document_shows_iff
    (flat : ∀ field ∈ first :: rest, field.2.entries = [])
    (distinct : (document first rest).Distinct) {field : Field}
    (member : field ∈ rest) (plain : NeedsNoEscape field.1)
    {holds : Entry → Prop} :
    (document first rest).Shows field.1 holds ↔
      holds (fieldEntry [.space] field) := by
  have entries : (document first rest).entries =
      fieldEntry [] first :: rest.map (fieldEntry [.space]) :=
    members_entries [] first rest flat
  have named : (fieldEntry [.space] field).name = field.1 := by
    rw [Entry.name, fieldEntry, key, spelling_value, String.ofList_toList]
  have inside : fieldEntry [.space] field ∈ (document first rest).entries := by
    rw [entries]
    exact List.mem_cons_of_mem _ (List.mem_map_of_mem member)
  constructor
  · rintro ⟨entry, entryMember, same, -, held⟩
    obtain rfl : entry = fieldEntry [.space] field :=
      List.inj_on_of_nodup_map distinct.nodup entryMember inside
        (same.trans named.symm)
    exact held
  · intro held
    exact ⟨_, inside, named, ⟨(spelling_raw_iff field.1).mpr plain, rfl⟩, held⟩

theorem document_says_iff (word : String) :
    Says (document first rest) word ↔
      ∃ field ∈ first :: rest, word.toList <:+: (spelling field.1).text ∨
        Mentions word.toList field.2.strings := by
  have strings : (document first rest).strings =
      (first :: rest).flatMap fun field =>
        spelling field.1 :: field.2.strings :=
    members_strings [] first rest
  rw [Says, strings]
  constructor
  · rintro ⟨found, member, said⟩
    obtain ⟨field, inside, here⟩ := List.mem_flatMap.mp member
    rcases List.mem_cons.mp here with rfl | later
    · exact ⟨field, inside, .inl said⟩
    · exact ⟨field, inside, .inr ⟨found, later, said⟩⟩
  · rintro ⟨field, inside, said | ⟨found, here, said⟩⟩
    · exact ⟨_, List.mem_flatMap.mpr ⟨field, inside, List.mem_cons_self⟩, said⟩
    · exact ⟨found, List.mem_flatMap.mpr
        ⟨field, inside, List.mem_cons_of_mem _ here⟩, said⟩

end Documents

end Cli

end AuthBoundry
