import AuthBoundry.Library.Search
import AuthBoundry.Library.Text
import Mathlib.Data.Rat.Defs
import Mathlib.Algebra.Order.Field.Rat
import Mathlib.Data.List.TakeWhile

/-!
# Texts of data

The texts that stand for a piece of data: white space between the tokens,
escapes in the strings, the spelling of the numbers.  A text is a tree of what
was written, `text` is what it looks like and `value` is what it stands for.
-/

namespace Library

namespace Listed

-- `Char` is finite: without these, what holds of the characters in a list may
-- be decided by going through all characters.
scoped instance (priority := high) decidableForallMem {α : Type} (items : List α)
    (holds : α → Prop) [DecidablePred holds] :
    Decidable (∀ item ∈ items, holds item) :=
  List.decidableBAll holds items

scoped instance (priority := high) decidableExistsMem {α : Type} (items : List α)
    (holds : α → Prop) [DecidablePred holds] :
    Decidable (∃ item ∈ items, holds item) :=
  List.decidableBEx holds items

scoped instance (priority := high) decidableForallSome {α : Type} (item : Option α)
    (holds : α → Prop) [DecidablePred holds] :
    Decidable (∀ value ∈ item, holds value) :=
  Option.decidableForallMem item

end Listed

open scoped Listed

/-! ## Data -/

inductive JsonValue where
  | string (value : String)
  | number (value : ℚ)
  | bool (value : Bool)
  | null
  | array (items : List JsonValue)
  | object (members : List (String × JsonValue))

/-- What holds of data when it holds of all that is inside of it. -/
@[elab_as_elim]
theorem JsonValue.induction {motive : JsonValue → Prop}
    (string : ∀ value, motive (.string value))
    (number : ∀ value, motive (.number value))
    (bool : ∀ value, motive (.bool value))
    (null : motive .null)
    (array : ∀ items, (∀ item ∈ items, motive item) → motive (.array items))
    (object : ∀ members, (∀ entry ∈ members, motive entry.2) →
      motive (.object members))
    (value : JsonValue) : motive value :=
  @JsonValue.rec motive (fun items => ∀ item ∈ items, motive item)
    (fun members => ∀ entry ∈ members, motive entry.2)
    (fun entry => motive entry.2) string number bool null array object
    (List.forall_mem_nil _)
    (fun _ _ first others => List.forall_mem_cons.mpr ⟨first, others⟩)
    (List.forall_mem_nil _)
    (fun _ _ first others => List.forall_mem_cons.mpr ⟨first, others⟩)
    (fun _ _ inside => inside) value

/-! ## Blanks -/

inductive Blank where
  | space
  | tab
  | newline
  | carriageReturn
  deriving DecidableEq, Repr

def Blank.char : Blank → Char
  | .space => ' '
  | .tab => '\t'
  | .newline => '\n'
  | .carriageReturn => '\r'

abbrev Blanks := List Blank

def Blanks.text (blanks : Blanks) : List Char := blanks.map Blank.char

/-- What a complete piece of data is followed by, unless it is the last. -/
def closers : List Char := [' ', '\t', '\n', '\r', ',', ']', '\x7d']

def Separated (text : List Char) : Prop := ∀ first ∈ text.head?, first ∈ closers

instance (text : List Char) : Decidable (Separated text) :=
  inferInstanceAs (Decidable (∀ first ∈ text.head?, first ∈ closers))

theorem Blank.char_mem (blank : Blank) : blank.char ∈ closers := by
  cases blank <;> decide

theorem Separated.nil : Separated [] := by decide

theorem Separated.cons {first : Char} {text : List Char}
    (closes : first ∈ closers) : Separated (first :: text) := by
  intro head member
  obtain rfl := Option.some.inj member
  exact closes

theorem Separated.blanks (blanks : Blanks) {text : List Char}
    (separated : Separated text) : Separated (blanks.text ++ text) := by
  cases blanks with
  | nil => exact separated
  | cons blank blanks => exact .cons blank.char_mem

/-! ## Strings -/

/-- The four digits of one unit, as `\u` is followed by them. -/
def hexDigitValue (digit : Char) : Option Nat :=
  if '0' ≤ digit ∧ digit ≤ '9' then
    some (digit.toNat - '0'.toNat)
  else if 'a' ≤ digit ∧ digit ≤ 'f' then
    some (digit.toNat - 'a'.toNat + 10)
  else if 'A' ≤ digit ∧ digit ≤ 'F' then
    some (digit.toNat - 'A'.toNat + 10)
  else
    none

def shortEscapes : List (Char × Char) :=
  [('"', '"'), ('\\', '\\'), ('/', '/'), ('b', '\x08'), ('f', '\x0c'),
    ('n', '\n'), ('r', '\r'), ('t', '\t')]

def codeUnit (first second third fourth : Char) : Option Nat := do
  let first ← hexDigitValue first
  let second ← hexDigitValue second
  let third ← hexDigitValue third
  let fourth ← hexDigitValue fourth
  return ((first * 16 + second) * 16 + third) * 16 + fourth

/-- What a backslash is followed by to stand for one character. -/
inductive Escape : List Char → Char → Prop
  | short {letter value : Char} (listed : (letter, value) ∈ shortEscapes) :
      Escape [letter] value
  | unit {first second third fourth : Char} {code : Nat}
      (reads : codeUnit first second third fourth = some code)
      (scalar : code < 0xD800 ∨ 0xDFFF < code) :
      Escape ['u', first, second, third, fourth] (Char.ofNat code)
  | pair {first second third fourth fifth sixth seventh eighth : Char}
      {high low : Nat}
      (readsHigh : codeUnit first second third fourth = some high)
      (readsLow : codeUnit fifth sixth seventh eighth = some low)
      (leads : 0xD800 ≤ high ∧ high ≤ 0xDBFF)
      (trails : 0xDC00 ≤ low ∧ low ≤ 0xDFFF) :
      Escape ['u', first, second, third, fourth, '\\', 'u', fifth, sixth,
          seventh, eighth]
        (Char.ofNat (0x10000 + (high - 0xD800) * 0x400 + (low - 0xDC00)))

theorem hexDigitValue_quote : hexDigitValue '"' = none := by decide

theorem not_quote_of_codeUnit {first second third fourth : Char} {code : Nat}
    (reads : codeUnit first second third fourth = some code) :
    '"' ∉ [first, second, third, fourth] := by
  intro member
  simp only [List.mem_cons, List.not_mem_nil, or_false] at member
  rcases member with rfl | rfl | rfl | rfl <;>
    simp [codeUnit, hexDigitValue_quote] at reads

theorem Escape.of_quote_mem {payload : List Char} {value : Char}
    (escape : Escape payload value) (member : '"' ∈ payload) :
    payload = ['"'] ∧ value = '"' := by
  cases escape with
  | short listed =>
      obtain rfl := List.mem_singleton.mp member
      simp [shortEscapes] at listed
      exact ⟨rfl, listed⟩
  | unit reads scalar =>
      have absent := not_quote_of_codeUnit reads
      simp_all
  | pair readsHigh readsLow leads trails =>
      have absentHigh := not_quote_of_codeUnit readsHigh
      have absentLow := not_quote_of_codeUnit readsLow
      simp_all

theorem Escape.ne_nil {payload : List Char} {value : Char}
    (escape : Escape payload value) : payload ≠ [] := by
  cases escape <;> exact List.cons_ne_nil _ _

/--
One character of a string as it is written: itself, or a backslash and a
payload.  The control characters may stand for themselves: the writers below
do not escape them, and no reader minds.
-/
inductive SpelledChar where
  | raw (character : Char) (plain : character ≠ '"' ∧ character ≠ '\\')
  | escaped (payload : List Char) (character : Char)
      (legal : Escape payload character)

namespace SpelledChar

def text : SpelledChar → List Char
  | raw character _ => [character]
  | escaped payload _ _ => '\\' :: payload

def value : SpelledChar → Char
  | raw character _ => character
  | escaped _ character _ => character

def IsRaw : SpelledChar → Prop
  | raw _ _ => True
  | escaped _ _ _ => False

end SpelledChar

/-- The characters up to the first quotation mark. -/
def upToQuote (text : List Char) : List Char := text.takeWhile (· != '"')

theorem upToQuote_eq_self {text : List Char} (quoteless : '"' ∉ text) :
    upToQuote text = text := by
  refine List.takeWhile_eq_self_iff.mpr fun character member => ?_
  rw [bne_iff_ne]
  rintro rfl
  exact quoteless member

theorem not_mem_upToQuote (text : List Char) : '"' ∉ upToQuote text := by
  intro member
  have keeps := List.mem_takeWhile_imp member
  exact absurd keeps (by decide)

/-- What stands between the quotation marks of a string. -/
abbrev Spelling := List SpelledChar

namespace Spelling

def text (spelling : Spelling) : List Char :=
  spelling.flatMap SpelledChar.text

def value (spelling : Spelling) : List Char :=
  spelling.map SpelledChar.value

/-- No character of the string is escaped. -/
def Raw (spelling : Spelling) : Prop :=
  ∀ character ∈ spelling, character.IsRaw

def quoted (spelling : Spelling) : List Char :=
  '"' :: (spelling.text ++ ['"'])

theorem text_cons (first : SpelledChar) (spelling : Spelling) :
    text (first :: spelling) = first.text ++ spelling.text := rfl

theorem value_cons (first : SpelledChar) (spelling : Spelling) :
    value (first :: spelling) = first.value :: spelling.value := rfl

theorem raw_cons_iff (first : SpelledChar) (spelling : Spelling) :
    Raw (first :: spelling) ↔ first.IsRaw ∧ spelling.Raw :=
  List.forall_mem_cons

/-- A string without escapes looks like what it stands for. -/
theorem Raw.text_eq {spelling : Spelling} (plain : spelling.Raw) :
    spelling.text = spelling.value := by
  induction spelling with
  | nil => rfl
  | cons first spelling inductionHypothesis =>
      obtain ⟨firstRaw, restRaw⟩ := (raw_cons_iff first spelling).mp plain
      cases first with
      | raw character different =>
          rw [text_cons, value_cons, inductionHypothesis restRaw]
          rfl
      | escaped payload character legal => exact firstRaw.elim

theorem Raw.quoteless {spelling : Spelling} (plain : spelling.Raw) :
    '"' ∉ spelling.text ∧ '\\' ∉ spelling.text := by
  induction spelling with
  | nil => exact ⟨List.not_mem_nil, List.not_mem_nil⟩
  | cons first spelling inductionHypothesis =>
      obtain ⟨firstRaw, restRaw⟩ := (raw_cons_iff first spelling).mp plain
      obtain ⟨quoteless, slashless⟩ := inductionHypothesis restRaw
      cases first with
      | raw character different =>
          rw [text_cons]
          simp [SpelledChar.text, quoteless, slashless, different.1.symm,
            different.2.symm]
      | escaped payload character legal => exact firstRaw.elim

/-- An escape shows by its backslash. -/
theorem raw_of_slashless {spelling : Spelling}
    (slashless : '\\' ∉ spelling.text) : spelling.Raw := by
  induction spelling with
  | nil => exact List.forall_mem_nil _
  | cons first spelling inductionHypothesis =>
      rw [text_cons, List.mem_append, not_or] at slashless
      refine (raw_cons_iff first spelling).mpr
        ⟨?_, inductionHypothesis slashless.2⟩
      cases first with
      | raw character different => exact trivial
      | escaped payload character legal =>
          exact absurd List.mem_cons_self slashless.1

/-- The text of a string is at least as long as what it stands for. -/
theorem value_length_le (spelling : Spelling) :
    spelling.value.length ≤ spelling.text.length := by
  induction spelling with
  | nil => exact Nat.le_refl 0
  | cons first spelling inductionHypothesis =>
      rw [text_cons, value_cons, List.length_append, List.length_cons]
      have longer : 1 ≤ first.text.length := by
        cases first <;> simp [SpelledChar.text]
      omega

theorem quote_mem_value {spelling : Spelling} (member : '"' ∈ spelling.text) :
    '"' ∈ spelling.value := by
  induction spelling with
  | nil => exact member
  | cons first spelling inductionHypothesis =>
      rw [text_cons, List.mem_append] at member
      rw [value_cons, List.mem_cons]
      rcases member with inFirst | inRest
      · cases first with
        | raw character different =>
            exact absurd (List.mem_singleton.mp inFirst) different.1.symm
        | escaped payload character legal =>
            rcases List.mem_cons.mp inFirst with impossible | inPayload
            · exact absurd impossible (by decide)
            · exact .inl (legal.of_quote_mem inPayload).2.symm
      · exact .inr (inductionHypothesis inRest)

/--
Reading up to the first quotation mark gives what the string stands for exactly
when no character of it is escaped.
-/
theorem upToQuote_text_iff (spelling : Spelling) :
    upToQuote spelling.text = spelling.value ↔ spelling.Raw := by
  constructor
  · intro same
    by_cases quoted : '"' ∈ spelling.text
    · have inside := quote_mem_value quoted
      rw [← same] at inside
      exact absurd inside (not_mem_upToQuote _)
    · rw [upToQuote_eq_self quoted] at same
      clear quoted
      induction spelling with
      | nil => exact List.forall_mem_nil _
      | cons first spelling inductionHypothesis =>
          rw [text_cons, value_cons] at same
          cases first with
          | raw character different =>
              refine (raw_cons_iff _ spelling).mpr ⟨trivial, ?_⟩
              exact inductionHypothesis (List.cons.inj same).2
          | escaped payload character legal =>
              -- The escape is longer than the character it stands for.
              have lengths := congrArg List.length same
              have shorter := value_length_le spelling
              have payloadLength := List.length_pos_of_ne_nil legal.ne_nil
              simp only [SpelledChar.text, List.length_append,
                List.length_cons] at lengths
              omega
  · intro plain
    rw [upToQuote_eq_self plain.quoteless.1, plain.text_eq]

/-- An escape shows by its backslash before any quotation mark. -/
theorem raw_of_slashless_upToQuote {spelling : Spelling}
    (slashless : '\\' ∉ upToQuote spelling.text) : spelling.Raw := by
  induction spelling with
  | nil => exact List.forall_mem_nil _
  | cons first spelling inductionHypothesis =>
      rw [text_cons] at slashless
      cases first with
      | raw character different =>
          have kept : (character != '"') = true := bne_iff_ne.mpr different.1
          rw [upToQuote, SpelledChar.text, List.singleton_append,
            List.takeWhile_cons, if_pos kept, List.mem_cons, not_or] at slashless
          exact (raw_cons_iff _ spelling).mpr
            ⟨trivial, inductionHypothesis slashless.2⟩
      | escaped payload character legal =>
          exact absurd List.mem_cons_self slashless

theorem value_of_text_eq {spelling : Spelling} {word : List Char}
    (slashless : '\\' ∉ word) (spelled : spelling.text = word) :
    spelling.value = word ∧ spelling.Raw := by
  have plain : spelling.Raw := raw_of_slashless (by rwa [spelled])
  exact ⟨by rw [← plain.text_eq, spelled], plain⟩

end Spelling

/-! ## Numbers -/

inductive Sign where
  | unsigned
  | minus
  | plus
  deriving DecidableEq, Repr

def Sign.text : Sign → List Char
  | .unsigned => []
  | .minus => ['-']
  | .plus => ['+']

def Sign.factor : Sign → ℤ
  | .minus => -1
  | _ => 1

abbrev Digits := List (Fin 10)

namespace Digits

def text (digits : Digits) : List Char :=
  digits.map fun digit => Nat.digitChar digit.val

def value (digits : Digits) : Nat :=
  digits.foldl (fun value digit => value * 10 + digit.val) 0

end Digits

structure Exponent where
  capital : Bool
  sign : Sign
  digits : Digits
  written : digits ≠ []

/--
A number as it is written.  Data has neither a leading plus nor leading zeros;
a number that is passed through from a command line may have both.
-/
structure Numeral where
  sign : Sign
  whole : Digits
  written : whole ≠ []
  fraction : Digits
  exponent : Option Exponent

namespace Exponent

def text (self : Exponent) : List Char :=
  (if self.capital then 'E' else 'e') :: (self.sign.text ++ self.digits.text)

def value (self : Exponent) : ℤ := self.sign.factor * self.digits.value

end Exponent

namespace Numeral

/-- The point with what follows it, and the power of ten. -/
def tail (self : Numeral) : List Char :=
  (if self.fraction.isEmpty then [] else '.' :: self.fraction.text) ++
    (self.exponent.map Exponent.text).getD []

def text (self : Numeral) : List Char :=
  self.sign.text ++ self.whole.text ++ self.tail

def value (self : Numeral) : ℚ :=
  self.sign.factor *
    (self.whole.value + self.fraction.value / 10 ^ self.fraction.length) *
    10 ^ (self.exponent.map Exponent.value).getD 0

end Numeral

def numeralChars : List Char :=
  ['0', '1', '2', '3', '4', '5', '6', '7', '8', '9', '+', '-', '.', 'e', 'E']

theorem Digits.text_subset (digits : Digits) : digits.text ⊆ numeralChars := by
  intro character member
  obtain ⟨digit, -, rfl⟩ := List.mem_map.mp member
  have listed : ∀ digit : Fin 10, Nat.digitChar digit.val ∈ numeralChars := by
    decide
  exact listed digit

theorem Sign.text_subset (sign : Sign) : sign.text ⊆ numeralChars := by
  cases sign <;> decide

theorem Exponent.text_subset (self : Exponent) : self.text ⊆ numeralChars := by
  have signed := self.sign.text_subset
  have digits := self.digits.text_subset
  have lead : (if self.capital then 'E' else 'e') ∈ numeralChars := by
    split <;> decide
  exact List.cons_subset.mpr ⟨lead, List.append_subset.mpr ⟨signed, digits⟩⟩

theorem Numeral.text_subset (self : Numeral) : self.text ⊆ numeralChars := by
  have point : '.' ∈ numeralChars := by decide
  refine List.append_subset.mpr ⟨List.append_subset.mpr
    ⟨self.sign.text_subset, self.whole.text_subset⟩,
    List.append_subset.mpr ⟨?_, ?_⟩⟩
  · split
    · exact List.nil_subset _
    · exact List.cons_subset.mpr ⟨point, self.fraction.text_subset⟩
  · cases self.exponent with
    | none => exact List.nil_subset _
    | some exponent => exact exponent.text_subset

theorem Numeral.text_ne_nil (self : Numeral) : self.text ≠ [] := by
  have digits : self.whole.text ≠ [] := by
    simpa [Digits.text] using self.written
  simp [Numeral.text, digits]

/-! ## Trees -/

/-- The name of a member, up to what follows the colon. -/
structure KeyText where
  before : Blanks
  name : Spelling
  gap : Blanks
  pad : Blanks

def KeyText.text (self : KeyText) (rest : List Char) : List Char :=
  self.before.text ++
    self.name.quoted ++ self.gap.text ++ ':' :: (self.pad.text ++ rest)

mutual

/-- A piece of data as it is written. -/
inductive JsonText where
  | null
  | bool (value : Bool)
  | number (numeral : Numeral)
  | string (spelling : Spelling)
  | emptyArray (blanks : Blanks)
  | array (items : ItemTexts)
  | emptyObject (blanks : Blanks)
  | object (members : MemberTexts)

inductive ItemTexts where
  | last (before : Blanks) (item : JsonText) (after : Blanks)
  | more (before : Blanks) (item : JsonText) (after : Blanks)
      (rest : ItemTexts)

inductive MemberTexts where
  | last (key : KeyText) (value : JsonText) (after : Blanks)
  | more (key : KeyText) (value : JsonText) (after : Blanks)
      (rest : MemberTexts)

end

mutual

def JsonText.text : JsonText → List Char
  | .null => ['n', 'u', 'l', 'l']
  | .bool true => ['t', 'r', 'u', 'e']
  | .bool false => ['f', 'a', 'l', 's', 'e']
  | .number numeral => numeral.text
  | .string spelling => spelling.quoted
  | .emptyArray blanks => '[' :: (blanks.text ++ [']'])
  | .array items => '[' :: (items.text ++ [']'])
  | .emptyObject blanks => '\x7b' :: (blanks.text ++ ['\x7d'])
  | .object members => '\x7b' :: (members.text ++ ['\x7d'])

def ItemTexts.text : ItemTexts → List Char
  | .last before item after => before.text ++ item.text ++ after.text
  | .more before item after rest =>
      before.text ++ item.text ++ after.text ++ ',' :: rest.text

def MemberTexts.text : MemberTexts → List Char
  | .last key value after => key.text (value.text ++ after.text)
  | .more key value after rest =>
      key.text (value.text ++ after.text ++ ',' :: rest.text)

end

mutual

def JsonText.value : JsonText → JsonValue
  | .null => .null
  | .bool value => .bool value
  | .number numeral => .number numeral.value
  | .string spelling => .string (String.ofList spelling.value)
  | .emptyArray _ => .array []
  | .array items => .array items.values
  | .emptyObject _ => .object []
  | .object members => .object members.values

def ItemTexts.values : ItemTexts → List JsonValue
  | .last _ item _ => [item.value]
  | .more _ item _ rest => item.value :: rest.values

def MemberTexts.values : MemberTexts → List (String × JsonValue)
  | .last key value _ => [(String.ofList key.name.value, value.value)]
  | .more key value _ rest =>
      (String.ofList key.name.value, value.value) :: rest.values

end

/-! ## Members and strings of a tree -/

structure Entry where
  key : KeyText
  value : JsonText

namespace Entry

def name (self : Entry) : String := String.ofList self.key.name.value

/-- The name and the data that a member stands for. -/
def stated (self : Entry) : String × JsonValue := (self.name, self.value.value)

theorem stated_mk (key : KeyText) (value : JsonText) :
    (Entry.mk key value).stated =
      (String.ofList key.name.value, value.value) := rfl

/-- What follows the colon of a member, as far as it belongs to the member. -/
def written (self : Entry) : List Char := self.key.pad.text ++ self.value.text

/-- The name has no escapes, and the colon follows it at once. -/
def Plain (self : Entry) : Prop := self.key.name.Raw ∧ self.key.gap = []

/-- The name of the member is spelled so, and the colon follows it at once. -/
def Spelled (name : List Char) (self : Entry) : Prop :=
  self.key.name.text = name ∧ self.key.gap = []

instance (name : List Char) : DecidablePred (Spelled name) :=
  fun _ => inferInstanceAs (Decidable (_ ∧ _))

end Entry

mutual

def JsonText.entries : JsonText → List Entry
  | .array items => items.entries
  | .object members => members.entries
  | _ => []

def ItemTexts.entries : ItemTexts → List Entry
  | .last _ item _ => item.entries
  | .more _ item _ rest => item.entries ++ rest.entries

def MemberTexts.entries : MemberTexts → List Entry
  | .last key value _ => ⟨key, value⟩ :: value.entries
  | .more key value _ rest => ⟨key, value⟩ :: (value.entries ++ rest.entries)

end

mutual

/-- All strings, the names of the members among them. -/
def JsonText.strings : JsonText → List Spelling
  | .string spelling => [spelling]
  | .array items => items.strings
  | .object members => members.strings
  | _ => []

def ItemTexts.strings : ItemTexts → List Spelling
  | .last _ item _ => item.strings
  | .more _ item _ rest => item.strings ++ rest.strings

def MemberTexts.strings : MemberTexts → List Spelling
  | .last key value _ => key.name :: value.strings
  | .more key value _ rest => key.name :: (value.strings ++ rest.strings)

end

/-- The members of the data itself, not of what is inside of it. -/
def JsonValue.members : JsonValue → List (String × JsonValue)
  | .object members => members
  | _ => []

mutual

def JsonValue.entries : JsonValue → List (String × JsonValue)
  | .array items => JsonValue.itemEntries items
  | .object members => JsonValue.memberEntries members
  | _ => []

def JsonValue.itemEntries : List JsonValue → List (String × JsonValue)
  | [] => []
  | item :: rest => item.entries ++ JsonValue.itemEntries rest

def JsonValue.memberEntries :
    List (String × JsonValue) → List (String × JsonValue)
  | [] => []
  | (name, value) :: rest =>
      (name, value) :: (value.entries ++ JsonValue.memberEntries rest)

end

mutual

/-- The members of a text are those of the data it stands for. -/
theorem JsonText.entries_value (self : JsonText) :
    self.entries.map Entry.stated =
      self.value.entries := by
  cases self with
  | array items =>
      simp only [JsonText.entries, JsonText.value, JsonValue.entries]
      exact items.entries_values
  | object members =>
      simp only [JsonText.entries, JsonText.value, JsonValue.entries]
      exact members.entries_values
  | _ => simp [JsonText.entries, JsonText.value, JsonValue.entries,
      JsonValue.itemEntries, JsonValue.memberEntries]

theorem ItemTexts.entries_values (self : ItemTexts) :
    self.entries.map Entry.stated =
      JsonValue.itemEntries self.values := by
  cases self with
  | last before item after =>
      simp [ItemTexts.entries, ItemTexts.values, JsonValue.itemEntries,
        item.entries_value]
  | more before item after rest =>
      simp [ItemTexts.entries, ItemTexts.values, JsonValue.itemEntries,
        item.entries_value, rest.entries_values]

theorem MemberTexts.entries_values (self : MemberTexts) :
    self.entries.map Entry.stated =
      JsonValue.memberEntries self.values := by
  cases self with
  | last key value after =>
      simp [MemberTexts.entries, MemberTexts.values, JsonValue.memberEntries,
        Entry.stated_mk, value.entries_value]
  | more key value after rest =>
      simp [MemberTexts.entries, MemberTexts.values, JsonValue.memberEntries,
        Entry.stated_mk, value.entries_value, rest.entries_values]

end

end Library
