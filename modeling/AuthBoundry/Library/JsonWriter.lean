import AuthBoundry.Library.JsonReader
import AuthBoundry.Library.Segments

/-!
# Writing data

A writer has a style: which characters it escapes, which blanks it leaves
behind a comma and a colon, and which whole number it shows for a number.  The
reader gives back what was written except in two cases.  A control character
that the style leaves as it is refuses the text, and a number comes back as the
one that was shown for it.
-/

namespace Library

open scoped Listed

/-! ## Joined texts -/

/-- A text that begins with neither a blank nor a closing mark. -/
def Opened (text : List Char) : Prop := ∃ first ∈ text.head?, first ∉ closers

theorem Opened.cons {first : Char} (opens : first ∉ closers)
    (rest : List Char) : Opened (first :: rest) := ⟨first, rfl, opens⟩

theorem Opened.ne_nil {text : List Char} (opened : Opened text) :
    text ≠ [] := by
  rintro rfl
  obtain ⟨first, member, _⟩ := opened
  cases member

theorem Opened.begun_append {text : List Char} (opened : Opened text)
    (rest : List Char) : Begun (text ++ rest) := by
  obtain ⟨first, member, opens⟩ := opened
  have blanks : blankChars ⊆ closers := by decide
  cases text with
  | nil => cases member
  | cons head tail =>
      obtain rfl := Option.some.inj member
      intro other same
      obtain rfl := Option.some.inj same
      exact fun blank => opens (blanks blank)

theorem length_le_length_intercalate {α : Type} (separator : List α)
    {texts : List (List α)} (nonempty : ∀ text ∈ texts, text ≠ []) :
    texts.length ≤ (separator.intercalate texts).length := by
  induction texts with
  | nil => exact Nat.zero_le _
  | cons first others induction =>
      obtain ⟨here, later⟩ := List.forall_mem_cons.mp nonempty
      have long := List.length_pos_of_ne_nil here
      cases others with
      | nil => simpa using Nat.succ_le_of_lt long
      | cons second others =>
          have shorter := induction later
          rw [List.intercalate_cons_cons]
          simp only [List.length_append, List.length_cons] at shorter long ⊢
          omega

theorem mem_intercalate {α : Type} {separator : List α}
    {texts : List (List α)} {item : α}
    (member : item ∈ separator.intercalate texts) :
    item ∈ separator ∨ ∃ text ∈ texts, item ∈ text := by
  induction texts with
  | nil => cases member
  | cons first others induction =>
      cases others with
      | nil => exact .inr ⟨first, List.mem_cons_self, by simpa using member⟩
      | cons second others =>
          rw [List.intercalate_cons_cons, List.append_assoc, List.mem_append,
            List.mem_append] at member
          rcases member with here | between | later
          · exact .inr ⟨first, List.mem_cons_self, here⟩
          · exact .inl between
          · refine (induction later).imp_right ?_
            rintro ⟨text, listed, inside⟩
            exact ⟨text, List.mem_cons_of_mem _ listed, inside⟩

section Series

variable {α β : Type} {read : Reader α} {closer : Char}
  {written : β → List Char} {reading : β → Option α}

/-- What closes a series is neither a blank nor a comma. -/
def Closes (closer : Char) : Prop :=
  closer ∈ closers ∧ closer ∉ blankChars ∧ closer ≠ ','

theorem closes_bracket : Closes ']' := ⟨by decide, by decide, by decide⟩

theorem closes_brace : Closes '\x7d' := ⟨by decide, by decide, by decide⟩

theorem readItems_joined (closes : Closes closer) (gap : Blanks)
    {items : List β} (nonempty : items ≠ [])
    (opened : ∀ item ∈ items, Opened (written item))
    (reads : ∀ item ∈ items, ∀ rest, Separated rest →
      read (written item ++ rest) = (reading item).map (·, rest))
    {fuel : Nat} (enough : items.length ≤ fuel) (blanks : Blanks)
    (rest : List Char) :
    readItems read closer fuel (blanks.text ++
        (List.intercalate (',' :: gap.text) (items.map written) ++
          closer :: rest)) =
      (items.mapM reading).map (·, rest) := by
  obtain ⟨listed, solid, different⟩ := closes
  induction items generalizing fuel blanks with
  | nil => exact absurd rfl nonempty
  | cons first others induction =>
      obtain ⟨fuel, rfl⟩ := Nat.exists_eq_succ_of_ne_zero
        (Nat.ne_zero_of_lt enough)
      obtain ⟨firstOpened, othersOpened⟩ := List.forall_mem_cons.mp opened
      obtain ⟨firstReads, othersRead⟩ := List.forall_mem_cons.mp reads
      cases others with
      | nil =>
          have closing : Begun (closer :: rest) := by
            rintro _ ⟨⟩
            exact solid
          rw [readItems, skipBlanks_text, List.map_singleton,
            List.intercalate_singleton,
            (firstOpened.begun_append _).skipBlanks_eq,
            firstReads _ (.cons listed), List.mapM_cons, List.mapM_nil]
          cases reading first with
          | none => rfl
          | some item => simp [closing.skipBlanks_eq]
      | cons second others =>
          have later := @induction (List.cons_ne_nil _ _) othersOpened
            othersRead fuel (Nat.le_of_succ_le_succ enough) gap
          have comma : Begun (',' :: (gap.text ++
              (List.intercalate (',' :: gap.text)
                ((second :: others).map written) ++ closer :: rest))) := by
            rintro _ ⟨⟩
            decide
          have split : List.intercalate (',' :: gap.text)
                ((first :: second :: others).map written) ++ closer :: rest =
              written first ++ ',' :: (gap.text ++
                (List.intercalate (',' :: gap.text)
                  ((second :: others).map written) ++ closer :: rest)) := by
            simp
          rw [readItems, skipBlanks_text, split,
            (firstOpened.begun_append _).skipBlanks_eq,
            firstReads _ (.cons (by decide)), List.mapM_cons]
          cases reading first with
          | none => rfl
          | some item =>
              simp only [Option.map_some, Option.bind_eq_bind,
                Option.bind_some, comma.skipBlanks_eq,
                if_neg different.symm, if_true, later]
              cases (second :: others).mapM reading <;> rfl

theorem readSeries_joined (closes : Closes closer) (gap : Blanks)
    {items : List β} (opened : ∀ item ∈ items, Opened (written item))
    (reads : ∀ item ∈ items, ∀ rest, Separated rest →
      read (written item ++ rest) = (reading item).map (·, rest))
    (rest : List Char) :
    readSeries read closer
        (List.intercalate (',' :: gap.text) (items.map written) ++
          closer :: rest) =
      (items.mapM reading).map (·, rest) := by
  cases items with
  | nil =>
      have closing : Begun (closer :: rest) := by
        rintro _ ⟨⟩
        exact closes.2.1
      change readSeries read closer (closer :: rest) = _
      rw [readSeries, closing.skipBlanks_eq]
      simp
  | cons first others =>
      have nonempty : ∀ text ∈ (first :: others).map written, text ≠ [] := by
        intro text member
        obtain ⟨item, listed, rfl⟩ := List.mem_map.mp member
        exact (opened item listed).ne_nil
      have fewer := length_le_length_intercalate (',' :: gap.text) nonempty
      have enough : (first :: others).length ≤
          (List.intercalate (',' :: gap.text)
            ((first :: others).map written) ++ closer :: rest).length := by
        rw [List.length_append]
        rw [List.length_map] at fewer
        omega
      have items := readItems_joined closes gap
        (List.cons_ne_nil first others) opened reads enough [] rest
      obtain ⟨head, begins, opens⟩ := opened first List.mem_cons_self
      obtain ⟨tail, shape⟩ : ∃ tail,
          List.intercalate (',' :: gap.text) ((first :: others).map written) ++
            closer :: rest = head :: tail := by
        cases text : written first with
        | nil => exact absurd text (opened first List.mem_cons_self).ne_nil
        | cons character characters =>
            rw [text] at begins
            obtain rfl := Option.some.inj begins
            simp [text]
      have solid : Begun (head :: tail) := by
        have blanks : blankChars ⊆ closers := by decide
        rintro _ ⟨⟩
        exact fun blank => opens (blanks blank)
      have different : head ≠ closer := by
        rintro rfl
        exact opens closes.1
      rw [shape] at items ⊢
      rw [readSeries, solid.skipBlanks_eq]
      simp only [if_neg different]
      exact items

end Series

/-! ## What is inside of data -/

mutual

/-- All strings, the names of the members among them. -/
def JsonValue.strings : JsonValue → List String
  | .string value => [value]
  | .array items => JsonValue.itemStrings items
  | .object members => JsonValue.memberStrings members
  | _ => []

def JsonValue.itemStrings : List JsonValue → List String
  | [] => []
  | item :: items => item.strings ++ JsonValue.itemStrings items

def JsonValue.memberStrings : List (String × JsonValue) → List String
  | [] => []
  | (name, value) :: members =>
      name :: (value.strings ++ JsonValue.memberStrings members)

end

mutual

def JsonValue.numbers : JsonValue → List ℚ
  | .number value => [value]
  | .array items => JsonValue.itemNumbers items
  | .object members => JsonValue.memberNumbers members
  | _ => []

def JsonValue.itemNumbers : List JsonValue → List ℚ
  | [] => []
  | item :: items => item.numbers ++ JsonValue.itemNumbers items

def JsonValue.memberNumbers : List (String × JsonValue) → List ℚ
  | [] => []
  | (_, value) :: members => value.numbers ++ JsonValue.memberNumbers members

end

namespace JsonValue

theorem strings_array (items : List JsonValue) :
    (array items).strings = items.flatMap strings := by
  rw [strings]
  induction items with
  | nil => rfl
  | cons item items induction =>
      rw [itemStrings, induction, List.flatMap_cons]

theorem strings_object (members : List (String × JsonValue)) :
    (object members).strings =
      members.flatMap fun entry => entry.1 :: entry.2.strings := by
  rw [strings]
  induction members with
  | nil => rfl
  | cons entry members induction =>
      rw [memberStrings, induction, List.flatMap_cons]
      rfl

theorem numbers_array (items : List JsonValue) :
    (array items).numbers = items.flatMap numbers := by
  rw [numbers]
  induction items with
  | nil => rfl
  | cons item items induction =>
      rw [itemNumbers, induction, List.flatMap_cons]

theorem numbers_object (members : List (String × JsonValue)) :
    (object members).numbers =
      members.flatMap fun entry => entry.2.numbers := by
  rw [numbers]
  induction members with
  | nil => rfl
  | cons entry members induction =>
      rw [memberNumbers, induction, List.flatMap_cons]

end JsonValue

theorem toList_null : "null".toList = ['n', 'u', 'l', 'l'] := by decide

/-- Data, or nothing where there is none. -/
def nullable {α : Type} (data : α → JsonValue) (value : Option α) :
    JsonValue :=
  (value.map data).getD .null

theorem nullable_injective {α : Type} {data : α → JsonValue}
    (injective : Function.Injective data)
    (present : ∀ value, data value ≠ .null) :
    Function.Injective (nullable data) := by
  intro left right same
  cases left with
  | none =>
      cases right with
      | none => rfl
      | some value => exact absurd same.symm (present value)
  | some value =>
      cases right with
      | none => exact absurd same (present value)
      | some other => exact congrArg some (injective same)

theorem nullableText_injective :
    Function.Injective (nullable JsonValue.string) :=
  nullable_injective (fun _ _ same => JsonValue.string.inj same)
    fun _ => JsonValue.noConfusion

theorem texts_injective :
    Function.Injective fun texts : List String =>
      JsonValue.array (texts.map .string) := by
  have strings : Function.Injective JsonValue.string :=
    fun _ _ same => JsonValue.string.inj same
  intro left right same
  exact strings.list_map (JsonValue.array.inj same)

theorem textMembers_injective :
    Function.Injective fun members : List (String × String) =>
      JsonValue.object
        (members.map fun (name, text) => (name, .string text)) := by
  have pairs : Function.Injective fun entry : String × String =>
      (entry.1, JsonValue.string entry.2) := by
    rintro ⟨name, text⟩ ⟨other, stored⟩ same
    obtain ⟨names, texts⟩ := Prod.mk.inj same
    exact Prod.ext names (JsonValue.string.inj texts)
  intro left right same
  exact pairs.list_map (JsonValue.object.inj same)

theorem mapM_map_eq_some_map_iff {α β γ : Type} {read : β → Option γ}
    {written : α → β} {expected : α → γ} {items : List α} :
    (items.map written).mapM read = some (items.map expected) ↔
      ∀ item ∈ items, read (written item) = some (expected item) := by
  induction items with
  | nil => simp
  | cons item items induction =>
      rw [List.map_cons, List.mapM_cons, List.forall_mem_cons, ← induction,
        List.map_cons]
      simp only [Option.bind_eq_bind, Option.bind_eq_some_iff, pure,
        Option.some.injEq, List.cons.injEq]
      constructor
      · rintro ⟨first, kept, others, keptOthers, rfl, rfl⟩
        exact ⟨kept, keptOthers⟩
      · rintro ⟨kept, keptOthers⟩
        exact ⟨_, kept, _, keptOthers, rfl, rfl⟩

theorem mapM_eq_some_self_iff {α : Type} {keep : α → Option α}
    {items : List α} :
    items.mapM keep = some items ↔ ∀ item ∈ items, keep item = some item := by
  have each := @mapM_map_eq_some_map_iff α α α keep id id items
  rwa [List.map_id] at each

/-! ## What holds of all that is inside -/

namespace JsonValue

section Each

variable {text : String → Prop} {number : ℚ → Prop}

def Each (text : String → Prop) (number : ℚ → Prop) (value : JsonValue) :
    Prop :=
  (∀ inside ∈ value.strings, text inside) ∧
    ∀ inside ∈ value.numbers, number inside

theorem each_string_iff (value : String) :
    (string value).Each text number ↔ text value := by
  simp [Each, strings, numbers]

theorem each_number_iff (value : ℚ) :
    (JsonValue.number value).Each text number ↔ number value := by
  simp [Each, strings, numbers]

theorem each_bool (value : Bool) : (bool value).Each text number := by
  simp [Each, strings, numbers]

theorem each_null : null.Each text number := by
  simp [Each, strings, numbers]

theorem each_nullable_iff {α : Type} (data : α → JsonValue)
    (value : Option α) :
    (nullable data value).Each text number ↔
      ∀ present ∈ value, (data present).Each text number := by
  cases value with
  | none => simp [nullable, each_null]
  | some present => simp [nullable]

theorem each_nullableText_iff (value : Option String) :
    (nullable string value).Each text number ↔
      ∀ present ∈ value, text present := by
  rw [each_nullable_iff]
  simp only [each_string_iff]

theorem each_array_iff (items : List JsonValue) :
    (array items).Each text number ↔
      ∀ item ∈ items, item.Each text number := by
  unfold Each
  rw [strings_array, numbers_array]
  simp only [List.mem_flatMap, forall_exists_index, and_imp]
  constructor
  · rintro ⟨texts, numbers⟩ item listed
    exact ⟨fun inside member => texts inside item listed member,
      fun inside member => numbers inside item listed member⟩
  · intro each
    exact ⟨fun inside item listed => (each item listed).1 inside,
      fun inside item listed => (each item listed).2 inside⟩

theorem each_object_iff (members : List (String × JsonValue)) :
    (object members).Each text number ↔
      ∀ entry ∈ members, text entry.1 ∧ entry.2.Each text number := by
  unfold Each
  rw [strings_object, numbers_object]
  simp only [List.mem_flatMap, forall_exists_index, and_imp]
  constructor
  · rintro ⟨texts, numbers⟩ entry listed
    exact ⟨texts entry.1 entry listed List.mem_cons_self,
      fun inside member =>
        texts inside entry listed (List.mem_cons_of_mem _ member),
      fun inside member => numbers inside entry listed member⟩
  · intro each
    refine ⟨?_, fun inside entry listed => (each entry listed).2.2 inside⟩
    intro inside entry listed member
    rcases List.mem_cons.mp member with rfl | within
    · exact (each entry listed).1
    · exact (each entry listed).2.1 inside within

theorem each_object_nil : (object []).Each text number := by
  rw [each_object_iff]
  exact List.forall_mem_nil _

theorem each_object_cons_iff (name : String) (value : JsonValue)
    (members : List (String × JsonValue)) :
    (object ((name, value) :: members)).Each text number ↔
      text name ∧ value.Each text number ∧
        (object members).Each text number := by
  rw [each_object_iff, List.forall_mem_cons, each_object_iff, and_assoc]

/-- Members that are texts are as they should be with their names. -/
theorem each_textMembers_iff (members : List (String × String)) :
    (object (members.map fun (name, value) =>
        (name, .string value))).Each text number ↔
      ∀ inside ∈ members.flatMap fun (name, value) => [name, value],
        text inside := by
  rw [each_object_iff]
  simp only [List.forall_mem_map, List.forall_mem_flatMap,
    List.forall_mem_cons, each_string_iff]
  simp

theorem each_texts_iff (texts : List String) :
    (array (texts.map .string)).Each text number ↔
      ∀ inside ∈ texts, text inside := by
  rw [each_array_iff]
  simp only [List.forall_mem_map, each_string_iff]

end Each

end JsonValue

/-! ## Styles -/

/-- How a writer writes. -/
structure JsonStyle where
  /-- Each escaped character with the letter behind its backslash. -/
  escapes : List (Char × Char)
  legal : ∀ pair ∈ escapes, pair.swap ∈ shortEscapes
  quote : (escapes.lookup '"').isSome
  backslash : (escapes.lookup '\\').isSome
  /-- What follows a comma or a colon. -/
  gap : Blanks
  shown : ℚ → Int

namespace JsonStyle

variable (style : JsonStyle)

def spell (character : Char) : List Char :=
  match style.escapes.lookup character with
  | some letter => ['\\', letter]
  | none => [character]

/-- A character that a reader accepts as it is spelled. -/
def Legible (character : Char) : Prop :=
  (style.escapes.lookup character).isSome ∨ firstPlainCode ≤ character.toNat

instance : DecidablePred style.Legible :=
  fun _ => inferInstanceAs (Decidable (_ ∨ _))

def LegibleText (text : String) : Prop :=
  ∀ character ∈ text.toList, style.Legible character

instance : DecidablePred style.LegibleText :=
  fun text => inferInstanceAs
    (Decidable (∀ character ∈ text.toList, style.Legible character))

theorem mem_of_lookup {pairs : List (Char × Char)} {key value : Char}
    (found : pairs.lookup key = some value) : (key, value) ∈ pairs := by
  obtain ⟨before, after, rfl, _⟩ := List.lookup_eq_some_iff.mp found
  simp

theorem lookup_of_unescaped {character : Char}
    (unescaped : ∀ pair ∈ style.escapes, pair.1 ≠ character) :
    style.escapes.lookup character = none := by
  rw [List.lookup_eq_none_iff]
  intro pair listed
  exact bne_iff_ne.mpr (unescaped pair listed).symm

theorem spell_of_unescaped {character : Char}
    (unescaped : ∀ pair ∈ style.escapes, pair.1 ≠ character) :
    style.spell character = [character] := by
  simp only [spell, style.lookup_of_unescaped unescaped]

theorem readChar_spell (character : Char) (rest : List Char) :
    readChar (style.spell character ++ rest) =
      if style.Legible character then some (character, rest) else none := by
  cases found : style.escapes.lookup character with
  | some letter =>
      have listed := style.legal _ (mem_of_lookup found)
      have legible : style.Legible character := .inl (by rw [found]; rfl)
      simp only [spell, found]
      rw [if_pos legible]
      exact readChar_short listed rest
  | none =>
      have different : character ≠ '\\' := by
        rintro rfl
        have escaped := style.backslash
        rw [found] at escaped
        cases escaped
      simp only [spell, Legible, found, Option.isSome_none,
        Bool.false_eq_true, false_or]
      exact readChar_raw different rest

theorem spell_cons (character : Char) :
    ∃ first others, style.spell character = first :: others ∧ first ≠ '"' := by
  unfold spell
  cases found : style.escapes.lookup character with
  | some letter => exact ⟨'\\', [letter], rfl, by decide⟩
  | none =>
      refine ⟨character, [], rfl, ?_⟩
      rintro rfl
      have escaped := style.quote
      rw [found] at escaped
      cases escaped

theorem readString_spelled {characters : List Char} {fuel : Nat}
    (enough : characters.length < fuel) (rest : List Char) :
    readString fuel (characters.flatMap style.spell ++ '"' :: rest) =
      if ∀ character ∈ characters, style.Legible character then
        some (characters, rest)
      else
        none := by
  induction characters generalizing fuel with
  | nil =>
      obtain ⟨fuel, rfl⟩ := Nat.exists_eq_succ_of_ne_zero
        (Nat.ne_zero_of_lt enough)
      simp [readString]
  | cons character characters induction =>
      obtain ⟨fuel, rfl⟩ := Nat.exists_eq_succ_of_ne_zero
        (Nat.ne_zero_of_lt enough)
      have later := induction (Nat.lt_of_succ_lt_succ enough)
      have reads := style.readChar_spell character
        (characters.flatMap style.spell ++ '"' :: rest)
      obtain ⟨first, others, spelled, inside⟩ :=
        style.spell_cons character
      rw [List.flatMap_cons, List.append_assoc]
      rw [spelled, List.cons_append] at reads ⊢
      rw [readString, if_neg inside, reads]
      by_cases legible : style.Legible character
      · simp only [legible, if_true, Option.bind_eq_bind, Option.bind_some,
          later, List.forall_mem_cons, true_and]
        split <;> rfl
      · have refused : ¬∀ other ∈ character :: characters,
            style.Legible other := fun all => legible (all _ List.mem_cons_self)
        rw [if_neg legible, if_neg refused]
        rfl

def quoted (text : String) : List Char :=
  '"' :: (text.toList.flatMap style.spell ++ ['"'])

theorem readQuoted_quoted (text : String) (rest : List Char) :
    readQuoted (style.quoted text ++ rest) =
      if style.LegibleText text then some (text, rest) else none := by
  have longer : text.toList.length ≤
      (text.toList.flatMap style.spell).length := by
    induction text.toList with
    | nil => exact Nat.zero_le _
    | cons character characters induction =>
        obtain ⟨first, others, spelled, _⟩ :=
          style.spell_cons character
        rw [List.flatMap_cons, List.length_append, spelled]
        simp only [List.length_cons]
        omega
  have shape : style.quoted text ++ rest =
      '"' :: (text.toList.flatMap style.spell ++ '"' :: rest) := by
    simp [quoted]
  have enough : text.toList.length <
      (text.toList.flatMap style.spell ++ '"' :: rest).length + 1 := by
    rw [List.length_append]
    omega
  rw [shape, readQuoted, if_pos rfl, style.readString_spelled enough]
  by_cases legible : style.LegibleText text
  · have each : ∀ character ∈ text.toList, style.Legible character := legible
    rw [if_pos legible, if_pos each]
    simp
  · have some : ¬∀ character ∈ text.toList, style.Legible character := legible
    rw [if_neg legible, if_neg some]
    rfl

/-! ## Written data -/

def joined (texts : List (List Char)) : List Char :=
  List.intercalate (',' :: style.gap.text) texts

def member (name : String) (value : List Char) : List Char :=
  style.quoted name ++ ':' :: (style.gap.text ++ value)

mutual

def write : JsonValue → List Char
  | .string value => style.quoted value
  | .number value => (toString (style.shown value)).toList
  | .bool value => (toString value).toList
  | .null => ['n', 'u', 'l', 'l']
  | .array items => '[' :: (style.joined (writeItems items) ++ [']'])
  | .object members =>
      '\x7b' :: (style.joined (writeMembers members) ++ ['\x7d'])

def writeItems : List JsonValue → List (List Char)
  | [] => []
  | item :: items => write item :: writeItems items

def writeMembers : List (String × JsonValue) → List (List Char)
  | [] => []
  | (name, value) :: members =>
      style.member name (write value) :: writeMembers members

end

mutual

/-- What a reader makes of the written data. -/
def reading : JsonValue → Option JsonValue
  | .string value =>
      if style.LegibleText value then some (.string value) else none
  | .number value => some (.number (style.shown value))
  | .bool value => some (.bool value)
  | .null => some .null
  | .array items => (readingItems items).map .array
  | .object members => (readingMembers members).map .object

def readingItems : List JsonValue → Option (List JsonValue)
  | [] => some []
  | item :: items => do
      let item ← reading item
      let items ← readingItems items
      return item :: items

def readingMembers :
    List (String × JsonValue) → Option (List (String × JsonValue))
  | [] => some []
  | (name, value) :: members => do
      let name ← if style.LegibleText name then some name else none
      let value ← reading value
      let members ← readingMembers members
      return (name, value) :: members

end

def writeMember (entry : String × JsonValue) : List Char :=
  style.member entry.1 (style.write entry.2)

def readingMember (entry : String × JsonValue) :
    Option (String × JsonValue) := do
  let name ← if style.LegibleText entry.1 then some entry.1 else none
  let value ← style.reading entry.2
  return (name, value)

theorem writeItems_eq_map (items : List JsonValue) :
    style.writeItems items = items.map style.write := by
  induction items with
  | nil => rfl
  | cons item items induction => rw [writeItems, induction, List.map_cons]

theorem writeMembers_eq_map (members : List (String × JsonValue)) :
    style.writeMembers members = members.map style.writeMember := by
  induction members with
  | nil => rfl
  | cons entry members induction =>
      rw [writeMembers, induction, List.map_cons]
      rfl

theorem readingItems_eq_mapM (items : List JsonValue) :
    style.readingItems items = items.mapM style.reading := by
  induction items with
  | nil => rfl
  | cons item items induction =>
      rw [readingItems, induction, List.mapM_cons]

theorem readingMembers_eq_mapM (members : List (String × JsonValue)) :
    style.readingMembers members = members.mapM style.readingMember := by
  induction members with
  | nil => rfl
  | cons entry members induction =>
      rw [readingMembers, induction, List.mapM_cons]
      by_cases legible : style.LegibleText entry.1 <;>
        simp [readingMember, legible, Option.bind_assoc]

theorem writeMembers_of_forall₂ {fields : List (String × List Char)}
    {members : List (String × JsonValue)}
    (written : List.Forall₂ (fun field entry =>
      field.1 = entry.1 ∧ field.2 = style.write entry.2) fields members) :
    fields.map (fun field => style.member field.1 field.2) =
      style.writeMembers members := by
  induction written with
  | nil => rfl
  | cons same _ induction =>
      rw [writeMembers, List.map_cons, induction, same.1, same.2]

theorem write_nullable {α : Type} (data : α → JsonValue) (value : Option α) :
    style.write (nullable data value) =
      (value.map fun present => style.write (data present)).getD
        ['n', 'u', 'l', 'l'] := by
  cases value <;> simp [nullable, write]

theorem opened_quoted (text : String) : Opened (style.quoted text) :=
  .cons (by decide) _

theorem opened_write (value : JsonValue) : Opened (style.write value) := by
  cases value with
  | string value => exact style.opened_quoted value
  | number value =>
      obtain ⟨first, others, shape, numeric⟩ :=
        Numeric.of_decimal (style.shown value)
      rw [write, shape]
      refine .cons (fun closes => ?_) others
      rcases numeric with rfl | digit
      · exact absurd closes (by decide)
      · rw [(not_numeral_of_closer closes).1] at digit
        cases digit
  | bool value => cases value <;> exact .cons (by decide) _
  | null => exact .cons (by decide) _
  | array items => exact .cons (by decide) _
  | object members => exact .cons (by decide) _

theorem opened_writeMember (entry : String × JsonValue) :
    Opened (style.writeMember entry) := by
  have opens : '"' ∉ closers := by decide
  exact .cons opens _

/-- The data at the start of a text is read up to its end. -/
def Reads (value : JsonValue) : Prop :=
  ∀ {fuel : Nat} {rest : List Char}, (style.write value).length < fuel →
    Separated rest →
      readValue fuel (style.write value ++ rest) =
        (style.reading value).map (·, rest)

theorem readMember_writeMember {entry : String × JsonValue}
    (reads : style.Reads entry.2) {fuel : Nat}
    (enough : (style.writeMember entry).length < fuel) {rest : List Char}
    (separated : Separated rest) :
    readMember (readValue fuel) (style.writeMember entry ++ rest) =
      (style.readingMember entry).map (·, rest) := by
  have shape : style.writeMember entry ++ rest =
      style.quoted entry.1 ++ ':' ::
        (style.gap.text ++ (style.write entry.2 ++ rest)) := by
    simp [writeMember, member]
  have shorter : (style.write entry.2).length < fuel := by
    simp only [writeMember, member, List.length_append, List.length_cons]
      at enough
    omega
  have colon : Begun (':' ::
      (style.gap.text ++ (style.write entry.2 ++ rest))) := by
    rintro _ ⟨⟩
    decide
  rw [shape, readMember, style.readQuoted_quoted, readingMember]
  by_cases legible : style.LegibleText entry.1
  · simp only [legible, if_true, Option.bind_eq_bind, Option.bind_some,
      colon.skipBlanks_eq, skipBlanks_text,
      ((style.opened_write entry.2).begun_append rest).skipBlanks_eq,
      reads shorter separated]
    cases style.reading entry.2 <;> rfl
  · simp only [legible, if_false]
    rfl

theorem length_le_joined {texts : List (List Char)} {text : List Char}
    (member : text ∈ texts) : text.length ≤ (style.joined texts).length :=
  length_le_intercalate member

/-- What a style has written is read back, as far as it is legible. -/
theorem reads_write (value : JsonValue) : style.Reads value := by
  induction value using JsonValue.induction with
  | string value =>
      intro fuel rest enough separated
      obtain ⟨fuel, rfl⟩ := Nat.exists_eq_succ_of_ne_zero
        (Nat.ne_zero_of_lt enough)
      have quoted := style.readQuoted_quoted value rest
      have shape : style.quoted value ++ rest =
          '"' :: (value.toList.flatMap style.spell ++ ['"'] ++ rest) := rfl
      rw [write, reading, shape, readValue, if_pos rfl, ← shape, quoted]
      split <;> rfl
  | number value =>
      intro fuel rest enough separated
      obtain ⟨fuel, rfl⟩ := Nat.exists_eq_succ_of_ne_zero
        (Nat.ne_zero_of_lt enough)
      obtain ⟨first, others, shape, numeric⟩ :=
        Numeric.of_decimal (style.shown value)
      have number := readNumber_decimal (style.shown value) separated
      rw [shape, List.cons_append] at number
      rw [write, reading, shape, List.cons_append,
        readValue_of_numeric numeric, number]
      rfl
  | bool value =>
      intro fuel rest enough separated
      obtain ⟨fuel, rfl⟩ := Nat.exists_eq_succ_of_ne_zero
        (Nat.ne_zero_of_lt enough)
      cases value with
      | true => exact readWord_append ['t', 'r', 'u', 'e'] (.bool true) rest
      | false =>
          exact readWord_append ['f', 'a', 'l', 's', 'e'] (.bool false) rest
  | null =>
      intro fuel rest enough separated
      obtain ⟨fuel, rfl⟩ := Nat.exists_eq_succ_of_ne_zero
        (Nat.ne_zero_of_lt enough)
      exact readWord_append ['n', 'u', 'l', 'l'] .null rest
  | array items induction =>
      intro fuel rest enough separated
      obtain ⟨fuel, rfl⟩ := Nat.exists_eq_succ_of_ne_zero
        (Nat.ne_zero_of_lt enough)
      rw [write, writeItems_eq_map] at enough ⊢
      rw [List.length_cons, List.length_append] at enough
      have opened : ∀ item ∈ items, Opened (style.write item) :=
        fun item _ => style.opened_write item
      have reads : ∀ item ∈ items, ∀ rest, Separated rest →
          readValue fuel (style.write item ++ rest) =
            (style.reading item).map (·, rest) := by
        intro item listed rest separated
        have shorter := style.length_le_joined
          (List.mem_map_of_mem (f := style.write) listed)
        exact induction item listed (by omega) separated
      have series := readSeries_joined closes_bracket style.gap opened reads
        rest
      have shape : '[' :: (style.joined (items.map style.write) ++ [']']) ++
          rest = '[' :: (style.joined (items.map style.write) ++
            ']' :: rest) := by
        simp
      rw [shape, readValue, if_neg (by decide), if_pos rfl, joined, series,
        reading, readingItems_eq_mapM]
      cases items.mapM style.reading <;> rfl
  | object members induction =>
      intro fuel rest enough separated
      obtain ⟨fuel, rfl⟩ := Nat.exists_eq_succ_of_ne_zero
        (Nat.ne_zero_of_lt enough)
      rw [write, writeMembers_eq_map] at enough ⊢
      rw [List.length_cons, List.length_append] at enough
      have opened : ∀ entry ∈ members, Opened (style.writeMember entry) :=
        fun entry _ => style.opened_writeMember entry
      have reads : ∀ entry ∈ members, ∀ rest, Separated rest →
          readMember (readValue fuel) (style.writeMember entry ++ rest) =
            (style.readingMember entry).map (·, rest) := by
        intro entry listed rest separated
        have shorter := style.length_le_joined
          (List.mem_map_of_mem (f := style.writeMember) listed)
        exact style.readMember_writeMember (induction entry listed) (by omega)
          separated
      have series := readSeries_joined closes_brace style.gap opened reads rest
      have shape : '\x7b' ::
          (style.joined (members.map style.writeMember) ++ ['\x7d']) ++
          rest = '\x7b' :: (style.joined (members.map style.writeMember) ++
            '\x7d' :: rest) := by
        simp
      rw [shape, readValue, if_neg (by decide), if_neg (by decide), if_pos rfl,
        joined, series, reading, readingMembers_eq_mapM]
      cases members.mapM style.readingMember <;> rfl

/-- A whole text that a style has written is read back likewise. -/
theorem decodeJson_of_written {text : String} {value : JsonValue}
    (written : text.toList = style.write value) :
    decodeJson text = style.reading value := by
  have begun : Begun (style.write value) := by
    simpa using (style.opened_write value).begun_append []
  have reads := style.reads_write value (Nat.lt_succ_self _) Separated.nil
  rw [List.append_nil] at reads
  rw [decodeJson, written, begun.skipBlanks_eq, reads]
  cases style.reading value <;> rfl

/-- Data of which nothing is lost: its strings are legible and its numbers are
shown as they are. -/
def Keeps (value : JsonValue) : Prop :=
  (∀ text ∈ value.strings, style.LegibleText text) ∧
    ∀ number ∈ value.numbers, (style.shown number : ℚ) = number

instance : DecidablePred style.Keeps :=
  fun _ => inferInstanceAs (Decidable (_ ∧ _))

theorem keeps_iff_each (value : JsonValue) :
    style.Keeps value ↔
      value.Each style.LegibleText
        fun number => (style.shown number : ℚ) = number :=
  Iff.rfl

theorem readingMember_eq_some_iff (entry : String × JsonValue) :
    style.readingMember entry = some entry ↔
      style.LegibleText entry.1 ∧ style.reading entry.2 = some entry.2 := by
  unfold readingMember
  by_cases legible : style.LegibleText entry.1
  · cases read : style.reading entry.2 with
    | none => simp [legible]
    | some value =>
        simp only [legible, if_true, Option.bind_eq_bind, Option.bind_some,
          Option.some.injEq, true_and, pure]
        exact ⟨fun same => congrArg Prod.snd same,
          fun same => Prod.ext rfl same⟩
  · simp [legible]

theorem reading_eq_some_iff (value : JsonValue) :
    style.reading value = some value ↔ style.Keeps value := by
  induction value using JsonValue.induction with
  | string value =>
      simp [reading, keeps_iff_each, JsonValue.each_string_iff]
  | number value =>
      simp [reading, keeps_iff_each, JsonValue.each_number_iff]
  | bool value => simp [reading, keeps_iff_each, JsonValue.each_bool]
  | null => simp [reading, keeps_iff_each, JsonValue.each_null]
  | array items induction =>
      have inner : (style.readingItems items).map JsonValue.array =
          some (.array items) ↔ style.readingItems items = some items := by
        simp
      rw [reading, inner, readingItems_eq_mapM, mapM_eq_some_self_iff,
        keeps_iff_each, JsonValue.each_array_iff]
      exact forall₂_congr induction
  | object members induction =>
      have inner : (style.readingMembers members).map JsonValue.object =
          some (.object members) ↔
            style.readingMembers members = some members := by
        simp
      rw [reading, inner, readingMembers_eq_mapM, mapM_eq_some_self_iff,
        keeps_iff_each, JsonValue.each_object_iff]
      refine forall₂_congr fun entry listed => ?_
      rw [readingMember_eq_some_iff, induction entry listed, keeps_iff_each]

theorem decodeJson_eq_some_iff {text : String} {value : JsonValue}
    (written : text.toList = style.write value) :
    decodeJson text = some value ↔ style.Keeps value := by
  rw [style.decodeJson_of_written written, reading_eq_some_iff]

/-! ## Lines -/

/-- A style in which no written data has a line break. -/
structure OneLine : Prop where
  escaped : (style.escapes.lookup '\n').isSome
  gapless : '\n' ∉ style.gap.text

variable {style} in
theorem OneLine.notMem_quoted (oneLine : style.OneLine) (text : String) :
    '\n' ∉ style.quoted text := by
  have letters : ∀ pair ∈ shortEscapes, pair.1 ≠ '\n' := by decide
  intro member
  simp only [quoted, List.mem_cons, List.mem_append, List.mem_flatMap,
    List.not_mem_nil, or_false] at member
  rcases member with impossible | ⟨character, _, spelled⟩ | impossible
  · exact absurd impossible (by decide)
  · unfold spell at spelled
    cases found : style.escapes.lookup character with
    | some letter =>
        simp only [found] at spelled
        have legal := style.legal _ (mem_of_lookup found)
        simp only [List.mem_cons, List.not_mem_nil, or_false] at spelled
        rcases spelled with impossible | rfl
        · exact absurd impossible (by decide)
        · exact letters _ legal rfl
    | none =>
        simp only [found] at spelled
        obtain rfl := List.mem_singleton.mp spelled
        have escaped := oneLine.escaped
        rw [found] at escaped
        cases escaped
  · exact absurd impossible (by decide)

variable {style} in
theorem OneLine.notMem_joined (oneLine : style.OneLine)
    {texts : List (List Char)} (plain : ∀ text ∈ texts, '\n' ∉ text) :
    '\n' ∉ style.joined texts := by
  intro member
  rcases mem_intercalate member with between | ⟨text, listed, inside⟩
  · rcases List.mem_cons.mp between with impossible | gap
    · exact absurd impossible (by decide)
    · exact oneLine.gapless gap
  · exact plain text listed inside

variable {style} in
theorem OneLine.notMem_write (oneLine : style.OneLine) (value : JsonValue) :
    '\n' ∉ style.write value := by
  induction value using JsonValue.induction with
  | string value => exact oneLine.notMem_quoted value
  | number value =>
      intro member
      have numeric := Numeric.of_mem_decimal member
      exact numeric.ne (by decide) (by decide) rfl
  | bool value => cases value <;> (rw [write]; decide)
  | null =>
      rw [write]
      decide
  | array items induction =>
      have plain : ∀ text ∈ items.map style.write, '\n' ∉ text := by
        intro text member
        obtain ⟨item, listed, rfl⟩ := List.mem_map.mp member
        exact induction item listed
      rw [write, writeItems_eq_map]
      simpa using oneLine.notMem_joined plain
  | object members induction =>
      have plain : ∀ text ∈ members.map style.writeMember, '\n' ∉ text := by
        intro text listed
        obtain ⟨entry, stored, rfl⟩ := List.mem_map.mp listed
        have name := oneLine.notMem_quoted entry.1
        have value := induction entry stored
        have gap := oneLine.gapless
        simp [writeMember, member, name, value, gap]
      rw [write, writeMembers_eq_map]
      simpa using oneLine.notMem_joined plain

end JsonStyle

end Library
