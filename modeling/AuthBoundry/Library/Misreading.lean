import AuthBoundry.Library.ByteStreams
import AuthBoundry.Library.JsonWriter

/-!
# Texts that are read in another encoding

A text that is written as UTF-8 and read as Latin-1 keeps its ASCII characters,
and every other character comes out as two or more.  Written data stays written
data: only its strings are others.
-/

namespace Library

/-! ## Characters -/

def latin1 (bytes : List UInt8) : List Char :=
  bytes.map fun byte => Char.ofNat byte.toNat

/-- What is read where one character was written. -/
def misreadChar (character : Char) : List Char :=
  latin1 (String.utf8EncodeChar character)

def misread (text : String) : String := String.ofList (latin1 (utf8 text))

theorem toList_misread (text : String) :
    (misread text).toList = text.toList.flatMap misreadChar := by
  have encoded := utf8_ofList text.toList
  rw [String.ofList_toList] at encoded
  rw [misread, String.toList_ofList, encoded, latin1, List.map_flatMap]
  rfl

theorem misreadChar_ascii {character : Char} (ascii : character.toNat < 128) :
    misreadChar character = [character] := by
  have small : character.toNat % 256 = character.toNat :=
    Nat.mod_eq_of_lt (by omega)
  rw [misreadChar, utf8EncodeChar_ascii ascii]
  change [Char.ofNat (character.toNat % 256)] = _
  rw [small, Char.ofNat_toNat]

theorem misreadChar_high {character : Char} (high : 128 ≤ character.toNat) :
    ∀ other ∈ misreadChar character, 128 ≤ other.toNat := by
  intro other member
  obtain ⟨byte, listed, rfl⟩ := List.mem_map.mp member
  have large := utf8EncodeChar_high high listed
  have valid : byte.toNat.isValidChar := .inl (by
    have bounded := byte.toNat_lt
    omega)
  have same : (Char.ofNat byte.toNat).toNat = byte.toNat := by
    rw [Char.ofNat, dif_pos valid]
    rfl
  omega

theorem misreadChar_longer {character : Char}
    (high : 128 ≤ character.toNat) : 2 ≤ (misreadChar character).length := by
  have large : ¬character.val.toNat ≤ 0x7f := by
    have same : character.val.toNat = character.toNat := rfl
    omega
  rw [misreadChar, latin1, List.length_map]
  unfold String.utf8EncodeChar
  dsimp only
  rw [if_neg large]
  split_ifs <;> simp

theorem flatMap_misreadChar_ascii {characters : List Char}
    (ascii : IsAscii characters) :
    characters.flatMap misreadChar = characters := by
  induction characters with
  | nil => rfl
  | cons first rest induction =>
      obtain ⟨low, others⟩ := List.forall_mem_cons.mp ascii
      rw [List.flatMap_cons, misreadChar_ascii low, induction others]
      rfl

theorem length_le_misread (characters : List Char) :
    characters.length ≤ (characters.flatMap misreadChar).length := by
  induction characters with
  | nil => exact Nat.le_refl 0
  | cons first rest induction =>
      have longer : 1 ≤ (misreadChar first).length := by
        rcases Nat.lt_or_ge first.toNat 128 with low | high
        · rw [misreadChar_ascii low]
          exact Nat.le_refl 1
        · exact Nat.le_of_succ_le (misreadChar_longer high)
      rw [List.flatMap_cons, List.length_append, List.length_cons]
      omega

theorem isAscii_of_misread {characters : List Char}
    (same : characters.flatMap misreadChar = characters) :
    IsAscii characters := by
  induction characters with
  | nil => exact List.forall_mem_nil _
  | cons first rest induction =>
      rw [List.flatMap_cons] at same
      rcases Nat.lt_or_ge first.toNat 128 with low | high
      · rw [misreadChar_ascii low] at same
        exact List.forall_mem_cons.mpr
          ⟨low, induction (List.cons.inj same).2⟩
      · have lengths := congrArg List.length same
        have longer := misreadChar_longer high
        have others := length_le_misread rest
        rw [List.length_append, List.length_cons] at lengths
        omega

theorem misread_eq_self_iff (text : String) :
    misread text = text ↔ IsAscii text.toList := by
  rw [← String.toList_inj, toList_misread]
  exact ⟨isAscii_of_misread, flatMap_misreadChar_ascii⟩

theorem ascii_of_isDigit {digit : Char} (isDigit : digit.isDigit = true) :
    digit.toNat < 128 := by
  simp only [Char.isDigit, Bool.and_eq_true, decide_eq_true_eq] at isDigit
  have most : digit.toNat ≤ 57 := isDigit.2
  omega

/-! ## Changed data -/

mutual

/-- Data with another text for each string and another number for each
number. -/
def JsonValue.mapLeaves (text : String → String) (number : ℚ → ℚ) :
    JsonValue → JsonValue
  | .string value => .string (text value)
  | .number value => .number (number value)
  | .bool value => .bool value
  | .null => .null
  | .array items => .array (JsonValue.mapItems text number items)
  | .object members => .object (JsonValue.mapMembers text number members)

def JsonValue.mapItems (text : String → String) (number : ℚ → ℚ) :
    List JsonValue → List JsonValue
  | [] => []
  | item :: items =>
      item.mapLeaves text number :: JsonValue.mapItems text number items

def JsonValue.mapMembers (text : String → String) (number : ℚ → ℚ) :
    List (String × JsonValue) → List (String × JsonValue)
  | [] => []
  | (name, value) :: members =>
      (text name, value.mapLeaves text number) ::
        JsonValue.mapMembers text number members

end

theorem map_eq_self_iff {α : Type} {change : α → α} {items : List α} :
    items.map change = items ↔ ∀ item ∈ items, change item = item := by
  have each := @List.map_inj_left α α items change id
  rwa [List.map_id] at each

namespace JsonValue

variable {text other : String → String} {number further : ℚ → ℚ}

theorem mapLeaves_array (items : List JsonValue) :
    (array items).mapLeaves text number =
      .array (items.map (mapLeaves text number)) := by
  rw [mapLeaves]
  induction items with
  | nil => rfl
  | cons item items induction =>
      rw [mapItems, List.map_cons, array.inj induction]

theorem mapLeaves_object (members : List (String × JsonValue)) :
    (object members).mapLeaves text number =
      .object (members.map fun entry =>
        (text entry.1, entry.2.mapLeaves text number)) := by
  rw [mapLeaves]
  induction members with
  | nil => rfl
  | cons entry members induction =>
      rw [mapMembers, List.map_cons, object.inj induction]

theorem strings_mapLeaves (value : JsonValue) :
    (value.mapLeaves text number).strings = value.strings.map text := by
  induction value using JsonValue.induction with
  | string value => simp [mapLeaves, strings]
  | number value => simp [mapLeaves, strings]
  | bool value => simp [mapLeaves, strings]
  | null => simp [mapLeaves, strings]
  | array items induction =>
      rw [mapLeaves_array, strings_array, strings_array, List.flatMap_map,
        List.map_flatMap]
      exact List.flatMap_congr induction
  | object members induction =>
      rw [mapLeaves_object, strings_object, strings_object, List.flatMap_map,
        List.map_flatMap]
      refine List.flatMap_congr fun entry listed => ?_
      rw [List.map_cons, induction entry listed]

theorem mapLeaves_mapLeaves (value : JsonValue) :
    (value.mapLeaves text number).mapLeaves other further =
      value.mapLeaves (other ∘ text) (further ∘ number) := by
  induction value using JsonValue.induction with
  | string value => rfl
  | number value => rfl
  | bool value => rfl
  | null => rfl
  | array items induction =>
      rw [mapLeaves_array, mapLeaves_array, mapLeaves_array, List.map_map]
      exact congrArg array (List.map_congr_left induction)
  | object members induction =>
      rw [mapLeaves_object, mapLeaves_object, mapLeaves_object, List.map_map]
      refine congrArg object (List.map_congr_left fun entry listed => ?_)
      exact Prod.ext rfl (induction entry listed)

/-- Data stays the same when each string and each number of it does. -/
theorem mapLeaves_eq_self_iff (value : JsonValue) :
    value.mapLeaves text number = value ↔
      value.Each (fun inside => text inside = inside)
        fun inside => number inside = inside := by
  induction value using JsonValue.induction with
  | string value => simp [mapLeaves, each_string_iff]
  | number value => simp [mapLeaves, each_number_iff]
  | bool value => simp [mapLeaves, each_bool]
  | null => simp [mapLeaves, each_null]
  | array items induction =>
      rw [mapLeaves_array, array.injEq, map_eq_self_iff, each_array_iff]
      exact forall₂_congr induction
  | object members induction =>
      rw [mapLeaves_object, object.injEq, map_eq_self_iff, each_object_iff]
      refine forall₂_congr fun entry listed => ?_
      rw [Prod.ext_iff, induction entry listed]

theorem mapLeaves_id (value : JsonValue) : value.mapLeaves id id = value := by
  rw [mapLeaves_eq_self_iff]
  exact ⟨fun _ _ => rfl, fun _ _ => rfl⟩

end JsonValue

theorem mapM_eq_ite {α β : Type} {read : α → Option β} {change : α → β}
    {taken : α → Prop} [DecidablePred taken] {items : List α}
    (each : ∀ item ∈ items, read item =
      if taken item then some (change item) else none) :
    items.mapM read =
      if ∀ item ∈ items, taken item then
        some (items.map change)
      else
        none := by
  induction items with
  | nil => simp
  | cons item items induction =>
      obtain ⟨first, others⟩ := List.forall_mem_cons.mp each
      rw [List.mapM_cons, first, induction others]
      simp only [List.forall_mem_cons]
      by_cases here : taken item
      · simp only [here, if_true, true_and, Option.bind_eq_bind,
          Option.bind_some]
        split <;> rfl
      · simp [here]

/-! ## Misread data -/

namespace JsonStyle

variable (style : JsonStyle)

theorem ascii_of_lookup {character letter : Char}
    (found : style.escapes.lookup character = some letter) :
    character.toNat < 128 ∧ letter.toNat < 128 := by
  have ascii : ∀ pair ∈ shortEscapes,
      pair.2.toNat < 128 ∧ pair.1.toNat < 128 := by
    decide
  exact ascii _ (style.legal _ (mem_of_lookup found))

theorem ascii_spell {character : Char} (low : character.toNat < 128) :
    IsAscii (style.spell character) := by
  unfold spell
  cases found : style.escapes.lookup character with
  | some letter =>
      have letters := (style.ascii_of_lookup found).2
      intro other member
      simp only [List.mem_cons, List.not_mem_nil, or_false] at member
      rcases member with rfl | rfl
      · decide
      · exact letters
  | none =>
      intro other member
      rw [List.mem_singleton.mp member]
      exact low

theorem spell_high {character : Char} (high : 128 ≤ character.toNat) :
    style.spell character = [character] := by
  unfold spell
  cases found : style.escapes.lookup character with
  | some letter =>
      exact absurd (style.ascii_of_lookup found).1 (Nat.not_lt.mpr high)
  | none => rfl

theorem misread_spell (character : Char) :
    (style.spell character).flatMap misreadChar =
      (misreadChar character).flatMap style.spell := by
  rcases Nat.lt_or_ge character.toNat 128 with low | high
  · rw [flatMap_misreadChar_ascii (style.ascii_spell low),
      misreadChar_ascii low, List.flatMap_singleton]
  · have kept : (misreadChar character).flatMap style.spell =
        (misreadChar character).flatMap fun other => [other] :=
      List.flatMap_congr fun other member =>
        style.spell_high (misreadChar_high high other member)
    rw [style.spell_high high, kept, List.flatMap_singleton,
      List.flatMap_singleton']

theorem misread_quoted (text : String) :
    (style.quoted text).flatMap misreadChar =
      style.quoted (misread text) := by
  have mark : misreadChar '"' = ['"'] := misreadChar_ascii (by decide)
  have spelled : (text.toList.flatMap style.spell).flatMap misreadChar =
      (text.toList.flatMap misreadChar).flatMap style.spell := by
    rw [List.flatMap_assoc, List.flatMap_assoc]
    exact List.flatMap_congr fun character _ => style.misread_spell character
  rw [quoted, quoted, toList_misread, ← spelled]
  simp [mark]

theorem misread_intercalate {separator : List Char}
    (ascii : IsAscii separator) (texts : List (List Char)) :
    (separator.intercalate texts).flatMap misreadChar =
      separator.intercalate (texts.map (List.flatMap misreadChar)) := by
  induction texts with
  | nil => rfl
  | cons first rest induction =>
      cases rest with
      | nil => simp
      | cons second rest =>
          rw [List.intercalate_cons_cons, List.flatMap_append,
            List.flatMap_append, flatMap_misreadChar_ascii ascii, induction]
          simp

theorem ascii_gap : IsAscii style.gap.text := by
  intro character member
  obtain ⟨blank, _, rfl⟩ := List.mem_map.mp member
  cases blank <;> decide

theorem misread_joined (texts : List (List Char)) :
    (style.joined texts).flatMap misreadChar =
      style.joined (texts.map (List.flatMap misreadChar)) := by
  refine misread_intercalate ?_ texts
  exact List.forall_mem_cons.mpr ⟨by decide, style.ascii_gap⟩

theorem misread_member (name : String) (value : List Char) :
    (style.member name value).flatMap misreadChar =
      style.member (misread name) (value.flatMap misreadChar) := by
  have colon : misreadChar ':' = [':'] := misreadChar_ascii (by decide)
  rw [member, member, List.flatMap_append, misread_quoted, List.flatMap_cons,
    colon, List.flatMap_append, flatMap_misreadChar_ascii style.ascii_gap]
  rfl

theorem ascii_decimal (number : Int) : IsAscii (toString number).toList := by
  intro character member
  rcases Numeric.of_mem_decimal member with rfl | digit
  · decide
  · exact ascii_of_isDigit digit

/-- Misread data is data with misread strings. -/
theorem misread_write (value : JsonValue) :
    (style.write value).flatMap misreadChar =
      style.write (value.mapLeaves misread id) := by
  have single : ∀ character : Char, character.toNat < 128 →
      ∀ rest : List Char, (character :: rest).flatMap misreadChar =
        character :: rest.flatMap misreadChar := by
    intro character ascii rest
    rw [List.flatMap_cons, misreadChar_ascii ascii, List.singleton_append]
  induction value using JsonValue.induction with
  | string value => exact style.misread_quoted value
  | number value =>
      exact flatMap_misreadChar_ascii (ascii_decimal (style.shown value))
  | bool value =>
      have ascii : IsAscii (toString value).toList := by
        cases value <;> decide
      exact flatMap_misreadChar_ascii ascii
  | null =>
      have ascii : IsAscii ['n', 'u', 'l', 'l'] := by decide
      exact flatMap_misreadChar_ascii ascii
  | array items induction =>
      have each : (items.map style.write).map (List.flatMap misreadChar) =
          (items.map (JsonValue.mapLeaves misread id)).map style.write := by
        rw [List.map_map, List.map_map]
        exact List.map_congr_left induction
      rw [JsonValue.mapLeaves_array, write, write, writeItems_eq_map,
        writeItems_eq_map, single _ (by decide), List.flatMap_append,
        misread_joined, each, flatMap_misreadChar_ascii (by decide)]
  | object members induction =>
      have each : (members.map style.writeMember).map
            (List.flatMap misreadChar) =
          (members.map fun entry => (misread entry.1,
            entry.2.mapLeaves misread id)).map style.writeMember := by
        rw [List.map_map, List.map_map]
        refine List.map_congr_left fun entry listed => ?_
        exact (style.misread_member entry.1 _).trans
          (congrArg (style.member (misread entry.1)) (induction entry listed))
      rw [JsonValue.mapLeaves_object, write, write, writeMembers_eq_map,
        writeMembers_eq_map, single _ (by decide), List.flatMap_append,
        misread_joined, each, flatMap_misreadChar_ascii (by decide)]

/-- What is read of the written data, if it is legible. -/
theorem reading_eq (value : JsonValue) :
    style.reading value =
      if ∀ text ∈ value.strings, style.LegibleText text then
        some (value.mapLeaves id fun number => style.shown number)
      else
        none := by
  induction value using JsonValue.induction with
  | string value => simp [reading, JsonValue.strings, JsonValue.mapLeaves]
  | number value => simp [reading, JsonValue.strings, JsonValue.mapLeaves]
  | bool value => simp [reading, JsonValue.strings, JsonValue.mapLeaves]
  | null => simp [reading, JsonValue.strings, JsonValue.mapLeaves]
  | array items induction =>
      rw [reading, readingItems_eq_mapM, mapM_eq_ite induction,
        JsonValue.mapLeaves_array, JsonValue.strings_array]
      simp only [List.forall_mem_flatMap]
      split <;> rfl
  | object members induction =>
      have each : ∀ entry ∈ members, style.readingMember entry =
          if ∀ text ∈ entry.1 :: entry.2.strings, style.LegibleText text then
            some (id entry.1,
              entry.2.mapLeaves id fun number => style.shown number)
          else
            none := by
        intro entry listed
        rw [readingMember, induction entry listed]
        simp only [List.forall_mem_cons]
        by_cases name : style.LegibleText entry.1
        · simp only [name, if_true, true_and, Option.bind_eq_bind,
            Option.bind_some]
          split <;> rfl
        · simp [name]
      rw [reading, readingMembers_eq_mapM, mapM_eq_ite each,
        JsonValue.mapLeaves_object, JsonValue.strings_object]
      simp only [List.forall_mem_flatMap]
      split <;> rfl

/-- What is read when the written data was misread and its numbers are changed
afterwards is the data itself only if nothing was altered on the way. -/
theorem reading_misread_eq_some_iff (value : JsonValue) (number : ℚ → ℚ) :
    (style.reading (value.mapLeaves misread id)).map
        (JsonValue.mapLeaves id number) = some value ↔
      value.Each
        (fun text => IsAscii text.toList ∧ style.LegibleText text)
        fun inside => number (style.shown inside) = inside := by
  have composed : ((value.mapLeaves misread id).mapLeaves id
        fun inside => style.shown inside).mapLeaves id number =
      value.mapLeaves misread fun inside => number (style.shown inside) := by
    rw [JsonValue.mapLeaves_mapLeaves, JsonValue.mapLeaves_mapLeaves]
    rfl
  have fixed := @JsonValue.mapLeaves_eq_self_iff misread
    (fun inside => number (style.shown inside)) value
  simp only [misread_eq_self_iff] at fixed
  rw [reading_eq]
  simp only [JsonValue.strings_mapLeaves, List.forall_mem_map]
  constructor
  · intro same
    split at same
    · next legible =>
        rw [Option.map_some, composed, Option.some.injEq, fixed] at same
        obtain ⟨texts, numbers⟩ := same
        refine ⟨fun text member => ⟨texts text member, ?_⟩, numbers⟩
        have kept := legible text member
        rwa [(misread_eq_self_iff text).mpr (texts text member)] at kept
    · cases same
  · rintro ⟨texts, numbers⟩
    have legible : ∀ text ∈ value.strings,
        style.LegibleText (misread text) := by
      intro text member
      rw [(misread_eq_self_iff text).mpr (texts text member).1]
      exact (texts text member).2
    rw [if_pos legible, Option.map_some, composed, Option.some.injEq, fixed]
    exact ⟨fun text member => (texts text member).1, numbers⟩

end JsonStyle

end Library
