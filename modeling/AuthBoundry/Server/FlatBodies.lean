import AuthBoundry.Library.Brackets
import AuthBoundry.Server.FieldReadings
import AuthBoundry.Server.FlatStrings
import AuthBoundry.Server.ForwardedBodies

/-!
# Bodies that are JSON objects

A body is read as a flat object: the strings and the words of its members are
collected, and nested values are passed by counting their brackets.  The count
takes the brackets in strings along, and of the escapes only some are read as
what they mean.
-/

namespace AuthBoundry

open Library
open scoped Library.Listed

/-! ## What a flat object says -/

/-- The members of the object itself. -/
def outerMembers : MemberTexts → List Entry
  | .last key value _ => [⟨key, value⟩]
  | .more key value _ rest => ⟨key, value⟩ :: outerMembers rest

def outerEntries : JsonText → List Entry
  | .object members => outerMembers members
  | _ => []

def IsObject : JsonText → Prop
  | .object _ | .emptyObject _ => True
  | _ => False

def isNested : JsonText → Bool
  | .array _ | .emptyArray _ | .object _ | .emptyObject _ => true
  | _ => false

def flatEntries (object : JsonText) : List Entry :=
  (outerEntries object).filter fun entry => !isNested entry.value

/-- What such a value says: a string is read, and a word is its text. -/
def flatText (reading : Spelling → List Char) : JsonText → List Char
  | .string spelling => reading spelling
  | value => value.text

def flatField (reading : Spelling → List Char) (entry : Entry) :
    String × String :=
  (String.ofList (reading entry.key.name),
    String.ofList (flatText reading entry.value))

def flatFields (reading : Spelling → List Char) (object : JsonText) :
    List (String × String) :=
  (flatEntries object).map (flatField reading)

/-- Every string and word of the object is read as what it stands for, and
nothing else is. -/
def ReadsFlat (document : Document) : Prop :=
  parseFlatJson (String.ofList document.text) =
    collectPairs (flatFields Spelling.value document.body)

/-! ## The loop without its fuel -/

theorem length_readJsonString (text : List Char) :
    (readJsonString text).2.length ≤ text.length := by
  fun_induction readJsonString text with
  | case1 character rest read meant induction =>
      exact Nat.le_succ_of_le (Nat.le_succ_of_le induction)
  | case2 rest => exact Nat.le_succ _
  | case3 character rest unescaped unquoted read induction =>
      exact Nat.le_succ_of_le induction
  | case4 => exact Nat.le_refl 0

theorem length_skipNested (nested : Nat) (text : List Char) :
    (skipNested nested text).length ≤ text.length := by
  induction text generalizing nested with
  | nil => exact Nat.le_refl 0
  | cons first text induction =>
      have shorter : ∀ depth,
          (skipNested depth text).length ≤ (first :: text).length :=
        fun depth => Nat.le_succ_of_le (induction depth)
      rw [skipNested]
      by_cases opened : opens first
      · rw [if_pos opened]
        exact shorter _
      · rw [if_neg opened]
        by_cases closed : closes first
        · rw [if_pos closed]
          by_cases last : (nested - 1 == 0) = true
          · rw [if_pos last]
            exact Nat.le_succ _
          · rw [if_neg last]
            exact shorter _
        · rw [if_neg closed]
          exact shorter _

theorem length_readFlatValue (key : String) (fields : KeyedMap String String)
    (text : List Char) :
    (readFlatValue key fields text).2.length ≤ text.length := by
  have trimmed : ∀ other : List Char,
      (other.dropWhile isWhitespace).length ≤ other.length :=
    fun other => (List.dropWhile_suffix _).length_le
  have outer := trimmed text
  unfold readFlatValue
  split
  · rename_i later colon
    rw [colon, List.length_cons] at outer
    have inner := trimmed later
    split
    · exact Nat.zero_le _
    · rename_i quoted quote
      rw [quote, List.length_cons] at inner
      have read := length_readJsonString quoted
      dsimp only
      omega
    · rename_i first others unquoted started
      rw [started, List.length_cons] at inner
      split
      · have skipped := length_skipNested 0 (first :: others)
        rw [List.length_cons] at skipped
        dsimp only
        omega
      · have rest := (List.dropWhile_suffix (l := first :: others)
          fun character => character != ',' && !closes character).length_le
        rw [List.length_cons] at rest
        rw [List.span_eq_takeWhile_dropWhile]
        dsimp only
        omega
  · exact outer

/-- With as much fuel as there are characters the loop reads all of them. -/
theorem readFlatJson_enough {text : List Char} {fuel other : Nat}
    (enough : text.length ≤ fuel) (more : text.length ≤ other) (depth : Nat)
    (fields : KeyedMap String String) :
    readFlatJson fuel depth fields text =
      readFlatJson other depth fields text := by
  induction fuel generalizing text other depth fields with
  | zero =>
      obtain rfl := List.length_eq_zero_iff.mp (Nat.le_zero.mp enough)
      cases other <;> rfl
  | succ fuel induction =>
      cases text with
      | nil => cases other <;> rfl
      | cons first text =>
          rw [List.length_cons] at enough more
          obtain ⟨other, rfl⟩ :=
            Nat.exists_eq_succ_of_ne_zero (by omega : other ≠ 0)
          have short : text.length ≤ fuel := Nat.le_of_succ_le_succ enough
          have shorter : text.length ≤ other := Nat.le_of_succ_le_succ more
          rw [readFlatJson, readFlatJson]
          have after := length_readFlatValue
            (String.ofList (readJsonString text).1) fields
            (readJsonString text).2
          have key := length_readJsonString text
          dsimp only
          rw [induction short shorter, induction short shorter,
            induction (by omega) (by omega : _ ≤ other),
            induction short shorter]

/-- What the loop makes of a text. -/
def scan (depth : Nat) (fields : KeyedMap String String) (text : List Char) :
    KeyedMap String String :=
  readFlatJson text.length depth fields text

section Scan

variable (fields : KeyedMap String String) {depth : Nat} {rest : List Char}

theorem scan_skip {character : Char} (unopened : opens character = false)
    (unclosed : closes character = false) (unquoted : character ≠ '"') :
    scan depth fields (character :: rest) = scan depth fields rest :=
  readFlatJson_skip unopened unclosed unquoted fields rest depth rest.length

theorem scan_opening {character : Char} (opened : opens character = true) :
    scan depth fields (character :: rest) = scan (depth + 1) fields rest := by
  unfold scan
  rw [List.length_cons, readFlatJson, if_pos opened]

theorem scan_closing {character : Char} (unopened : opens character = false)
    (closed : closes character = true) :
    scan depth fields (character :: rest) = scan (depth - 1) fields rest := by
  unfold scan
  rw [List.length_cons, readFlatJson, unopened, closed]
  rfl

theorem scan_blanks (blanks : Blanks) :
    scan depth fields (blanks.text ++ rest) = scan depth fields rest := by
  induction blanks with
  | nil => rfl
  | cons blank blanks induction =>
      have skipped : scan depth fields
          (blank.char :: (Blanks.text blanks ++ rest)) =
            scan depth fields (Blanks.text blanks ++ rest) := by
        apply scan_skip
        · cases blank <;> rfl
        · cases blank <;> rfl
        · cases blank <;> decide
      exact skipped.trans induction

/-- A quotation mark in the object itself begins a name. -/
theorem scan_name :
    scan 1 fields ('"' :: rest) =
      let read := readFlatValue (String.ofList (readJsonString rest).1) fields
        (readJsonString rest).2
      scan 1 read.1 read.2 := by
  have key := length_readJsonString rest
  have after := length_readFlatValue (String.ofList (readJsonString rest).1)
    fields (readJsonString rest).2
  unfold scan
  rw [List.length_cons, readFlatJson]
  exact readFlatJson_enough (Nat.le_trans after key) (Nat.le_refl _) _ _

end Scan

/-! ## Members -/

theorem length_skipNested_lt (nested : Nat) {text : List Char}
    (nonempty : text ≠ []) :
    (skipNested nested text).length < text.length := by
  cases text with
  | nil => exact (nonempty rfl).elim
  | cons first text =>
      rw [skipNested, List.length_cons, Nat.lt_succ_iff]
      split
      · exact length_skipNested _ _
      · split
        · split
          · exact Nat.le_refl _
          · exact length_skipNested _ _
        · exact length_skipNested _ _

/-- The brackets are counted to the end of a text exactly when the last of it
closes them. -/
theorem skipNested_eq_iff {depth : Nat} {text rest : List Char}
    (more : rest ≠ []) :
    skipNested depth (text ++ rest) = rest ↔
      ClosesLast opens closes depth text := by
  induction text generalizing depth with
  | nil =>
      have shorter := length_skipNested_lt depth more
      constructor
      · intro same
        rw [List.nil_append] at same
        rw [same] at shorter
        exact absurd shorter (Nat.lt_irrefl _)
      · exact False.elim
  | cons first text induction =>
      rw [ClosesLast, List.cons_append, skipNested]
      by_cases opened : opens first
      · rw [if_pos opened, if_pos opened]
        exact induction
      · rw [if_neg opened, if_neg opened]
        by_cases closing : closes first
        · rw [if_pos closing, if_pos closing]
          by_cases last : depth ≤ 1
          · have none : (depth - 1 == 0) = true :=
              beq_iff_eq.mpr (Nat.sub_eq_zero_of_le last)
            rw [if_pos last, if_pos none]
            exact List.append_left_eq_self
          · have some : (depth - 1 == 0) = false :=
              beq_eq_false_iff_ne.mpr (Nat.sub_ne_zero_of_lt (by omega))
            rw [if_neg last, some]
            exact induction
        · rw [if_neg closing, if_neg closing]
          exact induction

/-- What follows the value of a member. -/
def EndsMember (rest : List Char) : Prop :=
  ∃ last others, rest = last :: others ∧ (last = ',' ∨ last = '\x7d')

/-- A word has no brackets and no white space, and is no string. -/
theorem word_plain {value : JsonText}
    (word : ∀ spelling, value ≠ .string spelling)
    (flat : isNested value = false) :
    value.text ≠ [] ∧ ∀ character ∈ value.text,
      character ≠ '"' ∧ isWhitespace character = false ∧ character ≠ ',' ∧
        opens character = false ∧ closes character = false := by
  cases value with
  | null => exact ⟨List.cons_ne_nil _ _, by decide⟩
  | bool value =>
      cases value
      · exact ⟨List.cons_ne_nil _ _, by decide⟩
      · exact ⟨List.cons_ne_nil _ _, by decide⟩
  | number numeral =>
      refine ⟨numeral.text_ne_nil, ?_⟩
      intro character member
      have listed : ∀ character ∈ numeralChars,
          character ≠ '"' ∧ isWhitespace character = false ∧
            character ≠ ',' ∧ opens character = false ∧
            closes character = false := by decide
      exact listed character (numeral.text_subset member)
  | string spelling => exact (word spelling rfl).elim
  | emptyArray blanks => cases flat
  | array items => cases flat
  | emptyObject blanks => cases flat
  | object members => cases flat

theorem word_taken {value : JsonText}
    (word : ∀ spelling, value ≠ .string spelling)
    (flat : isNested value = false) (after : Blanks) {rest : List Char}
    (ends : EndsMember rest) :
    let belongs := fun character : Char =>
      character != ',' && !closes character
    let text := value.text ++ (after.text ++ rest)
    trim (String.ofList (text.takeWhile belongs)) =
        String.ofList value.text ∧
      text.dropWhile belongs = rest := by
  intro belongs text
  have plain := (word_plain word flat).2
  have blank : ∀ character ∈ after.text,
      isWhitespace character = true := by
    intro character member
    obtain ⟨other, -, rfl⟩ := List.mem_map.mp member
    exact isWhitespace_blank other
  have kept : ∀ character ∈ value.text ++ after.text,
      belongs character = true := by
    intro character member
    rcases List.mem_append.mp member with inside | behind
    · obtain ⟨-, -, comma, -, closing⟩ := plain character inside
      unfold belongs
      rw [closing, bne_iff_ne.mpr comma]
      rfl
    · obtain ⟨other, -, rfl⟩ := List.mem_map.mp behind
      cases other <;> rfl
  obtain ⟨last, others, rfl, closing⟩ := ends
  have stops : belongs last = false := by
    rcases closing with rfl | rfl <;> rfl
  have trimmed := @trimList_between [] value.text after.text
    (List.forall_mem_nil _) blank
  have itself : trimList value.text = value.text :=
    trimList_eq_self fun character member => (plain character member).2.1
  unfold text
  rw [← List.append_assoc, List.takeWhile_append_of_pos kept,
    List.dropWhile_append_of_pos kept, List.takeWhile_cons, List.dropWhile_cons,
    stops]
  simp only [Bool.false_eq_true, if_false, List.append_nil]
  rw [List.nil_append, itself] at trimmed
  exact ⟨by rw [trim, String.toList_ofList, trimmed], trivial⟩

/-- What a member adds to the fields. -/
def putEntry (fields : KeyedMap String String) (entry : Entry) :
    KeyedMap String String :=
  if isNested entry.value then fields
  else
    let field := flatField readSpelling entry
    fields.insert field.1 field.2

def PassesNested (entry : Entry) : Prop :=
  isNested entry.value = true → ClosesLast opens closes 0 entry.value.text

theorem nested_opens {value : JsonText} (nested : isNested value = true) :
    ∃ first text, value.text = first :: text ∧ first ≠ '"' ∧
      opens first = true := by
  cases value with
  | emptyArray blanks => exact ⟨_, _, rfl, by decide, rfl⟩
  | array items => exact ⟨_, _, rfl, by decide, rfl⟩
  | emptyObject blanks => exact ⟨_, _, rfl, by decide, rfl⟩
  | object members => exact ⟨_, _, rfl, by decide, rfl⟩
  | null => cases nested
  | bool value => cases nested
  | number numeral => cases nested
  | string spelling => cases nested

theorem dropWhile_gap (gap : Blanks) (rest : List Char) :
    (gap.text ++ ':' :: rest).dropWhile isWhitespace = ':' :: rest := by
  rw [List.dropWhile_append_of_pos]
  · rfl
  · intro character member
    obtain ⟨blank, -, rfl⟩ := List.mem_map.mp member
    exact isWhitespace_blank blank

section Values

variable {key : String} {fields : KeyedMap String String}
  {text later rest : List Char}

theorem readFlatValue_string
    (colon : text.dropWhile isWhitespace = ':' :: later)
    (value : later.dropWhile isWhitespace = '"' :: rest) :
    readFlatValue key fields text =
      (fields.insert key (String.ofList (readJsonString rest).1),
        (readJsonString rest).2) := by
  unfold readFlatValue
  simp only [colon, value]

theorem readFlatValue_nested {first : Char}
    (colon : text.dropWhile isWhitespace = ':' :: later)
    (value : later.dropWhile isWhitespace = first :: rest)
    (unquoted : first ≠ '"') (opened : opens first = true) :
    readFlatValue key fields text =
      (fields, skipNested 0 (first :: rest)) := by
  unfold readFlatValue
  simp only [colon, value, opened, if_true]

theorem readFlatValue_word {first : Char}
    (colon : text.dropWhile isWhitespace = ':' :: later)
    (value : later.dropWhile isWhitespace = first :: rest)
    (unquoted : first ≠ '"') (unopened : opens first = false) :
    readFlatValue key fields text =
      (fields.insert key (trim (String.ofList
          ((first :: rest).takeWhile fun character =>
            character != ',' && !closes character))),
        (first :: rest).dropWhile fun character =>
          character != ',' && !closes character) := by
  unfold readFlatValue
  simp only [colon, value, unopened, Bool.false_eq_true, if_false,
    List.span_eq_takeWhile_dropWhile]

end Values

theorem readFlatValue_entry (entry : Entry) (passes : PassesNested entry)
    (after : Blanks) {rest : List Char} (ends : EndsMember rest)
    (fields : KeyedMap String String) :
    let read := readFlatValue (String.ofList (readSpelling entry.key.name))
      fields (entry.key.gap.text ++ ':' :: (entry.key.pad.text ++
        (entry.value.text ++ (after.text ++ rest))))
    scan 1 read.1 read.2 = scan 1 (putEntry fields entry) rest := by
  obtain ⟨key, value⟩ := entry
  intro read
  have blanks := fun map : KeyedMap String String =>
    @scan_blanks map 1 rest after
  have padded := dropWhile_pad key.pad value (after.text ++ rest)
  have colon := dropWhile_gap key.gap
    (key.pad.text ++ (value.text ++ (after.text ++ rest)))
  cases nested : isNested value with
  | true =>
      obtain ⟨first, text, spelled, unquoted, opened⟩ := nested_opens nested
      have more : after.text ++ rest ≠ [] := by
        obtain ⟨last, others, rfl, -⟩ := ends
        exact List.append_ne_nil_of_right_ne_nil _ (List.cons_ne_nil _ _)
      have skipped := (skipNested_eq_iff more).mpr (passes nested)
      have started :
          (key.pad.text ++ (value.text ++ (after.text ++ rest))).dropWhile
            isWhitespace = first :: (text ++ (after.text ++ rest)) := by
        rw [padded, spelled]
        rfl
      have same : read = (fields, skipNested 0
          (first :: (text ++ (after.text ++ rest)))) :=
        readFlatValue_nested colon started unquoted opened
      have unread : putEntry fields ⟨key, value⟩ = fields := if_pos nested
      dsimp only at skipped
      rw [spelled, List.cons_append] at skipped
      rw [same, skipped, unread]
      exact blanks fields
  | false =>
      have put : putEntry fields ⟨key, value⟩ = fields.insert
          (String.ofList (readSpelling key.name))
          (String.ofList (flatText readSpelling value)) := by
        unfold putEntry
        rw [nested]
        rfl
      by_cases word : ∀ spelling, value ≠ .string spelling
      · obtain ⟨nonempty, plain⟩ := word_plain word nested
        obtain ⟨first, text, spelled⟩ := List.exists_cons_of_ne_nil nonempty
        have first_plain := plain first
          (by rw [spelled]; exact List.mem_cons_self)
        have started :
            (key.pad.text ++ (value.text ++ (after.text ++ rest))).dropWhile
              isWhitespace = first :: (text ++ (after.text ++ rest)) := by
          rw [padded, spelled]
          rfl
        have whole : first :: (text ++ (after.text ++ rest)) =
            value.text ++ (after.text ++ rest) := by
          rw [spelled]
          rfl
        have same : read = _ :=
          readFlatValue_word colon started first_plain.1 first_plain.2.2.2.1
        have itself : flatText readSpelling value = value.text := by
          cases value <;> first | rfl | exact (word _ rfl).elim
        obtain ⟨taken, left⟩ := word_taken word nested after ends
        rw [whole, taken, left] at same
        rw [same, put, itself]
      · obtain ⟨spelling, same⟩ := not_forall.mp word
        obtain rfl := not_not.mp same
        have text : (JsonText.string spelling).text ++ (after.text ++ rest) =
            '"' :: (spelling.text ++ '"' :: (after.text ++ rest)) := by
          simp [JsonText.text, Spelling.quoted]
        rw [text] at padded
        have same : read = _ := readFlatValue_string colon
          (by rw [← padded, ← text])
        rw [readJsonString_spelling] at same
        rw [same, put]
        exact blanks _

/-- The members of an object are read one after another. -/
theorem scan_members (members : MemberTexts)
    (passes : ∀ entry ∈ outerMembers members, PassesNested entry)
    (fields : KeyedMap String String) (rest : List Char) :
    scan 1 fields (members.text ++ '\x7d' :: rest) =
      scan 0 ((outerMembers members).foldl putEntry fields) rest := by
  have member : ∀ (key : KeyText) (value : JsonText) (after : Blanks)
      {following : List Char} (fields : KeyedMap String String),
      PassesNested ⟨key, value⟩ → EndsMember following →
      scan 1 fields (key.text (value.text ++ (after.text ++ following))) =
        scan 1 (putEntry fields ⟨key, value⟩) following := by
    intro key value after following fields passed ends
    have read := readFlatValue_entry ⟨key, value⟩ passed after ends fields
    dsimp only at read
    unfold KeyText.text Spelling.quoted
    rw [List.append_assoc, List.append_assoc, scan_blanks]
    simp only [List.cons_append, List.append_assoc, List.nil_append]
    rw [scan_name, readJsonString_spelling]
    exact read
  cases members with
  | last key value after =>
      obtain ⟨passed, -⟩ := List.forall_mem_cons.mp passes
      have ends : EndsMember ('\x7d' :: rest) := ⟨_, _, rfl, .inr rfl⟩
      rw [MemberTexts.text, KeyText.text_append, List.append_assoc,
        member key value after fields passed ends]
      exact scan_closing _ rfl rfl
  | more key value after others =>
      obtain ⟨passed, later⟩ := List.forall_mem_cons.mp passes
      have ends : EndsMember (',' :: (others.text ++ '\x7d' :: rest)) :=
        ⟨_, _, rfl, .inl rfl⟩
      rw [MemberTexts.text, KeyText.text_append, List.append_assoc,
        List.append_assoc, List.cons_append,
        member key value after fields passed ends,
        scan_skip _ rfl rfl (by decide)]
      exact scan_members others later _ rest
termination_by structural members

theorem foldl_putEntry (entries : List Entry)
    (fields : KeyedMap String String) :
    entries.foldl putEntry fields =
      ((entries.filter fun entry => !isNested entry.value).map
          (flatField readSpelling)).foldl
        (fun fields field => fields.insert field.1 field.2) fields := by
  induction entries generalizing fields with
  | nil => rfl
  | cons entry entries induction =>
      rw [List.foldl_cons, induction, List.filter_cons, putEntry]
      cases isNested entry.value <;> rfl

theorem parseFlatJson_text {document : Document}
    (isObject : IsObject document.body)
    (passes : ∀ entry ∈ outerEntries document.body, PassesNested entry) :
    parseFlatJson (String.ofList document.text) =
      collectPairs (flatFields readSpelling document.body) := by
  obtain ⟨before, body, after⟩ := document
  unfold parseFlatJson
  rw [← String.length_toList, String.toList_ofList]
  change scan 0 ∅ (before.text ++ body.text ++ after.text) = _
  have trailing : ∀ fields, scan 0 fields after.text = fields := by
    intro fields
    have blanks := @scan_blanks fields 0 [] after
    rw [List.append_nil] at blanks
    rw [blanks]
    rfl
  rw [List.append_assoc, scan_blanks]
  cases body with
  | object members =>
      have read := scan_members members passes ∅ after.text
      rw [JsonText.text, List.cons_append, List.append_assoc,
        scan_opening _ rfl, List.singleton_append, read, trailing,
        foldl_putEntry]
      rfl
  | emptyObject blanks =>
      rw [JsonText.text, List.cons_append, List.append_assoc,
        scan_opening _ rfl, scan_blanks, List.singleton_append,
        scan_closing _ rfl rfl, trailing]
      rfl
  | null => exact isObject.elim
  | bool value => exact isObject.elim
  | number numeral => exact isObject.elim
  | string spelling => exact isObject.elim
  | emptyArray blanks => exact isObject.elim
  | array items => exact isObject.elim

/-! ## Names and values -/

theorem getElem?_collectPairs_of_mem {pairs : List (String × String)}
    (distinct : (pairs.map Prod.fst).Nodup) {key value : String}
    (member : (key, value) ∈ pairs) :
    (collectPairs pairs)[key]? = some value := by
  cases found : (collectPairs pairs)[key]? with
  | some other =>
      have listed := mem_of_collectPairs found
      have same := List.inj_on_of_nodup_map distinct listed member rfl
      rw [(Prod.mk.inj same).2]
  | none =>
      unfold collectPairs at found
      rw [KeyedMap.getElem?_foldl_insert Prod.fst Prod.snd] at found
      have unlisted := (Option.or_eq_none_iff.mp found).1
      rw [Option.map_eq_none_iff, List.find?_eq_none] at unlisted
      exact absurd (beq_self_eq_true key)
        (unlisted _ (List.mem_reverse.mpr member))

/-- Sums of parts that are no smaller are no smaller, and where they are equal
all parts are. -/
theorem le_of_sum_le {items : List Entry} {light heavy : Entry → Nat}
    (bounded : ∀ item ∈ items, light item ≤ heavy item)
    (most : (items.map heavy).sum ≤ (items.map light).sum) :
    ∀ item ∈ items, heavy item ≤ light item := by
  induction items with
  | nil => exact List.forall_mem_nil _
  | cons first items induction =>
      obtain ⟨here, later⟩ := List.forall_mem_cons.mp bounded
      have rest := List.sum_le_sum later
      rw [List.map_cons, List.map_cons, List.sum_cons, List.sum_cons] at most
      have light_first : heavy first ≤ light first := by omega
      have others := induction later (by omega)
      exact List.forall_mem_cons.mpr ⟨light_first, others⟩

/-- Of the members that count, names and strings have only escapes that are
read as what they mean. -/
def KnownEscapes (object : JsonText) : Prop :=
  ∀ entry ∈ flatEntries object, AllKnown entry.key.name ∧
    ∀ spelling, entry.value = .string spelling → AllKnown spelling

theorem flatFields_known {object : JsonText} (known : KnownEscapes object) :
    flatFields readSpelling object = flatFields Spelling.value object := by
  apply List.map_congr_left
  intro entry member
  obtain ⟨name, strings⟩ := known entry member
  unfold flatField
  rw [readSpelling_known name]
  cases value : entry.value with
  | string spelling =>
      have read := readSpelling_known (strings spelling value)
      exact congrArg (fun text => (_, String.ofList text)) read
  | _ => rfl

theorem knownEscapes_of_collected {object : JsonText}
    (distinct : ((flatFields Spelling.value object).map Prod.fst).Nodup)
    (same : collectPairs (flatFields readSpelling object) =
      collectPairs (flatFields Spelling.value object)) :
    KnownEscapes object := by
  let heavy : Entry → Nat := fun entry => weightOf (readSpelling entry.key.name)
  let light : Entry → Nat := fun entry => weightOf entry.key.name.value
  have names : ((flatFields Spelling.value object).map Prod.fst).Perm
      ((flatFields readSpelling object).map Prod.fst) := by
    have listed : (flatFields Spelling.value object).map Prod.fst ⊆
        (flatFields readSpelling object).map Prod.fst := by
      intro name member
      obtain ⟨⟨name, value⟩, found, rfl⟩ := List.mem_map.mp member
      have stored := getElem?_collectPairs_of_mem distinct found
      rw [← same] at stored
      exact List.mem_map_of_mem (mem_of_collectPairs stored)
    apply (List.subperm_of_subset distinct listed).perm_of_length_le
    unfold flatFields
    simp only [List.length_map]
    exact Nat.le_refl _
  have weights := (names.map fun name : String => weightOf name.toList).sum_eq
  have sums : ∀ reading : Spelling → List Char,
      (((flatFields reading object).map Prod.fst).map
          fun name : String => weightOf name.toList).sum =
        ((flatEntries object).map
          fun entry => weightOf (reading entry.key.name)).sum := by
    intro reading
    unfold flatFields flatField
    simp only [List.map_map, Function.comp_def, String.toList_ofList]
  rw [sums, sums] at weights
  have equal : ∀ entry ∈ flatEntries object, heavy entry ≤ light entry :=
    le_of_sum_le (fun entry _ => weightOf_le entry.key.name)
      (Nat.le_of_eq weights.symm)
  have known : ∀ entry ∈ flatEntries object, AllKnown entry.key.name :=
    fun entry member => allKnown_of_weightOf_le (equal entry member)
  have named : (flatFields readSpelling object).map Prod.fst =
      (flatFields Spelling.value object).map Prod.fst := by
    unfold flatFields flatField
    rw [List.map_map, List.map_map]
    apply List.map_congr_left
    intro entry member
    exact congrArg String.ofList (readSpelling_known (known entry member))
  intro entry member
  refine ⟨known entry member, ?_⟩
  intro spelling value
  have read : flatField readSpelling entry ∈ flatFields readSpelling object :=
    List.mem_map_of_mem member
  have meant : flatField Spelling.value entry ∈
      flatFields Spelling.value object := List.mem_map_of_mem member
  have found := getElem?_collectPairs_of_mem (by rwa [named]) read
  have wanted := getElem?_collectPairs_of_mem distinct meant
  rw [same, readSpelling_known (known entry member), wanted, value] at found
  have texts := String.ofList_injective (Option.some.inj found)
  apply allKnown_of_weightOf_le
  change weightOf (flatText readSpelling (.string spelling)) ≤ _
  rw [← texts]
  exact Nat.le_refl _

/-! ## Strings without brackets -/

def Bracketless (spelling : Spelling) : Prop :=
  ∀ character ∈ spelling.text,
    opens character = false ∧ closes character = false

instance : DecidablePred Bracketless :=
  fun spelling => inferInstanceAs (Decidable (∀ character ∈ spelling.text, _))

section Passed

variable {value : JsonText}

theorem passed_blanks (blanks : Blanks) : Passed opens closes blanks.text := by
  apply Passed.of_bracketless
  intro character member
  obtain ⟨blank, -, rfl⟩ := List.mem_map.mp member
  cases blank <;> exact ⟨rfl, rfl⟩

theorem passed_quoted {spelling : Spelling} (plain : Bracketless spelling) :
    Passed opens closes spelling.quoted := by
  apply Passed.of_bracketless
  intro character member
  rcases List.mem_cons.mp member with rfl | member
  · exact ⟨rfl, rfl⟩
  · rcases List.mem_append.mp member with inside | last
    · exact plain character inside
    · obtain rfl := List.mem_singleton.mp last
      exact ⟨rfl, rfl⟩

theorem passed_key {key : KeyText} {rest : List Char}
    (plain : Bracketless key.name) (passed : Passed opens closes rest) :
    Passed opens closes (key.text rest) := by
  unfold KeyText.text
  apply Passed.append
  · exact ((passed_blanks _).append (passed_quoted plain)).append
      (passed_blanks _)
  · exact .cons rfl rfl ((passed_blanks _).append passed)

mutual

theorem passed_text (value : JsonText)
    (plain : ∀ spelling ∈ value.strings, Bracketless spelling) :
    Passed opens closes value.text := by
  cases value with
  | null => exact .of_bracketless (by decide)
  | bool value => cases value <;> exact .of_bracketless (by decide)
  | number numeral =>
      apply Passed.of_bracketless
      intro character member
      have listed : ∀ character ∈ numeralChars,
          opens character = false ∧ closes character = false := by decide
      exact listed character (numeral.text_subset member)
  | string spelling => exact passed_quoted (plain _ List.mem_cons_self)
  | emptyArray blanks => exact .enclosed rfl rfl rfl (passed_blanks blanks)
  | array items => exact .enclosed rfl rfl rfl (passed_items items plain)
  | emptyObject blanks => exact .enclosed rfl rfl rfl (passed_blanks blanks)
  | object members =>
      exact .enclosed rfl rfl rfl (passed_members members plain)

theorem passed_items (items : ItemTexts)
    (plain : ∀ spelling ∈ items.strings, Bracketless spelling) :
    Passed opens closes items.text := by
  cases items with
  | last before item after =>
      exact ((passed_blanks _).append (passed_text item plain)).append
        (passed_blanks _)
  | more before item after rest =>
      obtain ⟨here, later⟩ := List.forall_mem_append.mp plain
      have first := ((passed_blanks before).append
        (passed_text item here)).append (passed_blanks after)
      exact first.append (.cons rfl rfl (passed_items rest later))

theorem passed_members (members : MemberTexts)
    (plain : ∀ spelling ∈ members.strings, Bracketless spelling) :
    Passed opens closes members.text := by
  cases members with
  | last key value after =>
      obtain ⟨name, inside⟩ := List.forall_mem_cons.mp plain
      exact passed_key name
        ((passed_text value inside).append (passed_blanks _))
  | more key value after rest =>
      obtain ⟨name, others⟩ := List.forall_mem_cons.mp plain
      obtain ⟨inside, later⟩ := List.forall_mem_append.mp others
      have first := (passed_text value inside).append (passed_blanks after)
      exact passed_key name
        (first.append (.cons rfl rfl (passed_members rest later)))

end

theorem passesNested_of_bracketless {entry : Entry}
    (plain : ∀ spelling ∈ entry.value.strings, Bracketless spelling) :
    PassesNested entry := by
  obtain ⟨key, value⟩ := entry
  intro nested
  cases value with
  | emptyArray blanks => exact (passed_blanks blanks).closesLast rfl rfl rfl
  | array items => exact (passed_items items plain).closesLast rfl rfl rfl
  | emptyObject blanks => exact (passed_blanks blanks).closesLast rfl rfl rfl
  | object members =>
      exact (passed_members members plain).closesLast rfl rfl rfl
  | null => cases nested
  | bool value => cases nested
  | number numeral => cases nested
  | string spelling => cases nested

end Passed

/-! ## Reading -/

/-- Where the brackets of nested values, those in their strings included, are
closed by the last ones, an object is read with the escapes that are known, and
with distinct names only with these. -/
theorem readsFlat_iff {document : Document}
    (isObject : IsObject document.body)
    (passes : ∀ entry ∈ outerEntries document.body, PassesNested entry) :
    (KnownEscapes document.body → ReadsFlat document) ∧
      (((flatFields Spelling.value document.body).map Prod.fst).Nodup →
        ReadsFlat document → KnownEscapes document.body) := by
  have read := parseFlatJson_text isObject passes
  constructor
  · intro known
    unfold ReadsFlat
    rw [read, flatFields_known known]
  · intro distinct reads
    apply knownEscapes_of_collected distinct
    rw [← read]
    exact reads

def plainSpelling (text : String)
    (plain : ∀ character ∈ text.toList, character ≠ '"' ∧ character ≠ '\\') :
    Spelling :=
  text.toList.pmap SpelledChar.raw plain

def plainKey (name : Spelling) : KeyText :=
  { before := [], name, gap := [], pad := [] }

def userBody : Document :=
  { before := []
    body := .object <|
      .more (plainKey (plainSpelling "user" (by decide)))
        (.string (plainSpelling "ada" (by decide))) [] <|
      .last (plainKey (plainSpelling "roles" (by decide)))
        (.array (.last [] (.string (plainSpelling "admin" (by decide))) [])) []
    after := [] }

theorem readsFlat_userBody : ReadsFlat userBody := by
  have passes : ∀ entry ∈ outerEntries userBody.body, PassesNested entry := by
    intro entry member
    apply passesNested_of_bracketless
    rcases List.mem_pair.mp member with rfl | rfl
    · decide +kernel
    · decide +kernel
  have isObject : IsObject userBody.body := trivial
  apply (readsFlat_iff isObject passes).1
  intro entry member
  obtain rfl := List.mem_singleton.mp member
  refine ⟨by decide +kernel, ?_⟩
  intro spelling same
  cases same
  decide +kernel

/-- A body whose only member is nested, with brackets in two of the strings:
`\x7b"a":\x7b"b":["\x7d\x7d","\x7b"],"tenant":"other"\x7d\x7d`. -/
def smuggling : Document :=
  { before := []
    body := .object <|
      .last (plainKey (plainSpelling "a" (by decide))) (.object <|
        .more (plainKey (plainSpelling "b" (by decide)))
          (.array <|
            .more [] (.string (plainSpelling "\x7d\x7d" (by decide))) [] <|
            .last [] (.string (plainSpelling "\x7b" (by decide))) []) [] <|
        .last (plainKey (plainSpelling "tenant" (by decide)))
          (.string (plainSpelling "other" (by decide))) []) []
    after := [] }

/-- The tenant of the nested object is read as if it were one of the body. -/
theorem smuggling_not_readsFlat :
    ¬ReadsFlat smuggling ∧ flatFields Spelling.value smuggling.body = [] ∧
      (parseFlatJson (String.ofList smuggling.text))["tenant"]? =
        some "other" := by
  have read : (parseFlatJson (String.ofList smuggling.text))["tenant"]? =
      some "other" := by decide +kernel
  refine ⟨?_, rfl, read⟩
  intro reads
  rw [reads] at read
  cases read

end AuthBoundry
