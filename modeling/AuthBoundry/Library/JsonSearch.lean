import AuthBoundry.Library.JsonText
import Mathlib.Data.List.Nodup

/-!
# Searching a text of data

A search for a keyword finds the strings that are spelled with it, and a search
for the name of a field finds the members whose name is written plainly.
-/

namespace Library

open scoped Listed

/-! ## Searching a tree -/

/-- Only letters and underscores, as in a keyword or the name of a field. -/
def Lettered (word : List Char) : Prop := ∀ c ∈ word, c.isAlpha ∨ c = '_'

instance (word : List Char) : Decidable (Lettered word) :=
  inferInstanceAs (Decidable (∀ c ∈ word, c.isAlpha ∨ c = '_'))

/-- The characters that hold a text together. -/
def marks : List Char := closers ++ ['"', '\\', ':', '[', '\x7b']

theorem Lettered.not_mem {word : List Char} (lettered : Lettered word)
    {mark : Char} (member : mark ∈ marks) : mark ∉ word := by
  intro inWord
  have unlettered : ∀ mark ∈ marks, ¬ (mark.isAlpha ∨ mark = '_') := by decide
  exact unlettered mark member (lettered mark inWord)

theorem Lettered.separated {word text : List Char} (lettered : Lettered word)
    (separated : Separated text) : ∀ first ∈ text.head?, first ∉ word :=
  fun first member =>
    lettered.not_mem (List.mem_append_left _ (separated first member))

theorem Lettered.blanks {word : List Char} (lettered : Lettered word)
    (blanks : Blanks) : ∀ character ∈ blanks.text, character ∉ word := by
  intro character member
  obtain ⟨blank, -, rfl⟩ := List.mem_map.mp member
  exact lettered.not_mem (List.mem_append_left _ blank.char_mem)

/-- The beginning of a member whose name is written plainly. -/
def fieldPattern (name : List Char) : List Char := '"' :: (name ++ ['"', ':'])

/-- A name without escapes is met at the start of its own spelling only. -/
theorem Spelling.dropPrefix?_text {name : List Char}
    (quoteless : '"' ∉ name) (slashless : '\\' ∉ name) (spelling : Spelling)
    (tail rest : List Char) :
    (spelling.text ++ '"' :: rest).dropPrefix? (name ++ '"' :: tail) =
      if spelling.text = name then rest.dropPrefix? tail else none := by
  induction spelling generalizing name with
  | nil =>
      cases name with
      | nil => simp [Spelling.text, List.dropPrefix?]
      | cons first name =>
          have different : '"' ≠ first := List.ne_of_not_mem_cons quoteless
          simp [Spelling.text, List.dropPrefix?, different]
  | cons character spelling inductionHypothesis =>
      rw [text_cons]
      cases character with
      | raw character plain =>
          cases name with
          | nil => simp [SpelledChar.text, List.dropPrefix?, plain.1]
          | cons first name =>
              rw [List.mem_cons, not_or] at quoteless slashless
              have rest := inductionHypothesis quoteless.2 slashless.2
              by_cases same : character = first
              · simp [SpelledChar.text, List.dropPrefix?, same, rest]
              · simp [SpelledChar.text, List.dropPrefix?, same]
      | escaped payload character legal =>
          cases name with
          | nil => simp [SpelledChar.text, List.dropPrefix?]
          | cons first name =>
              have different : '\\' ≠ first :=
                List.ne_of_not_mem_cons slashless
              simp [SpelledChar.text, List.dropPrefix?, different]

theorem dropPrefix?_colon {rest : List Char} (other : rest.head? ≠ some ':') :
    rest.dropPrefix? [':'] = none := by
  cases rest with
  | nil => rfl
  | cons first rest =>
      have different : first ≠ ':' := fun same => other (by rw [same]; rfl)
      simp [List.dropPrefix?, different]

section Names

variable {name : List Char}

/-- What starts with something absent on the left ends within the right. -/
theorem suffix_append_of_absent {first : Char} {word left right : List Char}
    (absent : first ∉ left) :
    first :: word <:+ left ++ right ↔ first :: word <:+ right := by
  induction left with
  | nil => rfl
  | cons head left inductionHypothesis =>
      rw [List.mem_cons, not_or] at absent
      rw [List.cons_append, List.suffix_cons_iff,
        inductionHypothesis absent.2, or_iff_right]
      exact fun same => absent.1 (List.cons.inj same).1

/--
A name of a member starts inside of a string only where a quotation mark is
escaped, and goes up to the end of the string.
-/
theorem afterEach_text {rest : List Char} (lettered : Lettered name)
    (named : name ≠ []) (spelling : Spelling)
    (follows : ∀ first ∈ rest.head?, first ∉ name) :
    afterEach (fieldPattern name) (spelling.text ++ '"' :: rest) =
      (if '"' :: name <:+ spelling.text then (rest.dropPrefix? [':']).toList
        else []) ++ afterEach (fieldPattern name) rest := by
  have quoteless : '"' ∉ name := lettered.not_mem (by decide)
  have slashless : '\\' ∉ name := lettered.not_mem (by decide)
  induction spelling with
  | nil =>
      have absent : rest.dropPrefix? (name ++ ['"', ':']) = none := by
        cases name with
        | nil => exact absurd rfl named
        | cons initial name =>
            cases rest with
            | nil => rfl
            | cons first rest =>
                have different : first ≠ initial :=
                  List.ne_of_not_mem_cons (follows first rfl)
                simp [List.dropPrefix?, different]
      have unmatched :
          ('"' :: rest).dropPrefix? (fieldPattern name) = none := by
        simpa [fieldPattern, List.dropPrefix?] using absent
      rw [Spelling.text, List.flatMap_nil, List.nil_append, afterEach_cons,
        unmatched]
      simp
  | cons character spelling inductionHypothesis =>
      rw [Spelling.text_cons, List.append_assoc]
      cases character with
      | raw character plain =>
          have absent : '"' ∉ [character] := by simpa using plain.1.symm
          have ends : '"' :: name <:+ [character] ++ Spelling.text spelling ↔
              '"' :: name <:+ Spelling.text spelling :=
            suffix_append_of_absent absent
          rw [SpelledChar.text, if_congr ends rfl rfl, List.singleton_append,
            fieldPattern, afterEach_cons_of_ne plain.1, ← fieldPattern,
            inductionHypothesis]
      | escaped payload character legal =>
          have slash : '\\' ≠ '"' := by decide
          by_cases quote : '"' ∈ payload
          · -- An escaped quotation mark may open a name as well.
            obtain ⟨rfl, rfl⟩ := legal.of_quote_mem quote
            have dropped := Spelling.dropPrefix?_text quoteless slashless
              spelling [':'] rest
            have opened :
                ('"' :: (Spelling.text spelling ++ '"' :: rest)).dropPrefix?
                    (fieldPattern name) =
                  if Spelling.text spelling = name then
                    rest.dropPrefix? [':']
                  else none := by
              simpa [fieldPattern, List.dropPrefix?] using dropped
            have ends : '"' :: name <:+
                  (['\\', '"'] : List Char) ++ Spelling.text spelling ↔
                Spelling.text spelling = name ∨
                  '"' :: name <:+ Spelling.text spelling := by
              simp [List.suffix_cons_iff, eq_comm]
            rw [SpelledChar.text, List.cons_append, fieldPattern,
              afterEach_cons_of_ne slash, List.singleton_append,
              ← fieldPattern, afterEach_cons, opened, inductionHypothesis,
              if_congr ends rfl rfl]
            by_cases same : Spelling.text spelling = name
            · have short : ¬ '"' :: name <:+ Spelling.text spelling := by
                rw [same]
                exact fun longer => quoteless
                  (longer.subset List.mem_cons_self)
              rw [if_pos same, if_neg short, if_pos (.inl same)]
              cases rest.dropPrefix? [':'] <;> rfl
            · rw [if_neg same, if_congr (or_iff_right same) rfl rfl]
              rfl
          · have absent : '"' ∉ '\\' :: payload := by simpa using quote
            rw [SpelledChar.text, fieldPattern,
              afterEach_append_of_absent absent, ← fieldPattern,
              inductionHypothesis,
              if_congr (suffix_append_of_absent absent) rfl rfl]

/-- A string is found where it is the name of a member and ends so. -/
theorem afterEach_quoted {rest : List Char} (lettered : Lettered name)
    (named : name ≠ []) (spelling : Spelling)
    (follows : ∀ first ∈ rest.head?, first ∉ name) :
    afterEach (fieldPattern name) (spelling.quoted ++ rest) =
      (if '"' :: name <:+ '"' :: spelling.text then
        (rest.dropPrefix? [':']).toList else []) ++
        afterEach (fieldPattern name) rest := by
  have quoteless : '"' ∉ name := lettered.not_mem (by decide)
  have slashless : '\\' ∉ name := lettered.not_mem (by decide)
  have inside := afterEach_text lettered named spelling follows
  have opened : ('"' :: (spelling.text ++ '"' :: rest)).dropPrefix?
      (fieldPattern name) =
        if spelling.text = name then rest.dropPrefix? [':'] else none := by
    have dropped := Spelling.dropPrefix?_text quoteless slashless spelling
      [':'] rest
    simpa [fieldPattern, List.dropPrefix?] using dropped
  have ends : '"' :: name <:+ '"' :: spelling.text ↔
      spelling.text = name ∨ '"' :: name <:+ spelling.text := by
    simp [List.suffix_cons_iff, eq_comm]
  rw [Spelling.quoted, List.cons_append, List.append_assoc,
    List.singleton_append, afterEach_cons, opened, inside,
    if_congr ends rfl rfl]
  by_cases same : spelling.text = name
  · have short : ¬ '"' :: name <:+ spelling.text := by
      rw [same]
      exact fun longer => quoteless (longer.subset List.mem_cons_self)
    rw [if_pos same, if_neg short, if_pos (.inl same)]
    cases rest.dropPrefix? [':'] <;> rfl
  · rw [if_neg same, if_congr (or_iff_right same) rfl rfl]
    rfl

theorem KeyText.text_append (key : KeyText) (left right : List Char) :
    key.text left ++ right = key.text (left ++ right) := by
  simp only [KeyText.text, List.append_assoc, List.cons_append]

theorem Blanks.quoteless (blanks : Blanks) : '"' ∉ blanks.text := by
  intro member
  obtain ⟨blank, -, same⟩ := List.mem_map.mp member
  cases blank <;> exact absurd same (by decide)

theorem Blanks.dropPrefix?_colon {blanks : Blanks} {rest : List Char}
    (written : blanks ≠ []) :
    (blanks.text ++ ':' :: rest).dropPrefix? [':'] = none := by
  cases blanks with
  | nil => exact absurd rfl written
  | cons blank blanks =>
      refine Library.dropPrefix?_colon fun same => ?_
      cases blank <;> exact absurd (Option.some.inj same) (by decide)

/-- A member is found by its name when the colon follows the name at once. -/
theorem afterEach_key (lettered : Lettered name) (named : name ≠ [])
    (key : KeyText) (rest : List Char) :
    afterEach (fieldPattern name) (key.text rest) =
      (if '"' :: name <:+ '"' :: key.name.text ∧ key.gap = [] then
        [key.pad.text ++ rest] else []) ++
        afterEach (fieldPattern name) rest := by
  have colon : ':' ≠ '"' := by decide
  have follows : ∀ first ∈ (key.gap.text ++ ':' :: (key.pad.text ++ rest)).head?,
      first ∉ name := by
    intro first member
    cases gap : key.gap with
    | nil =>
        rw [gap] at member
        obtain rfl := Option.some.inj member
        exact lettered.not_mem (by decide)
    | cons blank blanks =>
        rw [gap] at member
        obtain rfl := Option.some.inj member
        exact lettered.not_mem (List.mem_append_left _ blank.char_mem)
  have quoted := afterEach_quoted lettered named key.name follows
  have between : afterEach (fieldPattern name)
      (key.gap.text ++ ':' :: (key.pad.text ++ rest)) =
        afterEach (fieldPattern name) rest := by
    rw [fieldPattern, afterEach_append_of_absent key.gap.quoteless,
      afterEach_cons_of_ne colon,
      afterEach_append_of_absent key.pad.quoteless]
  rw [KeyText.text, List.append_assoc, List.append_assoc, fieldPattern,
    afterEach_append_of_absent key.before.quoteless, ← fieldPattern, quoted,
    between]
  by_cases ends : '"' :: name <:+ '"' :: key.name.text
  · by_cases gap : key.gap = []
    · rw [if_pos ends, if_pos ⟨ends, gap⟩]
      simp [gap, Blanks.text, List.dropPrefix?]
    · rw [if_pos ends, if_neg fun both => gap both.2]
      simp [Blanks.dropPrefix?_colon gap]
  · rw [if_neg ends, if_neg fun both => ends both.1]

end Names

/-! ## All members of a tree -/

/--
A search for the name meets the member: the colon follows the member's name at
once, and the name is spelled so or ends so right after a quotation mark.
-/
def Entry.Met (name : List Char) (self : Entry) : Prop :=
  '"' :: name <:+ '"' :: self.key.name.text ∧ self.key.gap = []

instance (name : List Char) : DecidablePred (Entry.Met name) :=
  fun _ => inferInstanceAs (Decidable (_ ∧ _))

theorem Entry.met_iff_spelled {name : List Char} {self : Entry}
    (quoteless : '"' ∉ self.key.name.value) :
    self.Met name ↔ self.Spelled name := by
  have absent : '"' ∉ self.key.name.text :=
    fun member => quoteless (Spelling.quote_mem_value member)
  refine and_congr_left fun _ => ?_
  rw [List.suffix_cons_iff, or_iff_left, List.cons.injEq]
  · simp [eq_comm]
  · exact fun ends => absent (ends.subset List.mem_cons_self)

/-- A reader of members sees no further than the member. -/
def ReadsMember {β : Type} (reader : List Char → β) : Prop :=
  ∀ (pad : Blanks) (value : JsonText) (rest : List Char), Separated rest →
    reader (pad.text ++ (value.text ++ rest)) = reader (pad.text ++ value.text)

section Members

variable {β : Type} {reader : List Char → β} {name : List Char}

theorem afterEach_member (readsMember : ReadsMember reader)
    (lettered : Lettered name) (named : name ≠ []) (key : KeyText)
    (value : JsonText) {rest : List Char} (separated : Separated rest) :
    (afterEach (fieldPattern name) (key.text (value.text ++ rest))).map reader =
      ([Entry.mk key value].filter (Entry.Met name)).map
          (fun entry => reader entry.written) ++
        (afterEach (fieldPattern name) (value.text ++ rest)).map reader := by
  have reads := readsMember key.pad value rest separated
  rw [afterEach_key lettered named key, List.map_append]
  by_cases met : '"' :: name <:+ '"' :: key.name.text ∧ key.gap = []
  · have found : (Entry.mk key value).Met name := met
    rw [if_pos met]
    simp [found, Entry.written, reads]
  · have missed : ¬ (Entry.mk key value).Met name := met
    rw [if_neg met]
    simp [missed]

mutual

/-- A search for a name meets the members that are spelled so, in order. -/
theorem JsonText.search (readsMember : ReadsMember reader)
    (lettered : Lettered name) (named : name ≠ []) (self : JsonText)
    {rest : List Char} (separated : Separated rest) :
    (afterEach (fieldPattern name) (self.text ++ rest)).map reader =
      (self.entries.filter (Entry.Met name)).map
          (fun entry => reader entry.written) ++
        (afterEach (fieldPattern name) rest).map reader := by
  cases self with
  | null =>
      have absent : '"' ∉ JsonText.null.text := by decide
      rw [fieldPattern, afterEach_append_of_absent absent]
      rfl
  | bool value =>
      have absent : '"' ∉ (JsonText.bool value).text := by
        cases value <;> decide
      rw [fieldPattern, afterEach_append_of_absent absent]
      rfl
  | number numeral =>
      have absent : '"' ∉ (JsonText.number numeral).text :=
        fun member => absurd (numeral.text_subset member) (by decide)
      rw [fieldPattern, afterEach_append_of_absent absent]
      rfl
  | string spelling =>
      have notColon : rest.head? ≠ some ':' := by
        intro same
        exact absurd (separated ':' same) (by decide)
      have unnamed : rest.dropPrefix? [':'] = none :=
        dropPrefix?_colon notColon
      rw [JsonText.text, afterEach_quoted lettered named spelling
        (lettered.separated separated), unnamed]
      simp [JsonText.entries]
  | emptyArray blanks =>
      have absent : '"' ∉ (JsonText.emptyArray blanks).text := by
        simp [JsonText.text, blanks.quoteless]
      rw [fieldPattern, afterEach_append_of_absent absent]
      rfl
  | array items =>
      have opening : '[' ≠ '"' := by decide
      have closing : ']' ≠ '"' := by decide
      have closed : Separated (']' :: rest) := .cons (by decide)
      have inside := items.search readsMember lettered named closed
      rw [fieldPattern, afterEach_cons_of_ne closing, ← fieldPattern] at inside
      rw [JsonText.text, List.cons_append, List.append_assoc,
        List.singleton_append, fieldPattern, afterEach_cons_of_ne opening,
        ← fieldPattern, inside]
      rfl
  | emptyObject blanks =>
      have absent : '"' ∉ (JsonText.emptyObject blanks).text := by
        simp [JsonText.text, blanks.quoteless]
      rw [fieldPattern, afterEach_append_of_absent absent]
      rfl
  | object members =>
      have opening : '\x7b' ≠ '"' := by decide
      have closing : '\x7d' ≠ '"' := by decide
      have closed : Separated ('\x7d' :: rest) := .cons (by decide)
      have inside := members.search readsMember lettered named closed
      rw [fieldPattern, afterEach_cons_of_ne closing, ← fieldPattern] at inside
      rw [JsonText.text, List.cons_append, List.append_assoc,
        List.singleton_append, fieldPattern, afterEach_cons_of_ne opening,
        ← fieldPattern, inside]
      rfl

theorem ItemTexts.search (readsMember : ReadsMember reader)
    (lettered : Lettered name) (named : name ≠ []) (self : ItemTexts)
    {rest : List Char} (separated : Separated rest) :
    (afterEach (fieldPattern name) (self.text ++ rest)).map reader =
      (self.entries.filter (Entry.Met name)).map
          (fun entry => reader entry.written) ++
        (afterEach (fieldPattern name) rest).map reader := by
  cases self with
  | last before item after =>
      have inside := item.search readsMember lettered
        named (separated.blanks after)
      rw [ItemTexts.text, List.append_assoc, List.append_assoc, fieldPattern,
        afterEach_append_of_absent before.quoteless, ← fieldPattern, inside,
        fieldPattern, afterEach_append_of_absent after.quoteless]
      rfl
  | more before item after others =>
      have comma : ',' ≠ '"' := by decide
      have closed : Separated (',' :: (others.text ++ rest)) :=
        .cons (by decide)
      have inside := item.search readsMember lettered named
        (closed.blanks after)
      have remaining := others.search readsMember lettered named
        separated
      rw [fieldPattern, afterEach_append_of_absent after.quoteless,
        afterEach_cons_of_ne comma, ← fieldPattern, remaining] at inside
      rw [ItemTexts.text, List.append_assoc, List.append_assoc,
        List.append_assoc, List.cons_append, fieldPattern,
        afterEach_append_of_absent before.quoteless, ← fieldPattern, inside,
        ItemTexts.entries, List.filter_append, List.map_append,
        List.append_assoc]

theorem MemberTexts.search (readsMember : ReadsMember reader)
    (lettered : Lettered name) (named : name ≠ []) (self : MemberTexts)
    {rest : List Char} (separated : Separated rest) :
    (afterEach (fieldPattern name) (self.text ++ rest)).map reader =
      (self.entries.filter (Entry.Met name)).map
          (fun entry => reader entry.written) ++
        (afterEach (fieldPattern name) rest).map reader := by
  cases self with
  | last key value after =>
      have closed := separated.blanks after
      have first := afterEach_member readsMember lettered named key value closed
      have inside := value.search readsMember lettered named
        closed
      rw [fieldPattern, afterEach_append_of_absent after.quoteless,
        ← fieldPattern] at inside
      have apart := List.filter_append (p := Entry.Met name)
        [Entry.mk key value] value.entries
      rw [List.singleton_append] at apart
      rw [MemberTexts.text, KeyText.text_append, List.append_assoc, first,
        inside, MemberTexts.entries, apart, List.map_append,
        List.append_assoc]
  | more key value after others =>
      have comma : ',' ≠ '"' := by decide
      have separator : Separated (',' :: (others.text ++ rest)) :=
        .cons (by decide)
      have closed := separator.blanks after
      have first := afterEach_member readsMember lettered named key value closed
      have inside := value.search readsMember lettered named closed
      have remaining := others.search readsMember lettered named separated
      rw [fieldPattern, afterEach_append_of_absent after.quoteless,
        afterEach_cons_of_ne comma, ← fieldPattern, remaining] at inside
      have apart := List.filter_append (p := Entry.Met name)
        [Entry.mk key value] (value.entries ++ others.entries)
      rw [List.singleton_append] at apart
      rw [MemberTexts.text, KeyText.text_append, List.append_assoc,
        List.append_assoc, List.cons_append, first, inside,
        MemberTexts.entries, apart, List.filter_append, List.map_append,
        List.map_append, List.append_assoc, List.append_assoc]

end

end Members

/-! ## Keywords -/

/-- A word that is found in strings only. -/
structure Keyword (word : List Char) : Prop where
  lettered : Lettered word
  notNull : ¬ word <:+: JsonText.null.text
  notBool : ∀ value, ¬ word <:+: (JsonText.bool value).text
  notNumber : ∃ character ∈ word, character ∉ numeralChars

section Keywords

variable {word : List Char}

theorem Keyword.ne_nil (keyword : Keyword word) : word ≠ [] := by
  obtain ⟨character, member, -⟩ := keyword.notNumber
  exact List.ne_nil_of_mem member

theorem Keyword.infix_blanks_iff (keyword : Keyword word) (blanks : Blanks)
    (rest : List Char) : word <:+: blanks.text ++ rest ↔ word <:+: rest :=
  infix_append_of_disjoint (keyword.lettered.blanks blanks)

theorem Keyword.infix_quoted_iff (keyword : Keyword word) (spelling : Spelling)
    (rest : List Char) :
    word <:+: spelling.quoted ++ rest ↔
      word <:+: spelling.text ∨ word <:+: rest := by
  have absent : '"' ∉ word := keyword.lettered.not_mem (by decide)
  rw [Spelling.quoted, List.cons_append, List.append_assoc,
    List.singleton_append, infix_cons_of_absent absent,
    infix_separator_iff absent]

theorem Keyword.infix_key_iff (keyword : Keyword word) (key : KeyText)
    (rest : List Char) :
    word <:+: key.text rest ↔ word <:+: key.name.text ∨ word <:+: rest := by
  have absent : ':' ∉ word := keyword.lettered.not_mem (by decide)
  rw [KeyText.text, List.append_assoc, List.append_assoc,
    keyword.infix_blanks_iff, keyword.infix_quoted_iff,
    keyword.infix_blanks_iff, infix_cons_of_absent absent,
    keyword.infix_blanks_iff]

/-- Some string among them is spelled with the word in it. -/
def Mentions (word : List Char) (strings : List Spelling) : Prop :=
  ∃ spelling ∈ strings, word <:+: spelling.text

theorem mentions_cons_iff (spelling : Spelling) (strings : List Spelling) :
    Mentions word (spelling :: strings) ↔
      word <:+: spelling.text ∨ Mentions word strings :=
  List.exists_mem_cons_iff ..

theorem mentions_append_iff (left right : List Spelling) :
    Mentions word (left ++ right) ↔
      Mentions word left ∨ Mentions word right := by
  simp only [Mentions, List.mem_append, or_and_right, exists_or]

theorem not_mentions_nil : ¬ Mentions word [] := by
  rintro ⟨spelling, member, -⟩
  exact List.not_mem_nil member

mutual

theorem JsonText.infix_iff (keyword : Keyword word) (self : JsonText)
    {rest : List Char} (separated : Separated rest) :
    word <:+: self.text ++ rest ↔
      Mentions word self.strings ∨ word <:+: rest := by
  have follows := keyword.lettered.separated separated
  cases self with
  | null =>
      rw [infix_append_iff follows]
      simp [JsonText.strings, keyword.notNull, not_mentions_nil]
  | bool value =>
      rw [infix_append_iff follows]
      simp [JsonText.strings, keyword.notBool value, not_mentions_nil]
  | number numeral =>
      obtain ⟨character, member, other⟩ := keyword.notNumber
      have absent : ¬ word <:+: (JsonText.number numeral).text :=
        not_infix_of_absent member fun inText =>
          other (numeral.text_subset inText)
      rw [infix_append_iff follows]
      simp [JsonText.strings, absent, not_mentions_nil]
  | string spelling =>
      rw [JsonText.text, keyword.infix_quoted_iff, JsonText.strings,
        mentions_cons_iff, or_iff_left not_mentions_nil]
  | emptyArray blanks =>
      have silent : (JsonText.emptyArray blanks).strings = [] := rfl
      have opening : '[' ∉ word := keyword.lettered.not_mem (by decide)
      have closing : ']' ∉ word := keyword.lettered.not_mem (by decide)
      rw [JsonText.text, List.cons_append, List.append_assoc,
        List.singleton_append, infix_cons_of_absent opening,
        keyword.infix_blanks_iff, infix_cons_of_absent closing, silent,
        or_iff_right not_mentions_nil]
  | array items =>
      have opening : '[' ∉ word := keyword.lettered.not_mem (by decide)
      have closing : ']' ∉ word := keyword.lettered.not_mem (by decide)
      have closed : Separated (']' :: rest) := .cons (by decide)
      rw [JsonText.text, List.cons_append, List.append_assoc,
        List.singleton_append, infix_cons_of_absent opening,
        items.infix_iff keyword closed, infix_cons_of_absent closing,
        JsonText.strings]
  | emptyObject blanks =>
      have silent : (JsonText.emptyObject blanks).strings = [] := rfl
      have opening : '\x7b' ∉ word := keyword.lettered.not_mem (by decide)
      have closing : '\x7d' ∉ word := keyword.lettered.not_mem (by decide)
      rw [JsonText.text, List.cons_append, List.append_assoc,
        List.singleton_append, infix_cons_of_absent opening,
        keyword.infix_blanks_iff, infix_cons_of_absent closing, silent,
        or_iff_right not_mentions_nil]
  | object members =>
      have opening : '\x7b' ∉ word := keyword.lettered.not_mem (by decide)
      have closing : '\x7d' ∉ word := keyword.lettered.not_mem (by decide)
      have closed : Separated ('\x7d' :: rest) := .cons (by decide)
      rw [JsonText.text, List.cons_append, List.append_assoc,
        List.singleton_append, infix_cons_of_absent opening,
        members.infix_iff keyword closed, infix_cons_of_absent closing,
        JsonText.strings]

theorem ItemTexts.infix_iff (keyword : Keyword word) (self : ItemTexts)
    {rest : List Char} (separated : Separated rest) :
    word <:+: self.text ++ rest ↔
      Mentions word self.strings ∨ word <:+: rest := by
  cases self with
  | last before item after =>
      rw [ItemTexts.text, List.append_assoc, List.append_assoc,
        keyword.infix_blanks_iff,
        item.infix_iff keyword (separated.blanks after),
        keyword.infix_blanks_iff, ItemTexts.strings]
  | more before item after others =>
      have comma : ',' ∉ word := keyword.lettered.not_mem (by decide)
      have separator : Separated (',' :: (others.text ++ rest)) :=
        .cons (by decide)
      rw [ItemTexts.text, List.append_assoc, List.append_assoc,
        List.append_assoc, List.cons_append, keyword.infix_blanks_iff,
        item.infix_iff keyword (separator.blanks after),
        keyword.infix_blanks_iff, infix_cons_of_absent comma,
        others.infix_iff keyword separated, ItemTexts.strings,
        mentions_append_iff, or_assoc]

theorem MemberTexts.infix_iff (keyword : Keyword word) (self : MemberTexts)
    {rest : List Char} (separated : Separated rest) :
    word <:+: self.text ++ rest ↔
      Mentions word self.strings ∨ word <:+: rest := by
  cases self with
  | last key value after =>
      rw [MemberTexts.text, KeyText.text_append, List.append_assoc,
        keyword.infix_key_iff,
        value.infix_iff keyword (separated.blanks after),
        keyword.infix_blanks_iff, MemberTexts.strings, mentions_cons_iff,
        or_assoc]
  | more key value after others =>
      have comma : ',' ∉ word := keyword.lettered.not_mem (by decide)
      have separator : Separated (',' :: (others.text ++ rest)) :=
        .cons (by decide)
      rw [MemberTexts.text, KeyText.text_append, List.append_assoc,
        List.append_assoc, List.cons_append, keyword.infix_key_iff,
        value.infix_iff keyword (separator.blanks after),
        keyword.infix_blanks_iff, infix_cons_of_absent comma,
        others.infix_iff keyword separated, MemberTexts.strings,
        mentions_cons_iff, mentions_append_iff, or_assoc, or_assoc]

end

end Keywords

/-! ## Documents -/

/-- A piece of data with the white space around it. -/
structure Document where
  before : Blanks
  body : JsonText
  after : Blanks

namespace Document

def text (self : Document) : List Char :=
  self.before.text ++ self.body.text ++ self.after.text

def value (self : Document) : JsonValue := self.body.value

def entries (self : Document) : List Entry := self.body.entries

def strings (self : Document) : List Spelling := self.body.strings

/-- No two members have the same name, and no name has a quotation mark. -/
structure Distinct (document : Document) : Prop where
  nodup : (document.entries.map Entry.name).Nodup
  quoteless : ∀ entry ∈ document.entries, '"' ∉ entry.key.name.value

/-- The member of that name is written plainly and as is asked of it. -/
def Shows (self : Document) (name : String) (holds : Entry → Prop) : Prop :=
  ∃ entry ∈ self.entries,
    entry.name = name ∧ entry.Plain ∧ holds entry

theorem infix_iff (self : Document) {word : List Char}
    (keyword : Keyword word) :
    word <:+: self.text ↔ Mentions word self.strings := by
  have blank : ¬ word <:+: self.after.text := by
    intro inBlanks
    have inNothing : word <:+: self.after.text ++ [] := by
      rwa [List.append_nil]
    rw [keyword.infix_blanks_iff, List.infix_nil] at inNothing
    exact keyword.ne_nil inNothing
  have closed : Separated (self.after.text ++ []) :=
    Separated.nil.blanks self.after
  rw [List.append_nil] at closed
  rw [text, List.append_assoc, keyword.infix_blanks_iff,
    self.body.infix_iff keyword closed, or_iff_left blank]
  rfl

theorem search (self : Document) {β : Type} {reader : List Char → β}
    {name : List Char} (readsMember : ReadsMember reader)
    (lettered : Lettered name) (named : name ≠ []) :
    (afterEach (fieldPattern name) self.text).map reader =
      (self.entries.filter (Entry.Met name)).map
        fun entry => reader entry.written := by
  have closed : Separated (self.after.text ++ []) :=
    Separated.nil.blanks self.after
  rw [List.append_nil] at closed
  have nothing : afterEach (fieldPattern name) self.after.text = [] := by
    have skipped : afterEach (fieldPattern name) (self.after.text ++ []) =
        afterEach (fieldPattern name) [] :=
      afterEach_append_of_absent self.after.quoteless
    rwa [List.append_nil] at skipped
  rw [text, List.append_assoc, fieldPattern,
    afterEach_append_of_absent self.before.quoteless, ← fieldPattern,
    self.body.search readsMember lettered named closed, nothing, List.map_nil,
    List.append_nil]
  rfl

/-- The first member that a search for the name meets. -/
def met (self : Document) (name : String) : Option Entry :=
  self.entries.find? (Entry.Met name.toList)

/-- Where no name has a quotation mark, these are the members spelled so. -/
theorem Distinct.filter_met {self : Document} (distinct : self.Distinct)
    (name : List Char) :
    self.entries.filter (Entry.Met name) =
      self.entries.filter (Entry.Spelled name) := by
  refine List.filter_congr fun entry member => ?_
  rw [decide_eq_decide]
  exact Entry.met_iff_spelled (distinct.quoteless entry member)

end Document

namespace Document

/-- What is asked of the names of the members is asked of the data. -/
theorem distinct_of_value {document : Document}
    (nodup : (document.value.entries.map Prod.fst).Nodup)
    (quoteless : ∀ name ∈ document.value.entries.map Prod.fst,
      '"' ∉ name.toList) : document.Distinct := by
  have names : document.value.entries.map Prod.fst =
      document.entries.map Entry.name := by
    rw [value, ← document.body.entries_value, List.map_map]
    rfl
  rw [names] at nodup quoteless
  refine ⟨nodup, fun entry member => ?_⟩
  have named := quoteless entry.name (List.mem_map_of_mem member)
  rwa [Entry.name, String.toList_ofList] at named

theorem exists_of_stated {document : Document} {name : String}
    {value : JsonValue} (stated : (name, value) ∈ document.value.entries) :
    ∃ entry ∈ document.entries,
      entry.name = name ∧ entry.value.value = value := by
  rw [Document.value, ← document.body.entries_value] at stated
  obtain ⟨entry, member, same⟩ := List.mem_map.mp stated
  obtain ⟨names, values⟩ := Prod.mk.inj same
  exact ⟨entry, member, names, values⟩

/-- The member of a name stands for what the data has under the name. -/
theorem Shows.imp_of_stated {document : Document}
    (distinct : document.Distinct) {name : String} {value : JsonValue}
    (stated : (name, value) ∈ document.value.entries)
    {holds holds' : Entry → Prop} (shown : document.Shows name holds)
    (implies : ∀ entry : Entry, entry.value.value = value →
      holds entry → holds' entry) : document.Shows name holds' := by
  obtain ⟨entry, member, same, plain, held⟩ := shown
  obtain ⟨other, inside, named, stands⟩ := exists_of_stated stated
  obtain rfl : entry = other := List.inj_on_of_nodup_map distinct.nodup
    member inside (same.trans named.symm)
  exact ⟨entry, member, same, plain, implies entry stands held⟩

theorem shows_congr_of_stated {document : Document}
    (distinct : document.Distinct) {name : String} {value : JsonValue}
    (stated : (name, value) ∈ document.value.entries)
    {holds holds' : Entry → Prop}
    (agree : ∀ entry : Entry, entry.value.value = value →
      (holds entry ↔ holds' entry)) :
    document.Shows name holds ↔ document.Shows name holds' :=
  ⟨fun shown => shown.imp_of_stated distinct stated
      fun entry stands => (agree entry stands).mp,
    fun shown => shown.imp_of_stated distinct stated
      fun entry stands => (agree entry stands).mpr⟩

/-- Nothing is met under a name that the data does not have. -/
theorem not_shows_of_unstated {document : Document} {name : String}
    (unstated : name ∉ document.value.entries.map Prod.fst)
    {holds : Entry → Prop} : ¬ document.Shows name holds := by
  rintro ⟨entry, member, rfl, -, -⟩
  rw [Document.value, ← document.body.entries_value, List.map_map] at unstated
  exact unstated (List.mem_map_of_mem member)

end Document

/-- A member is spelled so when it has the name and is written plainly. -/
theorem Entry.spelled_iff {name : List Char} (slashless : '\\' ∉ name)
    (self : Entry) :
    self.Spelled name ↔ self.name = String.ofList name ∧ self.Plain := by
  constructor
  · rintro ⟨spelled, gap⟩
    obtain ⟨same, raw⟩ := Spelling.value_of_text_eq slashless spelled
    exact ⟨by rw [Entry.name, same], raw, gap⟩
  · rintro ⟨same, raw, gap⟩
    have values : self.key.name.value = name := String.ofList_injective same
    exact ⟨by rw [raw.text_eq, values], gap⟩

/-- Among members of different names one at most is met. -/
theorem Document.filter_spelled (self : Document) (distinct : self.Distinct)
    {name : List Char} (slashless : '\\' ∉ name) {entry : Entry}
    (member : entry ∈ self.entries) (same : entry.name = String.ofList name)
    (plain : entry.Plain) :
    self.entries.filter (Entry.Spelled name) = [entry] := by
  have spelled : entry.Spelled name :=
    (entry.spelled_iff slashless).mpr ⟨same, plain⟩
  have nodup := distinct.nodup
  revert member nodup
  induction self.entries with
  | nil => exact fun member => absurd member List.not_mem_nil
  | cons first entries inductionHypothesis =>
      intro member nodup
      rw [List.map_cons, List.nodup_cons] at nodup
      rcases List.mem_cons.mp member with rfl | later
      · have others : entries.filter (Entry.Spelled name) = [] := by
          refine List.filter_eq_nil_iff.mpr fun other inside spelled => ?_
          have named := (other.spelled_iff slashless).mp
            (of_decide_eq_true spelled)
          exact nodup.1 (List.mem_map.mpr
            ⟨other, inside, named.1.trans same.symm⟩)
        simp [spelled, others]
      · have different : ¬ first.Spelled name := by
          intro spelled
          have named := (first.spelled_iff slashless).mp spelled
          exact nodup.1 (List.mem_map.mpr
            ⟨entry, later, same.trans named.1.symm⟩)
        simp [different, inductionHypothesis later nodup.2]

/-- Among members of different names, the one that is met is written plainly. -/
theorem Document.met_eq_some_iff {document : Document}
    (distinct : document.Distinct) {name : String}
    (slashless : '\\' ∉ name.toList) (entry : Entry) :
    document.met name = some entry ↔
      entry ∈ document.entries ∧ entry.name = name ∧ entry.Plain := by
  rw [met, ← List.head?_filter, distinct.filter_met]
  constructor
  · intro first
    obtain ⟨member, spelled⟩ := List.mem_filter.mp (List.mem_of_mem_head? first)
    have named := (entry.spelled_iff slashless).mp (of_decide_eq_true spelled)
    rw [String.ofList_toList] at named
    exact ⟨member, named⟩
  · rintro ⟨member, same, plain⟩
    rw [document.filter_spelled distinct slashless member
      (same.trans String.ofList_toList.symm) plain]
    rfl

end Library
