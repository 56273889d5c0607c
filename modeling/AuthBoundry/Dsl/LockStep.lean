import AuthBoundry.Dsl.Extents

/-!
# Reading in lock step

Related texts are read alike, if no reader can tell them apart but by a string
that is changed.  Equal texts are related, and so the fuel of the parser does
not matter as long as it is enough.
-/

namespace AuthBoundry

open Library
open Library.Stateful

/-! ## Readings of related texts -/

section Follows

variable (related : List Char → List Char → Prop)

/-- Two readings of related texts: both are refused, or both give the same and
leave related texts, or they differ in a value and leave the same text. -/
inductive Follows {α : Type} (changed : α → α → Prop) :
    Except AuthDslError (α × List Char) →
      Except AuthDslError (α × List Char) → Prop
  | refused (error : AuthDslError) :
      Follows changed (.error error) (.error error)
  | same (value : α) {left right : List Char} (rests : related left right) :
      Follows changed (.ok (value, left)) (.ok (value, right))
  | changed {before after : α} (rest : List Char)
      (differ : changed before after) :
      Follows changed (.ok (before, rest)) (.ok (after, rest))

variable {related} {α β : Type} {changed : α → α → Prop}
  {altered : β → β → Prop} {first second : Except AuthDslError (α × List Char)}

theorem Follows.bind
    {next other : α × List Char → Except AuthDslError (β × List Char)}
    (follows : Follows related changed first second)
    (same : ∀ value left right, related left right →
      first = .ok (value, left) → second = .ok (value, right) →
      Follows related altered (next (value, left)) (other (value, right)))
    (differ : ∀ before after rest, changed before after →
      first = .ok (before, rest) → second = .ok (after, rest) →
      Follows related altered (next (before, rest)) (other (after, rest))) :
    Follows related altered (first >>= next) (second >>= other) := by
  cases follows with
  | refused error => exact .refused error
  | same value rests => exact same _ _ _ rests rfl rfl
  | changed rest change => exact differ _ _ _ change rfl rfl

theorem Follows.weaken {other : α → α → Prop}
    (follows : Follows related changed first second)
    (weaker : ∀ before after, changed before after → other before after) :
    Follows related other first second := by
  cases follows with
  | refused error => exact .refused error
  | same value rests => exact .same value rests
  | changed rest differ => exact .changed rest (weaker _ _ differ)

end Follows

/-- One item of a list is changed. -/
inductive ItemsChanged (changed : String → String → Prop) :
    List String → List String → Prop
  | head {before after : String} (items : List String)
      (differ : changed before after) :
      ItemsChanged changed (before :: items) (after :: items)
  | tail (item : String) {before after : List String}
      (later : ItemsChanged changed before after) :
      ItemsChanged changed (item :: before) (item :: after)

mutual

/-- One string of a value is changed. -/
inductive ValueChanged (changed : String → String → Prop) :
    Value → Value → Prop
  | scalar {before after : String} (differ : changed before after) :
      ValueChanged changed (.scalar before) (.scalar after)
  | list {before after : List String}
      (differ : ItemsChanged changed before after) :
      ValueChanged changed (.list before) (.list after)
  | enum {before after : List String}
      (differ : ItemsChanged changed before after) :
      ValueChanged changed (.enum before) (.enum after)
  | block {before after : Entries}
      (differ : EntriesChanged changed before after) :
      ValueChanged changed (.block before) (.block after)

inductive EntriesChanged (changed : String → String → Prop) :
    Entries → Entries → Prop
  | head (key : String) {before after : Value} (entries : Entries)
      (differ : ValueChanged changed before after) :
      EntriesChanged changed ((key, before) :: entries)
        ((key, after) :: entries)
  | tail (entry : String × Value) {before after : Entries}
      (later : EntriesChanged changed before after) :
      EntriesChanged changed (entry :: before) (entry :: after)

end

/-- Related texts are told apart by no reader, but for strings that are
changed. -/
structure LockStep (related : List Char → List Char → Prop)
    (changed : String → String → Prop) : Prop where
  head {left right : List Char} :
    related left right → left.head? = right.head?
  tail {ch : Char} {left right : List Char} :
    related (ch :: left) (ch :: right) → ch ≠ '"' → ch ≠ '#' → ch ≠ '/' →
      related left right
  trivia {left right : List Char} :
    related left right → related (skipTrivia left) (skipTrivia right)
  ident {left right : List Char} : related left right →
    left.takeWhile isIdentChar = right.takeWhile isIdentChar ∧
      related (left.dropWhile isIdentChar) (right.dropWhile isIdentChar)
  quoted {left right : List Char} :
    related ('"' :: left) ('"' :: right) →
      Follows related changed (parseQuoted left) (parseQuoted right)

theorem length_skipTrivia (text : List Char) :
    (skipTrivia text).length ≤ text.length := by
  obtain ⟨⟨trivia, apart, -⟩, -⟩ := skipTrivia_leads text
  have lengths := congrArg List.length apart
  rw [List.length_append] at lengths
  omega

theorem length_parseIdent {text rest : List Char} {name : String}
    (read : parseIdent text = .ok (name, rest)) :
    rest.length < text.length := by
  unfold parseIdent at read
  have split := List.takeWhile_append_dropWhile (p := isIdentChar) (l := text)
  cases taken : text.takeWhile isIdentChar with
  | nil =>
      rw [taken] at read
      cases read
  | cons ch letters =>
      rw [taken] at read split
      cases read
      have lengths := congrArg List.length split
      rw [List.length_append, List.length_cons] at lengths
      omega

theorem length_parseItem {ch : Char} {text rest : List Char} {item : String}
    (read : parseItem ch text = .ok (item, rest)) :
    rest.length ≤ text.length := by
  unfold parseItem at read
  by_cases quote : (ch == '"') = true
  · rw [if_pos quote] at read
    obtain ⟨whole, -⟩ := parseQuoted_reads read
    have lengths := congrArg List.length whole
    rw [List.length_append, List.length_cons] at lengths
    omega
  · rw [if_neg quote] at read
    by_cases letter : isIdentChar ch = true
    · rw [if_pos letter] at read
      exact Nat.le_of_lt_succ (length_parseIdent read)
    · rw [if_neg letter] at read
      cases read

theorem length_le_of_reads {α : Type}
    {reader : List Char → Except AuthDslError (α × List Char)}
    (reads : ReadsCode reader) {text rest : List Char} {value : α}
    (read : reader text = .ok (value, rest)) : rest.length ≤ text.length := by
  obtain ⟨before, whole, -⟩ := reads _ _ _ read
  have lengths := congrArg List.length whole
  rw [List.length_append] at lengths
  omega

/-- What is left of a text is read alike with any fuel that is enough, where a
string can be changed at all. -/
structure Steady (changed : String → String → Prop) : Prop where
  items (before after : String) : changed before after →
    ∀ (fuel other : Nat) (text : List Char), text.length < fuel →
      text.length < other → parseItems fuel text = parseItems other text
  entries (before after : Value) : ValueChanged changed before after →
    ∀ (fuel other : Nat) (nested : Bool) (text : List Char),
      text.length < fuel → text.length < other →
        parseEntries fuel nested text = parseEntries other nested text

namespace LockStep

variable {related : List Char → List Char → Prop}
  {changed : String → String → Prop}

/-- After the trivia both texts are at their end or begin alike. -/
theorem next (step : LockStep related changed) {left right : List Char}
    (texts : related left right) :
    (skipTrivia left = [] ∧ skipTrivia right = []) ∨
      ∃ ch rest others, skipTrivia left = ch :: rest ∧
        skipTrivia right = ch :: others ∧ related (ch :: rest) (ch :: others) ∧
        rest.length < left.length ∧ others.length < right.length := by
  have after := step.trivia texts
  have heads := step.head after
  have leftLength := length_skipTrivia left
  have rightLength := length_skipTrivia right
  cases first : skipTrivia left with
  | nil =>
      rw [first] at heads
      exact .inl ⟨rfl, List.head?_eq_none_iff.mp heads.symm⟩
  | cons ch rest =>
      rw [first] at heads after leftLength
      obtain ⟨others, second⟩ := List.head?_eq_some_iff.mp heads.symm
      rw [second] at after rightLength
      exact .inr ⟨ch, rest, others, rfl, second, after, leftLength,
        rightLength⟩

theorem parseIdent_follows (step : LockStep related changed)
    {left right : List Char} (texts : related left right) :
    Follows related (fun _ _ => False) (parseIdent left)
      (parseIdent right) := by
  obtain ⟨names, rests⟩ := step.ident texts
  unfold parseIdent
  rw [← names, ← step.head texts]
  cases left.takeWhile isIdentChar with
  | nil => exact .refused _
  | cons ch letters => exact .same _ rests

theorem parseItem_follows (step : LockStep related changed) {ch : Char}
    {left right : List Char} (texts : related (ch :: left) (ch :: right)) :
    Follows related changed (parseItem ch left) (parseItem ch right) := by
  unfold parseItem
  by_cases quote : (ch == '"') = true
  · rw [if_pos quote, if_pos quote]
    obtain rfl := beq_iff_eq.mp quote
    exact step.quoted texts
  · rw [if_neg quote, if_neg quote]
    by_cases letter : isIdentChar ch = true
    · rw [if_pos letter, if_pos letter]
      exact (step.parseIdent_follows texts).weaken
        fun _ _ impossible => impossible.elim
    · rw [if_neg letter, if_neg letter]
      exact .refused _

theorem parseItems_follows (step : LockStep related changed)
    (steady : ∀ before after, changed before after →
      ∀ (fuel other : Nat) (text : List Char), text.length < fuel →
        text.length < other → parseItems fuel text = parseItems other text)
    {fuel other : Nat} {left right : List Char} (texts : related left right)
    (enough : left.length < fuel) (more : right.length < other) :
    Follows related (ItemsChanged changed) (parseItems fuel left)
      (parseItems other right) := by
  induction fuel generalizing other left right with
  | zero => exact absurd enough (Nat.not_lt_zero _)
  | succ fuel induction =>
      obtain ⟨other, rfl⟩ :=
        Nat.exists_eq_succ_of_ne_zero (by omega : other ≠ 0)
      rw [parseItems, parseItems]
      rcases step.next texts with
        ⟨first, second⟩ |
        ⟨ch, rest, others, first, second, begins, less, lesser⟩
      · rw [first, second]
        exact .refused _
      · rw [first, second]
        dsimp only
        by_cases closing : (ch == ']') = true
        · rw [if_pos closing, if_pos closing]
          obtain rfl := beq_iff_eq.mp closing
          exact .same _
            (step.tail begins (by decide) (by decide) (by decide))
        · rw [if_neg closing, if_neg closing]
          apply (step.parseItem_follows begins).bind
          · intro item behind beyond rests one two
            have short := length_parseItem one
            have shorter := length_parseItem two
            apply (induction rests (by omega : behind.length < fuel)
              (by omega : beyond.length < other)).bind
            · intro items left right rests _ _
              exact .same _ rests
            · intro before after rest differ _ _
              exact .changed _ (.tail _ differ)
          · intro before after behind differ one two
            have short := length_parseItem one
            have shorter := length_parseItem two
            have alike := steady before after differ fuel other behind
              (by omega) (by omega)
            dsimp only
            rw [alike]
            cases parseItems other behind with
            | error error => exact .refused error
            | ok read => exact .changed _ (.head _ differ)

theorem parseList_follows (step : LockStep related changed)
    (steady : ∀ before after, changed before after →
      ∀ (fuel other : Nat) (text : List Char), text.length < fuel →
        text.length < other → parseItems fuel text = parseItems other text)
    {left right : List Char} (texts : related left right) :
    Follows related (ItemsChanged changed) (parseList left)
      (parseList right) :=
  step.parseItems_follows steady texts (Nat.lt_succ_self _)
    (Nat.lt_succ_self _)

theorem parseAssigned_follows (step : LockStep related changed)
    {altered : Value → Value → Prop}
    {reader other : List Char → Except AuthDslError (Value × List Char)}
    {left right : List Char} (texts : related left right)
    (follows : ∀ {first second : List Char}, related first second →
      first.length ≤ left.length → second.length ≤ right.length →
        Follows related altered (reader first) (other second))
    (key : String) :
    Follows related altered (parseAssigned reader key left)
      (parseAssigned other key right) := by
  unfold parseAssigned
  rcases step.next texts with
    ⟨first, second⟩ | ⟨ch, rest, others, first, second, begins, less, lesser⟩
  · rw [first, second]
    exact .refused _
  · rw [first, second]
    dsimp only
    by_cases sign : (ch == ':' || ch == '=') = true
    · rw [if_pos sign, if_pos sign]
      apply follows _ (Nat.le_of_lt less) (Nat.le_of_lt lesser)
      apply step.tail begins
      all_goals
        intro same
        rw [same] at sign
        exact absurd sign (by decide)
    · rw [if_neg sign, if_neg sign]
      by_cases opening : (ch == '\x7b') = true
      · rw [if_pos opening, if_pos opening]
        exact follows begins less lesser
      · rw [if_neg opening, if_neg opening]
        exact .refused _

theorem parseValue_follows (step : LockStep related changed)
    (steady : Steady changed) {fuel other : Nat}
    (follows : ∀ {first second : List Char}, related first second →
      first.length < fuel → second.length < other →
        Follows related (EntriesChanged changed)
          (parseEntries fuel true first) (parseEntries other true second))
    {left right : List Char} (texts : related left right)
    (enough : left.length < fuel + 1) (more : right.length < other + 1) :
    Follows related (ValueChanged changed) (parseValue (fuel + 1) left)
      (parseValue (other + 1) right) := by
  rw [parseValue, parseValue]
  rcases step.next texts with
    ⟨first, second⟩ | ⟨ch, rest, others, first, second, begins, less, lesser⟩
  · rw [first, second]
    exact .refused _
  rw [first, second]
  dsimp only
  by_cases block : (ch == '\x7b') = true
  · rw [if_pos block, if_pos block]
    obtain rfl := beq_iff_eq.mp block
    have inside := step.tail begins (by decide) (by decide) (by decide)
    apply (follows inside (by omega) (by omega)).bind
    · intro entries left right rests _ _
      exact .same _ rests
    · intro before after rest differ _ _
      exact .changed _ (.block differ)
  rw [if_neg block, if_neg block]
  by_cases list : (ch == '[') = true
  · rw [if_pos list, if_pos list]
    obtain rfl := beq_iff_eq.mp list
    have inside := step.tail begins (by decide) (by decide) (by decide)
    apply (step.parseList_follows steady.items inside).bind
    · intro items left right rests _ _
      exact .same _ rests
    · intro before after rest differ _ _
      exact .changed _ (.list differ)
  rw [if_neg list, if_neg list]
  by_cases quote : (ch == '"') = true
  · rw [if_pos quote, if_pos quote]
    obtain rfl := beq_iff_eq.mp quote
    apply (step.quoted begins).bind
    · intro scalar left right rests _ _
      exact .same _ rests
    · intro before after rest differ _ _
      exact .changed _ (.scalar differ)
  rw [if_neg quote, if_neg quote]
  by_cases letter : isIdentChar ch = true
  · rw [if_pos letter, if_pos letter]
    apply (step.parseIdent_follows begins).bind
    · intro ident behind beyond rests _ _
      dsimp only
      rw [← step.head rests]
      by_cases enumerated :
          (ident == "enum" && behind.head? == some '[') = true
      · rw [if_pos enumerated, if_pos enumerated]
        rw [Bool.and_eq_true, beq_iff_eq, beq_iff_eq] at enumerated
        obtain ⟨inside, rfl⟩ := List.head?_eq_some_iff.mp enumerated.2
        have alike := step.head rests
        obtain ⟨outside, rfl⟩ := List.head?_eq_some_iff.mp alike.symm
        have items := step.tail rests (by decide) (by decide) (by decide)
        rw [List.drop_one, List.tail_cons, List.drop_one, List.tail_cons]
        apply (step.parseList_follows steady.items items).bind
        · intro items left right rests _ _
          exact .same _ rests
        · intro before after rest differ _ _
          exact .changed _ (.enum differ)
      · rw [if_neg enumerated, if_neg enumerated]
        exact .same _ rests
    · intro before after rest impossible _ _
      exact impossible.elim
  · rw [if_neg letter, if_neg letter]
    exact .refused _

theorem parseEntries_follows (step : LockStep related changed)
    (steady : Steady changed) (fuel : Nat) :
    (∀ {other : Nat} {nested : Bool} {left right : List Char},
      related left right → left.length < fuel → right.length < other →
        Follows related (EntriesChanged changed)
          (parseEntries fuel nested left)
          (parseEntries other nested right)) ∧
    ∀ {other : Nat} {left right : List Char}, related left right →
      left.length < fuel → right.length < other →
        Follows related (ValueChanged changed) (parseValue fuel left)
          (parseValue other right) := by
  induction fuel with
  | zero =>
      refine ⟨?_, ?_⟩
      · intro other nested left right texts enough
        exact absurd enough (Nat.not_lt_zero _)
      · intro other left right texts enough
        exact absurd enough (Nat.not_lt_zero _)
  | succ fuel induction =>
      obtain ⟨entriesFollow, valueFollows⟩ := induction
      refine ⟨?_, ?_⟩
      · intro other nested left right texts enough more
        obtain ⟨other, rfl⟩ :=
          Nat.exists_eq_succ_of_ne_zero (by omega : other ≠ 0)
        rw [parseEntries, parseEntries]
        rcases step.next texts with ⟨first, second⟩ |
          ⟨ch, rest, others, first, second, begins, less, lesser⟩
        · rw [first, second]
          cases nested with
          | true => exact .refused _
          | false =>
              have ends := step.trivia texts
              rw [first, second] at ends
              exact .same _ ends
        rw [first, second]
        dsimp only
        by_cases closing : (ch == '\x7d') = true
        · rw [if_pos closing, if_pos closing]
          obtain rfl := beq_iff_eq.mp closing
          cases nested with
          | true =>
              exact .same _
                (step.tail begins (by decide) (by decide) (by decide))
          | false => exact .refused _
        rw [if_neg closing, if_neg closing]
        apply (step.parseIdent_follows begins).bind
        · intro key behind beyond rests one two
          have short := length_parseIdent one
          have shorter := length_parseIdent two
          rw [List.length_cons] at short shorter
          dsimp only
          apply (step.parseAssigned_follows rests
            (fun texts less lesser => valueFollows texts
              (by omega) (by omega : _ < other)) key).bind
          · intro value left right rests three four
            have valueLength := length_le_of_reads
              (parseAssigned_reads (parseEntries_reads _).2 key) three
            have otherLength := length_le_of_reads
              (parseAssigned_reads (parseEntries_reads _).2 key) four
            dsimp only
            apply (entriesFollow rests (by omega)
              (by omega : right.length < other)).bind
            · intro entries left right rests _ _
              exact .same _ rests
            · intro before after rest differ _ _
              exact .changed _ (.tail _ differ)
          · intro before after left differ three four
            have valueLength := length_le_of_reads
              (parseAssigned_reads (parseEntries_reads _).2 key) three
            have otherLength := length_le_of_reads
              (parseAssigned_reads (parseEntries_reads _).2 key) four
            have alike := steady.entries before after differ fuel other nested
              left (by omega) (by omega)
            dsimp only
            rw [alike]
            cases parseEntries other nested left with
            | error error => exact .refused error
            | ok read => exact .changed _ (.head _ _ differ)
        · intro before after rest impossible _ _
          exact impossible.elim
      · intro other left right texts enough more
        obtain ⟨other, rfl⟩ :=
          Nat.exists_eq_succ_of_ne_zero (by omega : other ≠ 0)
        exact step.parseValue_follows steady entriesFollow texts enough more

end LockStep

/-! ## Fuel -/

section Changed

variable {changed : String → String → Prop}

theorem ItemsChanged.exists_changed {before after : List String}
    (differ : ItemsChanged changed before after) :
    ∃ old new, changed old new := by
  induction differ with
  | head items differ => exact ⟨_, _, differ⟩
  | tail item later induction => exact induction

mutual

theorem ValueChanged.exists_changed {before after : Value}
    (differ : ValueChanged changed before after) :
    ∃ old new, changed old new := by
  cases differ with
  | scalar differ => exact ⟨_, _, differ⟩
  | list differ => exact differ.exists_changed
  | enum differ => exact differ.exists_changed
  | block differ => exact differ.exists_changed

theorem EntriesChanged.exists_changed {before after : Entries}
    (differ : EntriesChanged changed before after) :
    ∃ old new, changed old new := by
  cases differ with
  | head key entries differ => exact differ.exists_changed
  | tail entry later => exact later.exists_changed

end

end Changed

theorem Follows.eq {α : Type} {changed : α → α → Prop}
    {first second : Except AuthDslError (α × List Char)}
    (follows : Follows (· = ·) changed first second)
    (unchanged : ∀ before after, ¬changed before after) : first = second := by
  cases follows with
  | refused error => rfl
  | same value rests => rw [rests]
  | changed rest differ => exact (unchanged _ _ differ).elim

theorem lockStep_eq : LockStep (· = ·) fun _ _ => False where
  head := by
    intro left right same
    rw [same]
  tail := by
    intro ch left right same _ _ _
    exact (List.cons.inj same).2
  trivia := by
    intro left right same
    rw [same]
  ident := by
    intro left right same
    rw [same]
    exact ⟨rfl, rfl⟩
  quoted := by
    intro left right same
    rw [(List.cons.inj same).2]
    cases parseQuoted right with
    | error error => exact .refused error
    | ok read => exact .same _ rfl

theorem steady_unchanged : Steady fun _ _ => False where
  items := fun _ _ impossible => impossible.elim
  entries := by
    intro before after differ
    obtain ⟨_, _, impossible⟩ := differ.exists_changed
    exact impossible.elim

/-- Any fuel beyond the length of the text gives the same. -/
theorem steady (changed : String → String → Prop) : Steady changed where
  items := by
    intro _ _ _ fuel other text enough more
    apply (lockStep_eq.parseItems_follows steady_unchanged.items rfl enough
      more).eq
    intro before after differ
    obtain ⟨_, _, impossible⟩ := differ.exists_changed
    exact impossible
  entries := by
    intro _ _ _ fuel other nested text enough more
    apply ((lockStep_eq.parseEntries_follows steady_unchanged fuel).1 rfl enough
      more).eq
    intro before after differ
    obtain ⟨_, _, impossible⟩ := differ.exists_changed
    exact impossible

end AuthBoundry
