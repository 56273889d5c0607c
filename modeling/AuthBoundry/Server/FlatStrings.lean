import AuthBoundry.Server.Requests

/-!
# Strings of flat objects

A string is read up to its last quotation mark, but of the escapes only some
are read as what they mean.  Another escape is read as more than it means, and
so what is read has the weight of what is meant only where all escapes are
known.
-/

namespace AuthBoundry

open Library
open scoped Library.Listed

/-! ## What is read -/

def readSpelled : SpelledChar → List Char
  | .raw character _ => [character]
  | .escaped payload _ _ => (readJsonString ('\\' :: payload)).1

def readSpelling (spelling : Spelling) : List Char :=
  spelling.flatMap readSpelled

/-- The escapes that are read as what they mean. -/
def knownEscapes : List (List Char) := [['"'], ['\\'], ['/'], ['n'], ['t']]

def IsKnown : SpelledChar → Prop
  | .raw _ _ => True
  | .escaped payload _ _ => payload ∈ knownEscapes

instance : DecidablePred IsKnown
  | .raw _ _ => isTrue trivial
  | .escaped payload _ _ => inferInstanceAs (Decidable (payload ∈ knownEscapes))

/-- Every escape of the string is read as what it means. -/
def AllKnown (spelling : Spelling) : Prop :=
  ∀ character ∈ spelling, IsKnown character

instance : DecidablePred AllKnown :=
  fun spelling =>
    inferInstanceAs (Decidable (∀ character ∈ spelling, IsKnown character))

theorem readJsonString_plain {characters : List Char}
    (plain : ∀ character ∈ characters, character ≠ '"' ∧ character ≠ '\\')
    (rest : List Char) :
    readJsonString (characters ++ rest) =
      (characters ++ (readJsonString rest).1, (readJsonString rest).2) := by
  induction characters with
  | nil => rfl
  | cons first characters induction =>
      obtain ⟨here, later⟩ := List.forall_mem_cons.mp plain
      rw [List.cons_append, readJsonString, induction later]
      · rfl
      · intro other others same
        exact (here.2 same).elim
      · exact here.1

theorem plain_of_codeUnit {first second third fourth : Char} {code : Nat}
    (reads : codeUnit first second third fourth = some code) :
    ∀ digit ∈ [first, second, third, fourth], digit ≠ '"' ∧ digit ≠ '\\' := by
  have quote : hexDigitValue '"' = none := by decide
  have slash : hexDigitValue '\\' = none := by decide
  intro digit member
  simp only [List.mem_cons, List.not_mem_nil, or_false] at member
  constructor
  · intro same
    subst same
    rcases member with rfl | rfl | rfl | rfl <;>
      simp [codeUnit, quote] at reads
  · intro same
    subst same
    rcases member with rfl | rfl | rfl | rfl <;>
      simp [codeUnit, slash] at reads

theorem readJsonString_unit (rest : List Char) :
    readJsonString ('\\' :: 'u' :: rest) =
      ('u' :: (readJsonString rest).1, (readJsonString rest).2) := by
  rw [readJsonString]
  rfl

/-- The reader passes every character of a string, whatever it makes of it. -/
theorem readJsonString_spelled (character : SpelledChar) (rest : List Char) :
    readJsonString (character.text ++ rest) =
      (readSpelled character ++ (readJsonString rest).1,
        (readJsonString rest).2) := by
  cases character with
  | raw character plain =>
      apply readJsonString_plain
      intro other member
      rw [List.mem_singleton.mp member]
      exact plain
  | escaped payload character legal =>
      cases legal with
      | short listed => rfl
      | @unit first second third fourth code reads scalar =>
          have plain := plain_of_codeUnit reads
          have whole := readJsonString_plain plain rest
          have alone := readJsonString_plain plain []
          rw [List.append_nil] at alone
          simp only [SpelledChar.text, readSpelled, List.cons_append,
            readJsonString_unit] at whole ⊢
          rw [List.nil_append] at whole ⊢
          rw [whole, alone]
          rfl
      | @pair first second third fourth fifth sixth seventh eighth high low
          readsHigh readsLow leads trails =>
          have plain := plain_of_codeUnit readsHigh
          have later := plain_of_codeUnit readsLow
          have whole := readJsonString_plain plain
            ('\\' :: 'u' :: ([fifth, sixth, seventh, eighth] ++ rest))
          have alone := readJsonString_plain plain
            ('\\' :: 'u' :: [fifth, sixth, seventh, eighth])
          have last := readJsonString_plain later []
          rw [List.append_nil] at last
          rw [readJsonString_unit, readJsonString_plain later] at whole
          rw [readJsonString_unit, last] at alone
          have spelled : SpelledChar.text (.escaped _ _
                (.pair readsHigh readsLow leads trails)) ++ rest =
              '\\' :: 'u' :: ([first, second, third, fourth] ++
                ('\\' :: 'u' :: ([fifth, sixth, seventh, eighth] ++ rest))) :=
            rfl
          have payload : readSpelled (.escaped _ _
                (.pair readsHigh readsLow leads trails)) =
              (readJsonString ('\\' :: 'u' :: ([first, second, third, fourth] ++
                ('\\' :: 'u' :: [fifth, sixth, seventh, eighth])))).1 := rfl
          rw [spelled, payload, readJsonString_unit, readJsonString_unit, whole,
            alone]
          rfl

/-- A string is read up to its last quotation mark. -/
theorem readJsonString_spelling (spelling : Spelling) (rest : List Char) :
    readJsonString (spelling.text ++ '"' :: rest) =
      (readSpelling spelling, rest) := by
  induction spelling with
  | nil => rfl
  | cons first spelling induction =>
      rw [Spelling.text_cons, List.append_assoc, readJsonString_spelled,
        induction]
      rfl

/-! ## What is read wrong is longer -/

def weight (character : Char) : Nat :=
  if character ∈ ['\x08', '\x0c', '\x0d'] then 1 else 2

def weightOf (characters : List Char) : Nat :=
  (characters.map weight).sum

theorem weightOf_cons (first : Char) (rest : List Char) :
    weightOf (first :: rest) = weight first + weightOf rest := rfl

theorem weightOf_append (left right : List Char) :
    weightOf (left ++ right) = weightOf left + weightOf right := by
  unfold weightOf
  rw [List.map_append, List.sum_append]

theorem weight_bounds (character : Char) :
    1 ≤ weight character ∧ weight character ≤ 2 := by
  unfold weight
  split <;> decide

theorem readSpelled_known {character : SpelledChar}
    (known : IsKnown character) :
    readSpelled character = [character.value] := by
  cases character with
  | raw character plain => rfl
  | escaped payload character legal =>
      change payload ∈ knownEscapes at known
      cases legal with
      | @short letter value listed =>
          simp only [knownEscapes, List.mem_cons, List.cons.injEq, and_true,
            List.not_mem_nil, or_false] at known
          rcases known with rfl | rfl | rfl | rfl | rfl <;>
            · simp [shortEscapes] at listed
              subst listed
              rfl
      | unit reads scalar => simp [knownEscapes] at known
      | pair readsHigh readsLow leads trails => simp [knownEscapes] at known

/-- Another escape is read as more than it means. -/
theorem weight_lt_of_unknown {character : SpelledChar}
    (unknown : ¬IsKnown character) :
    weight character.value < weightOf (readSpelled character) := by
  cases character with
  | raw character plain => exact (unknown trivial).elim
  | escaped payload character legal =>
      change ¬payload ∈ knownEscapes at unknown
      cases legal with
      | @short letter value listed =>
          simp only [shortEscapes, List.mem_cons, Prod.mk.injEq,
            List.not_mem_nil, or_false] at listed
          rcases listed with ⟨rfl, rfl⟩ | ⟨rfl, rfl⟩ | ⟨rfl, rfl⟩ | ⟨rfl, rfl⟩ |
            ⟨rfl, rfl⟩ | ⟨rfl, rfl⟩ | ⟨rfl, rfl⟩ | ⟨rfl, rfl⟩
          · exact (unknown (by decide)).elim
          · exact (unknown (by decide)).elim
          · exact (unknown (by decide)).elim
          · exact Nat.lt_add_one 1
          · exact Nat.lt_add_one 1
          · exact (unknown (by decide)).elim
          · exact Nat.lt_add_one 1
          · exact (unknown (by decide)).elim
      | @unit first second third fourth code reads scalar =>
          have plain := plain_of_codeUnit reads
          have alone := readJsonString_plain plain []
          have read : readSpelled (.escaped _ _ (.unit reads scalar)) =
              'u' :: [first, second, third, fourth] := by
            have payload : readSpelled (.escaped _ _ (.unit reads scalar)) =
                (readJsonString ('\\' :: 'u' ::
                  ([first, second, third, fourth] ++ []))).1 := rfl
            rw [payload, readJsonString_unit, alone]
            rfl
          rw [read]
          simp only [weightOf_cons, SpelledChar.value]
          have value := weight_bounds (Char.ofNat code)
          have bounds := fun digit => (weight_bounds digit).1
          have lead := bounds 'u'
          have one := bounds first
          have two := bounds second
          omega
      | @pair first second third fourth fifth sixth seventh eighth high low
          readsHigh readsLow leads trails =>
          have plain := plain_of_codeUnit readsHigh
          have read : readSpelled (.escaped _ _
                (.pair readsHigh readsLow leads trails)) =
              'u' :: ([first, second, third, fourth] ++
                (readJsonString
                  ['\\', 'u', fifth, sixth, seventh, eighth]).1) := by
            have payload : readSpelled (.escaped _ _
                  (.pair readsHigh readsLow leads trails)) =
                (readJsonString ('\\' :: 'u' ::
                  ([first, second, third, fourth] ++
                    ['\\', 'u', fifth, sixth, seventh, eighth]))).1 := rfl
            rw [payload, readJsonString_unit, readJsonString_plain plain]
          rw [read]
          simp only [weightOf_cons, List.cons_append, SpelledChar.value]
          have value := weight_bounds
            (Char.ofNat (0x10000 + (high - 0xD800) * 0x400 + (low - 0xDC00)))
          have bounds := fun digit => (weight_bounds digit).1
          have lead := bounds 'u'
          have one := bounds first
          have two := bounds second
          omega

theorem readSpelling_cons (first : SpelledChar) (spelling : Spelling) :
    readSpelling (first :: spelling) =
      readSpelled first ++ readSpelling spelling := rfl

theorem readSpelling_known {spelling : Spelling} (known : AllKnown spelling) :
    readSpelling spelling = spelling.value := by
  induction spelling with
  | nil => rfl
  | cons first spelling induction =>
      obtain ⟨here, later⟩ := List.forall_mem_cons.mp known
      rw [readSpelling_cons, readSpelled_known here, induction later]
      rfl

theorem weightOf_le (spelling : Spelling) :
    weightOf spelling.value ≤ weightOf (readSpelling spelling) := by
  induction spelling with
  | nil => exact Nat.le_refl 0
  | cons first spelling induction =>
      have here : weight first.value ≤ weightOf (readSpelled first) := by
        by_cases known : IsKnown first
        · rw [readSpelled_known known]
          exact Nat.le_refl _
        · exact Nat.le_of_lt (weight_lt_of_unknown known)
      rw [Spelling.value_cons, weightOf_cons, readSpelling_cons,
        weightOf_append]
      exact Nat.add_le_add here induction

theorem allKnown_of_weightOf_le {spelling : Spelling}
    (light : weightOf (readSpelling spelling) ≤ weightOf spelling.value) :
    AllKnown spelling := by
  induction spelling with
  | nil => exact List.forall_mem_nil _
  | cons first spelling induction =>
      rw [Spelling.value_cons, weightOf_cons, readSpelling_cons,
        weightOf_append] at light
      have later := weightOf_le spelling
      by_cases known : IsKnown first
      · rw [readSpelled_known known] at light
        change weight first.value + 0 + _ ≤ _ at light
        exact List.forall_mem_cons.mpr ⟨known, induction (by omega)⟩
      · have heavy := weight_lt_of_unknown known
        omega

end AuthBoundry
