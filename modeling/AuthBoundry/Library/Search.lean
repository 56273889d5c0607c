import Mathlib.Data.List.Basic
import Mathlib.Data.List.Infix

/-!
# Searching a text for a pattern

Where a pattern occurs in a text, what follows each of its occurrences, and how
a separator that is not in the pattern cuts a search in two.
-/

namespace Library

variable {α : Type}

/-! ## Words and separators -/

theorem prefix_separator_iff {word left right : List α} {separator : α}
    (absent : separator ∉ word) :
    word <+: left ++ separator :: right ↔ word <+: left := by
  induction left generalizing word with
  | nil =>
      cases word with
      | nil => simp
      | cons first word =>
          have different : first ≠ separator := by
            rintro rfl
            exact absent List.mem_cons_self
          simp [different]
  | cons head left inductionHypothesis =>
      cases word with
      | nil => simp
      | cons first word =>
          have shorter : separator ∉ word :=
            fun member => absent (List.mem_cons_of_mem first member)
          simp [List.cons_prefix_cons, inductionHypothesis shorter]

theorem infix_separator_iff {word left right : List α} {separator : α}
    (absent : separator ∉ word) :
    word <:+: left ++ separator :: right ↔
      word <:+: left ∨ word <:+: right := by
  induction left with
  | nil =>
      have starts : word <+: [] ++ separator :: right ↔ word <+: [] :=
        prefix_separator_iff absent
      rw [List.nil_append] at starts
      rw [List.nil_append, List.infix_cons_iff, starts, List.infix_nil,
        List.prefix_nil]
  | cons head left inductionHypothesis =>
      have starts : word <+: head :: left ++ separator :: right ↔
          word <+: head :: left := prefix_separator_iff absent
      rw [List.cons_append] at starts
      rw [List.cons_append, List.infix_cons_iff, starts, inductionHypothesis,
        List.infix_cons_iff, or_assoc]

theorem infix_cons_of_absent {word text : List α} {separator : α}
    (absent : separator ∉ word) :
    word <:+: separator :: text ↔ word <:+: text := by
  have apart : word <:+: [] ++ separator :: text ↔
      word <:+: [] ∨ word <:+: text := infix_separator_iff absent
  rw [List.nil_append, List.infix_nil] at apart
  rw [apart]
  constructor
  · rintro (rfl | inText)
    · exact List.nil_infix
    · exact inText
  · exact .inr

theorem infix_append_of_disjoint {word left right : List α}
    (disjoint : ∀ character ∈ left, character ∉ word) :
    word <:+: left ++ right ↔ word <:+: right := by
  induction left with
  | nil => rfl
  | cons head left inductionHypothesis =>
      obtain ⟨absent, others⟩ := List.forall_mem_cons.mp disjoint
      rw [List.cons_append, infix_cons_of_absent absent,
        inductionHypothesis others]

/-- The same when all that is known of the right side is how it begins. -/
theorem infix_append_iff {word left right : List α}
    (separated : ∀ separator ∈ right.head?, separator ∉ word) :
    word <:+: left ++ right ↔ word <:+: left ∨ word <:+: right := by
  cases right with
  | nil =>
      rw [List.append_nil]
      constructor
      · exact .inl
      · rintro (inLeft | inNothing)
        · exact inLeft
        · rw [List.infix_nil.mp inNothing]
          exact List.nil_infix
  | cons separator right =>
      have absent : separator ∉ word := separated separator rfl
      rw [infix_separator_iff absent, infix_cons_of_absent absent]

/-- A word has none of the characters it is searched among. -/
theorem not_infix_of_absent {word text : List α} {witness : α}
    (member : witness ∈ word) (absent : witness ∉ text) : ¬ word <:+: text :=
  fun inText => absent (inText.subset member)

/-- How a run ends is decided where the run ends. -/
theorem takeWhile_append_of_head {keep : α → Bool} {left right : List α}
    (stops : ∀ first ∈ right.head?, keep first = false) :
    (left ++ right).takeWhile keep = left.takeWhile keep := by
  induction left with
  | nil =>
      cases right with
      | nil => rfl
      | cons first right => simp [stops first rfl]
  | cons head left inductionHypothesis =>
      simp only [List.cons_append, List.takeWhile_cons, inductionHypothesis]

/-! ## What follows a pattern -/

section AfterEach

variable [BEq α]

/-- What follows each occurrence of a pattern, from the first on. -/
def afterEach (pattern text : List α) : List (List α) :=
  text.tails.filterMap fun rest => rest.dropPrefix? pattern

theorem afterEach_cons (pattern : List α) (head : α) (text : List α) :
    afterEach pattern (head :: text) =
      ((head :: text).dropPrefix? pattern).toList ++
        afterEach pattern text := by
  rw [afterEach, List.tails_cons, List.filterMap_cons]
  cases (head :: text).dropPrefix? pattern <;> rfl

variable [LawfulBEq α]

/-- No occurrence starts with another character. -/
theorem afterEach_cons_of_ne {first head : α} {pattern text : List α}
    (different : head ≠ first) :
    afterEach (first :: pattern) (head :: text) =
      afterEach (first :: pattern) text := by
  rw [afterEach_cons]
  have absent : (head :: text).dropPrefix? (first :: pattern) = none := by
    simp [List.dropPrefix?, different]
  rw [absent]
  rfl

theorem afterEach_append_of_absent {first : α} {pattern left right : List α}
    (absent : first ∉ left) :
    afterEach (first :: pattern) (left ++ right) =
      afterEach (first :: pattern) right := by
  induction left with
  | nil => rfl
  | cons head left inductionHypothesis =>
      have different : head ≠ first := by
        rintro rfl
        exact absent List.mem_cons_self
      rw [List.cons_append, afterEach_cons_of_ne different]
      exact inductionHypothesis fun member =>
        absent (List.mem_cons_of_mem head member)

/-- A longer pattern is found where its beginning is followed by the rest. -/
theorem infix_append_pattern_iff {pattern rest text : List α} :
    pattern ++ rest <:+: text ↔
      ∃ after ∈ afterEach pattern text, rest <+: after := by
  simp only [afterEach, List.mem_filterMap, List.mem_tails]
  constructor
  · rintro ⟨before, after, rfl⟩
    refine ⟨rest ++ after, ⟨pattern ++ (rest ++ after),
      ⟨before, by simp only [List.append_assoc]⟩, ?_⟩, rest.prefix_append after⟩
    exact List.dropPrefix?_eq_some_iff.mpr ⟨pattern, rfl, BEq.rfl⟩
  · rintro ⟨after, ⟨tail, ⟨before, rfl⟩, found⟩, ⟨last, rfl⟩⟩
    obtain ⟨start, rfl, same⟩ := List.dropPrefix?_eq_some_iff.mp found
    obtain rfl := eq_of_beq same
    exact ⟨before, last, by simp only [List.append_assoc]⟩

end AfterEach

end Library
