import Mathlib.Data.List.Basic
import Mathlib.Algebra.Order.BigOperators.Group.List
import Mathlib.Algebra.Order.Group.Nat
import Mathlib.Data.List.Forall2

/-!
# Texts that are templates

A template is cut into segments at a separator.  Some of its segments are wild:
they stand for any segment that is not empty, while the others stand for
themselves.  A template without a wild segment has one instance; a template
with one has more than any list can hold.
-/

namespace Library

section Cutting

variable {α : Type} [DecidableEq α] {separator : α}

theorem separator_notMem_segment (text : List α) :
    ∀ segment ∈ text.splitOn separator, separator ∉ segment := by
  induction text with
  | nil => simp
  | cons first rest induction =>
      intro segment member
      rw [List.splitOn_cons_eq_if_modifyHead] at member
      split at member
      · rcases List.mem_cons.mp member with rfl | later
        · simp
        · exact induction segment later
      · rename_i different
        cases cut : rest.splitOn separator with
        | nil => exact (List.splitOn_ne_nil separator rest cut).elim
        | cons head tail =>
            rw [cut] at member induction
            rcases List.mem_cons.mp member with rfl | later
            · have apart : separator ≠ first := by
                rintro rfl
                simp at different
              rw [List.mem_cons, not_or]
              exact ⟨apart, induction head List.mem_cons_self⟩
            · exact induction segment (List.mem_cons_of_mem _ later)

omit [DecidableEq α] in
/-- A text is at least as long as each of the segments it is joined from. -/
theorem length_le_intercalate {between : List α} {segments : List (List α)}
    {segment : List α} (member : segment ∈ segments) :
    segment.length ≤ (between.intercalate segments).length := by
  induction segments with
  | nil => cases member
  | cons first rest induction =>
      cases rest with
      | nil =>
          rw [List.mem_singleton.mp member, List.intercalate_singleton]
      | cons second rest =>
          rw [List.intercalate_cons_cons, List.length_append,
            List.length_append]
          rcases List.mem_cons.mp member with rfl | later
          · omega
          · have shorter := induction later
            omega

variable (separator) in
/-- The pieces of a text in which the separator ends each piece. -/
def terminated (text : List α) : List (List α) :=
  (text.splitOn separator).dropLast

theorem terminated_intercalate {pieces : List (List α)}
    (plain : ∀ piece ∈ pieces, separator ∉ piece) (nonempty : pieces ≠ []) :
    terminated separator ([separator].intercalate pieces ++ [separator]) =
      pieces := by
  have joined : [separator].intercalate pieces ++ [separator] =
      [separator].intercalate (pieces ++ [[]]) := by
    clear plain
    induction pieces with
    | nil => exact absurd rfl nonempty
    | cons first rest induction =>
        cases rest with
        | nil => simp
        | cons second rest =>
            have shorter := induction (List.cons_ne_nil second rest)
            rw [List.intercalate_cons_cons, List.append_assoc, shorter]
            simp
  have apart : ∀ piece ∈ pieces ++ [[]], separator ∉ piece := by
    rw [List.forall_mem_append]
    exact ⟨plain, by simp⟩
  have whole := List.splitOn_intercalate separator apart (by simp)
  rw [terminated, joined, whole, List.dropLast_concat]

end Cutting

section Templates

variable {α : Type} [DecidableEq α] (separator : α) (wild : List α → Bool)

/-- A segment of a template stands for a segment of a text. -/
def Fits (segment concrete : List α) : Prop :=
  if wild segment then concrete ≠ [] else concrete = segment

/-- The segments of the template stand for those of the text, one by one. -/
def IsInstance (template text : List α) : Prop :=
  List.Forall₂ (Fits wild) (template.splitOn separator)
    (text.splitOn separator)

def IsLiteral (template : List α) : Prop :=
  ∀ segment ∈ template.splitOn separator, wild segment = false

instance (template : List α) : Decidable (IsLiteral separator wild template) :=
  inferInstanceAs
    (Decidable (∀ segment ∈ template.splitOn separator, wild segment = false))

variable {separator wild} {template text : List α}

theorem isInstance_iff_eq (literal : IsLiteral separator wild template) :
    IsInstance separator wild template text ↔ text = template := by
  have fits_iff : ∀ segment ∈ template.splitOn separator, ∀ concrete,
      Fits wild segment concrete ↔ segment = concrete := by
    intro segment member concrete
    unfold Fits
    rw [literal segment member]
    simp [eq_comm]
  have forall_iff : ∀ segments concretes : List (List α),
      (∀ segment ∈ segments, ∀ concrete,
        Fits wild segment concrete ↔ segment = concrete) →
      (List.Forall₂ (Fits wild) segments concretes ↔
        segments = concretes) := by
    intro segments
    induction segments with
    | nil => simp [eq_comm]
    | cons segment segments induction =>
        intro concretes standsFor
        obtain ⟨first, others⟩ := List.forall_mem_cons.mp standsFor
        cases concretes with
        | nil => simp
        | cons concrete concretes =>
            rw [List.forall₂_cons, first, induction concretes others,
              List.cons.injEq]
  unfold IsInstance
  rw [forall_iff _ _ fits_iff]
  constructor
  · intro same
    calc text
        = [separator].intercalate (text.splitOn separator) :=
          (List.intercalate_splitOn separator).symm
      _ = [separator].intercalate (template.splitOn separator) := by
          rw [same]
      _ = template := List.intercalate_splitOn separator
  · rintro rfl
    rfl

variable (wild) in
/-- A segment with as many fillers as are asked for in the place of a wild
one. -/
def filled (filler : α) (width : Nat) (segment : List α) : List α :=
  if wild segment then List.replicate width filler else segment

omit [DecidableEq α] in
theorem filled_fits (filler : α) (width : Nat) (segment : List α) :
    Fits wild segment (filled wild filler (width + 1) segment) := by
  unfold Fits filled
  split <;> simp [List.replicate_succ]

theorem splitOn_filled {filler : α} (apart : filler ≠ separator)
    (width : Nat) :
    ([separator].intercalate ((template.splitOn separator).map
        (filled wild filler (width + 1)))).splitOn separator =
      (template.splitOn separator).map (filled wild filler (width + 1)) := by
  have whole : ∀ segment ∈ (template.splitOn separator).map
      (filled wild filler (width + 1)), separator ∉ segment := by
    intro segment member
    obtain ⟨old, oldMember, rfl⟩ := List.mem_map.mp member
    unfold filled
    split
    · intro listed
      exact apart (List.eq_of_mem_replicate listed).symm
    · exact separator_notMem_segment template old oldMember
  have nonempty : (template.splitOn separator).map
      (filled wild filler (width + 1)) ≠ [] := by
    simp
  exact List.splitOn_intercalate separator whole nonempty

theorem isInstance_filled {filler : α} (apart : filler ≠ separator)
    (width : Nat) :
    IsInstance separator wild template
      ([separator].intercalate
        ((template.splitOn separator).map
          (filled wild filler (width + 1)))) := by
  unfold IsInstance
  rw [splitOn_filled apart, List.forall₂_map_right_iff, List.forall₂_same]
  intro segment _
  exact filled_fits filler width segment

theorem exists_isInstance_notMem {filler : α} (apart : filler ≠ separator)
    (notLiteral : ¬IsLiteral separator wild template)
    (known : List (List α)) :
    ∃ text, IsInstance separator wild template text ∧ text ∉ known := by
  obtain ⟨segment, member, isWild⟩ : ∃ segment ∈ template.splitOn separator,
      wild segment = true := by
    simpa [IsLiteral] using notLiteral
  let width := (known.map List.length).sum
  refine ⟨_, isInstance_filled apart width, ?_⟩
  intro listed
  have within : width + 1 ≤ ([separator].intercalate
      ((template.splitOn separator).map
        (filled wild filler (width + 1)))).length := by
    have filledMember := List.mem_map.mpr
      ⟨segment, member, (rfl : filled wild filler (width + 1) segment = _)⟩
    have longEnough : _ ≤ ([separator].intercalate _).length :=
      length_le_intercalate filledMember
    simpa [filled, isWild] using longEnough
  have bounded : ([separator].intercalate
      ((template.splitOn separator).map
        (filled wild filler (width + 1)))).length ≤ width :=
    List.le_sum_of_mem
      (List.mem_map.mpr ⟨_, listed, rfl⟩)
  omega

end Templates

end Library
