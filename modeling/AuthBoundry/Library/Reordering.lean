import Mathlib.Data.List.Forall2
import Mathlib.Data.List.Perm.Basic
import Mathlib.Data.List.Sort

/-!
# Lists up to order

A list is a reordering of another up to a relation when the other, put into
some order, is related to it element by element.  Sorting by a key or a
comparison that tells the elements of the list apart undoes a reordering.
-/

namespace Library

theorem exists_left_of_forall₂ {α β : Type} {related : α → β → Prop}
    {lefts : List α} {rights : List β}
    (each : List.Forall₂ related lefts rights) {right : β}
    (member : right ∈ rights) : ∃ left ∈ lefts, related left right := by
  induction each with
  | nil => cases member
  | @cons left other lefts rights pair _ induction =>
      rcases List.mem_cons.mp member with rfl | member
      · exact ⟨left, List.mem_cons_self, pair⟩
      · obtain ⟨found, known, pair⟩ := induction member
        exact ⟨found, List.mem_cons_of_mem _ known, pair⟩

theorem map_eq_of_forall₂ {α β γ : Type} {related : α → β → Prop}
    {left : α → γ} {right : β → γ}
    (alike : ∀ first second, related first second →
      left first = right second)
    {lefts : List α} {rights : List β}
    (each : List.Forall₂ related lefts rights) :
    lefts.map left = rights.map right := by
  induction each with
  | nil => rfl
  | cons pair _ induction =>
      rw [List.map_cons, List.map_cons, alike _ _ pair, induction]

/-- The first list, permuted, is related to the second element by element. -/
def Reordered {α : Type} (related : α → α → Prop) (before after : List α) :
    Prop :=
  ∃ middle, before.Perm middle ∧ List.Forall₂ related middle after

theorem Reordered.refl {α : Type} {related : α → α → Prop}
    (reflexive : ∀ item, related item item) (items : List α) :
    Reordered related items items :=
  ⟨items, .refl items, List.forall₂_same.mpr fun item _ => reflexive item⟩

theorem Reordered.symm {α : Type} {related : α → α → Prop}
    (symmetric : ∀ left right, related left right → related right left)
    {before after : List α} (reordered : Reordered related before after) :
    Reordered related after before := by
  obtain ⟨middle, permuted, each⟩ := reordered
  obtain ⟨moved, pairs, perm⟩ := List.perm_comp_forall₂ permuted each
  have back : List.Forall₂ (fun left right => related right left) before
      moved := pairs.imp symmetric
  exact ⟨moved, perm.symm, back.flip⟩

section SortedByKey

variable {α κ : Type} [LinearOrder κ] (key : α → κ) {precedes : α → α → Prop}
  [DecidableRel precedes]

theorem pairwise_insertionSort_key
    (byKey : ∀ left right, precedes left right ↔ key left ≤ key right)
    (items : List α) : (items.insertionSort precedes).Pairwise precedes := by
  have total : Std.Total precedes := by
    refine ⟨fun left right => ?_⟩
    rw [byKey, byKey]
    exact le_total (key left) (key right)
  have transitive : IsTrans α precedes := by
    refine ⟨fun first second third early late => ?_⟩
    rw [byKey] at *
    exact le_trans early late
  exact List.pairwise_insertionSort precedes items

/-- Sorting a sorted list changes nothing. -/
theorem insertionSort_idempotent
    (byKey : ∀ left right, precedes left right ↔ key left ≤ key right)
    (items : List α) :
    (items.insertionSort precedes).insertionSort precedes =
      items.insertionSort precedes :=
  (pairwise_insertionSort_key key byKey items).insertionSort_eq

/-- The order of the elements does not matter where the key tells them
apart. -/
theorem insertionSort_perm
    (byKey : ∀ left right, precedes left right ↔ key left ≤ key right)
    {before after : List α}
    (distinct : ∀ left ∈ before, ∀ right ∈ before,
      key left = key right → left = right)
    (permuted : before.Perm after) :
    before.insertionSort precedes = after.insertionSort precedes := by
  have sameItems := (List.perm_insertionSort precedes before).trans
    (permuted.trans (List.perm_insertionSort precedes after).symm)
  refine List.Perm.eq_of_pairwise ?_ (pairwise_insertionSort_key key byKey before)
    (pairwise_insertionSort_key key byKey after) sameItems
  intro left right leftMember rightMember below above
  have leftKnown := (List.mem_insertionSort precedes).mp leftMember
  have rightKnown := permuted.mem_iff.mpr
    ((List.mem_insertionSort precedes).mp rightMember)
  have sameKey : key left = key right :=
    le_antisymm ((byKey left right).mp below) ((byKey right left).mp above)
  exact distinct left leftKnown right rightKnown sameKey

variable {related : α → α → Prop}

theorem forall₂_orderedInsert
    (byKey : ∀ left right, precedes left right ↔ key left ≤ key right)
    (keepsKey : ∀ left right, related left right → key left = key right)
    {left right : α} {before after : List α} (first : related left right)
    (rest : List.Forall₂ related before after) :
    List.Forall₂ related (before.orderedInsert precedes left)
      (after.orderedInsert precedes right) := by
  induction rest with
  | nil => exact .cons first .nil
  | @cons other other' before after head tail induction =>
      rw [List.orderedInsert_cons, List.orderedInsert_cons]
      have sameOrder : precedes left other ↔ precedes right other' := by
        rw [byKey, byKey, keepsKey left right first,
          keepsKey other other' head]
      by_cases below : precedes left other
      · rw [if_pos below, if_pos (sameOrder.mp below)]
        exact .cons first (.cons head tail)
      · rw [if_neg below, if_neg fun above => below (sameOrder.mpr above)]
        exact .cons head induction

/-- Lists related element by element stay so when both are sorted. -/
theorem forall₂_insertionSort
    (byKey : ∀ left right, precedes left right ↔ key left ≤ key right)
    (keepsKey : ∀ left right, related left right → key left = key right)
    {before after : List α} (each : List.Forall₂ related before after) :
    List.Forall₂ related (before.insertionSort precedes)
      (after.insertionSort precedes) := by
  induction each with
  | nil => exact .nil
  | cons head _ induction =>
      exact forall₂_orderedInsert key byKey keepsKey head induction

/-- Sorting leaves of a reordering only the relation between the elements. -/
theorem Reordered.insertionSort
    (byKey : ∀ left right, precedes left right ↔ key left ≤ key right)
    (keepsKey : ∀ left right, related left right → key left = key right)
    {before after : List α}
    (distinct : ∀ left ∈ before, ∀ right ∈ before,
      key left = key right → left = right)
    (reordered : Reordered related before after) :
    List.Forall₂ related (before.insertionSort precedes)
      (after.insertionSort precedes) := by
  obtain ⟨middle, permuted, each⟩ := reordered
  rw [insertionSort_perm key byKey distinct permuted]
  exact forall₂_insertionSort key byKey keepsKey each

end SortedByKey

/-! ## Sorting by a comparison -/

section SortedByComparison

variable {α : Type} (compares : α → α → Ordering) [Std.TransCmp compares]

theorem pairwise_mergeSort_comparison (items : List α) :
    (items.mergeSort fun left right =>
        (compares left right).isLE).Pairwise fun left right =>
      (compares left right).isLE = true := by
  refine List.pairwise_mergeSort ?_ ?_ items
  · intro left middle right
    exact Std.TransCmp.isLE_trans
  · intro left right
    have swapped : compares right left = (compares left right).swap :=
      Std.OrientedCmp.eq_swap
    rw [swapped]
    cases compares left right <;> rfl

/-- Lists with the same elements are sorted alike where elements that compare
as equal are equal. -/
theorem mergeSort_eq_of_perm {before after : List α}
    (distinct : ∀ left ∈ before, ∀ right ∈ before,
      compares left right = .eq → left = right)
    (permuted : before.Perm after) :
    (before.mergeSort fun left right => (compares left right).isLE) =
      after.mergeSort fun left right => (compares left right).isLE := by
  have sorted := fun items : List α =>
    List.mergeSort_perm items fun left right => (compares left right).isLE
  refine List.Perm.eq_of_pairwise ?_
    (pairwise_mergeSort_comparison compares before)
    (pairwise_mergeSort_comparison compares after)
    ((sorted before).trans (permuted.trans (sorted after).symm))
  intro left right leftMember rightMember below above
  have leftKnown := List.mem_mergeSort.mp leftMember
  have rightKnown := permuted.mem_iff.mpr (List.mem_mergeSort.mp rightMember)
  exact distinct left leftKnown right rightKnown
    (Std.OrientedCmp.isLE_antisymm below above)

end SortedByComparison

end Library
