import Mathlib.Init

/-!
# Loops that collect results

A loop over a list that only ever adds to what it has collected.  Each rule
lifts a fact about one step to the whole loop: what was collected stays, what
is collected comes from somewhere, and what a step guarantees is still there at
the end.
-/

namespace Library

variable {α ι : Type} {step : List α → ι → List α}

theorem mem_foldl_of_mem
    (retains : ∀ collected item value, value ∈ collected →
      value ∈ step collected item)
    (items : List ι) {collected : List α} {value : α}
    (member : value ∈ collected) : value ∈ items.foldl step collected := by
  induction items generalizing collected with
  | nil => exact member
  | cons item items induction =>
      exact induction (retains collected item value member)

/-- Whatever a loop ends with it had at the start or took from an item. -/
theorem foldl_origin {Provides : ι → α → Prop}
    (origin : ∀ collected item value, value ∈ step collected item →
      value ∈ collected ∨ Provides item value)
    {items : List ι} {collected : List α} {value : α}
    (member : value ∈ items.foldl step collected) :
    value ∈ collected ∨ ∃ item ∈ items, Provides item value := by
  induction items generalizing collected with
  | nil => exact Or.inl member
  | cons item items induction =>
      rcases induction member with early | later
      · rcases origin collected item value early with old | new
        · exact Or.inl old
        · exact Or.inr ⟨item, List.mem_cons_self, new⟩
      · obtain ⟨source, sourceMember, provides⟩ := later
        exact Or.inr ⟨source, List.mem_cons_of_mem item sourceMember, provides⟩

/-- What the step at some item guarantees about one collected value is
guaranteed at the end. -/
theorem exists_mem_foldl
    (retains : ∀ collected item value, value ∈ collected →
      value ∈ step collected item)
    {wanted : α → Prop} {items : List ι} {item : ι} (member : item ∈ items)
    (provided : ∀ collected, ∃ value ∈ step collected item, wanted value)
    (collected : List α) :
    ∃ value ∈ items.foldl step collected, wanted value := by
  induction items generalizing collected with
  | nil => simp at member
  | cons head items induction =>
      rcases List.mem_cons.mp member with same | later
      · obtain ⟨value, valueMember, holds⟩ := provided collected
        subst same
        exact ⟨value, mem_foldl_of_mem retains items valueMember, holds⟩
      · exact induction later (step collected head)

/-! ## Loops that may stop -/

variable {σ : Type} {advance : σ → ι → Option σ}

/-- Every step keeps what holds of the state, leads on from it and brings what
its item asks for, which later steps keep: at the end all of it is there. -/
theorem foldlM_settles (Holds : σ → Prop) (Leads : σ → σ → Prop)
    (Settled : ι → σ → Prop) (refl : ∀ state, Leads state state)
    (trans : ∀ {first second third}, Leads first second →
      Leads second third → Leads first third)
    (kept : ∀ {item before after}, Holds before → Leads before after →
      Settled item before → Settled item after)
    {items : List ι}
    (advances : ∀ item ∈ items, ∀ {before after}, Holds before →
      advance before item = some after →
      Holds after ∧ Leads before after ∧ Settled item after)
    {start final : σ} (holds : Holds start)
    (folded : items.foldlM advance start = some final) :
    Holds final ∧ Leads start final ∧ ∀ item ∈ items, Settled item final := by
  induction items generalizing start with
  | nil =>
      cases folded
      exact ⟨holds, refl _, by simp⟩
  | cons item items induction =>
      rw [List.foldlM_cons] at folded
      obtain ⟨next, first, rest⟩ := Option.bind_eq_some_iff.mp folded
      obtain ⟨here, others⟩ := List.forall_mem_cons.mp advances
      obtain ⟨nextHolds, leads, settled⟩ := here holds first
      obtain ⟨finalHolds, leadsOn, all⟩ := induction others nextHolds rest
      exact ⟨finalHolds, trans leads leadsOn,
        List.forall_mem_cons.mpr ⟨kept nextHolds leadsOn settled, all⟩⟩

/-- Steps that all stay at a state end there. -/
theorem foldlM_stays {items : List ι} {state : σ}
    (stays : ∀ item ∈ items, advance state item = some state) :
    items.foldlM advance state = some state := by
  induction items with
  | nil => rfl
  | cons item items induction =>
      obtain ⟨here, others⟩ := List.forall_mem_cons.mp stays
      rw [List.foldlM_cons, here]
      exact induction others

end Library
