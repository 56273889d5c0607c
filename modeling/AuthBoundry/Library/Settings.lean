import Mathlib.Data.List.Forall2
import Mathlib.Data.List.Perm.Basic

/-!
# Settings in any order

A configuration is built by settings that are put one after another, each into
a slot of its own.  The order does not matter exactly when settings of one slot
agree.
-/

namespace Library

/-- Settings of different slots do not meet, and the last one of a slot
shows. -/
structure Slots {σ γ ι : Type} (slot : σ → ι) (put : γ → σ → γ) : Prop where
  commute (config : γ) {first second : σ} : slot first ≠ slot second →
    put (put config first) second = put (put config second) first
  shows {left right : γ} {first second : σ} : slot first = slot second →
    put left first = put right second → first = second

def Agree {σ ι : Type} (slot : σ → ι) (settings : List σ) : Prop :=
  ∀ first ∈ settings, ∀ second ∈ settings,
    slot first = slot second → first = second

section Settings

variable {σ γ ι : Type} {slot : σ → ι} {put : γ → σ → γ}

theorem Agree.foldl_eq {settings others : List σ}
    (agree : Agree slot settings)
    (commute : ∀ config first second, slot first ≠ slot second →
      put (put config first) second = put (put config second) first)
    (perm : settings.Perm others) (config : γ) :
    settings.foldl put config = others.foldl put config := by
  apply perm.foldl_eq'
  intro first one second two config
  by_cases same : slot first = slot second
  · rw [agree first one second two same]
  · exact commute config first second same

theorem view_foldl_eq_of_perm {δ : Type} {view : γ → δ} {change : δ → σ → δ}
    (changes : ∀ config setting,
      view (put config setting) = change (view config) setting)
    {settings others : List σ} (perm : settings.Perm others)
    (commute : ∀ first ∈ settings, ∀ second ∈ settings, ∀ seen,
      change (change seen first) second = change (change seen second) first)
    (config : γ) :
    view (settings.foldl put config) = view (others.foldl put config) := by
  have viewed : ∀ items : List σ, view (items.foldl put config) =
      items.foldl change (view config) := by
    intro items
    exact (List.foldl_hom view fun config setting =>
      (changes config setting).symm).symm
  rw [viewed, viewed]
  exact perm.foldl_eq' commute (view config)

/-- A member can be moved to the end. -/
theorem exists_perm_concat_of_mem {α : Type} {item : α} {items : List α}
    (member : item ∈ items) : ∃ rest, items.Perm (rest ++ [item]) := by
  obtain ⟨before, after, rfl⟩ := List.append_of_mem member
  refine ⟨before ++ after, ?_⟩
  have moved := (List.perm_append_singleton item after).symm
  rw [List.append_assoc]
  exact moved.append_left before

theorem Slots.foldl_iff (slots : Slots slot put) (settings : List σ)
    (config : γ) :
    (∀ others, settings.Perm others →
        others.foldl put config = settings.foldl put config) ↔
      Agree slot settings := by
  constructor
  · intro same first one second two slot
    obtain ⟨before, firstLast⟩ := exists_perm_concat_of_mem one
    obtain ⟨others, secondLast⟩ := exists_perm_concat_of_mem two
    have left := same _ firstLast
    have right := same _ secondLast
    rw [List.foldl_append, List.foldl_cons, List.foldl_nil] at left right
    exact slots.shows slot (left.trans right.symm)
  · intro agree others perm
    exact (agree.foldl_eq (fun config _ _ => slots.commute config) perm
      config).symm

end Settings

end Library
