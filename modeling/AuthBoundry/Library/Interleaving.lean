import AuthBoundry.Library.Reachability
import Mathlib.Logic.Function.Basic
import Mathlib.Logic.Function.Iterate

/-!
# Interleaved threads

Numbered threads take atomic steps on a shared state, in any order.  Between
two of them the outside may disturb the shared state.
-/

namespace Library

/-- What one thread of type `τ` does to a shared state of type `σ`, and what
the disturbances of type `ε` do to it. -/
structure ThreadProgram (σ τ ε : Type) where
  step : σ → τ → σ × τ
  disturb : σ → ε → σ

/-- A shared state with the states of all threads. -/
structure Interleaved (σ τ : Type) where
  shared : σ
  threads : Nat → τ

/-- Whose turn it is. -/
inductive Turn (ε : Type) where
  | thread (index : Nat)
  | outside (event : ε)
  deriving DecidableEq

namespace ThreadProgram

variable {σ τ ε : Type} (program : ThreadProgram σ τ ε)

def next (state : Interleaved σ τ) : Turn ε → Interleaved σ τ
  | .thread index =>
      let (shared, thread) := program.step state.shared (state.threads index)
      { shared, threads := Function.update state.threads index thread }
  | .outside event =>
      { state with shared := program.disturb state.shared event }

def interleaving (initial : Interleaved σ τ → Prop) :
    TransitionSystem (Interleaved σ τ) (Turn ε) :=
  { initial, step := program.next }

variable {program}

@[simp] theorem next_shared (state : Interleaved σ τ) (index : Nat) :
    (program.next state (.thread index)).shared =
      (program.step state.shared (state.threads index)).1 :=
  rfl

@[simp] theorem next_self (state : Interleaved σ τ) (index : Nat) :
    (program.next state (.thread index)).threads index =
      (program.step state.shared (state.threads index)).2 := by
  simp [next]

theorem next_other (state : Interleaved σ τ) {index other : Nat}
    (different : other ≠ index) :
    (program.next state (.thread index)).threads other =
      state.threads other := by
  simp [next, different]

/-- What every thread knows of the shared state, and what any two threads know
of each other. -/
structure Invariant (knows : σ → τ → Prop) (apart : τ → τ → Prop)
    (state : Interleaved σ τ) : Prop where
  each : ∀ index, knows state.shared (state.threads index)
  pairs : ∀ first second, first ≠ second →
    apart (state.threads first) (state.threads second)

/-- A step keeps the invariant when it keeps what its own thread knows, what
the other threads know, and what it and another one know of each other; the
outside has to keep what the threads know. -/
theorem Invariant.next {knows : σ → τ → Prop} {apart : τ → τ → Prop}
    (symmetric : ∀ first second, apart first second → apart second first)
    (own : ∀ shared thread, knows shared thread →
      knows (program.step shared thread).1 (program.step shared thread).2)
    (others : ∀ shared thread other, knows shared other →
      knows (program.step shared thread).1 other)
    (undisturbed : ∀ shared event thread, knows shared thread →
      knows (program.disturb shared event) thread)
    (keepsApart : ∀ shared thread other, knows shared other →
      apart thread other → apart (program.step shared thread).2 other)
    {state : Interleaved σ τ} (before : Invariant knows apart state)
    (turn : Turn ε) : Invariant knows apart (program.next state turn) := by
  obtain ⟨each, pairs⟩ := before
  cases turn with
  | outside event =>
      exact ⟨fun index => undisturbed _ event _ (each index), pairs⟩
  | thread index =>
      have apartFrom : ∀ other, other ≠ index →
          apart ((program.next state (.thread index)).threads index)
            (state.threads other) := by
        intro other different
        rw [next_self]
        exact keepsApart _ _ _ (each other)
          (pairs index other (Ne.symm different))
      constructor
      · intro other
        by_cases same : other = index
        · rw [same, next_shared, next_self]
          exact own _ _ (each index)
        · rw [next_shared, next_other state same]
          exact others _ _ _ (each other)
      · intro first second different
        by_cases isFirst : first = index
        · rw [isFirst] at different ⊢
          rw [next_other state (Ne.symm different)]
          exact apartFrom second (Ne.symm different)
        · by_cases isSecond : second = index
          · rw [isSecond, next_other state isFirst]
            exact symmetric _ _ (apartFrom first isFirst)
          · rw [next_other state isFirst, next_other state isSecond]
            exact pairs first second different

/-- A step as a function, to be repeated. -/
def stepPair (program : ThreadProgram σ τ ε) (pair : σ × τ) : σ × τ :=
  program.step pair.1 pair.2

theorem run_alone (program : ThreadProgram σ τ ε) (initial : Interleaved σ τ → Prop)
    (state : Interleaved σ τ) (index turns : Nat) :
    let last := program.stepPair^[turns] (state.shared, state.threads index)
    (program.interleaving initial).run state
        (List.replicate turns (.thread index)) =
      { shared := last.1
        threads := Function.update state.threads index last.2 } := by
  induction turns generalizing state with
  | zero => simp [TransitionSystem.run]
  | succ turns induction =>
      have rest := induction (program.next state (.thread index))
      rw [next_shared, next_self] at rest
      rw [List.replicate_succ, Function.iterate_succ_apply]
      refine rest.trans ?_
      simp [next, stepPair, Function.update_idem]

end ThreadProgram

end Library
