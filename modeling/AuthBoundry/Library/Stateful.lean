import Mathlib.Init

/-!
# Stateful computations that may fail

A computation reads and writes a state and either returns a value or fails.
A failure keeps every write made before it, so what a computation guarantees
about the state has to be stated for both outcomes.  This module gives the two
primitive computations (a query and a commit), the inversion of a sequence,
and the rules that carry a relation between initial and final states through a
program.
-/

namespace Library

theorem except_ok_bind {ε α β : Type} (value : α) (next : α → Except ε β) :
    ((.ok value : Except ε α) >>= next) = next value := rfl

theorem except_error_bind {ε α β : Type} (failure : ε)
    (next : α → Except ε β) :
    ((.error failure : Except ε α) >>= next) = .error failure := rfl

/-- A fallible sequence succeeds exactly when both parts do. -/
theorem except_bind_eq_ok_iff {ε α β : Type} {first : Except ε α}
    {next : α → Except ε β} {result : β} :
    (first >>= next) = .ok result ↔
      ∃ value, first = .ok value ∧ next value = .ok result := by
  cases first with
  | error failure => simp [bind, Except.bind]
  | ok value => simp [bind, Except.bind]

/-- A check that returns nothing is passed before what follows it. -/
theorem except_check_bind_eq_ok_iff {ε β : Type} {first : Except ε Unit}
    {next : Unit → Except ε β} {result : β} :
    (first >>= next) = .ok result ↔
      first = .ok () ∧ next () = .ok result := by
  cases first with
  | error failure => simp [bind, Except.bind]
  | ok value => simp [bind, Except.bind]

theorem except_ok_mapError {ε δ α : Type} (value : α) (translate : ε → δ) :
    (.ok value : Except ε α).mapError translate = .ok value := rfl

theorem except_error_mapError {ε δ α : Type} (failure : ε)
    (translate : ε → δ) :
    (.error failure : Except ε α).mapError translate =
      .error (translate failure) := rfl

theorem except_mapError_eq_ok_iff {ε δ α : Type} {outcome : Except ε α}
    {translate : ε → δ} {value : α} :
    outcome.mapError translate = .ok value ↔ outcome = .ok value := by
  cases outcome with
  | error failure =>
      change (.error (translate failure) : Except δ α) = .ok value ↔ _
      simp
  | ok found =>
      change (.ok found : Except δ α) = .ok value ↔ _
      simp

theorem except_toOption_eq_some {ε α : Type} {outcome : Except ε α} {value : α}
    (found : outcome.toOption = some value) : outcome = .ok value := by
  cases outcome with
  | error failure => cases found
  | ok => cases found; rfl

/-- Fail under a condition. -/
def refuseIf {ε : Type} (condition : Bool) (failure : ε) : Except ε Unit :=
  if condition then .error failure else .ok ()

theorem refuseIf_eq_ok_iff {ε : Type} {condition : Bool} {failure : ε}
    {value : Unit} :
    refuseIf condition failure = .ok value ↔ condition = false := by
  unfold refuseIf
  cases condition <;> simp

namespace Stateful

variable {ε σ α β : Type}

/-- Ask a question of the state without changing it. -/
def inspect (query : σ → Except ε α) : EStateM ε σ α :=
  fun state =>
    match query state with
    | .ok value => .ok value state
    | .error failure => .error failure state

/-- A write that is refused as a whole or made as a whole. -/
def commit (write : σ → Except ε (α × σ)) : EStateM ε σ α :=
  fun state =>
    match write state with
    | .ok (value, written) => .ok value written
    | .error failure => .error failure state

def commitPart {τ : Type} (get : σ → τ) (set : σ → τ → σ)
    (write : τ → Except ε (α × τ)) : EStateM ε σ α :=
  commit fun state =>
    match write (get state) with
    | .ok (value, part) => .ok (value, set state part)
    | .error failure => .error failure

def onPart {τ : Type} (get : σ → τ) (set : σ → τ → σ)
    (program : EStateM ε τ α) : EStateM ε σ α :=
  fun state =>
    match program (get state) with
    | .ok value part => .ok value (set state part)
    | .error failure part => .error failure (set state part)

/-- A change that cannot be refused. -/
def assign (update : σ → σ) : EStateM ε σ Unit :=
  fun state => .ok () (update state)

/-- The state left behind, whatever the outcome. -/
def finalState : EStateM.Result ε σ α → σ
  | .ok _ state => state
  | .error _ state => state

@[simp] theorem finalState_ok (value : α) (state : σ) :
    finalState (.ok value state : EStateM.Result ε σ α) = state := rfl

@[simp] theorem finalState_error (failure : ε) (state : σ) :
    finalState (.error failure state : EStateM.Result ε σ α) = state := rfl

def returned : EStateM.Result ε σ α → Option (α × σ)
  | .ok value state => some (value, state)
  | .error _ _ => none

theorem returned_eq_some {outcome : EStateM.Result ε σ α} {value : α}
    {state : σ} (found : returned outcome = some (value, state)) :
    outcome = .ok value state := by
  cases outcome with
  | ok => cases found; rfl
  | error => cases found

def failure : EStateM.Result ε σ α → Option ε
  | .ok _ _ => none
  | .error failure _ => some failure

@[simp] theorem failure_ok (value : α) (state : σ) :
    failure (.ok value state : EStateM.Result ε σ α) = none := rfl

@[simp] theorem failure_error (err : ε) (state : σ) :
    failure (.error err state : EStateM.Result ε σ α) = some err := rfl

theorem bind_apply (program : EStateM ε σ α) (next : α → EStateM ε σ β)
    (state : σ) :
    (program >>= next) state =
      match program state with
      | .ok value middle => next value middle
      | .error failure middle => .error failure middle := rfl

theorem inspect_bind (query : σ → Except ε α) (next : α → EStateM ε σ β)
    (state : σ) :
    (inspect query >>= next) state =
      match query state with
      | .ok value => next value state
      | .error failure => .error failure state := by
  rw [bind_apply]
  unfold inspect
  cases query state <;> rfl

theorem commitPart_bind {τ : Type} (get : σ → τ) (set : σ → τ → σ)
    (write : τ → Except ε (α × τ)) (next : α → EStateM ε σ β) (state : σ) :
    (commitPart get set write >>= next) state =
      match write (get state) with
      | .ok (value, part) => next value (set state part)
      | .error failure => .error failure state := by
  rw [bind_apply]
  unfold commitPart commit
  cases answer : write (get state) <;> simp only [answer]

theorem commitPart_mapError_bind {δ τ : Type} (get : σ → τ) (set : σ → τ → σ)
    (translate : δ → ε) (write : τ → Except δ (α × τ))
    (next : α → EStateM ε σ β) (state : σ) :
    (commitPart get set (fun part => (write part).mapError translate) >>=
        next) state =
      match write (get state) with
      | .ok (value, part) => next value (set state part)
      | .error failure => .error (translate failure) state := by
  rw [commitPart_bind]
  cases write (get state) <;> rfl

theorem assign_bind (update : σ → σ) (next : Unit → EStateM ε σ β)
    (state : σ) :
    (assign update >>= next) state = next () (update state) := rfl

theorem onPart_bind {τ : Type} (get : σ → τ) (set : σ → τ → σ)
    (program : EStateM ε τ α) (next : α → EStateM ε σ β) (state : σ) :
    (onPart get set program >>= next) state =
      match program (get state) with
      | .ok value part => next value (set state part)
      | .error failure part => .error failure (set state part) := by
  rw [bind_apply]
  unfold onPart
  cases program (get state) <;> rfl

theorem finalState_inspect_bind (query : σ → Except ε α)
    (next : α → EStateM ε σ β) (state : σ) :
    finalState ((inspect query >>= next) state) =
      match query state with
      | .ok value => finalState (next value state)
      | .error _ => state := by
  rw [inspect_bind]
  cases query state <;> rfl

theorem finalState_commitPart_bind {τ : Type} (get : σ → τ) (set : σ → τ → σ)
    (write : τ → Except ε (α × τ)) (next : α → EStateM ε σ β) (state : σ) :
    finalState ((commitPart get set write >>= next) state) =
      match write (get state) with
      | .ok (value, part) => finalState (next value (set state part))
      | .error _ => state := by
  rw [commitPart_bind]
  cases write (get state) <;> rfl

/-- A sequence returns exactly when its first part does and the rest returns
from there. -/
theorem bind_eq_ok_iff
    {program : EStateM ε σ α} {next : α → EStateM ε σ β}
    {state final : σ} {result : β} :
    (program >>= next) state = .ok result final ↔
      ∃ value middle, program state = .ok value middle ∧
        next value middle = .ok result final := by
  rw [bind_apply]
  cases outcome : program state with
  | ok value middle =>
      constructor
      · intro finished
        exact ⟨value, middle, rfl, finished⟩
      · rintro ⟨_, _, same, finished⟩
        cases same
        exact finished
  | error failure middle => simp

theorem inspect_eq_ok_iff
    {query : σ → Except ε α} {state final : σ} {value : α} :
    inspect query state = .ok value final ↔
      query state = .ok value ∧ final = state := by
  unfold inspect
  cases answer : query state with
  | ok found => simp [eq_comm]
  | error failure => simp

theorem inspect_bind_eq_ok_iff {query : σ → Except ε α}
    {next : α → EStateM ε σ β} {state final : σ} {result : β} :
    (inspect query >>= next) state = .ok result final ↔
      ∃ value, query state = .ok value ∧
        next value state = .ok result final := by
  rw [inspect_bind]
  cases query state with
  | ok value => simp
  | error failure => simp

theorem commit_eq_ok_iff
    {write : σ → Except ε (α × σ)} {state final : σ} {value : α} :
    commit write state = .ok value final ↔
      write state = .ok (value, final) := by
  unfold commit
  cases answer : write state with
  | ok pair => simp [Prod.ext_iff]
  | error failure => simp

theorem commitPart_eq_ok_iff {τ : Type} {get : σ → τ} {set : σ → τ → σ}
    {write : τ → Except ε (α × τ)} {state final : σ} {value : α} :
    commitPart get set write state = .ok value final ↔
      ∃ part, write (get state) = .ok (value, part) ∧
        final = set state part := by
  unfold commitPart
  rw [commit_eq_ok_iff]
  cases answer : write (get state) with
  | ok pair =>
      obtain ⟨found, part⟩ := pair
      simp only [Except.ok.injEq, Prod.mk.injEq]
      constructor
      · intro same
        exact ⟨part, ⟨same.1, rfl⟩, same.2.symm⟩
      · intro same
        obtain ⟨_, ⟨sameValue, rfl⟩, rfl⟩ := same
        exact ⟨sameValue, rfl⟩
  | error failure => simp

/-- Whatever its outcome, `program` takes every state to a related one. -/
def Within (relation : σ → σ → Prop) (program : EStateM ε σ α) : Prop :=
  ∀ state, relation state (finalState (program state))

namespace Within

variable (relation : σ → σ → Prop)

theorem pure (reflexive : ∀ state, relation state state) (value : α) :
    Within relation (Pure.pure value : EStateM ε σ α) :=
  reflexive

theorem inspect (reflexive : ∀ state, relation state state)
    (query : σ → Except ε α) : Within relation (Stateful.inspect query) := by
  intro state
  unfold Stateful.inspect
  cases query state with
  | ok value => exact reflexive state
  | error failure => exact reflexive state

theorem commit (reflexive : ∀ state, relation state state)
    {write : σ → Except ε (α × σ)}
    (written : ∀ state value final, write state = .ok (value, final) →
      relation state final) :
    Within relation (Stateful.commit write) := by
  intro state
  unfold Stateful.commit
  cases outcome : write state with
  | ok pair => exact written state pair.1 pair.2 outcome
  | error failure => exact reflexive state

/-- Two parts with guarantees of their own, put together. -/
theorem seq {before after : σ → σ → Prop}
    (stopped : ∀ first middle, before first middle → relation first middle)
    (joined : ∀ first middle last, before first middle →
      after middle last → relation first last)
    {program : EStateM ε σ α} {next : α → EStateM ε σ β}
    (first : Within before program)
    (rest : ∀ value, Within after (next value)) :
    Within relation (program >>= next) := by
  intro state
  have reached := first state
  rw [bind_apply]
  cases outcome : program state with
  | ok value middle =>
      rw [outcome] at reached
      exact joined state middle _ reached (rest value middle)
  | error failure middle =>
      rw [outcome] at reached
      exact stopped state middle reached

theorem bind
    (transitive : ∀ first middle last, relation first middle →
      relation middle last → relation first last)
    {program : EStateM ε σ α} {next : α → EStateM ε σ β}
    (first : Within relation program)
    (rest : ∀ value, Within relation (next value)) :
    Within relation (program >>= next) :=
  seq relation (fun _ _ reached => reached) transitive first rest

end Within

/-- Whatever its outcome, `program` leaves `view` of the state alone. -/
abbrev Frames {γ : Type} (view : σ → γ) (program : EStateM ε σ α) : Prop :=
  Within (fun before after => view after = view before) program

namespace Frames

variable {γ : Type} {view : σ → γ}

theorem pure (value : α) :
    Frames view (Pure.pure value : EStateM ε σ α) :=
  fun _ => rfl

theorem inspect (query : σ → Except ε α) :
    Frames view (Stateful.inspect query) :=
  Within.inspect (fun before after => view after = view before)
    (fun _ => rfl) query

theorem commit {write : σ → Except ε (α × σ)}
    (written : ∀ state value final, write state = .ok (value, final) →
      view final = view state) :
    Frames view (Stateful.commit write) :=
  Within.commit (fun before after => view after = view before)
    (fun _ => rfl) written

theorem commitPart {τ : Type} {get : σ → τ} {set : σ → τ → σ}
    {write : τ → Except ε (α × τ)}
    (hidden : ∀ state value part, write (get state) = .ok (value, part) →
      view (set state part) = view state) :
    Frames view (Stateful.commitPart get set write) := by
  apply Frames.commit
  intro state value final written
  cases answer : write (get state) with
  | ok pair =>
      simp only [answer, Except.ok.injEq, Prod.mk.injEq] at written
      rw [← written.2]
      exact hidden state pair.1 pair.2 answer
  | error failure => simp [answer] at written

theorem bind {program : EStateM ε σ α} {next : α → EStateM ε σ β}
    (first : Frames view program) (rest : ∀ value, Frames view (next value)) :
    Frames view (program >>= next) :=
  Within.bind (fun before after => view after = view before)
    (fun _ _ _ before after => after.trans before) first rest

end Frames

end Stateful

end Library
