import AuthBoundry.Library.Stateful

/-!
# Refusals, failures and unread parts

A refusal fails and leaves the state as it was; other failures end in a state
that has to be accepted as it is.  A program that does not read a part of the
state does the same whatever that part holds.
-/

namespace Library.Stateful

variable {ε δ σ τ α β : Type}

/-- Run a program for its effect, whatever its outcome. -/
def attempt (program : EStateM δ σ α) : EStateM ε σ Unit :=
  fun state => .ok () (finalState (program state))

/-- Report the failures of a program in other words. -/
def translate (words : δ → ε) (program : EStateM δ σ α) : EStateM ε σ α :=
  fun state =>
    match program state with
    | .ok value final => .ok value final
    | .error failure final => .error (words failure) final

theorem finalState_translate (words : δ → ε) (program : EStateM δ σ α)
    (state : σ) :
    finalState (translate words program state) = finalState (program state) := by
  unfold translate
  cases program state <;> rfl

theorem finalState_map (convert : α → β) (program : EStateM ε σ α)
    (state : σ) :
    finalState ((convert <$> program) state) = finalState (program state) := by
  change finalState ((program >>= fun value => pure (convert value)) state) = _
  rw [bind_apply]
  cases program state <;> rfl

theorem finalState_onPart (get : σ → τ) (set : σ → τ → σ)
    (program : EStateM ε τ α) (state : σ) :
    finalState (onPart get set program state) =
      set state (finalState (program (get state))) := by
  unfold onPart
  cases program (get state) <;> rfl

/-! ## Refusals -/

/-- The program fails and leaves the state as it was. -/
def Refuses (program : EStateM ε σ α) (state : σ) : Prop :=
  ∃ failure, program state = .error failure state

theorem not_refuses_of_final {program : EStateM ε σ α} {state : σ}
    (moved : finalState (program state) ≠ state) : ¬Refuses program state := by
  rintro ⟨failure, refused⟩
  rw [refused] at moved
  exact moved rfl

theorem not_refuses_of_ok {program : EStateM ε σ α} {state final : σ}
    {value : α} (returned : program state = .ok value final) :
    ¬Refuses program state := by
  rintro ⟨failure, refused⟩
  rw [returned] at refused
  cases refused

theorem not_refuses_pure (value : α) (state : σ) :
    ¬Refuses (pure value : EStateM ε σ α) state :=
  not_refuses_of_ok rfl

theorem not_refuses_inspect_bind_iff {query : σ → Except ε α}
    {next : α → EStateM ε σ β} {state : σ} :
    ¬Refuses (inspect query >>= next) state ↔
      ∃ value, query state = .ok value ∧ ¬Refuses (next value) state := by
  unfold Refuses
  rw [inspect_bind]
  cases query state with
  | error failure => simp
  | ok value => simp

/-- What leaves the state alone and succeeds is not where a program refuses;
what changes the state or fails with a change is no refusal. -/
theorem not_refuses_bind_iff {program : EStateM ε σ α}
    {next : α → EStateM ε σ β} {state : σ} :
    ¬Refuses (program >>= next) state ↔
      ¬Refuses program state ∧ ∀ value middle,
        program state = .ok value middle →
        ∀ failure, next value middle ≠ .error failure state := by
  unfold Refuses
  rw [bind_apply]
  cases program state with
  | error failure middle => simp
  | ok value middle => simp

theorem refuses_translate_iff {words : δ → ε} {program : EStateM δ σ α}
    {state : σ} :
    Refuses (translate words program) state ↔ Refuses program state := by
  unfold Refuses translate
  cases program state with
  | ok value final => simp
  | error failure final => simp

theorem refuses_map_iff {convert : α → β} {program : EStateM ε σ α}
    {state : σ} : Refuses (convert <$> program) state ↔ Refuses program state := by
  have mapped : (convert <$> program) state =
      match program state with
      | .ok value final => .ok (convert value) final
      | .error failure final => .error failure final := rfl
  unfold Refuses
  rw [mapped]
  cases program state with
  | ok value final => simp
  | error failure final => simp

theorem refuses_onPart_iff {get : σ → τ} {set : σ → τ → σ}
    {program : EStateM ε τ α} {state : σ}
    (same : ∀ failure part, program (get state) = .error failure part →
      (set state part = state ↔ part = get state)) :
    Refuses (onPart get set program) state ↔ Refuses program (get state) := by
  unfold Refuses onPart
  cases failed : program (get state) with
  | ok value final => simp
  | error failure final => simp [same failure final failed]

/-! ## Where failures end -/

def Succeeds (program : EStateM ε σ α) (state : σ) : Prop :=
  ∃ value final, program state = .ok value final

theorem succeeds_pure (value : α) (state : σ) :
    Succeeds (pure value : EStateM ε σ α) state :=
  ⟨value, state, rfl⟩

theorem succeeds_inspect_bind_iff {query : σ → Except ε α}
    {next : α → EStateM ε σ β} {state : σ} :
    Succeeds (inspect query >>= next) state ↔
      ∃ value, query state = .ok value ∧ Succeeds (next value) state := by
  unfold Succeeds
  rw [inspect_bind]
  cases query state with
  | error failure => simp
  | ok value => simp

theorem succeeds_bind_iff {program : EStateM ε σ α}
    {next : α → EStateM ε σ β} {state : σ} :
    Succeeds (program >>= next) state ↔
      ∃ value middle, program state = .ok value middle ∧
        Succeeds (next value) middle := by
  unfold Succeeds
  simp only [bind_eq_ok_iff]
  constructor
  · rintro ⟨result, final, value, middle, first, rest⟩
    exact ⟨value, middle, first, result, final, rest⟩
  · rintro ⟨value, middle, first, result, final, rest⟩
    exact ⟨result, final, value, middle, first, rest⟩

theorem succeeds_onPart_iff {get : σ → τ} {set : σ → τ → σ}
    {program : EStateM ε τ α} {state : σ} :
    Succeeds (onPart get set program) state ↔ Succeeds program (get state) := by
  unfold Succeeds onPart
  cases program (get state) with
  | ok value part => simp
  | error failure part => simp

theorem succeeds_map_iff {convert : α → β} {program : EStateM ε σ α}
    {state : σ} :
    Succeeds (convert <$> program) state ↔ Succeeds program state := by
  change Succeeds (program >>= fun value => pure (convert value)) state ↔ _
  rw [succeeds_bind_iff]
  constructor
  · rintro ⟨value, middle, first, _⟩
    exact ⟨value, middle, first⟩
  · rintro ⟨value, middle, first⟩
    exact ⟨value, middle, first, succeeds_pure _ _⟩

def FailsTo (accepted : σ → Prop) (program : EStateM ε σ α) (state : σ) :
    Prop :=
  ∀ failure final, program state = .error failure final → accepted final

section FailsTo

variable {accepted : σ → Prop} {state : σ}

theorem failsTo_pure (value : α) :
    FailsTo accepted (pure value : EStateM ε σ α) state := by
  intro failure final failed
  cases failed

/-- A single write that fails has written nothing. -/
theorem failsTo_commit {write : σ → Except ε (α × σ)} :
    FailsTo (Eq state) (commit write) state := by
  intro failure final failed
  unfold commit at failed
  cases outcome : write state with
  | ok written =>
      rw [outcome] at failed
      cases failed
  | error refusal =>
      rw [outcome] at failed
      cases failed
      rfl

theorem failsTo_inspect_bind_iff {query : σ → Except ε α}
    {next : α → EStateM ε σ β} (here : accepted state) :
    FailsTo accepted (inspect query >>= next) state ↔
      ∀ value, query state = .ok value →
        FailsTo accepted (next value) state := by
  unfold FailsTo
  rw [inspect_bind]
  cases query state with
  | error failure => simpa using here
  | ok value => simp

theorem failsTo_bind_iff {program : EStateM ε σ α}
    {next : α → EStateM ε σ β} :
    FailsTo accepted (program >>= next) state ↔
      FailsTo accepted program state ∧ ∀ value middle,
        program state = .ok value middle →
          FailsTo accepted (next value) middle := by
  unfold FailsTo
  rw [bind_apply]
  cases program state with
  | error failure middle => simp
  | ok value middle => simp

theorem failsTo_iff_succeeds {program : EStateM ε σ α}
    (rejected : ¬accepted (finalState (program state))) :
    FailsTo accepted program state ↔ Succeeds program state := by
  unfold FailsTo Succeeds
  cases outcome : program state with
  | error failure final =>
      rw [outcome] at rejected
      simpa using rejected
  | ok value final => simp

end FailsTo

/-! ## Unread parts -/

def mapState (change : σ → σ) :
    EStateM.Result ε σ α → EStateM.Result ε σ α
  | .ok value state => .ok value (change state)
  | .error failure state => .error failure (change state)

/-- The program does the same before and after the change, and does not undo
it. -/
def Ignores (change : σ → σ) (program : EStateM ε σ α) : Prop :=
  ∀ state, program (change state) = mapState change (program state)

namespace Ignores

variable {change : σ → σ}

theorem pure (value : α) :
    Ignores change (Pure.pure value : EStateM ε σ α) :=
  fun _ => rfl

theorem throw (failure : ε) :
    Ignores change (MonadExcept.throw failure : EStateM ε σ α) :=
  fun _ => rfl

theorem inspect {query : σ → Except ε α}
    (unread : ∀ state, query (change state) = query state) :
    Ignores change (Stateful.inspect query) := by
  intro state
  unfold Stateful.inspect
  rw [unread]
  cases query state <;> rfl

theorem bind {program : EStateM ε σ α} {next : α → EStateM ε σ β}
    (first : Ignores change program)
    (rest : ∀ value, Ignores change (next value)) :
    Ignores change (program >>= next) := by
  intro state
  rw [bind_apply, bind_apply, first state]
  cases program state with
  | error failure middle => rfl
  | ok value middle => exact rest value middle

theorem map {convert : α → β} {program : EStateM ε σ α}
    (ignores : Ignores change program) :
    Ignores change (convert <$> program) := by
  have mapped : ∀ state, (convert <$> program) state =
      match program state with
      | .ok value final => .ok (convert value) final
      | .error failure final => .error failure final := fun _ => rfl
  intro state
  rw [mapped, mapped, ignores state]
  cases program state <;> rfl

theorem onChangedPart {partChange : τ → τ} {get : σ → τ} {set : σ → τ → σ}
    {program : EStateM ε τ α} (ignores : Ignores partChange program)
    (read : ∀ state, get (change state) = partChange (get state))
    (written : ∀ state part,
      set (change state) (partChange part) = change (set state part)) :
    Ignores change (Stateful.onPart get set program) := by
  intro state
  unfold Stateful.onPart
  rw [read, ignores]
  cases program (get state) with
  | ok value part => exact congrArg (EStateM.Result.ok value) (written state part)
  | error failure part =>
      exact congrArg (EStateM.Result.error failure) (written state part)

theorem onPart {get : σ → τ} {set : σ → τ → σ}
    {program : EStateM ε τ α} (unread : ∀ state, get (change state) = get state)
    (apart : ∀ state part, set (change state) part = change (set state part)) :
    Ignores change (Stateful.onPart get set program) := by
  refine onChangedPart ?_ unread apart
  intro part
  change program part = mapState (fun part => part) (program part)
  cases program part <;> rfl

theorem translate {words : δ → ε} {program : EStateM δ σ α}
    (ignores : Ignores change program) :
    Ignores change (Stateful.translate words program) := by
  intro state
  unfold Stateful.translate
  rw [ignores state]
  cases program state <;> rfl

theorem attempt {program : EStateM δ σ α} (ignores : Ignores change program) :
    Ignores change (Stateful.attempt program : EStateM ε σ Unit) := by
  intro state
  unfold Stateful.attempt
  rw [ignores state]
  cases program state <;> rfl

end Ignores

end Library.Stateful
