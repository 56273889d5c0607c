import AuthBoundry.Library.Reachability
import Mathlib.Logic.Function.Basic

/-!
# Programs that make requests

A program is what it asks next and how it goes on with the answer.  Programs
that share a store take turns: in one turn a program has one request served,
and between two of its turns the others may change the store.

`Program.Keeps` is a rule of partial correctness that is independent of the
store: it says of every request what has been answered when it is made.
-/

namespace Library

variable {Request : Type} {Answer : Request → Type} {σ ε α β error : Type}

inductive Program (Request : Type) (Answer : Request → Type) (α : Type) where
  | done (value : α)
  | ask (request : Request)
      (resume : Answer request → Program Request Answer α)

namespace Program

def bind (next : α → Program Request Answer β) :
    Program Request Answer α → Program Request Answer β
  | .done value => next value
  | .ask request resume => .ask request fun answer => bind next (resume answer)

instance : Monad (Program Request Answer) where
  pure := .done
  bind := fun program next => program.bind next

end Program

/-- A request with the answer it was given. -/
structure Exchange (Request : Type) (Answer : Request → Type) where
  request : Request
  answer : Answer request

/-- Programs that may fail. -/
abbrev Procedure (Request : Type) (Answer : Request → Type) (error : Type) :=
  ExceptT error (Program Request Answer)

/-! ## What is known when a request is made -/

namespace Program

/-- Whatever the answers are, each request and the result find the exchanges
before them, the last one first, as stated. -/
def Keeps (asks : List (Exchange Request Answer) → Request → Prop)
    (returns : List (Exchange Request Answer) → α → Prop) :
    List (Exchange Request Answer) → Program Request Answer α → Prop
  | asked, .done value => returns asked value
  | asked, .ask request resume =>
      asks asked request ∧
        ∀ answer, Keeps asks returns (⟨request, answer⟩ :: asked)
          (resume answer)

variable {asks : List (Exchange Request Answer) → Request → Prop}

theorem Keeps.bind {between : List (Exchange Request Answer) → α → Prop}
    {returns : List (Exchange Request Answer) → β → Prop}
    {next : α → Program Request Answer β} {program : Program Request Answer α}
    {asked : List (Exchange Request Answer)}
    (first : program.Keeps asks between asked)
    (rest : ∀ asked value, between asked value →
      (next value).Keeps asks returns asked) :
    (program.bind next).Keeps asks returns asked := by
  induction program generalizing asked with
  | done value => exact rest asked value first
  | ask request resume induction =>
      obtain ⟨allowed, kept⟩ := first
      exact ⟨allowed, fun answer => induction answer (kept answer)⟩

end Program

namespace Procedure

variable {asks : List (Exchange Request Answer) → Request → Prop}
  {returns : List (Exchange Request Answer) → β → Prop}
  {fails : List (Exchange Request Answer) → error → Prop}

/-- The two ways in which a procedure ends. -/
def Ends (returns : List (Exchange Request Answer) → α → Prop)
    (fails : List (Exchange Request Answer) → error → Prop)
    (asked : List (Exchange Request Answer)) : Except error α → Prop
  | .ok value => returns asked value
  | .error err => fails asked err

/-- `Program.Keeps` for a procedure that returns or fails. -/
def Keeps (asks : List (Exchange Request Answer) → Request → Prop)
    (returns : List (Exchange Request Answer) → α → Prop)
    (fails : List (Exchange Request Answer) → error → Prop)
    (asked : List (Exchange Request Answer))
    (procedure : Procedure Request Answer error α) : Prop :=
  Program.Keeps asks (Ends returns fails) asked procedure.run

theorem Keeps.pure {value : β} {asked : List (Exchange Request Answer)}
    (holds : returns asked value) :
    Keeps asks returns fails asked
      (Pure.pure value : Procedure Request Answer error β) :=
  holds

theorem Keeps.throw {err : error} {asked : List (Exchange Request Answer)}
    (holds : fails asked err) :
    Keeps asks returns fails asked
      (MonadExcept.throw err : Procedure Request Answer error β) :=
  holds

theorem Keeps.bind {between : List (Exchange Request Answer) → α → Prop}
    {procedure : Procedure Request Answer error α}
    {next : α → Procedure Request Answer error β}
    {asked : List (Exchange Request Answer)}
    (first : Keeps asks between fails asked procedure)
    (rest : ∀ asked value, between asked value →
      Keeps asks returns fails asked (next value)) :
    Keeps asks returns fails asked (procedure >>= next) := by
  apply Program.Keeps.bind first
  intro asked result ended
  cases result with
  | error err => exact ended
  | ok value => exact rest asked value ended

theorem Keeps.tryCatch {inside : List (Exchange Request Answer) → error → Prop}
    {procedure : Procedure Request Answer error β}
    {handle : error → Procedure Request Answer error β}
    {asked : List (Exchange Request Answer)}
    (first : Keeps asks returns inside asked procedure)
    (rest : ∀ asked err, inside asked err →
      Keeps asks returns fails asked (handle err)) :
    Keeps asks returns fails asked (MonadExcept.tryCatch procedure handle) := by
  apply Program.Keeps.bind first
  intro asked result ended
  cases result with
  | error err => exact rest asked err ended
  | ok value => exact ended

end Procedure

/-! ## A program on its own -/

/-- How a store answers a request, and what it is afterwards; the event stands
for what the store does not decide. -/
abbrev Service (σ ε Request : Type) (Answer : Request → Type) :=
  σ → (request : Request) → ε → Answer request × σ

namespace Program

variable {service : Service σ ε Request Answer}

/-- A program that nothing interrupts takes a store to another one. -/
inductive Runs (service : Service σ ε Request Answer) :
    σ → Program Request Answer α → α → σ → Prop where
  | done {store : σ} {value : α} : Runs service store (.done value) value store
  | ask {store last : σ} {request : Request}
      {resume : Answer request → Program Request Answer α} {value : α}
      (event : ε)
      (rest : Runs service (service store request event).2
        (resume (service store request event).1) value last) :
      Runs service store (.ask request resume) value last

theorem runs_done_iff {store last : σ} {value result : α} :
    Runs service store (.done value : Program Request Answer α) result last ↔
      value = result ∧ store = last := by
  constructor
  · intro run
    cases run
    exact ⟨rfl, rfl⟩
  · rintro ⟨rfl, rfl⟩
    exact .done

theorem runs_ask_iff {store last : σ} {request : Request}
    {resume : Answer request → Program Request Answer α} {result : α} :
    Runs service store (.ask request resume) result last ↔
      ∃ event, Runs service (service store request event).2
        (resume (service store request event).1) result last := by
  constructor
  · intro run
    cases run with
    | ask event rest => exact ⟨event, rest⟩
  · rintro ⟨event, rest⟩
    exact .ask event rest

theorem runs_bind_iff {store last : σ} {program : Program Request Answer α}
    {next : α → Program Request Answer β} {result : β} :
    Runs service store (program.bind next) result last ↔
      ∃ value middle, Runs service store program value middle ∧
        Runs service middle (next value) result last := by
  induction program generalizing store with
  | done value =>
      constructor
      · intro run
        exact ⟨value, store, .done, run⟩
      · rintro ⟨value, middle, first, rest⟩
        obtain ⟨rfl, rfl⟩ := runs_done_iff.mp first
        exact rest
  | ask request resume induction =>
      constructor
      · intro run
        obtain ⟨event, run⟩ := runs_ask_iff.mp run
        obtain ⟨value, middle, first, rest⟩ := (induction _).mp run
        exact ⟨value, middle, .ask event first, rest⟩
      · rintro ⟨value, middle, first, rest⟩
        obtain ⟨event, first⟩ := runs_ask_iff.mp first
        exact .ask event ((induction _).mpr ⟨value, middle, first, rest⟩)

end Program

namespace Procedure

variable {service : Service σ ε Request Answer}

/-- A procedure that nothing interrupts returns. -/
def Returns (service : Service σ ε Request Answer) (store : σ)
    (procedure : Procedure Request Answer error α) (value : α) (last : σ) :
    Prop :=
  Program.Runs service store procedure.run (.ok value) last

theorem returns_pure_iff {store last : σ} {value result : α} :
    Returns service store (pure value : Procedure Request Answer error α)
        result last ↔ value = result ∧ store = last := by
  refine Program.runs_done_iff.trans ?_
  rw [Except.ok.injEq]

theorem not_returns_throw {store last : σ} {err : error} {result : α} :
    ¬Returns service store
      (throw err : Procedure Request Answer error α) result last := by
  intro returned
  obtain ⟨impossible, -⟩ := Program.runs_done_iff.mp returned
  cases impossible

theorem returns_bind_iff {store last : σ}
    {procedure : Procedure Request Answer error α}
    {next : α → Procedure Request Answer error β} {result : β} :
    Returns service store (procedure >>= next) result last ↔
      ∃ value middle, Returns service store procedure value middle ∧
        Returns service middle (next value) result last := by
  refine Program.runs_bind_iff.trans ?_
  constructor
  · rintro ⟨value | value, middle, first, rest⟩
    · cases rest
    · exact ⟨value, middle, first, rest⟩
  · rintro ⟨value, middle, first, rest⟩
    exact ⟨.ok value, middle, first, rest⟩

/-- Where the handler only fails again, a return is a return of the guarded
procedure. -/
theorem returns_rethrow_iff {store last : σ}
    {procedure : Procedure Request Answer error α} {rename : error → error}
    {result : α} :
    Returns service store
        (tryCatch procedure fun err => throw (rename err)) result last ↔
      Returns service store procedure result last := by
  refine Program.runs_bind_iff.trans ?_
  constructor
  · rintro ⟨value | value, middle, first, rest⟩
    · exact absurd rest not_returns_throw
    · obtain ⟨same, rfl⟩ := Program.runs_done_iff.mp rest
      rw [same] at first
      exact first
  · intro returned
    exact ⟨.ok result, last, returned, .done⟩

end Procedure

/-! ## Programs that take turns -/

/-- A program under way, with its exchanges, the last one first. -/
structure Thread (Request : Type) (Answer : Request → Type) (α : Type) where
  program : Program Request Answer α
  asked : List (Exchange Request Answer)

namespace Thread

/-- One turn: the pending request is served. -/
def turn (service : Service σ ε Request Answer) (store : σ)
    (thread : Thread Request Answer α) (event : ε) :
    σ × Thread Request Answer α :=
  match thread.program with
  | .done _ => (store, thread)
  | .ask request resume =>
      let (answer, after) := service store request event
      (after, { program := resume answer
                asked := ⟨request, answer⟩ :: thread.asked })

end Thread

/-- A store and the programs that share it. -/
structure Pool (σ Request : Type) (Answer : Request → Type) (α : Type) where
  store : σ
  threads : Nat → Thread Request Answer α

namespace Pool

def next (service : Service σ ε Request Answer)
    (pool : Pool σ Request Answer α) (turn : Nat × ε) :
    Pool σ Request Answer α :=
  let (store, thread) :=
    (pool.threads turn.1).turn service pool.store turn.2
  { store, threads := Function.update pool.threads turn.1 thread }

/-- All interleavings of the given programs, on any store. -/
def interleaving (service : Service σ ε Request Answer)
    (programs : Nat → Program Request Answer α) :
    TransitionSystem (Pool σ Request Answer α) (Nat × ε) where
  initial := fun pool =>
    ∀ index, pool.threads index = { program := programs index, asked := [] }
  step := next service

variable {service : Service σ ε Request Answer}
  {pool : Pool σ Request Answer α}

theorem next_of_done {turn : Nat × ε} {value : α}
    (finished : (pool.threads turn.1).program = .done value) :
    pool.next service turn = pool := by
  rw [next, Thread.turn, finished]
  simp only [Function.update_eq_self]

theorem next_of_ask {turn : Nat × ε} {request : Request}
    {resume : Answer request → Program Request Answer α}
    (pending : (pool.threads turn.1).program = .ask request resume) :
    pool.next service turn =
      { store := (service pool.store request turn.2).2
        threads := Function.update pool.threads turn.1
          { program := resume (service pool.store request turn.2).1
            asked := ⟨request, (service pool.store request turn.2).1⟩ ::
              (pool.threads turn.1).asked } } := by
  rw [next, Thread.turn, pending]

theorem keeps_of_reachable {programs : Nat → Program Request Answer α}
    {asks : Nat → List (Exchange Request Answer) → Request → Prop}
    {returns : Nat → List (Exchange Request Answer) → α → Prop}
    (each : ∀ index,
      (programs index).Keeps (asks index) (returns index) [])
    (reached : (interleaving service programs).Reachable pool) (index : Nat) :
    (pool.threads index).program.Keeps (asks index) (returns index)
      (pool.threads index).asked := by
  revert index
  apply reached.invariant
  · intro pool initial index
    rw [initial index]
    exact each index
  · intro pool turn _ _ holds index
    change ((pool.next service turn).threads index).program.Keeps _ _
      ((pool.next service turn).threads index).asked
    cases pending : (pool.threads turn.1).program with
    | done value =>
        rw [next_of_done pending]
        exact holds index
    | ask request resume =>
        rw [next_of_ask pending]
        by_cases same : index = turn.1
        · rw [same]
          have kept := holds turn.1
          rw [pending] at kept
          simpa using kept.2 _
        · simpa [same] using holds index

end Pool

end Library
