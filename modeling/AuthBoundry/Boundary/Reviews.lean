import AuthBoundry.Boundary.ProposalFailures
import AuthBoundry.Library.Interleaving

/-!
# Concurrent reviews

Any number of reviewers approve, reject and apply at the same time.  Each of
their calls reads the stored proposal, checks it and writes in separate steps.
Only the live authority state is locked, by an application from its last check
until its record is stored; the stored proposals are not.
-/

namespace AuthBoundry

open Library
open Library.Stateful
open MemoryProposalStore (port)

/-- The runtime between two steps.  While an application holds the write lock
on the live authority state, nobody else reads it. -/
structure ReviewedRuntime where
  runtime : ProposalRuntime MemoryProposalStore
  writing : Bool

namespace ReviewedRuntime

def authority (self : ReviewedRuntime) : LiveAuthorityState :=
  self.runtime.authority

def proposals (self : ReviewedRuntime) : MemoryProposalStore :=
  self.runtime.proposals

def changeProposals (self : ReviewedRuntime)
    (proposals : MemoryProposalStore) : ReviewedRuntime :=
  { self with runtime := self.runtime.changeProposals proposals }

def release (self : ReviewedRuntime) : ReviewedRuntime :=
  { self with writing := false }

def statusOf (self : ReviewedRuntime) (proposalId : String) :
    Option ProposalStatus :=
  self.proposals.proposals[proposalId]?.map StoredProposal.status

end ReviewedRuntime

/-- What a call returns when it succeeds. -/
inductive ReviewAnswer where
  | done
  | changed (changeId : String)
  | applied (changeId : String) (revision : Nat)

/-- Where a call stands.  An application that was called for a stored proposal
reads the revision back at the end. -/
inductive Reviewer where
  | approve (proposalId : String)
  | approveCurrent (proposalId : String) (stored : StoredProposal)
  | approveMark (proposalId : String)
  | reject (proposalId reason : String)
  | rejectMark (proposalId reason : String)
  | applyStored (proposalId : String) (approval : Approval)
      (clock : Nat → Nat)
  | applyCurrent (stored : StoredProposal) (approval : Approval)
      (clock : Nat → Nat)
  | apply (proposal : ChangeProposal) (approval : Approval)
      (clock : Nat → Nat) (fromStore : Bool)
  | applyMark (record : ChangeRecord) (clock : Nat → Nat) (fromStore : Bool)
  | applyRecord (record : ChangeRecord) (fromStore : Bool)
  | applyRevision (changeId : String)
  | finished (answer : Except String ReviewAnswer)

namespace Reviewer

/-- A call that has not begun. -/
inductive Waiting : Reviewer → Prop where
  | approve (proposalId : String) : Waiting (.approve proposalId)
  | reject (proposalId reason : String) : Waiting (.reject proposalId reason)
  | applyStored (proposalId : String) (approval : Approval)
      (clock : Nat → Nat) : Waiting (.applyStored proposalId approval clock)
  | apply (proposal : ChangeProposal) (approval : Approval)
      (clock : Nat → Nat) : Waiting (.apply proposal approval clock false)

/-- What `approve_stored_proposal` does with the proposal it has read. -/
def approveRead (proposalId : String) (stored : StoredProposal) : Reviewer :=
  match stored.status with
  | .pending => .approveCurrent proposalId stored
  | .approved => .finished (.ok .done)
  | .applied =>
      .finished (.error s!"proposal `{proposalId}` is already applied")
  | .rejected => .finished (.error s!"proposal `{proposalId}` is rejected")
  | status =>
      .finished (.error
        s!"proposal `{proposalId}` is {status.asStr} and requires reconciliation review")

/-- What `reject_stored_proposal` does with the proposal it has read. -/
def rejectRead (proposalId reason : String) (stored : StoredProposal) :
    Reviewer :=
  match stored.status with
  | .applied =>
      .finished (.error s!"proposal `{proposalId}` is already applied")
  | .rejected => .finished (.ok .done)
  | _ => .rejectMark proposalId reason

/-- What `apply_stored_proposal` does with the proposal it has read. -/
def applyRead (proposalId : String) (approval : Approval)
    (clock : Nat → Nat) (stored : StoredProposal) : Reviewer :=
  if stored.status != .approved then
    .finished (.error s!"proposal `{proposalId}` is not approved")
  else
    .applyCurrent stored approval clock

/-- A read of the store, and how the call goes on from it. -/
def read (shared : ReviewedRuntime) (proposalId : String)
    (next : StoredProposal → Reviewer) : Reviewer :=
  match port.retrieveProposal shared.proposals proposalId with
  | .error err => .finished (.error err)
  | .ok stored => next stored

/-- A check against the live authority state, and how the call goes on. -/
def check (shared : ReviewedRuntime) (stored : StoredProposal)
    (next : Reviewer) : Reviewer :=
  match shared.runtime.verifyStoredProposalIsCurrent port stored with
  | .error err => .finished (.error err)
  | .ok () => next

variable (hashChange : AuthorityChange → UInt64)

/-- One atomic step.  A call that needs the live authority state waits while
an application holds it. -/
def step (shared : ReviewedRuntime) : Reviewer → ReviewedRuntime × Reviewer
  | .approve proposalId =>
      (shared, read shared proposalId (approveRead proposalId))
  | .approveCurrent proposalId stored =>
      if shared.writing then
        (shared, .approveCurrent proposalId stored)
      else
        (shared, check shared stored (.approveMark proposalId))
  | .approveMark proposalId =>
      match port.markApproved proposalId shared.proposals with
      | .ok () proposals =>
          (shared.changeProposals proposals, .finished (.ok .done))
      | .error err proposals =>
          (shared.changeProposals proposals, .finished (.error err))
  | .reject proposalId reason =>
      (shared, read shared proposalId (rejectRead proposalId reason))
  | .rejectMark proposalId reason =>
      match port.markRejected proposalId reason shared.proposals with
      | .ok () proposals =>
          (shared.changeProposals proposals, .finished (.ok .done))
      | .error err proposals =>
          (shared.changeProposals proposals, .finished (.error err))
  | .applyStored proposalId approval clock =>
      (shared, read shared proposalId (applyRead proposalId approval clock))
  | .applyCurrent stored approval clock =>
      if shared.writing then
        (shared, .applyCurrent stored approval clock)
      else
        (shared,
          check shared stored (.apply stored.toProposal approval clock true))
  | .apply proposal approval clock fromStore =>
      -- The token is checked before the lock is taken.
      if shared.writing && approval.verify hashChange proposal then
        (shared, .apply proposal approval clock fromStore)
      else
        match shared.runtime.plannedChange port hashChange clock proposal
            approval with
        | .error err => (shared, .finished (.error err))
        | .ok record =>
            ({ runtime := shared.runtime.changeAuthority record.resultingState
               writing := true },
              .applyMark record clock fromStore)
  | .applyMark record clock fromStore =>
      match port.markApplied (clock 1) record.proposalId record.changeId
          record.resultingState.revision shared.proposals with
      | .ok () proposals =>
          (shared.changeProposals proposals, .applyRecord record fromStore)
      | .error err proposals =>
          ((shared.changeProposals proposals).release, .finished (.error err))
  | .applyRecord record fromStore =>
      match port.storeChangeRecord record shared.proposals with
      | .ok () proposals =>
          ((shared.changeProposals proposals).release,
            if fromStore then .applyRevision record.changeId
            else .finished (.ok (.changed record.changeId)))
      | .error err proposals =>
          ((shared.changeProposals proposals).release, .finished (.error err))
  | .applyRevision changeId =>
      if shared.writing then
        (shared, .applyRevision changeId)
      else
        (shared,
          .finished (.ok (.applied changeId shared.authority.revision)))
  | .finished answer => (shared, .finished answer)

end Reviewer

/-- Nothing but the calls touches the runtime. -/
def reviewProgram (hashChange : AuthorityChange → UInt64) :
    ThreadProgram ReviewedRuntime Reviewer Empty :=
  { step := Reviewer.step hashChange
    disturb := fun shared _ => shared }

/-- All interleavings of any calls, from any runtime that nobody writes. -/
def reviewSystem (hashChange : AuthorityChange → UInt64) :
    TransitionSystem (Interleaved ReviewedRuntime Reviewer) (Turn Empty) :=
  (reviewProgram hashChange).interleaving fun state =>
    state.shared.writing = false ∧ ∀ index, (state.threads index).Waiting

/-! ## The claim on stored statuses -/

/-- The moves of a proposal through its review. -/
inductive ProposalStatus.MovesTo : ProposalStatus → ProposalStatus → Prop
  | approved : MovesTo .pending .approved
  | applied : MovesTo .approved .applied
  | rejectedPending : MovesTo .pending .rejected
  | rejectedApproved : MovesTo .approved .rejected

namespace ProposalStatus

/-- A step leaves the status or moves it. -/
def KeptOrMoved (before after : ProposalStatus) : Prop :=
  before = after ∨ before.MovesTo after

theorem keptOrMoved_approved_iff {before : ProposalStatus} :
    before.KeptOrMoved .approved ↔
      before = .pending ∨ before = .approved := by
  constructor
  · rintro (rfl | moves)
    · exact .inr rfl
    · cases moves
      exact .inl rfl
  · rintro (rfl | rfl)
    · exact .inr .approved
    · exact .inl rfl

theorem keptOrMoved_rejected_iff {before : ProposalStatus} :
    before.KeptOrMoved .rejected ↔
      before = .pending ∨ before = .approved ∨ before = .rejected := by
  constructor
  · rintro (rfl | moves)
    · exact .inr (.inr rfl)
    · cases moves
      · exact .inl rfl
      · exact .inr (.inl rfl)
  · rintro (rfl | rfl | rfl)
    · exact .inr .rejectedPending
    · exact .inr .rejectedApproved
    · exact .inl rfl

theorem keptOrMoved_applied_iff {before : ProposalStatus} :
    before.KeptOrMoved .applied ↔
      before = .approved ∨ before = .applied := by
  constructor
  · rintro (rfl | moves)
    · exact .inr rfl
    · cases moves
      exact .inl rfl
  · rintro (rfl | rfl)
    · exact .inr .applied
    · exact .inl rfl

/-- No move leads out of these. -/
def Final (status : ProposalStatus) : Prop :=
  status = .applied ∨ status = .rejected

theorem KeptOrMoved.eq_of_final {before after : ProposalStatus}
    (step : before.KeptOrMoved after) (final : before.Final) :
    after = before := by
  rcases step with rfl | moves
  · rfl
  · rcases final with rfl | rfl <;> cases moves

end ProposalStatus

/-- Every stored proposal is still stored, and its status was left or moved. -/
def StatusesMove (before after : ReviewedRuntime) : Prop :=
  ∀ proposalId status, before.statusOf proposalId = some status →
    ∃ moved, after.statusOf proposalId = some moved ∧ status.KeptOrMoved moved

namespace Reviewer

/-- The record of the change that the next step makes live, if it makes one
live. -/
def goingLive (hashChange : AuthorityChange → UInt64)
    (shared : ReviewedRuntime) : Reviewer → Option ChangeRecord
  | .apply proposal approval clock _ =>
      if shared.writing && approval.verify hashChange proposal then
        none
      else
        (shared.runtime.plannedChange port hashChange clock proposal
          approval).toOption
  | _ => none

end Reviewer

def turnGoingLive (hashChange : AuthorityChange → UInt64)
    (state : Interleaved ReviewedRuntime Reviewer) :
    Turn Empty → Option ChangeRecord
  | .thread index => (state.threads index).goingLive hashChange state.shared

/-- Over a run every turn leaves or moves the statuses, applied and rejected
proposals stay what they are, and none goes live that was rejected before. -/
structure KeepsReviews (hashChange : AuthorityChange → UInt64)
    (state : Interleaved ReviewedRuntime Reviewer) (turns : List (Turn Empty)) :
    Prop where
  moves : (reviewSystem hashChange).Follows
    (fun state turn =>
      StatusesMove state.shared
        ((reviewSystem hashChange).step state turn).shared) state turns
  final : ∀ early late, turns = early ++ late → ∀ proposalId status,
    ((reviewSystem hashChange).run state early).shared.statusOf proposalId =
      some status →
    status.Final →
    ((reviewSystem hashChange).run state turns).shared.statusOf proposalId =
      some status
  spared : ∀ early between turn late,
    turns = early ++ between ++ turn :: late → ∀ record,
    turnGoingLive hashChange
      ((reviewSystem hashChange).run state (early ++ between)) turn =
      some record →
    ((reviewSystem hashChange).run state early).shared.statusOf
      record.proposalId ≠ some .rejected

/-! ## When a step may be taken -/

/-- What a call is about to write still follows from what is stored now. -/
def Reviewer.Timely (hashChange : AuthorityChange → UInt64)
    (shared : ReviewedRuntime) : Reviewer → Prop
  | .approveMark proposalId =>
      ∀ status, shared.statusOf proposalId = some status →
        status = .pending ∨ status = .approved
  | .rejectMark proposalId _ =>
      ∀ status, shared.statusOf proposalId = some status →
        status = .pending ∨ status = .approved ∨ status = .rejected
  | .apply proposal approval clock fromStore =>
      (goingLive hashChange shared
        (.apply proposal approval clock fromStore)).isSome = true →
        shared.statusOf proposal.id ≠ some .rejected
  | .applyMark record _ _ =>
      ∀ status, shared.statusOf record.proposalId = some status →
        status = .approved ∨ status = .applied
  | _ => True

/-- No call writes over a decision that was made after its own check. -/
def WritesInTime (hashChange : AuthorityChange → UInt64)
    (state : Interleaved ReviewedRuntime Reviewer) : Turn Empty → Prop
  | .thread index => (state.threads index).Timely hashChange state.shared

/-! ## What one step does to the statuses -/

namespace MemoryProposalStore

theorem updateProposal_status {self : MemoryProposalStore}
    {proposalId : String} {update : StoredProposal → StoredProposal}
    {written : ProposalStatus}
    (writes : ∀ proposal, (update proposal).status = written)
    (other : String) :
    (finalState (updateProposal proposalId update self)).proposals[other]?.map
        StoredProposal.status =
      if other = proposalId then
        self.proposals[other]?.map fun _ => written
      else
        self.proposals[other]?.map StoredProposal.status := by
  unfold updateProposal
  cases stored : self.proposals[proposalId]? with
  | none =>
      by_cases same : other = proposalId
      · subst same
        simp [stored]
      · simp [same]
  | some proposal =>
      by_cases same : other = proposalId
      · subst same
        simp [stored, writes]
      · simp [KeyedMap.getElem?_insert_of_ne _ _ (Ne.symm same), same]

theorem markApproved_status {self : MemoryProposalStore}
    (proposalId other : String) :
    (finalState (port.markApproved proposalId self)).proposals[other]?.map
        StoredProposal.status =
      if other = proposalId then
        self.proposals[other]?.map fun _ => .approved
      else
        self.proposals[other]?.map StoredProposal.status :=
  @updateProposal_status self proposalId
    (fun proposal => { proposal with status := .approved }) .approved
    (fun _ => rfl) other

theorem markRejected_status {self : MemoryProposalStore}
    (proposalId reason other : String) :
    (finalState (port.markRejected proposalId reason self)).proposals[
        other]?.map StoredProposal.status =
      if other = proposalId then
        self.proposals[other]?.map fun _ => .rejected
      else
        self.proposals[other]?.map StoredProposal.status :=
  @updateProposal_status self proposalId
    (fun proposal =>
      { proposal with status := .rejected, rejectionReason := some reason })
    .rejected (fun _ => rfl) other

theorem markApplied_status {self : MemoryProposalStore} (now : Nat)
    (proposalId changeId : String) (revision : Nat) (other : String) :
    (finalState (port.markApplied now proposalId changeId revision
        self)).proposals[other]?.map StoredProposal.status =
      if other = proposalId then
        self.proposals[other]?.map fun _ => .applied
      else
        self.proposals[other]?.map StoredProposal.status :=
  @updateProposal_status self proposalId
    (fun proposal =>
      { proposal with
        status := .applied
        appliedAt := some now
        changeId := some changeId }) .applied (fun _ => rfl) other

end MemoryProposalStore

namespace Reviewer

/-- The status that the next step writes, and for which proposal. -/
def writes : Reviewer → Option (String × ProposalStatus)
  | .approveMark proposalId => some (proposalId, .approved)
  | .rejectMark proposalId _ => some (proposalId, .rejected)
  | .applyMark record _ _ => some (record.proposalId, .applied)
  | _ => none

variable {hashChange : AuthorityChange → UInt64} {shared : ReviewedRuntime}

theorem step_proposals_approveMark (proposalId : String) :
    (step hashChange shared (.approveMark proposalId)).1.proposals =
      finalState (port.markApproved proposalId shared.proposals) := by
  rw [step]
  cases port.markApproved proposalId shared.proposals <;> rfl

theorem step_proposals_rejectMark (proposalId reason : String) :
    (step hashChange shared (.rejectMark proposalId reason)).1.proposals =
      finalState (port.markRejected proposalId reason shared.proposals) := by
  rw [step]
  cases port.markRejected proposalId reason shared.proposals <;> rfl

theorem step_proposals_applyMark (record : ChangeRecord)
    (clock : Nat → Nat) (fromStore : Bool) :
    (step hashChange shared (.applyMark record clock fromStore)).1.proposals =
      finalState (port.markApplied (clock 1) record.proposalId record.changeId
        record.resultingState.revision shared.proposals) := by
  rw [step]
  cases port.markApplied (clock 1) record.proposalId record.changeId
    record.resultingState.revision shared.proposals <;> rfl

theorem step_statusOf_of_writes_none {thread : Reviewer}
    (writesNothing : thread.writes = none) (proposalId : String) :
    (step hashChange shared thread).1.statusOf proposalId =
      shared.statusOf proposalId := by
  cases thread with
  | approve => rfl
  | approveCurrent proposalId stored =>
      rw [step]
      split <;> rfl
  | approveMark => cases writesNothing
  | reject => rfl
  | rejectMark => cases writesNothing
  | applyStored => rfl
  | applyCurrent stored approval clock =>
      rw [step]
      split <;> rfl
  | apply proposal approval clock fromStore =>
      rw [step]
      split
      · rfl
      · split <;> rfl
  | applyMark => cases writesNothing
  | applyRecord record fromStore => rfl
  | applyRevision changeId =>
      rw [step]
      split <;> rfl
  | finished => rfl

theorem step_statusOf_of_writes {thread : Reviewer} {proposalId : String}
    {written : ProposalStatus}
    (writesOne : thread.writes = some (proposalId, written)) (other : String) :
    (step hashChange shared thread).1.statusOf other =
      if other = proposalId then
        (shared.statusOf other).map fun _ => written
      else
        shared.statusOf other := by
  unfold ReviewedRuntime.statusOf
  rw [Option.map_map]
  cases thread with
  | approveMark =>
      cases writesOne
      rw [step_proposals_approveMark]
      exact MemoryProposalStore.markApproved_status _ other
  | rejectMark =>
      cases writesOne
      rw [step_proposals_rejectMark]
      exact MemoryProposalStore.markRejected_status _ _ other
  | applyMark =>
      cases writesOne
      rw [step_proposals_applyMark]
      exact MemoryProposalStore.markApplied_status _ _ _ _ other
  | _ => cases writesOne

theorem statusesMove_step_iff {thread : Reviewer} :
    StatusesMove shared (step hashChange shared thread).1 ↔
      ∀ proposalId written, thread.writes = some (proposalId, written) →
        ∀ status, shared.statusOf proposalId = some status →
          status.KeptOrMoved written := by
  constructor
  · intro moves proposalId written writesOne status stored
    obtain ⟨moved, after, kept⟩ := moves proposalId status stored
    rw [step_statusOf_of_writes writesOne, if_pos rfl, stored] at after
    cases after
    exact kept
  · intro follows proposalId status stored
    cases writing : thread.writes with
    | none =>
        rw [step_statusOf_of_writes_none writing]
        exact ⟨status, stored, .inl rfl⟩
    | some write =>
        obtain ⟨writtenId, written⟩ := write
        rw [step_statusOf_of_writes writing]
        by_cases same : proposalId = writtenId
        · subst same
          rw [if_pos rfl, stored]
          exact ⟨written, rfl, follows proposalId written writing status stored⟩
        · rw [if_neg same]
          exact ⟨status, stored, .inl rfl⟩

theorem goingLive_proposalId {proposal : ChangeProposal} {approval : Approval}
    {clock : Nat → Nat} {fromStore : Bool} {record : ChangeRecord}
    (live : goingLive hashChange shared
      (.apply proposal approval clock fromStore) = some record) :
    record.proposalId = proposal.id := by
  rw [goingLive] at live
  split at live
  · cases live
  · exact (ApplyCall.plannedChange_eq_ok (except_toOption_eq_some live)).1

theorem timely_iff {thread : Reviewer} :
    thread.Timely hashChange shared ↔
      StatusesMove shared (step hashChange shared thread).1 ∧
        ∀ record, thread.goingLive hashChange shared = some record →
          shared.statusOf record.proposalId ≠ some .rejected := by
  rw [statusesMove_step_iff]
  cases thread with
  | approveMark proposalId =>
      simp [Timely, writes, goingLive, ProposalStatus.keptOrMoved_approved_iff]
  | rejectMark proposalId reason =>
      simp [Timely, writes, goingLive, ProposalStatus.keptOrMoved_rejected_iff]
  | applyMark record clock fromStore =>
      simp [Timely, writes, goingLive, ProposalStatus.keptOrMoved_applied_iff]
  | apply proposal approval clock fromStore =>
      constructor
      · intro timely
        refine ⟨nofun, ?_⟩
        intro record live
        rw [goingLive_proposalId live]
        exact timely (by rw [live]; rfl)
      · rintro ⟨_, spared⟩ isLive
        obtain ⟨record, live⟩ := Option.isSome_iff_exists.mp isLive
        rw [← goingLive_proposalId live]
        exact spared record live
  | _ => simp [Timely, writes, goingLive]

end Reviewer

/-! ## Runs -/

section Runs

variable {hashChange : AuthorityChange → UInt64}
  {state : Interleaved ReviewedRuntime Reviewer} {turns : List (Turn Empty)}

theorem writesInTime_iff {turn : Turn Empty} :
    WritesInTime hashChange state turn ↔
      StatusesMove state.shared
        ((reviewSystem hashChange).step state turn).shared ∧
      ∀ record, turnGoingLive hashChange state turn = some record →
        state.shared.statusOf record.proposalId ≠ some .rejected := by
  cases turn with
  | thread index => exact Reviewer.timely_iff
  | outside event => exact event.elim

/-- What is decided for good stays decided. -/
theorem final_kept
    (moves : (reviewSystem hashChange).Follows
      (fun state turn =>
        StatusesMove state.shared
          ((reviewSystem hashChange).step state turn).shared) state turns)
    {proposalId : String} {status : ProposalStatus} (final : status.Final)
    (stored : state.shared.statusOf proposalId = some status) :
    ((reviewSystem hashChange).run state turns).shared.statusOf proposalId =
      some status := by
  induction turns generalizing state with
  | nil => exact stored
  | cons turn turns induction =>
      obtain ⟨moved, after, kept⟩ := moves.1 proposalId status stored
      rw [kept.eq_of_final final] at after
      exact induction moves.2 after

/-- The reviews of a run are kept exactly if every status is written while it
still follows from the stored one, and no rejected proposal is made live. -/
theorem keepsReviews_run_iff :
    KeepsReviews hashChange state turns ↔
      (reviewSystem hashChange).Follows (WritesInTime hashChange) state
        turns := by
  constructor
  · intro keeps
    have moves := TransitionSystem.follows_iff.mp keeps.moves
    refine TransitionSystem.follows_iff.mpr ?_
    intro early turn late split
    refine writesInTime_iff.mpr ⟨moves early turn late split, ?_⟩
    intro record live
    refine keeps.spared early [] turn late (by simpa using split) record ?_
    rwa [List.append_nil]
  · intro timely
    have moves : (reviewSystem hashChange).Follows
        (fun state turn =>
          StatusesMove state.shared
            ((reviewSystem hashChange).step state turn).shared) state turns :=
      timely.mono fun _ _ inTime => (writesInTime_iff.mp inTime).1
    refine ⟨moves, ?_, ?_⟩
    · rintro early late rfl proposalId status stored final
      rw [TransitionSystem.run_append]
      exact final_kept (TransitionSystem.follows_append_iff.mp moves).2 final
        stored
    · rintro early between turn late rfl record live rejected
      obtain ⟨movesUntil, _⟩ :=
        TransitionSystem.follows_append_iff.mp moves
      have stillRejected := final_kept
        (TransitionSystem.follows_append_iff.mp movesUntil).2 (.inr rfl)
        rejected
      rw [← TransitionSystem.run_append] at stillRejected
      have inTime := TransitionSystem.follows_iff.mp timely
        (early ++ between) turn late rfl
      exact (writesInTime_iff.mp inTime).2 record live stillRejected

end Runs

/-! ## Calls that are not interleaved -/

section Alone

variable {hashChange : AuthorityChange → UInt64}

/-- What a call that runs by itself leaves: the runtime, nobody writing, and
the answer. -/
def afterCall {α : Type} (answer : α → ReviewAnswer) :
    EStateM.Result String (ProposalRuntime MemoryProposalStore) α →
      ReviewedRuntime × Reviewer
  | .ok value runtime =>
      ({ runtime, writing := false }, .finished (.ok (answer value)))
  | .error err runtime => ({ runtime, writing := false }, .finished (.error err))

theorem stepPair_finished (shared : ReviewedRuntime)
    (answer : Except String ReviewAnswer) (turns : Nat) :
    (reviewProgram hashChange).stepPair^[turns]
      (shared, .finished answer) = (shared, .finished answer) := by
  induction turns with
  | zero => rfl
  | succ turns induction => exact induction

theorem approveMark_alone (runtime : ProposalRuntime MemoryProposalStore)
    (proposalId : String) :
    (reviewProgram hashChange).stepPair
        ({ runtime, writing := false }, .approveMark proposalId) =
      afterCall (fun _ => .done)
        (ProposalRuntime.onStore (port.markApproved proposalId) runtime) := by
  simp only [ThreadProgram.stepPair, reviewProgram, Reviewer.step,
    ProposalRuntime.onStore, onPart, ReviewedRuntime.proposals]
  cases port.markApproved proposalId runtime.proposals <;> rfl

theorem rejectMark_alone (runtime : ProposalRuntime MemoryProposalStore)
    (proposalId reason : String) :
    (reviewProgram hashChange).stepPair
        ({ runtime, writing := false }, .rejectMark proposalId reason) =
      afterCall (fun _ => .done)
        (ProposalRuntime.onStore (port.markRejected proposalId reason)
          runtime) := by
  simp only [ThreadProgram.stepPair, reviewProgram, Reviewer.step,
    ProposalRuntime.onStore, onPart, ReviewedRuntime.proposals]
  cases port.markRejected proposalId reason runtime.proposals <;> rfl

/-- Three turns in a row approve. -/
theorem approve_alone (runtime : ProposalRuntime MemoryProposalStore)
    (proposalId : String) :
    (reviewProgram hashChange).stepPair^[3]
        ({ runtime, writing := false }, .approve proposalId) =
      afterCall (fun _ => .done)
        (ProposalRuntime.approveStoredProposal port proposalId runtime) := by
  rw [ProposalRuntime.approveStoredProposal, inspect_bind,
    Function.iterate_succ_apply]
  simp only [ThreadProgram.stepPair, reviewProgram, Reviewer.step,
    Reviewer.read, ReviewedRuntime.proposals]
  cases port.retrieveProposal runtime.proposals proposalId with
  | error err => exact stepPair_finished _ _ 2
  | ok stored =>
      simp only [Reviewer.approveRead]
      cases stored.status with
      | pending =>
          have current : (reviewProgram hashChange).stepPair
              ({ runtime, writing := false }, .approveCurrent proposalId stored) =
            ({ runtime, writing := false },
              Reviewer.check { runtime, writing := false } stored
                (.approveMark proposalId)) := rfl
          have checked : (reviewProgram hashChange).stepPair^[2]
                ({ runtime, writing := false },
                  .approveCurrent proposalId stored) =
              afterCall (fun _ => .done)
                ((do
                  inspect fun self => self.verifyStoredProposalIsCurrent port stored
                  ProposalRuntime.onStore (port.markApproved proposalId) :
                    ProposalM MemoryProposalStore Unit) runtime) := by
            rw [Function.iterate_succ_apply, current, Function.iterate_one,
              inspect_bind, Reviewer.check]
            cases runtime.verifyStoredProposalIsCurrent port stored with
            | error err => rfl
            | ok value => exact approveMark_alone runtime proposalId
          exact checked
      | _ => exact stepPair_finished _ _ 2

/-- Two turns in a row reject. -/
theorem reject_alone (runtime : ProposalRuntime MemoryProposalStore)
    (proposalId reason : String) :
    (reviewProgram hashChange).stepPair^[2]
        ({ runtime, writing := false }, .reject proposalId reason) =
      afterCall (fun _ => .done)
        (ProposalRuntime.rejectStoredProposal port proposalId reason
          runtime) := by
  rw [ProposalRuntime.rejectStoredProposal, inspect_bind,
    Function.iterate_succ_apply]
  simp only [ThreadProgram.stepPair, reviewProgram, Reviewer.step,
    Reviewer.read, ReviewedRuntime.proposals]
  cases port.retrieveProposal runtime.proposals proposalId with
  | error err => exact stepPair_finished _ _ 1
  | ok stored =>
      simp only [Reviewer.rejectRead]
      cases stored.status with
      | applied => exact stepPair_finished _ _ 1
      | rejected => exact stepPair_finished _ _ 1
      | _ => exact rejectMark_alone runtime proposalId reason

/-- How a call goes on once its change is recorded. -/
def afterRecord (runtime : ProposalRuntime MemoryProposalStore)
    (record : ChangeRecord) (fromStore : Bool) :
    EStateM.Result String MemoryProposalStore Unit →
      ReviewedRuntime × Reviewer
  | .ok () proposals =>
      ({ runtime := runtime.changeProposals proposals, writing := false },
        if fromStore then .applyRevision record.changeId
        else .finished (.ok (.changed record.changeId)))
  | .error err proposals =>
      ({ runtime := runtime.changeProposals proposals, writing := false },
        .finished (.error err))

theorem recordApplied_alone (runtime : ProposalRuntime MemoryProposalStore)
    (record : ChangeRecord) (clock : Nat → Nat) (fromStore : Bool) :
    (reviewProgram hashChange).stepPair^[2]
        ({ runtime, writing := true }, .applyMark record clock fromStore) =
      afterRecord runtime record fromStore
        (port.recordApplied (clock 1) record runtime.proposals) := by
  rw [ProposalStore.recordApplied, bind_apply, Function.iterate_succ_apply,
    Function.iterate_one]
  simp only [ThreadProgram.stepPair, reviewProgram, Reviewer.step,
    ReviewedRuntime.proposals]
  cases port.markApplied (clock 1) record.proposalId record.changeId
      record.resultingState.revision runtime.proposals with
  | error err proposals => rfl
  | ok value proposals => rfl

/-- What goes live is recorded in the next two turns. -/
theorem goLive_alone {runtime : ProposalRuntime MemoryProposalStore}
    {proposal : ChangeProposal} {approval : Approval} {clock : Nat → Nat}
    {record : ChangeRecord} (fromStore : Bool)
    (planned : runtime.plannedChange port hashChange clock proposal approval =
      .ok record) :
    (reviewProgram hashChange).stepPair^[3]
        ({ runtime, writing := false },
          .apply proposal approval clock fromStore) =
      afterRecord (runtime.changeAuthority record.resultingState) record
        fromStore (port.recordApplied (clock 1) record runtime.proposals) := by
  have live : (reviewProgram hashChange).stepPair
      ({ runtime, writing := false },
        .apply proposal approval clock fromStore) =
      ({ runtime := runtime.changeAuthority record.resultingState
         writing := true }, .applyMark record clock fromStore) := by
    simp only [ThreadProgram.stepPair, reviewProgram, Reviewer.step,
      Bool.false_and, Bool.false_eq_true, if_false, planned]
  rw [Function.iterate_succ_apply, live, recordApplied_alone]
  rfl

theorem refused_alone {runtime : ProposalRuntime MemoryProposalStore}
    {proposal : ChangeProposal} {approval : Approval} {clock : Nat → Nat}
    {message : String} (fromStore : Bool)
    (refused : runtime.plannedChange port hashChange clock proposal approval =
      .error message) :
    (reviewProgram hashChange).stepPair
        ({ runtime, writing := false },
          .apply proposal approval clock fromStore) =
      ({ runtime, writing := false }, .finished (.error message)) := by
  simp only [ThreadProgram.stepPair, reviewProgram, Reviewer.step,
    Bool.false_and, Bool.false_eq_true, if_false, refused]

/-- Three turns in a row apply a change. -/
theorem apply_alone (runtime : ProposalRuntime MemoryProposalStore)
    (proposal : ChangeProposal) (approval : Approval) (clock : Nat → Nat) :
    (reviewProgram hashChange).stepPair^[3]
        ({ runtime, writing := false },
          .apply proposal approval clock false) =
      afterCall .changed
        (ProposalRuntime.applyChange port hashChange clock proposal approval
          runtime) := by
  cases planned : runtime.plannedChange port hashChange clock proposal
      approval with
  | error message =>
      rw [Function.iterate_succ_apply, refused_alone false planned,
        stepPair_finished, ApplyCall.applyChange_of_refused planned]
      rfl
  | ok record =>
      rw [goLive_alone false planned, ApplyCall.applyChange_of_planned planned,
        ApplyCall.recordAll_singleton]
      cases port.recordApplied (clock 1) record runtime.proposals <;> rfl

/-- One more turn reads the revision of the change. -/
theorem applyChecked_alone (runtime : ProposalRuntime MemoryProposalStore)
    (proposal : ChangeProposal) (approval : Approval) (clock : Nat → Nat) :
    (reviewProgram hashChange).stepPair^[4]
        ({ runtime, writing := false }, .apply proposal approval clock true) =
      afterCall (fun (changeId, revision) => .applied changeId revision)
        ((do
          let changeId ← ProposalRuntime.applyChange port hashChange clock
            proposal approval
          let self ← get
          pure (changeId, self.authority.revision) :
            ProposalM MemoryProposalStore (String × Nat)) runtime) := by
  rw [bind_apply]
  cases planned : runtime.plannedChange port hashChange clock proposal
      approval with
  | error message =>
      rw [Function.iterate_succ_apply, refused_alone true planned,
        stepPair_finished, ApplyCall.applyChange_of_refused planned]
      rfl
  | ok record =>
      rw [Function.iterate_succ_apply', goLive_alone true planned,
        ApplyCall.applyChange_of_planned planned, ApplyCall.recordAll_singleton]
      cases port.recordApplied (clock 1) record runtime.proposals <;> rfl

theorem applyStored_alone (runtime : ProposalRuntime MemoryProposalStore)
    (proposalId : String) (approval : Approval) (clock : Nat → Nat) :
    (reviewProgram hashChange).stepPair^[6]
        ({ runtime, writing := false },
          .applyStored proposalId approval clock) =
      afterCall (fun (changeId, revision) => .applied changeId revision)
        (ProposalRuntime.applyStoredProposal port hashChange clock proposalId
          approval runtime) := by
  rw [ProposalRuntime.applyStoredProposal, inspect_bind,
    ProposalRuntime.applicableProposal, Function.iterate_succ_apply]
  simp only [ThreadProgram.stepPair, reviewProgram, Reviewer.step,
    Reviewer.read, ReviewedRuntime.proposals]
  cases port.retrieveProposal runtime.proposals proposalId with
  | error err => exact stepPair_finished _ _ 5
  | ok stored =>
      rw [except_ok_bind, refuseIf]
      simp only [Reviewer.applyRead]
      by_cases unapproved : (stored.status != .approved) = true
      · rw [if_pos unapproved, if_pos unapproved]
        exact stepPair_finished _ _ 5
      · rw [if_neg unapproved, if_neg unapproved, except_ok_bind]
        have current : (reviewProgram hashChange).stepPair
            ({ runtime, writing := false },
              .applyCurrent stored approval clock) =
          ({ runtime, writing := false },
            Reviewer.check { runtime, writing := false } stored
              (.apply stored.toProposal approval clock true)) := rfl
        have checked : (reviewProgram hashChange).stepPair^[5]
            ({ runtime, writing := false },
              .applyCurrent stored approval clock) = _ :=
          (Function.iterate_succ_apply _ 4 _).trans (congrArg _ current)
        refine checked.trans ?_
        rw [Reviewer.check]
        cases runtime.verifyStoredProposalIsCurrent port stored with
        | error err => exact stepPair_finished _ _ 4
        | ok value =>
            exact applyChecked_alone runtime stored.toProposal approval clock

/-! ## Calls one after the other -/

/-- What a call leaves that is made in one piece. -/
def Reviewer.inOnePiece (hashChange : AuthorityChange → UInt64)
    (runtime : ProposalRuntime MemoryProposalStore) :
    Reviewer → ReviewedRuntime × Reviewer
  | .approve proposalId =>
      afterCall (fun _ => .done)
        (ProposalRuntime.approveStoredProposal port proposalId runtime)
  | .reject proposalId reason =>
      afterCall (fun _ => .done)
        (ProposalRuntime.rejectStoredProposal port proposalId reason runtime)
  | .applyStored proposalId approval clock =>
      afterCall (fun (changeId, revision) => .applied changeId revision)
        (ProposalRuntime.applyStoredProposal port hashChange clock proposalId
          approval runtime)
  | .apply proposal approval clock _ =>
      afterCall .changed
        (ProposalRuntime.applyChange port hashChange clock proposal approval
          runtime)
  | thread => ({ runtime, writing := false }, thread)

theorem stepPair_afterCall {α : Type} (answer : α → ReviewAnswer)
    (result : EStateM.Result String (ProposalRuntime MemoryProposalStore) α)
    (turns : Nat) :
    (reviewProgram hashChange).stepPair^[turns] (afterCall answer result) =
      afterCall answer result := by
  cases result with
  | ok value runtime => exact stepPair_finished _ _ turns
  | error err runtime => exact stepPair_finished _ _ turns

theorem Reviewer.Waiting.alone {thread : Reviewer} (waiting : thread.Waiting)
    (runtime : ProposalRuntime MemoryProposalStore) :
    (reviewProgram hashChange).stepPair^[6]
        ({ runtime, writing := false }, thread) =
      thread.inOnePiece hashChange runtime := by
  cases waiting with
  | approve proposalId =>
      rw [Function.iterate_add_apply _ 3 3, approve_alone, stepPair_afterCall]
      rfl
  | reject proposalId reason =>
      rw [Function.iterate_add_apply _ 4 2, reject_alone, stepPair_afterCall]
      rfl
  | applyStored proposalId approval clock =>
      exact applyStored_alone runtime proposalId approval clock
  | apply proposal approval clock =>
      rw [Function.iterate_add_apply _ 3 3, apply_alone, stepPair_afterCall]
      rfl

theorem Reviewer.inOnePiece_writing (thread : Reviewer)
    (runtime : ProposalRuntime MemoryProposalStore) :
    (thread.inOnePiece hashChange runtime).1.writing = false := by
  have idle : ∀ {α : Type} (answer : α → ReviewAnswer)
      (result : EStateM.Result String (ProposalRuntime MemoryProposalStore) α),
      (afterCall answer result).1.writing = false := by
    intro α answer result
    cases result <;> rfl
  cases thread <;> first | exact idle _ _ | rfl

/-- The calls of some reviewers, each made in one piece. -/
def serially (hashChange : AuthorityChange → UInt64) (order : List Nat)
    (state : Interleaved ReviewedRuntime Reviewer) :
    Interleaved ReviewedRuntime Reviewer :=
  order.foldl (fun state index =>
    let left :=
      (state.threads index).inOnePiece hashChange state.shared.runtime
    { shared := left.1
      threads := Function.update state.threads index left.2 }) state

/-- Reviewers who take their turns in a row, in any order, leave what their
calls leave one after the other. -/
theorem run_serially {state : Interleaved ReviewedRuntime Reviewer}
    (initial : (reviewSystem hashChange).initial state) {order : List Nat}
    (once : order.Nodup) :
    (reviewSystem hashChange).run state
        (order.flatMap fun index => List.replicate 6 (.thread index)) =
      serially hashChange order state := by
  obtain ⟨idle, waiting⟩ := initial
  replace waiting : ∀ index ∈ order, (state.threads index).Waiting :=
    fun index _ => waiting index
  induction order generalizing state with
  | nil => rfl
  | cons index order induction =>
      obtain ⟨fresh, once⟩ := List.nodup_cons.mp once
      obtain ⟨first, others⟩ := List.forall_mem_cons.mp waiting
      obtain ⟨⟨runtime, writing⟩, threads⟩ := state
      obtain rfl : writing = false := idle
      have alone := (reviewProgram hashChange).run_alone
        (reviewSystem hashChange).initial
        ⟨{ runtime, writing := false }, threads⟩ index 6
      rw [first.alone] at alone
      rw [List.flatMap_cons, TransitionSystem.run_append]
      refine (congrArg (fun state => (reviewSystem hashChange).run state _)
        alone).trans ?_
      refine induction once (Reviewer.inOnePiece_writing _ _) ?_
      intro other listed
      have different : other ≠ index := fun same => fresh (same ▸ listed)
      dsimp only
      rw [Function.update_of_ne different]
      exact others other listed

end Alone

/-! ## A rejection and an application at the same time -/

def approvedProposal : StoredProposal :=
  { id := "proposal-1"
    change := .setProviderEnabled "local" false
    preview :=
      { before := .ofState quietRuntime.authority
        after := .ofState quietRuntime.authority }
    revision := 0
    contractFingerprint := quietRuntime.fingerprint
    discoveryRevision := 0
    source := .explicit
    status := .approved
    createdAt := 0
    appliedAt := none
    changeId := none
    rejectionReason := none }

def constantHash : AuthorityChange → UInt64 := fun _ => 0

def disputedReview : Interleaved ReviewedRuntime Reviewer :=
  { shared :=
      { runtime := quietRuntime.changeProposals
          { MemoryProposalStore.new with
            proposals := (∅ : KeyedMap String StoredProposal).insert
              "proposal-1" approvedProposal }
        writing := false }
    threads := fun index =>
      if index = 0 then
        .reject "proposal-1" "not now"
      else
        .apply approvedProposal.toProposal
          (.forProposal constantHash approvedProposal.toProposal)
          (fun _ => 0) false }

theorem run_serially_disputed :
    (reviewSystem constantHash).run disputedReview
        ([1, 0].flatMap fun index => List.replicate 6 (.thread index)) =
      serially constantHash [1, 0] disputedReview := by
  refine run_serially ⟨rfl, fun index => ?_⟩ (by decide)
  unfold disputedReview
  dsimp only
  split
  · exact .reject _ _
  · exact .apply _ _ _

/-- The rejection is checked before the application and written after it. -/
def disputedTurns : List (Turn Empty) :=
  [.thread 0, .thread 1, .thread 1, .thread 1, .thread 0]

theorem disputedReview_not_keepsReviews :
    (reviewSystem constantHash).initial disputedReview ∧
      ¬KeepsReviews constantHash disputedReview disputedTurns := by
  refine ⟨⟨rfl, fun index => ?_⟩, ?_⟩
  · by_cases first : index = 0
    · simp only [disputedReview, if_pos first]
      exact .reject _ _
    · simp only [disputedReview, if_neg first]
      exact .apply _ _ _
  · intro keeps
    have applied : ((reviewSystem constantHash).run disputedReview
        [.thread 0, .thread 1, .thread 1, .thread 1]).shared.statusOf
        "proposal-1" = some .applied := by decide +kernel
    have stays := keeps.final [.thread 0, .thread 1, .thread 1, .thread 1]
      [.thread 0] rfl "proposal-1" .applied applied (.inl rfl)
    have rejected : ((reviewSystem constantHash).run disputedReview
        disputedTurns).shared.statusOf "proposal-1" = some .rejected := by
      decide +kernel
    rw [rejected] at stays
    cases stays

end AuthBoundry
