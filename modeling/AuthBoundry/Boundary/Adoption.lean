import AuthBoundry.Boundary.ChangeRecords

/-!
# Adopting a change

A change that can be previewed goes through: it is proposed under a new id,
approved, and applied from the store.  What the three calls leave behind is
computed here once.
-/

namespace AuthBoundry

open Library
open Library.Stateful
open MemoryProposalStore (port)

namespace ProposalRuntime

variable {self : ProposalRuntime MemoryProposalStore} {clock : Nat → Nat}
  {hashChange : AuthorityChange → UInt64} {change : AuthorityChange}
  {next : LiveAuthorityState}

def nextProposalId (self : ProposalRuntime MemoryProposalStore) : String :=
  s!"proposal-{self.proposals.nextId}"

def pendingProposal (self : ProposalRuntime MemoryProposalStore)
    (clock : Nat → Nat) (change : AuthorityChange)
    (next : LiveAuthorityState) : StoredProposal :=
  { id := self.nextProposalId
    change
    preview := { before := .ofState self.authority, after := .ofState next }
    revision := self.authority.revision
    contractFingerprint := self.fingerprint
    discoveryRevision := 0
    source := .explicit
    status := .pending
    createdAt := clock 0
    appliedAt := none
    changeId := none
    rejectionReason := none }

def withPending (self : ProposalRuntime MemoryProposalStore)
    (clock : Nat → Nat) (change : AuthorityChange)
    (next : LiveAuthorityState) : ProposalRuntime MemoryProposalStore :=
  self.changeProposals
    { self.proposals with
      proposals := self.proposals.proposals.insert self.nextProposalId
        (self.pendingProposal clock change next)
      nextId := self.proposals.nextId + 1 }

def proposedChange (self : ProposalRuntime MemoryProposalStore)
    (clock : Nat → Nat) (change : AuthorityChange)
    (source : ProposalSource) (discoveryRevision : Nat)
    (next : LiveAuthorityState) : StoredProposal :=
  { self.pendingProposal clock change next with source, discoveryRevision }

def withStored (self : ProposalRuntime MemoryProposalStore)
    (proposal : StoredProposal) : ProposalRuntime MemoryProposalStore :=
  self.changeProposals
    { self.proposals with
      proposals := self.proposals.proposals.insert self.nextProposalId proposal
      nextId := self.proposals.nextId + 1 }

theorem proposeChangeWithMetadata_eq_ok {source : ProposalSource}
    {discoveryRevision : Nat}
    (unused : self.proposals.proposals[self.nextProposalId]? = none)
    (previewed : self.previewAuthorityChange port self.authority change =
      .ok next) :
    proposeChangeWithMetadata port clock change source discoveryRevision self =
      .ok
        (self.proposedChange clock change source discoveryRevision
          next).toProposal
        (self.withStored (self.proposedChange clock change source
          discoveryRevision next)) := by
  have free : self.proposals.proposals.contains self.nextProposalId = false := by
    rw [← Std.ExtTreeMap.isSome_getElem?_eq_contains, unused]
    rfl
  unfold proposeChangeWithMetadata
  rw [bind_apply]
  dsimp only [get, getThe, MonadStateOf.get, EStateM.get]
  rw [inspect_bind, previewed]
  dsimp only
  rw [onStore, onPart_bind]
  dsimp only [ProposalStore.takeProposalId]
  rw [onStore, onPart_bind]
  have stored : port.storeProposal
      (self.proposedChange clock change source discoveryRevision next)
      (port.allocateProposalId self.proposals).2 =
        .ok () (self.withStored (self.proposedChange clock change source
          discoveryRevision next)).proposals := by
    dsimp only [port, MemoryProposalStore.storeProposal,
      MemoryProposalStore.allocateProposalId]
    exact if_neg (by simp [proposedChange, pendingProposal, free])
  dsimp only [changeProposals] at stored ⊢
  have sameId : (port.allocateProposalId self.proposals).1 =
      self.nextProposalId :=
    rfl
  rw [sameId]
  unfold proposedChange pendingProposal at stored
  rw [stored]
  rfl

theorem proposeChange_eq_ok
    (unused : self.proposals.proposals[self.nextProposalId]? = none)
    (previewed : self.previewAuthorityChange port self.authority change =
      .ok next) :
    proposeChange port clock change self =
      .ok (self.pendingProposal clock change next).toProposal
        (self.withPending clock change next) :=
  proposeChangeWithMetadata_eq_ok unused previewed

/-- The preview only looks at the records. -/
theorem previewAuthorityChange_proposals {store : MemoryProposalStore}
    {current : LiveAuthorityState}
    (changes : store.changes = self.proposals.changes)
    (previewed : self.previewAuthorityChange port current change = .ok next) :
    (self.changeProposals store).previewAuthorityChange port current change =
      .ok next := by
  have kept : KeepsRecords self.proposals store := by
    intro changeId record stored
    rw [changes]
    exact stored
  exact previewAuthorityChange_kept kept previewed

theorem pendingProposal_isCurrent :
    (self.withPending clock change next).IsCurrent
      (self.pendingProposal clock change next) :=
  ⟨rfl, rfl⟩

theorem IsCurrent.withApproved {proposal : StoredProposal}
    (current : self.IsCurrent proposal) (proposalId : String)
    (status : ProposalStatus) :
    (self.withApproved proposalId proposal).IsCurrent
      { proposal with status } :=
  ⟨current.contract, current.revision⟩

/-- The record that the application of a stored proposal leaves. -/
def appliedRecord (self : ProposalRuntime MemoryProposalStore)
    (clock : Nat → Nat) (proposal : StoredProposal)
    (next : LiveAuthorityState) : ChangeRecord :=
  { changeId := s!"change-{clock 0}-rev{next.revision}"
    proposalId := proposal.id
    change := proposal.change
    previousState := self.authority
    resultingState := next
    appliedAt := clock 2
    appliedBy := none
    revertedChangeId := proposal.change.revertedChangeId }

def withApplied (self : ProposalRuntime MemoryProposalStore)
    (clock : Nat → Nat) (proposal : StoredProposal)
    (next : LiveAuthorityState) : ProposalRuntime MemoryProposalStore :=
  (self.changeAuthority next).changeProposals
    (self.proposals.recorded (clock 1)
      (self.appliedRecord clock proposal next) proposal)

theorem plan_approved_eq_ok {proposal : StoredProposal}
    (stored : self.proposals.proposals[proposal.id]? = some proposal)
    (approved : proposal.status = .approved)
    (current : self.IsCurrent proposal)
    (previewed : self.previewAuthorityChange port self.authority
      proposal.change = .ok next) :
    (ApplyCall.approved proposal.id).plan port hashChange clock self =
      .ok (next, [self.appliedRecord clock proposal next]) := by
  have found := ApplyCall.retrieveProposal_eq_ok_iff.mpr stored
  have applicable : self.applicableProposal port proposal.id =
      .ok proposal.toProposal := by
    simp only [applicableProposal, found, except_ok_bind, refuseIf, approved,
      bne_self_eq_false, verifyStoredProposalIsCurrent_eq_ok current previewed]
    rfl
  have planned : self.plannedChange port hashChange clock proposal.toProposal
      (.forProposal hashChange proposal.toProposal) =
        .ok (self.appliedRecord clock proposal next) := by
    simp only [plannedChange, Approval.verify, beq_self_eq_true,
      StoredProposal.toProposal, refuseIf, current.revision, previewed,
      bne_self_eq_false, Bool.not_true]
    rfl
  simp only [ApplyCall.plan, found, except_ok_bind, applicable, planned,
    appliedRecord]

theorem perform_approved_eq_ok {proposal : StoredProposal}
    (stored : self.proposals.proposals[proposal.id]? = some proposal)
    (approved : proposal.status = .approved)
    (current : self.IsCurrent proposal)
    (previewed : self.previewAuthorityChange port self.authority
      proposal.change = .ok next) :
    (ApplyCall.approved proposal.id).perform port hashChange clock self =
      .ok () (self.withApplied clock proposal next) := by
  rw [ApplyCall.perform_eq, plan_approved_eq_ok stored approved current previewed]
  dsimp only [ApplyCall.settle]
  have taken : port.recordAll clock (ApplyCall.approved proposal.id).readings
      [self.appliedRecord clock proposal next] self.proposals =
        .ok () (self.proposals.recorded (clock 1)
          (self.appliedRecord clock proposal next) proposal) := by
    rw [ApplyCall.recordAll_singleton]
    exact MemoryProposalStore.recordApplied_stored _ stored
  rw [taken]
  rfl

end ProposalRuntime

namespace ProposalHistory

variable {hashChange : AuthorityChange → UInt64} {self : ProposalHistory}
  {clock : Nat → Nat} {change : AuthorityChange} {next : LiveAuthorityState}

def adoptCalls (clock : Nat → Nat) (proposalId : String)
    (change : AuthorityChange) : List ControlCall :=
  [⟨clock, .propose change .explicit 0⟩, ⟨clock, .approve proposalId⟩,
    ⟨clock, .apply (.approved proposalId) trivial⟩]

def adopted (runtime : ProposalRuntime MemoryProposalStore)
    (clock : Nat → Nat) (change : AuthorityChange)
    (next : LiveAuthorityState) : ProposalRuntime MemoryProposalStore :=
  let proposal := runtime.pendingProposal clock change next
  ((runtime.withPending clock change next).withApproved proposal.id
    proposal).withApplied clock { proposal with status := .approved } next

def adoptedRecord (runtime : ProposalRuntime MemoryProposalStore)
    (clock : Nat → Nat) (change : AuthorityChange)
    (next : LiveAuthorityState) : ChangeRecord :=
  runtime.appliedRecord clock (runtime.pendingProposal clock change next) next

theorem adopted_changes (runtime : ProposalRuntime MemoryProposalStore) :
    (adopted runtime clock change next).proposals.changes =
      runtime.proposals.changes.insert
        (adoptedRecord runtime clock change next).changeId
        (adoptedRecord runtime clock change next) :=
  rfl

/-- No id that is still to be given is taken. -/
def Unallocated (runtime : ProposalRuntime MemoryProposalStore) : Prop :=
  ∀ number, runtime.proposals.nextId ≤ number →
    runtime.proposals.proposals[s!"proposal-{number}"]? = none

theorem proposalId_inj {number other : Nat}
    (same : s!"proposal-{number}" = s!"proposal-{other}") :
    number = other := by
  have texts := congrArg String.toList same
  simp only [String.toList_append, List.append_cancel_left_eq] at texts
  exact decimal_inj (String.toList_inj.mp texts)

theorem Unallocated.adopted
    {runtime : ProposalRuntime MemoryProposalStore}
    (unallocated : Unallocated runtime) :
    Unallocated (adopted runtime clock change next) := by
  intro number above
  have later : runtime.proposals.nextId + 1 ≤ number := above
  have different : runtime.nextProposalId ≠ s!"proposal-{number}" := by
    intro same
    have := proposalId_inj same
    omega
  have before := unallocated number (by omega)
  refine (KeyedMap.getElem?_insert_of_ne _ _ different).trans ?_
  refine (KeyedMap.getElem?_insert_of_ne _ _ different).trans ?_
  exact (KeyedMap.getElem?_insert_of_ne _ _ different).trans before

theorem run_approvedCalls {revision : Nat} {proposal : StoredProposal}
    (stored : self.runtime.proposals.proposals[proposal.id]? = some proposal)
    (pending : proposal.status = .pending)
    (current : self.runtime.IsCurrent proposal)
    (previewed : self.runtime.previewAuthorityChange port
      self.runtime.authority proposal.change = .ok next) :
    (system hashChange revision).run self
        [⟨clock, .approve proposal.id⟩,
          ⟨clock, .apply (.approved proposal.id) trivial⟩] =
      { runtime := (self.runtime.withApproved proposal.id proposal).withApplied
          clock { proposal with status := .approved } next
        applied := self.applied ++ [proposal.id] } := by
  let approved := self.runtime.withApproved proposal.id proposal
  have approvedStored : approved.proposals.proposals[proposal.id]? =
      some { proposal with status := .approved } :=
    Std.ExtTreeMap.getElem?_insert_self
  have approvedPreviewed : approved.previewAuthorityChange port
      approved.authority proposal.change = .ok next :=
    ProposalRuntime.previewAuthorityChange_proposals rfl previewed
  have approving : ProposalRuntime.approveStoredProposal port proposal.id
      self.runtime = .ok () approved :=
    ProposalRuntime.approveStoredProposal_eq_ok stored pending current
      previewed
  have applying := @ProposalRuntime.perform_approved_eq_ok approved clock
    hashChange next { proposal with status := .approved } approvedStored rfl
    (current.withApproved proposal.id .approved) approvedPreviewed
  rw [run_cons, run_cons]
  have first : perform hashChange self ⟨clock, .approve proposal.id⟩ =
      { self with runtime := approved } := by
    simp only [perform, approving, finalState_ok]
  have second : perform hashChange { self with runtime := approved }
      ⟨clock, .apply (.approved proposal.id) trivial⟩ =
        { runtime := approved.withApplied clock
            { proposal with status := .approved } next
          applied := self.applied ++ [proposal.id] } := by
    simp only [perform]
    rw [applying]
    rfl
  rw [first, second]
  rfl

theorem run_adoptCalls {revision : Nat}
    (unallocated : Unallocated self.runtime)
    (previewed : self.runtime.previewAuthorityChange port
      self.runtime.authority change = .ok next) :
    (system hashChange revision).run self
        (adoptCalls clock self.runtime.nextProposalId change) =
      { runtime := adopted self.runtime clock change next
        applied := self.applied ++ [self.runtime.nextProposalId] } := by
  have unused := unallocated self.runtime.proposals.nextId (Nat.le_refl _)
  let proposal := self.runtime.pendingProposal clock change next
  let pending := self.runtime.withPending clock change next
  have pendingStored : pending.proposals.proposals[proposal.id]? =
      some proposal :=
    Std.ExtTreeMap.getElem?_insert_self
  have pendingPreviewed : pending.previewAuthorityChange port
      pending.authority proposal.change = .ok next :=
    ProposalRuntime.previewAuthorityChange_proposals rfl previewed
  have proposing : ProposalRuntime.proposeChangeWithMetadata port clock change
      .explicit 0 self.runtime = .ok proposal.toProposal pending :=
    ProposalRuntime.proposeChange_eq_ok unused previewed
  have first : perform hashChange self ⟨clock, .propose change .explicit 0⟩ =
      { self with runtime := pending } := by
    simp only [perform, proposing, finalState_ok]
  rw [adoptCalls, run_cons, first]
  exact @run_approvedCalls hashChange { self with runtime := pending } clock
    next revision proposal pendingStored rfl
    ProposalRuntime.pendingProposal_isCurrent pendingPreviewed

theorem reachable_adopted {revision : Nat}
    (reached : (system hashChange revision).Reachable self)
    (unallocated : Unallocated self.runtime)
    (previewed : self.runtime.previewAuthorityChange port
      self.runtime.authority change = .ok next) (clock : Nat → Nat) :
    (system hashChange revision).Reachable
      { runtime := adopted self.runtime clock change next
        applied := self.applied ++ [self.runtime.nextProposalId] } := by
  rw [← run_adoptCalls unallocated previewed]
  exact reached.run _

end ProposalHistory

end AuthBoundry
