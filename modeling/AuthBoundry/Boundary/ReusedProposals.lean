import AuthBoundry.Boundary.EnsuredProposals

/-!
# Proposals that are found again

No reachable state has taken an id that is still to be given, so a proposal
that is not stored yet is always stored when it is asked for.  From then on it
is the one that is found, whatever other proposals are made.  What was found can
be adopted exactly if it awaits nothing but its review and is current.
-/

namespace AuthBoundry

open Library
open Library.Stateful
open MemoryProposalStore (port)

namespace MemoryProposalStore

/-- The ids that are given are the same, and nothing is stored under others. -/
structure NoNewIds (before after : MemoryProposalStore) : Prop where
  nextId : after.nextId = before.nextId
  absent : ∀ proposalId : String, before.proposals[proposalId]? = none →
    after.proposals[proposalId]? = none

namespace NoNewIds

variable {before middle after : MemoryProposalStore}

theorem refl (store : MemoryProposalStore) : NoNewIds store store :=
  ⟨rfl, fun _ absent => absent⟩

theorem trans (first : NoNewIds before middle)
    (second : NoNewIds middle after) : NoNewIds before after :=
  ⟨second.nextId.trans first.nextId,
    fun proposalId absent =>
      second.absent proposalId (first.absent proposalId absent)⟩

theorem insert {proposalId : String} {stored proposal : StoredProposal}
    (found : before.proposals[proposalId]? = some stored)
    (proposals : after.proposals =
      before.proposals.insert proposalId proposal)
    (nextId : after.nextId = before.nextId) : NoNewIds before after := by
  refine ⟨nextId, ?_⟩
  intro other absent
  rw [proposals, KeyedMap.getElem?_insert_eq]
  by_cases same : proposalId = other
  · rw [same, absent] at found
    cases found
  · rw [if_neg same]
    exact absent

end NoNewIds

theorem updateProposal_noNewIds (proposalId : String)
    (update : StoredProposal → StoredProposal)
    (store : MemoryProposalStore) :
    NoNewIds store (finalState (updateProposal proposalId update store)) := by
  unfold updateProposal
  split
  · rename_i stored found
    exact .insert found rfl rfl
  · exact .refl store

theorem recordAll_noNewIds {clock : Nat → Nat} {reading : Nat}
    {records : List ChangeRecord} {store after : MemoryProposalStore}
    (taken : port.recordAll clock reading records store = .ok () after) :
    NoNewIds store after := by
  induction records generalizing store reading with
  | nil =>
      cases taken
      exact .refl _
  | cons record records induction =>
      unfold ProposalStore.recordAll at taken
      obtain ⟨_, middle, first, rest⟩ := bind_eq_ok_iff.mp taken
      cases found : store.proposals[record.proposalId]? with
      | none =>
          rw [recordApplied_absent (clock reading) found] at first
          cases first
      | some proposal =>
          rw [recordApplied_stored (clock reading) found] at first
          cases first
          have marked : NoNewIds store
              (store.recorded (clock reading) record proposal) :=
            .insert found rfl rfl
          exact marked.trans (induction rest)

end MemoryProposalStore

namespace ProposalHistory

open MemoryProposalStore

variable {hashChange : AuthorityChange → UInt64} {self : ProposalHistory}
  {revision : Nat}

theorem Unallocated.noNewIds
    {before after : ProposalRuntime MemoryProposalStore}
    (unallocated : Unallocated before)
    (same : NoNewIds before.proposals after.proposals) :
    Unallocated after := by
  intro number above
  rw [same.nextId] at above
  exact same.absent _ (unallocated number above)

theorem Unallocated.propose {clock : Nat → Nat} {change : AuthorityChange}
    {source : ProposalSource} {discoveryRevision : Nat}
    {runtime : ProposalRuntime MemoryProposalStore}
    (unallocated : Unallocated runtime) :
    Unallocated (finalState (ProposalRuntime.proposeChangeWithMetadata port
      clock change source discoveryRevision runtime)) := by
  cases previewed : runtime.previewAuthorityChange port runtime.authority
      change with
  | error message =>
      have unchanged : finalState (ProposalRuntime.proposeChangeWithMetadata
          port clock change source discoveryRevision runtime) = runtime := by
        unfold ProposalRuntime.proposeChangeWithMetadata
        rw [bind_apply]
        dsimp only [get, getThe, MonadStateOf.get, EStateM.get]
        rw [inspect_bind, previewed]
        rfl
      rw [unchanged]
      exact unallocated
  | ok next =>
      have unused := unallocated runtime.proposals.nextId (Nat.le_refl _)
      rw [ProposalRuntime.proposeChangeWithMetadata_eq_ok unused previewed]
      intro number above
      have later : runtime.proposals.nextId + 1 ≤ number := above
      have different : runtime.nextProposalId ≠ s!"proposal-{number}" := by
        intro same
        have sameNumber := proposalId_inj same
        omega
      have free := unallocated number (by omega)
      exact (KeyedMap.getElem?_insert_of_ne _ _ different).trans free

theorem step_unallocated (tracked : self.Tracked revision)
    (unallocated : Unallocated self.runtime) (call : ControlCall) :
    Unallocated (perform hashChange self call).runtime := by
  obtain ⟨clock, operation⟩ := call
  cases operation with
  | propose change source discoveryRevision => exact unallocated.propose
  | approve proposalId =>
      apply unallocated.noNewIds
      unfold perform
      dsimp only
      unfold ProposalRuntime.approveStoredProposal
      rw [inspect_bind]
      cases port.retrieveProposal self.runtime.proposals proposalId with
      | error message => exact .refl _
      | ok stored =>
          dsimp only
          cases stored.status with
          | pending =>
              dsimp only
              rw [inspect_bind]
              cases self.runtime.verifyStoredProposalIsCurrent port stored with
              | error message => exact .refl _
              | ok _ =>
                  dsimp only
                  rw [ProposalRuntime.finalState_onStore_proposals]
                  exact updateProposal_noNewIds _ _ _
          | _ => exact .refl _
  | reject proposalId reason =>
      apply unallocated.noNewIds
      unfold perform
      dsimp only
      unfold ProposalRuntime.rejectStoredProposal
      rw [inspect_bind]
      cases port.retrieveProposal self.runtime.proposals proposalId with
      | error message => exact .refl _
      | ok stored =>
          dsimp only
          cases stored.status with
          | applied => exact .refl _
          | rejected => exact .refl _
          | _ =>
              dsimp only
              rw [ProposalRuntime.finalState_onStore_proposals]
              exact updateProposal_noNewIds _ _ _
  | apply apply fromStore =>
      cases planned : apply.plan port hashChange clock self.runtime with
      | error message =>
          rw [perform_refused fromStore planned]
          exact unallocated
      | ok plan =>
          obtain ⟨next, records⟩ := plan
          obtain ⟨proposals, taken, performed⟩ :=
            perform_planned tracked.marks fromStore planned
          rw [performed]
          exact unallocated.noNewIds (recordAll_noNewIds taken)

/-- No reachable state has taken an id that is still to be given. -/
theorem reachable_unallocated
    (reached : (system hashChange revision).Reachable self) :
    Unallocated self.runtime := by
  apply reached.invariant
  · intro start fresh number _
    rw [fresh.proposals]
    exact Std.ExtTreeMap.getElem?_empty
  · intro state call before _ unallocated
    exact step_unallocated (reachable_tracked before) unallocated call

end ProposalHistory

/-! ## Finding what was made -/

namespace ProposalRuntime

open ProposalHistory

variable {self : ProposalRuntime MemoryProposalStore} {clock : Nat → Nat}
  {source : ProposalSource} {discoveryRevision : Nat} {method : Method}
  {path capability : String}

def foundProtection (self : ProposalRuntime MemoryProposalStore)
    (discoveryRevision : Nat) (method : Method) (path capability : String) :
    Option StoredProposal :=
  self.proposals.findProposal (.protectRoute method path capability)
    self.fingerprint discoveryRevision

theorem foundProtection_eq_some {existing : StoredProposal}
    (keyed : KeyedMap.KeyedBy StoredProposal.id self.proposals.proposals)
    (found : self.foundProtection discoveryRevision method path capability =
      some existing) :
    self.proposals.proposals[existing.id]? = some existing ∧
      existing.change = .protectRoute method path capability ∧
      existing.contractFingerprint = self.fingerprint := by
  have listed := List.mem_of_find?_eq_some found
  have fits := List.find?_some found
  simp only [Bool.and_eq_true, beq_iff_eq] at fits
  exact ⟨keyed.mem_values.mp listed,
    AuthorityChange.beq_protectRoute_iff.mp fits.1.1, fits.1.2⟩

def withProtection (self : ProposalRuntime MemoryProposalStore)
    (clock : Nat → Nat) (source : ProposalSource) (discoveryRevision : Nat)
    (method : Method) (path capability : String) :
    StoredProposal × ProposalRuntime MemoryProposalStore :=
  let proposal := self.proposedChange clock
    (.protectRoute method path capability) source discoveryRevision
    { self.authority with
      routeProtection := self.authority.routeProtection.insert
        { method, path } { capability := some capability }
      revision := self.authority.revision + 1 }
  (proposal, self.withStored proposal)

theorem ensureProposal_protectRoute (unallocated : Unallocated self) :
    ensureProposal clock (.protectRoute method path capability) source
        discoveryRevision self =
      match self.foundProtection discoveryRevision method path capability with
      | some existing => .ok existing self
      | none =>
          .ok
            (self.withProtection clock source discoveryRevision method path
              capability).1
            (self.withProtection clock source discoveryRevision method path
              capability).2 := by
  cases found : self.foundProtection discoveryRevision method path
      capability with
  | some existing =>
      unfold ensureProposal
      rw [bind_apply]
      dsimp only [get, getThe, MonadStateOf.get, EStateM.get]
      unfold foundProtection at found
      rw [found]
      rfl
  | none =>
      have unused := unallocated self.proposals.nextId (Nat.le_refl _)
      exact ensureProposal_new found unused rfl

theorem withProtection_unallocated (unallocated : Unallocated self) :
    Unallocated (self.withProtection clock source discoveryRevision method
      path capability).2 := by
  intro number above
  have later : self.proposals.nextId + 1 ≤ number := above
  have different : self.nextProposalId ≠ s!"proposal-{number}" := by
    intro same
    have sameNumber := proposalId_inj same
    omega
  have free := unallocated number (by omega)
  exact (KeyedMap.getElem?_insert_of_ne _ _ different).trans free

theorem withProtection_keyed
    (keyed : KeyedMap.KeyedBy StoredProposal.id self.proposals.proposals) :
    KeyedMap.KeyedBy StoredProposal.id
      (self.withProtection clock source discoveryRevision method path
        capability).2.proposals.proposals :=
  keyed.insert (self.withProtection clock source discoveryRevision method path
    capability).1

theorem foundProtection_withProtection
    (absent : self.foundProtection discoveryRevision method path capability =
      none) :
    (self.withProtection clock source discoveryRevision method path
        capability).2.foundProtection discoveryRevision method path
        capability =
      some (self.withProtection clock source discoveryRevision method path
        capability).1 := by
  have fit : ((AuthorityChange.protectRoute method path capability ==
        .protectRoute method path capability) &&
      self.fingerprint == self.fingerprint &&
      discoveryRevision == discoveryRevision) = true := by
    rw [AuthorityChange.beq_protectRoute_iff.mpr rfl]
    simp
  exact KeyedMap.find?_values_insert_of_only fit absent

theorem foundProtection_withProtection_of_ne (unallocated : Unallocated self)
    {otherMethod : Method} {otherPath otherCapability : String}
    (different : AuthorityChange.protectRoute method path capability ≠
      .protectRoute otherMethod otherPath otherCapability) :
    (self.withProtection clock source discoveryRevision method path
        capability).2.foundProtection discoveryRevision otherMethod otherPath
        otherCapability =
      self.foundProtection discoveryRevision otherMethod otherPath
        otherCapability := by
  have unfit : ((AuthorityChange.protectRoute method path capability ==
        .protectRoute otherMethod otherPath otherCapability) &&
      self.fingerprint == self.fingerprint &&
      discoveryRevision == discoveryRevision) = false := by
    rw [Bool.eq_false_iff.mpr fun same =>
      different (AuthorityChange.beq_protectRoute_iff.mp same)]
    simp
  exact KeyedMap.find?_values_insert_of_unfit
    (unallocated self.proposals.nextId (Nat.le_refl _)) unfit

/-! ### Adopting what was found -/

variable {hashChange : AuthorityChange → UInt64}

/-- The proposal can be approved and applied now, at whatever time. -/
def CanBeAdopted (hashChange : AuthorityChange → UInt64)
    (self : ProposalRuntime MemoryProposalStore) (proposalId : String) : Prop :=
  ∀ clock : Nat → Nat, ∃ approved applied,
    approveStoredProposal port proposalId self = .ok () approved ∧
      (ApplyCall.approved proposalId).perform port hashChange clock approved =
        .ok () applied

theorem isCurrent_of_verified {proposal : StoredProposal}
    (verified : self.verifyStoredProposalIsCurrent port proposal = .ok ()) :
    self.IsCurrent proposal := by
  obtain ⟨_, sameContract, verified⟩ := except_bind_eq_ok_iff.mp verified
  obtain ⟨_, sameRevision, _⟩ := except_bind_eq_ok_iff.mp verified
  constructor
  · exact of_not_not fun different =>
      Bool.false_ne_true ((refuseIf_eq_ok_iff.mp sameContract).symm.trans
        (bne_iff_ne.mpr different))
  · exact of_not_not fun different =>
      Bool.false_ne_true ((refuseIf_eq_ok_iff.mp sameRevision).symm.trans
        (bne_iff_ne.mpr different))

theorem plan_approved_current {clock : Nat → Nat} {proposal : StoredProposal}
    {plan : LiveAuthorityState × List ChangeRecord}
    (stored : self.proposals.proposals[proposal.id]? = some proposal)
    (planned : (ApplyCall.approved proposal.id).plan port hashChange clock
      self = .ok plan) :
    proposal.status = .approved ∧ self.IsCurrent proposal := by
  obtain ⟨_, _, planned⟩ := except_bind_eq_ok_iff.mp planned
  obtain ⟨_, applicable, _⟩ := except_bind_eq_ok_iff.mp planned
  obtain ⟨found, retrieved, applicable⟩ :=
    except_bind_eq_ok_iff.mp applicable
  obtain ⟨_, approved, applicable⟩ := except_bind_eq_ok_iff.mp applicable
  obtain ⟨_, verified, _⟩ := except_bind_eq_ok_iff.mp applicable
  have there := ApplyCall.retrieveProposal_eq_ok_iff.mp retrieved
  rw [stored] at there
  cases there
  exact ⟨by simpa using refuseIf_eq_ok_iff.mp approved,
    isCurrent_of_verified verified⟩

theorem canBeAdopted_iff {proposal : StoredProposal} {method : Method}
    {path capability : String}
    (stored : self.proposals.proposals[proposal.id]? = some proposal)
    (change : proposal.change = .protectRoute method path capability) :
    CanBeAdopted hashChange self proposal.id ↔
      (proposal.status = .pending ∨ proposal.status = .approved) ∧
        self.IsCurrent proposal := by
  have previewed : ∀ {runtime : ProposalRuntime MemoryProposalStore},
      ∃ next, runtime.previewAuthorityChange port runtime.authority
        proposal.change = .ok next := by
    intro runtime
    rw [change]
    exact ⟨_, rfl⟩
  constructor
  · intro adoptable
    obtain ⟨approved, applied, approving, applying⟩ := adoptable fun _ => 0
    have found := ApplyCall.retrieveProposal_eq_ok_iff.mpr stored
    unfold approveStoredProposal at approving
    rw [inspect_bind, found] at approving
    dsimp only at approving
    cases status : proposal.status with
    | pending =>
        rw [status] at approving
        dsimp only at approving
        rw [inspect_bind] at approving
        cases verified : self.verifyStoredProposalIsCurrent port proposal with
        | error message =>
            rw [verified] at approving
            cases approving
        | ok _ => exact ⟨.inl rfl, isCurrent_of_verified verified⟩
    | approved =>
        rw [status] at approving
        cases approving
        rw [ApplyCall.perform_eq] at applying
        cases planned : (ApplyCall.approved proposal.id).plan port hashChange
            (fun _ => 0) self with
        | error message =>
            rw [planned] at applying
            cases applying
        | ok plan =>
            exact ⟨.inr rfl, (plan_approved_current stored planned).2⟩
    | _ =>
        rw [status] at approving
        cases approving
  · intro ⟨reviewable, current⟩ clock
    rcases reviewable with pending | approved
    · obtain ⟨next, isNext⟩ := @previewed self
      have approving := approveStoredProposal_eq_ok stored pending current
        isNext
      have marked : (self.withApproved proposal.id
          proposal).proposals.proposals[proposal.id]? =
            some { proposal with status := .approved } :=
        Std.ExtTreeMap.getElem?_insert_self
      obtain ⟨later, isLater⟩ :=
        @previewed (self.withApproved proposal.id proposal)
      have applying := @perform_approved_eq_ok _ clock hashChange later
        { proposal with status := .approved } marked rfl
        (current.withApproved proposal.id .approved) isLater
      exact ⟨_, _, approving, applying⟩
    · obtain ⟨next, isNext⟩ := @previewed self
      have found := ApplyCall.retrieveProposal_eq_ok_iff.mpr stored
      have approving : approveStoredProposal port proposal.id self =
          .ok () self := by
        unfold approveStoredProposal
        rw [inspect_bind, found]
        dsimp only
        rw [approved]
        rfl
      exact ⟨_, _, approving,
        perform_approved_eq_ok stored approved current isNext⟩

end ProposalRuntime

end AuthBoundry
