import AuthBoundry.Boundary.Proposals
import AuthBoundry.Runtime.System

/-!
# Applications that fail

The calls that apply changes check and compute everything on the state they
find, replace the live state, and only then tell the proposal store.  What the
store refuses at that point is not taken back.
-/

namespace AuthBoundry

open Library
open Library.Stateful

/-- A call that applies changes. -/
inductive ApplyCall where
  | change (proposal : ChangeProposal) (approval : Approval)
  | stored (proposalId : String) (approval : Approval)
  | approved (proposalId : String)
  | batch (proposalIds : List String)

/-- What can be observed of a runtime: the live state, and what the store
answers about every proposal and every change. -/
structure Unchanged {σ : Type} (store : ProposalStore σ)
    (before after : ProposalRuntime σ) : Prop where
  authority : after.authority = before.authority
  revision : after.authority.revision = before.authority.revision
  proposals : ∀ proposalId,
    store.retrieveProposal after.proposals proposalId =
      store.retrieveProposal before.proposals proposalId
  changes : ∀ changeId,
    store.retrieveChangeRecord after.proposals changeId =
      store.retrieveChangeRecord before.proposals changeId

theorem unchanged_refl {σ : Type} (store : ProposalStore σ)
    (self : ProposalRuntime σ) : Unchanged store self self :=
  ⟨rfl, rfl, fun _ => rfl, fun _ => rfl⟩

namespace ApplyCall

variable {σ : Type} (store : ProposalStore σ)
  (hashChange : AuthorityChange → UInt64) (clock : Nat → Nat)

def perform : ApplyCall → ProposalM σ Unit
  | .change proposal approval => do
      let _ ← ProposalRuntime.applyChange store hashChange clock proposal
        approval
      pure ()
  | .stored proposalId approval => do
      let _ ← ProposalRuntime.applyStoredProposal store hashChange clock
        proposalId approval
      pure ()
  | .approved proposalId => do
      let _ ← ProposalRuntime.applyApprovedStoredProposal store hashChange
        clock proposalId
      pure ()
  | .batch proposalIds => do
      let _ ← ProposalRuntime.applyApprovedStoredProposals store clock
        proposalIds
      pure ()

/-- What becomes live and what is to be recorded, or the check that refuses. -/
def plan (self : ProposalRuntime σ) :
    ApplyCall → Except String (LiveAuthorityState × List ChangeRecord)
  | .change proposal approval => do
      let record ← self.plannedChange store hashChange clock proposal approval
      .ok (record.resultingState, [record])
  | .stored proposalId approval => do
      let proposal ← self.applicableProposal store proposalId
      let record ← self.plannedChange store hashChange clock proposal approval
      .ok (record.resultingState, [record])
  | .approved proposalId => do
      let stored ← store.retrieveProposal self.proposals proposalId
      let proposal ← self.applicableProposal store proposalId
      let record ← self.plannedChange store hashChange clock proposal
        (.forProposal hashChange stored.toProposal)
      .ok (record.resultingState, [record])
  | .batch proposalIds =>
      if proposalIds.isEmpty then
        .ok (self.authority, [])
      else
        self.plannedBatch store clock proposalIds

/-- How often the clock was read before the store is told. -/
def readings : ApplyCall → Nat
  | .batch proposalIds => 2 * proposalIds.length
  | _ => 1

/-- A failed call leaves everything as it was. -/
def FailsUnchanged (self : ProposalRuntime σ) (call : ApplyCall) : Prop :=
  ∀ message after,
    call.perform store hashChange clock self = .error message after →
      Unchanged store self after

def StoreTakes (self : ProposalRuntime σ) (call : ApplyCall) : Prop :=
  ∀ next records,
    call.plan store hashChange clock self = .ok (next, records) →
      ∃ proposals, store.recordAll clock call.readings records
        self.proposals = .ok () proposals

/-! ## Planning before writing -/

section Planning

variable {store} {hashChange} {clock} {self : ProposalRuntime σ}

theorem recordAll_singleton (reading : Nat) (record : ChangeRecord)
    (proposals : σ) :
    store.recordAll clock reading [record] proposals =
      store.recordApplied (clock reading) record proposals := by
  unfold ProposalStore.recordAll
  rw [bind_apply]
  cases store.recordApplied (clock reading) record proposals <;> rfl

theorem applyChange_of_planned {proposal : ChangeProposal}
    {approval : Approval} {record : ChangeRecord}
    (planned : self.plannedChange store hashChange clock proposal approval =
      .ok record) :
    ProposalRuntime.applyChange store hashChange clock proposal approval self =
      match store.recordAll clock 1 [record] self.proposals with
      | .ok () proposals =>
          .ok record.changeId
            ((self.changeAuthority record.resultingState).changeProposals
              proposals)
      | .error message proposals =>
          .error message
            ((self.changeAuthority record.resultingState).changeProposals
              proposals) := by
  unfold ProposalRuntime.applyChange
  rw [inspect_bind, planned, recordAll_singleton]
  dsimp only
  rw [assign_bind, ProposalRuntime.onStore, onPart_bind]
  have sameStore :
      (self.changeAuthority record.resultingState).proposals =
        self.proposals :=
    rfl
  rw [sameStore]
  cases store.recordApplied (clock 1) record self.proposals <;> rfl

theorem applyChange_of_refused {proposal : ChangeProposal}
    {approval : Approval} {message : String}
    (refused : self.plannedChange store hashChange clock proposal approval =
      .error message) :
    ProposalRuntime.applyChange store hashChange clock proposal approval self =
      .error message self := by
  unfold ProposalRuntime.applyChange
  rw [inspect_bind, refused]

def settle (store : ProposalStore σ) (clock : Nat → Nat)
    (self : ProposalRuntime σ) (reading : Nat) (next : LiveAuthorityState)
    (records : List ChangeRecord) :
    EStateM.Result String (ProposalRuntime σ) Unit :=
  match store.recordAll clock reading records self.proposals with
  | .ok () proposals =>
      .ok () ((self.changeAuthority next).changeProposals proposals)
  | .error message proposals =>
      .error message ((self.changeAuthority next).changeProposals proposals)

theorem perform_change (proposal : ChangeProposal) (approval : Approval) :
    (ApplyCall.change proposal approval).perform store hashChange clock self =
      match self.plannedChange store hashChange clock proposal approval with
      | .error message => .error message self
      | .ok record =>
          settle store clock self 1 record.resultingState [record] := by
  rw [perform, bind_apply]
  cases planned : self.plannedChange store hashChange clock proposal
      approval with
  | error message => rw [applyChange_of_refused planned]
  | ok record =>
      rw [applyChange_of_planned planned]
      dsimp only [settle]
      cases store.recordAll clock 1 [record] self.proposals <;> rfl

theorem perform_stored (proposalId : String) (approval : Approval) :
    (ApplyCall.stored proposalId approval).perform store hashChange clock
        self =
      match self.applicableProposal store proposalId with
      | .error message => .error message self
      | .ok proposal =>
          (ApplyCall.change proposal approval).perform store hashChange clock
            self := by
  rw [perform, bind_apply]
  unfold ProposalRuntime.applyStoredProposal
  rw [inspect_bind]
  cases self.applicableProposal store proposalId with
  | error message => rfl
  | ok proposal =>
      dsimp only
      rw [bind_apply, perform, bind_apply]
      cases ProposalRuntime.applyChange store hashChange clock proposal
        approval self <;> rfl

theorem perform_approved (proposalId : String) :
    (ApplyCall.approved proposalId).perform store hashChange clock self =
      match store.retrieveProposal self.proposals proposalId with
      | .error message => .error message self
      | .ok found =>
          (ApplyCall.stored proposalId
            (.forProposal hashChange found.toProposal)).perform store
              hashChange clock self := by
  rw [perform, bind_apply]
  unfold ProposalRuntime.applyApprovedStoredProposal
  rw [inspect_bind]
  cases store.retrieveProposal self.proposals proposalId <;> rfl

theorem perform_batch (proposalIds : List String) :
    (ApplyCall.batch proposalIds).perform store hashChange clock self =
      if proposalIds.isEmpty then
        .ok () self
      else
        match self.plannedBatch store clock proposalIds with
        | .error message => .error message self
        | .ok (next, records) =>
            settle store clock self (2 * proposalIds.length) next records := by
  rw [perform, bind_apply]
  unfold ProposalRuntime.applyApprovedStoredProposals
  by_cases empty : proposalIds.isEmpty = true
  · rw [if_pos empty, if_pos empty]
    rfl
  · rw [if_neg empty, if_neg empty, inspect_bind]
    cases self.plannedBatch store clock proposalIds with
    | error message => rfl
    | ok planned =>
        obtain ⟨next, records⟩ := planned
        dsimp only
        rw [assign_bind, ProposalRuntime.onStore, onPart_bind]
        have sameStore :
            (self.changeAuthority next).proposals = self.proposals :=
          rfl
        unfold settle
        rw [sameStore]
        cases store.recordAll clock (2 * proposalIds.length) records
          self.proposals <;> rfl

theorem perform_eq (call : ApplyCall) :
    call.perform store hashChange clock self =
      match call.plan store hashChange clock self with
      | .error message => .error message self
      | .ok (next, records) =>
          settle store clock self call.readings next records := by
  cases call with
  | change proposal approval =>
      rw [perform_change, plan]
      cases self.plannedChange store hashChange clock proposal approval <;> rfl
  | stored proposalId approval =>
      rw [perform_stored, plan]
      cases self.applicableProposal store proposalId with
      | error message => rfl
      | ok proposal =>
          dsimp only
          rw [perform_change, except_ok_bind]
          cases self.plannedChange store hashChange clock proposal approval <;>
            rfl
  | approved proposalId =>
      rw [perform_approved, plan]
      cases store.retrieveProposal self.proposals proposalId with
      | error message => rfl
      | ok found =>
          dsimp only
          rw [perform_stored, except_ok_bind]
          cases self.applicableProposal store proposalId with
          | error message => rfl
          | ok proposal =>
              dsimp only
              rw [perform_change, except_ok_bind]
              cases self.plannedChange store hashChange clock proposal
                (.forProposal hashChange found.toProposal) <;> rfl
  | batch proposalIds =>
      rw [perform_batch, plan]
      by_cases empty : proposalIds.isEmpty = true
      · rw [if_pos empty, if_pos empty]
        have none : proposalIds = [] := List.isEmpty_iff.mp empty
        rw [none]
        rfl
      · rw [if_neg empty, if_neg empty]
        rfl

/-! ## Revisions -/

theorem previewAuthorityChange_revision {current next : LiveAuthorityState}
    {change : AuthorityChange}
    (previewed : self.previewAuthorityChange store current change =
      .ok next) :
    next.revision = current.revision + 1 := by
  cases change with
  | revert changeId =>
      obtain ⟨record, _, reverted⟩ := except_bind_eq_ok_iff.mp previewed
      obtain ⟨_, _, reverted⟩ := except_bind_eq_ok_iff.mp reverted
      obtain ⟨_, _, reverted⟩ := except_bind_eq_ok_iff.mp reverted
      cases reverted
      rfl
  | setPasswordPolicy policy =>
      simp only [ProposalRuntime.previewAuthorityChange,
        AuthBoundry.applyChange] at previewed
      split at previewed
      · cases previewed
      · cases previewed
        rfl
  | protectRoute | unprotectRoute | setCapabilityPolicy | setProviderEnabled =>
      cases previewed
      rfl

theorem plannedChange_revision {proposal : ChangeProposal}
    {approval : Approval} {record : ChangeRecord}
    (planned : self.plannedChange store hashChange clock proposal approval =
      .ok record) :
    record.resultingState.revision = self.authority.revision + 1 := by
  obtain ⟨_, _, planned⟩ := except_bind_eq_ok_iff.mp planned
  obtain ⟨_, _, planned⟩ := except_bind_eq_ok_iff.mp planned
  obtain ⟨next, previewed, planned⟩ := except_bind_eq_ok_iff.mp planned
  cases planned
  exact previewAuthorityChange_revision previewed

theorem plannedRecords_revision {stored : List StoredProposal} {index : Nat}
    {current next : LiveAuthorityState} {records : List ChangeRecord}
    (planned : self.plannedRecords store clock index current stored =
      .ok (next, records)) :
    next.revision = current.revision + records.length := by
  induction stored generalizing index current records with
  | nil =>
      cases planned
      rfl
  | cons proposal rest induction =>
      obtain ⟨_, _, planned⟩ := except_bind_eq_ok_iff.mp planned
      obtain ⟨_, _, planned⟩ := except_bind_eq_ok_iff.mp planned
      obtain ⟨middle, previewed, planned⟩ := except_bind_eq_ok_iff.mp planned
      obtain ⟨⟨last, others⟩, remaining, planned⟩ :=
        except_bind_eq_ok_iff.mp planned
      cases planned
      have first := previewAuthorityChange_revision previewed
      have others := induction remaining
      rw [List.length_cons]
      omega

theorem plan_revision {call : ApplyCall} {next : LiveAuthorityState}
    {records : List ChangeRecord}
    (planned : call.plan store hashChange clock self = .ok (next, records)) :
    next.revision = self.authority.revision + records.length := by
  cases call with
  | change proposal approval =>
      obtain ⟨record, found, planned⟩ := except_bind_eq_ok_iff.mp planned
      cases planned
      exact plannedChange_revision found
  | stored proposalId approval =>
      obtain ⟨_, _, planned⟩ := except_bind_eq_ok_iff.mp planned
      obtain ⟨record, found, planned⟩ := except_bind_eq_ok_iff.mp planned
      cases planned
      exact plannedChange_revision found
  | approved proposalId =>
      obtain ⟨_, _, planned⟩ := except_bind_eq_ok_iff.mp planned
      obtain ⟨_, _, planned⟩ := except_bind_eq_ok_iff.mp planned
      obtain ⟨record, found, planned⟩ := except_bind_eq_ok_iff.mp planned
      cases planned
      exact plannedChange_revision found
  | batch proposalIds =>
      simp only [plan] at planned
      split at planned
      · cases planned
        rfl
      · obtain ⟨_, _, planned⟩ := except_bind_eq_ok_iff.mp planned
        obtain ⟨_, _, planned⟩ := except_bind_eq_ok_iff.mp planned
        exact plannedRecords_revision planned

/-- A failed call leaves everything as it was exactly when the store takes what
it is told after the checks. -/
theorem failsUnchanged_iff (call : ApplyCall) :
    call.FailsUnchanged store hashChange clock self ↔
      call.StoreTakes store hashChange clock self := by
  unfold FailsUnchanged StoreTakes
  rw [perform_eq]
  cases planned : call.plan store hashChange clock self with
  | error message =>
      constructor
      · intro _ next records found
        cases found
      · intro _ message after failed
        cases failed
        exact unchanged_refl store self
  | ok pair =>
      obtain ⟨next, records⟩ := pair
      dsimp only [settle]
      constructor
      · intro unchanged next' records' found
        cases found
        cases taken : store.recordAll clock call.readings records
            self.proposals with
        | ok value proposals => exact ⟨proposals, rfl⟩
        | error message proposals =>
            -- The live state is already that of the later revision.
            rw [taken] at unchanged
            have kept := (unchanged message _ rfl).revision
            have later : next.revision = self.authority.revision :=
              kept
            have revision := plan_revision planned
            have none : records = [] :=
              List.length_eq_zero_iff.mp (by omega)
            rw [none] at taken
            cases taken
      · intro takes message after failed
        obtain ⟨proposals, taken⟩ := takes next records rfl
        rw [taken] at failed
        cases failed

end Planning

end ApplyCall

/-! ## The store in memory -/

namespace MemoryProposalStore

def recorded (self : MemoryProposalStore) (now : Nat) (record : ChangeRecord)
    (proposal : StoredProposal) : MemoryProposalStore :=
  { self with
    proposals := self.proposals.insert record.proposalId
      { proposal with
        status := .applied
        appliedAt := some now
        changeId := some record.changeId }
    changes := self.changes.insert record.changeId record }

variable {self : MemoryProposalStore} {record : ChangeRecord}

theorem recordApplied_stored (now : Nat) {proposal : StoredProposal}
    (stored : self.proposals[record.proposalId]? = some proposal) :
    port.recordApplied now record self =
      .ok () (self.recorded now record proposal) := by
  unfold ProposalStore.recordApplied
  rw [bind_apply]
  simp only [port, markApplied, updateProposal, stored]
  rfl

theorem recordApplied_absent (now : Nat)
    (absent : self.proposals[record.proposalId]? = none) :
    port.recordApplied now record self =
      .error (notFound record.proposalId) self := by
  unfold ProposalStore.recordApplied
  rw [bind_apply]
  simp only [port, markApplied, updateProposal, absent]

theorem recorded_isSome_iff {now : Nat} {proposal : StoredProposal}
    (stored : self.proposals[record.proposalId]? = some proposal)
    (proposalId : String) :
    ((self.recorded now record proposal).proposals[proposalId]?).isSome ↔
      (self.proposals[proposalId]?).isSome := by
  unfold recorded
  rw [KeyedMap.getElem?_insert_eq]
  split
  · rename_i same
    simp [← same, stored]
  · exact Iff.rfl

/-- The store in memory takes the records of the proposals it holds. -/
theorem recordAll_isOk_iff {clock : Nat → Nat} {reading : Nat}
    {records : List ChangeRecord} :
    (∃ after, port.recordAll clock reading records self = .ok () after) ↔
      ∀ record ∈ records, (self.proposals[record.proposalId]?).isSome := by
  induction records generalizing self reading with
  | nil =>
      constructor
      · intro _ record member
        cases member
      · exact fun _ => ⟨self, rfl⟩
  | cons record records induction =>
      rw [List.forall_mem_cons]
      unfold ProposalStore.recordAll
      rw [bind_apply]
      cases stored : self.proposals[record.proposalId]? with
      | none =>
          rw [recordApplied_absent (clock reading) stored]
          simp
      | some proposal =>
          rw [recordApplied_stored (clock reading) stored]
          dsimp only
          rw [induction]
          simp only [recorded_isSome_iff stored, Option.isSome_some, true_and]

end MemoryProposalStore

namespace ApplyCall

section Memory

open MemoryProposalStore

variable {hashChange : AuthorityChange → UInt64} {clock : Nat → Nat}
  {self : ProposalRuntime MemoryProposalStore}

theorem retrieveProposal_eq_ok_iff {proposalId : String}
    {stored : StoredProposal} :
    port.retrieveProposal self.proposals proposalId = .ok stored ↔
      self.proposals.proposals[proposalId]? = some stored := by
  simp only [port, MemoryProposalStore.retrieveProposal]
  cases self.proposals.proposals[proposalId]? with
  | none => simp
  | some found => simp

theorem plannedChange_eq_ok {proposal : ChangeProposal}
    {approval : Approval} {record : ChangeRecord}
    (planned : self.plannedChange port hashChange clock proposal approval =
      .ok record) :
    record.proposalId = proposal.id ∧ record.change = proposal.change := by
  obtain ⟨_, _, planned⟩ := except_bind_eq_ok_iff.mp planned
  obtain ⟨_, _, planned⟩ := except_bind_eq_ok_iff.mp planned
  obtain ⟨_, _, planned⟩ := except_bind_eq_ok_iff.mp planned
  cases planned
  exact ⟨rfl, rfl⟩

theorem retrieved_ids
    (keyed : KeyedMap.KeyedBy StoredProposal.id self.proposals.proposals)
    {proposalIds : List String} {stored : List StoredProposal}
    (retrieved : proposalIds.mapM
      (port.retrieveProposal self.proposals) = .ok stored) :
    stored.map StoredProposal.id = proposalIds ∧
      ∀ proposal ∈ stored,
        self.proposals.proposals[proposal.id]? = some proposal := by
  induction proposalIds generalizing stored with
  | nil =>
      cases retrieved
      exact ⟨rfl, fun _ member => by cases member⟩
  | cons proposalId rest induction =>
      rw [List.mapM_cons] at retrieved
      obtain ⟨first, found, retrieved⟩ := except_bind_eq_ok_iff.mp retrieved
      obtain ⟨others, remaining, retrieved⟩ :=
        except_bind_eq_ok_iff.mp retrieved
      cases retrieved
      have there := retrieveProposal_eq_ok_iff.mp found
      have sameId : first.id = proposalId := keyed _ _ there
      obtain ⟨ids, present⟩ := induction remaining
      constructor
      · rw [List.map_cons, sameId, ids]
      · rw [List.forall_mem_cons, sameId]
        exact ⟨there, present⟩

theorem plannedRecords_ids {stored : List StoredProposal} {index : Nat}
    {current next : LiveAuthorityState} {records : List ChangeRecord}
    (planned : self.plannedRecords port clock index current stored =
      .ok (next, records)) :
    records.map ChangeRecord.proposalId = stored.map StoredProposal.id := by
  induction stored generalizing index current records with
  | nil =>
      cases planned
      rfl
  | cons proposal rest induction =>
      obtain ⟨_, _, planned⟩ := except_bind_eq_ok_iff.mp planned
      obtain ⟨_, _, planned⟩ := except_bind_eq_ok_iff.mp planned
      obtain ⟨middle, _, planned⟩ := except_bind_eq_ok_iff.mp planned
      obtain ⟨⟨last, others⟩, remaining, planned⟩ :=
        except_bind_eq_ok_iff.mp planned
      cases planned
      rw [List.map_cons, List.map_cons, induction remaining]

theorem requireApproved_eq_ok {stored : List StoredProposal} {value : Unit}
    (approved : ProposalRuntime.requireApproved stored = .ok value) :
    ∀ proposal ∈ stored, proposal.status = .approved := by
  induction stored generalizing value with
  | nil => exact fun _ member => by cases member
  | cons proposal rest induction =>
      obtain ⟨_, first, approved⟩ := except_bind_eq_ok_iff.mp approved
      have isApproved : proposal.status = .approved := by
        simpa using refuseIf_eq_ok_iff.mp first
      exact List.forall_mem_cons.mpr ⟨isApproved, induction approved⟩

def HoldsApproved (proposals : MemoryProposalStore) (proposalId : String) :
    Prop :=
  ∃ proposal, proposals.proposals[proposalId]? = some proposal ∧
    proposal.status = .approved

theorem applicableProposal_eq_ok
    (keyed : KeyedMap.KeyedBy StoredProposal.id self.proposals.proposals)
    {proposalId : String} {proposal : ChangeProposal}
    (applicable : self.applicableProposal port proposalId = .ok proposal) :
    proposal.id = proposalId ∧ HoldsApproved self.proposals proposalId := by
  obtain ⟨stored, found, applicable⟩ := except_bind_eq_ok_iff.mp applicable
  obtain ⟨_, approved, applicable⟩ := except_bind_eq_ok_iff.mp applicable
  obtain ⟨_, _, applicable⟩ := except_bind_eq_ok_iff.mp applicable
  cases applicable
  have there := retrieveProposal_eq_ok_iff.mp found
  exact ⟨keyed _ _ there, stored, there,
    by simpa using refuseIf_eq_ok_iff.mp approved⟩

def proposalIds : ApplyCall → List String
  | .change proposal _ => [proposal.id]
  | .stored proposalId _ => [proposalId]
  | .approved proposalId => [proposalId]
  | .batch proposalIds => proposalIds

/-- The call takes its proposals from the store. -/
def FromStore : ApplyCall → Prop
  | .change _ _ => False
  | _ => True

theorem plan_approved
    (keyed : KeyedMap.KeyedBy StoredProposal.id self.proposals.proposals)
    {call : ApplyCall} (fromStore : call.FromStore)
    {next : LiveAuthorityState} {records : List ChangeRecord}
    (planned : call.plan port hashChange clock self = .ok (next, records)) :
    records.map ChangeRecord.proposalId = call.proposalIds ∧
      ∀ proposalId ∈ call.proposalIds,
        HoldsApproved self.proposals proposalId := by
  cases call with
  | change proposal approval => cases fromStore
  | stored proposalId approval =>
      obtain ⟨proposal, applicable, planned⟩ :=
        except_bind_eq_ok_iff.mp planned
      obtain ⟨record, found, planned⟩ := except_bind_eq_ok_iff.mp planned
      cases planned
      obtain ⟨sameId, approved⟩ := applicableProposal_eq_ok keyed applicable
      have recordId := (plannedChange_eq_ok found).1
      simp [proposalIds, recordId, sameId, approved]
  | approved proposalId =>
      obtain ⟨_, _, planned⟩ := except_bind_eq_ok_iff.mp planned
      obtain ⟨proposal, applicable, planned⟩ :=
        except_bind_eq_ok_iff.mp planned
      obtain ⟨record, found, planned⟩ := except_bind_eq_ok_iff.mp planned
      cases planned
      obtain ⟨sameId, approved⟩ := applicableProposal_eq_ok keyed applicable
      have recordId := (plannedChange_eq_ok found).1
      simp [proposalIds, recordId, sameId, approved]
  | batch ids =>
      simp only [plan] at planned
      split at planned
      · rename_i empty
        cases planned
        simp [proposalIds, List.isEmpty_iff.mp empty]
      · obtain ⟨stored, retrieved, planned⟩ :=
          except_bind_eq_ok_iff.mp planned
        obtain ⟨_, approved, planned⟩ := except_bind_eq_ok_iff.mp planned
        obtain ⟨sameIds, present⟩ := retrieved_ids keyed retrieved
        have approved := requireApproved_eq_ok approved
        refine ⟨(plannedRecords_ids planned).trans sameIds, ?_⟩
        intro proposalId named
        rw [proposalIds, ← sameIds] at named
        obtain ⟨proposal, member, rfl⟩ := List.mem_map.mp named
        exact ⟨proposal, present proposal member, approved proposal member⟩

theorem fromStore_failsUnchanged
    (keyed : KeyedMap.KeyedBy StoredProposal.id self.proposals.proposals)
    {call : ApplyCall} (fromStore : call.FromStore) :
    call.FailsUnchanged port hashChange clock self := by
  apply (failsUnchanged_iff call).mpr
  intro next records planned
  obtain ⟨sameIds, approved⟩ := plan_approved keyed fromStore planned
  apply recordAll_isOk_iff.mpr
  intro record member
  have named : record.proposalId ∈ call.proposalIds := by
    rw [← sameIds]
    exact List.mem_map.mpr ⟨record, member, rfl⟩
  obtain ⟨proposal, there, _⟩ := approved _ named
  simp [there]

end Memory

end ApplyCall

/-! ## A proposal that was never stored -/

def quietRuntime : ProposalRuntime MemoryProposalStore :=
  { runtime :=
      { mesh := emptyMesh
        resourceResolver := noResourceResolver
        authority := .new }
    proposals := .new }

/-- A proposal to disable the local provider, made by hand. -/
def unstoredProposal : ChangeProposal :=
  { id := "proposal-1"
    change := .setProviderEnabled "local" false
    preview := { before := .ofState .new, after := .ofState .new }
    revision := 0 }

/-- The approval fits and the revision is current, so the provider is disabled
before the store is asked. -/
theorem unstoredProposal_not_failsUnchanged :
    ¬(ApplyCall.change unstoredProposal
        (.forProposal (fun _ => 0) unstoredProposal)).FailsUnchanged
      MemoryProposalStore.port (fun _ => 0) (fun _ => 0) quietRuntime := by
  intro unchanged
  have failed : ∃ after,
      (ApplyCall.change unstoredProposal
          (.forProposal (fun _ => 0) unstoredProposal)).perform
        MemoryProposalStore.port (fun _ => 0) (fun _ => 0) quietRuntime =
          .error "proposal `proposal-1` was not found" after ∧
        after.authority.revision = 1 :=
    ⟨_, rfl, rfl⟩
  obtain ⟨after, failed, revision⟩ := failed
  have kept := (unchanged _ after failed).revision
  rw [revision] at kept
  cases kept

end AuthBoundry
