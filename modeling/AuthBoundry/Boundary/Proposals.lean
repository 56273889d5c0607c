import AuthBoundry.Boundary.Runtime

/-!
# Proposals

The live authority state is changed by proposals: a change is proposed with a
preview, approved or rejected, and applied once it is approved.  An applied
change leaves a record, by which it can be reverted.

The proposal store is an interface with one implementation.  The functions
below are written against the interface.
-/

namespace AuthBoundry

open Library
open Library.Stateful

/-- What a reviewer sees of an authority state. -/
structure PreviewState where
  routeProtection : KeyedMap RouteId RouteProtection
  capabilityPolicies : KeyedMap String Policy
  providerState : KeyedMap String ProviderState
  passwordPolicy : Option PasswordPolicy

def PreviewState.ofState (state : LiveAuthorityState) : PreviewState :=
  { routeProtection := state.routeProtection
    capabilityPolicies := state.capabilityPolicies
    providerState := state.providerState
    passwordPolicy := state.passwordPolicy }

structure Preview where
  before : PreviewState
  after : PreviewState

structure ChangeProposal where
  id : String
  change : AuthorityChange
  preview : Preview
  revision : Nat

inductive ProposalStatus where
  | pending
  | approved
  | applied
  | rejected
  | active
  | orphaned
  | stale
  | superseded
  deriving DecidableEq, Repr

def ProposalStatus.asStr : ProposalStatus → String
  | .pending => "pending"
  | .approved => "approved"
  | .applied => "applied"
  | .rejected => "rejected"
  | .active => "active"
  | .orphaned => "orphaned"
  | .stale => "stale"
  | .superseded => "superseded"

inductive ProposalSource where
  | explicit
  | inferred
  | imported
  deriving DecidableEq, Repr

/-- A proposal as it is stored.  Times are milliseconds since the epoch. -/
structure StoredProposal where
  id : String
  change : AuthorityChange
  preview : Preview
  revision : Nat
  contractFingerprint : String
  discoveryRevision : Nat
  source : ProposalSource
  status : ProposalStatus
  createdAt : Nat
  appliedAt : Option Nat
  changeId : Option String
  rejectionReason : Option String

def StoredProposal.toProposal (self : StoredProposal) : ChangeProposal :=
  { id := self.id
    change := self.change
    preview := self.preview
    revision := self.revision }

/-- The trace of an applied change. -/
structure ChangeRecord where
  changeId : String
  proposalId : String
  change : AuthorityChange
  previousState : LiveAuthorityState
  resultingState : LiveAuthorityState
  appliedAt : Nat
  appliedBy : Option String
  revertedChangeId : Option String

/-- The change that a change takes back. -/
def AuthorityChange.revertedChangeId : AuthorityChange → Option String
  | .revert changeId => some changeId
  | _ => none

structure Approval where
  token : String
  deriving DecidableEq, Repr

namespace Approval

variable (hashChange : AuthorityChange → UInt64)

/-- The token depends on the change alone. -/
def forProposal (proposal : ChangeProposal) : Approval :=
  { token := s!"dev-approval-{hashChange proposal.change}" }

def verify (self : Approval) (proposal : ChangeProposal) : Bool :=
  self.token == (forProposal hashChange proposal).token

end Approval

def applyRevertChange (current : LiveAuthorityState) (changeId : String)
    (record : ChangeRecord) : Except String LiveAuthorityState := do
  refuseIf (record.changeId != changeId)
    "revert change id does not match the stored record"
  refuseIf (decide (current.revision < record.resultingState.revision))
    "cannot revert against an older authority state"
  .ok { record.previousState with revision := current.revision + 1 }

/-! ## The store -/

/-- The interface of a proposal store.  Reads change nothing; a write that
fails may have changed anything. -/
structure ProposalStore (σ : Type) where
  allocateProposalId : σ → String × σ
  storeProposal : StoredProposal → EStateM String σ Unit
  retrieveProposal : σ → String → Except String StoredProposal
  markApplied : Nat → String → String → Nat → EStateM String σ Unit
  markApproved : String → EStateM String σ Unit
  markRejected : String → String → EStateM String σ Unit
  storeChangeRecord : ChangeRecord → EStateM String σ Unit
  retrieveChangeRecord : σ → String → Except String ChangeRecord

namespace ProposalStore

variable {σ : Type} (store : ProposalStore σ)

/-- Taking a new id, which cannot fail. -/
def takeProposalId : EStateM String σ String := fun proposals =>
  .ok (store.allocateProposalId proposals).1
    (store.allocateProposalId proposals).2

/-- The two calls that follow when a change is live. -/
def recordApplied (now : Nat) (record : ChangeRecord) :
    EStateM String σ Unit := do
  store.markApplied now record.proposalId record.changeId
    record.resultingState.revision
  store.storeChangeRecord record

/-- The last loop of a batch. -/
def recordAll (clock : Nat → Nat) :
    Nat → List ChangeRecord → EStateM String σ Unit
  | _, [] => pure ()
  | reading, record :: records => do
      store.recordApplied (clock reading) record
      recordAll clock (reading + 1) records

end ProposalStore

structure MemoryProposalStore where
  proposals : KeyedMap String StoredProposal
  changes : KeyedMap String ChangeRecord
  nextId : Nat

namespace MemoryProposalStore

def new : MemoryProposalStore :=
  { proposals := ∅, changes := ∅, nextId := 1 }

def allocateProposalId (self : MemoryProposalStore) :
    String × MemoryProposalStore :=
  (s!"proposal-{self.nextId}", { self with nextId := self.nextId + 1 })

def notFound (proposalId : String) : String :=
  s!"proposal `{proposalId}` was not found"

def storeProposal (proposal : StoredProposal) :
    EStateM String MemoryProposalStore Unit := fun self =>
  if self.proposals.contains proposal.id then
    .error s!"proposal `{proposal.id}` already exists" self
  else
    .ok ()
      { self with proposals := self.proposals.insert proposal.id proposal }

def retrieveProposal (self : MemoryProposalStore) (proposalId : String) :
    Except String StoredProposal :=
  match self.proposals[proposalId]? with
  | some proposal => .ok proposal
  | none => .error (notFound proposalId)

/-- Change a stored proposal in its place. -/
def updateProposal (proposalId : String)
    (update : StoredProposal → StoredProposal) :
    EStateM String MemoryProposalStore Unit := fun self =>
  match self.proposals[proposalId]? with
  | some proposal =>
      .ok ()
        { self with
          proposals := self.proposals.insert proposalId (update proposal) }
  | none => .error (notFound proposalId) self

def markApplied (now : Nat) (proposalId changeId : String)
    (_newRevision : Nat) : EStateM String MemoryProposalStore Unit :=
  updateProposal proposalId fun proposal =>
    { proposal with
      status := .applied
      appliedAt := some now
      changeId := some changeId }

def markApproved (proposalId : String) :
    EStateM String MemoryProposalStore Unit :=
  updateProposal proposalId fun proposal =>
    { proposal with status := .approved }

def markRejected (proposalId reason : String) :
    EStateM String MemoryProposalStore Unit :=
  updateProposal proposalId fun proposal =>
    { proposal with status := .rejected, rejectionReason := some reason }

def storeChangeRecord (record : ChangeRecord) :
    EStateM String MemoryProposalStore Unit :=
  assign fun self =>
    { self with changes := self.changes.insert record.changeId record }

def retrieveChangeRecord (self : MemoryProposalStore) (changeId : String) :
    Except String ChangeRecord :=
  match self.changes[changeId]? with
  | some record => .ok record
  | none => .error s!"change `{changeId}` was not found"

/-- The one implementation of the interface. -/
def port : ProposalStore MemoryProposalStore :=
  { allocateProposalId
    storeProposal
    retrieveProposal
    markApplied
    markApproved
    markRejected
    storeChangeRecord
    retrieveChangeRecord }

end MemoryProposalStore

/-! ## The runtime -/

/-- The boundary runtime with its proposal store. -/
structure ProposalRuntime (σ : Type) where
  runtime : AuthPortRuntime
  proposals : σ

/-- Programs over the runtime.  Their failures are plain texts. -/
abbrev ProposalM (σ : Type) := EStateM String (ProposalRuntime σ)

namespace ProposalRuntime

variable {σ : Type}

def authority (self : ProposalRuntime σ) : LiveAuthorityState :=
  self.runtime.authority

/-- The fingerprint of the contract. -/
def fingerprint (self : ProposalRuntime σ) : String :=
  self.runtime.mesh.config.fingerprint

def changeAuthority (self : ProposalRuntime σ)
    (authority : LiveAuthorityState) : ProposalRuntime σ :=
  { self with runtime := { self.runtime with authority } }

def changeProposals (self : ProposalRuntime σ) (proposals : σ) :
    ProposalRuntime σ :=
  { self with proposals }

def onStore {α : Type} (program : EStateM String σ α) : ProposalM σ α :=
  onPart proposals changeProposals program

variable (store : ProposalStore σ) (hashChange : AuthorityChange → UInt64)
  (clock : Nat → Nat)

def previewAuthorityChange (self : ProposalRuntime σ)
    (current : LiveAuthorityState) (change : AuthorityChange) :
    Except String LiveAuthorityState :=
  match change with
  | .revert changeId => do
      let record ← store.retrieveChangeRecord self.proposals changeId
      applyRevertChange current changeId record
  | change => AuthBoundry.applyChange current change

def staleRevision (expected current : Nat) : String :=
  s!"STALE_AUTHORITY_PROPOSAL: expected authority revision {expected}, current authority revision {current}"

def verifyStoredProposalIsCurrent (self : ProposalRuntime σ)
    (proposal : StoredProposal) : Except String Unit := do
  refuseIf (proposal.contractFingerprint != self.fingerprint)
    "STALE_AUTHORITY_PROPOSAL: contract fingerprint changed"
  refuseIf (proposal.revision != self.authority.revision)
    (staleRevision proposal.revision self.authority.revision)
  let _ ← self.previewAuthorityChange store self.authority proposal.change
  .ok ()

def proposeChangeWithMetadata (change : AuthorityChange)
    (source : ProposalSource) (discoveryRevision : Nat) :
    ProposalM σ ChangeProposal := do
  let self ← get
  let after ← inspect fun self =>
    self.previewAuthorityChange store self.authority change
  let id ← onStore store.takeProposalId
  let proposal : ChangeProposal :=
    { id
      change
      preview := { before := .ofState self.authority, after := .ofState after }
      revision := self.authority.revision }
  onStore (store.storeProposal
    { id
      change
      preview := proposal.preview
      revision := proposal.revision
      contractFingerprint := self.fingerprint
      discoveryRevision
      source
      status := .pending
      createdAt := clock 0
      appliedAt := none
      changeId := none
      rejectionReason := none })
  pure proposal

def proposeChange (change : AuthorityChange) : ProposalM σ ChangeProposal :=
  proposeChangeWithMetadata store clock change .explicit 0

def approveStoredProposal (proposalId : String) : ProposalM σ Unit := do
  let stored ← inspect fun self =>
    store.retrieveProposal self.proposals proposalId
  match stored.status with
  | .pending => do
      inspect fun self => self.verifyStoredProposalIsCurrent store stored
      onStore (store.markApproved proposalId)
  | .approved => pure ()
  | .applied => throw s!"proposal `{proposalId}` is already applied"
  | .rejected => throw s!"proposal `{proposalId}` is rejected"
  | status =>
      throw s!"proposal `{proposalId}` is {status.asStr} and requires reconciliation review"

def rejectStoredProposal (proposalId reason : String) : ProposalM σ Unit := do
  let stored ← inspect fun self =>
    store.retrieveProposal self.proposals proposalId
  match stored.status with
  | .applied => throw s!"proposal `{proposalId}` is already applied"
  | .rejected => pure ()
  | _ => onStore (store.markRejected proposalId reason)

/-! ## Applying -/

/-- What `applyChange` checks and computes before the change is live. -/
def plannedChange (self : ProposalRuntime σ) (proposal : ChangeProposal)
    (approval : Approval) : Except String ChangeRecord := do
  refuseIf (!approval.verify hashChange proposal)
    "approval token does not match proposal"
  refuseIf (proposal.revision != self.authority.revision)
    "change conflicts with newer authority state"
  let next ← self.previewAuthorityChange store self.authority proposal.change
  .ok
    { changeId := s!"change-{clock 0}-rev{next.revision}"
      proposalId := proposal.id
      change := proposal.change
      previousState := self.authority
      resultingState := next
      appliedAt := clock 2
      appliedBy := none
      revertedChangeId := proposal.change.revertedChangeId }

/-- The live state is replaced before the store is told. -/
def applyChange (proposal : ChangeProposal) (approval : Approval) :
    ProposalM σ String := do
  let record ← inspect fun self =>
    self.plannedChange store hashChange clock proposal approval
  assign fun self => self.changeAuthority record.resultingState
  onStore (store.recordApplied (clock 1) record)
  pure record.changeId

def applicableProposal (self : ProposalRuntime σ) (proposalId : String) :
    Except String ChangeProposal := do
  let stored ← store.retrieveProposal self.proposals proposalId
  refuseIf (stored.status != .approved)
    s!"proposal `{proposalId}` is not approved"
  self.verifyStoredProposalIsCurrent store stored
  .ok stored.toProposal

def applyStoredProposal (proposalId : String) (approval : Approval) :
    ProposalM σ (String × Nat) := do
  let proposal ← inspect fun self => self.applicableProposal store proposalId
  let changeId ← applyChange store hashChange clock proposal approval
  let self ← get
  pure (changeId, self.authority.revision)

def applyApprovedStoredProposal (proposalId : String) :
    ProposalM σ (String × Nat) := do
  let stored ← inspect fun self =>
    store.retrieveProposal self.proposals proposalId
  applyStoredProposal store hashChange clock proposalId
    (.forProposal hashChange stored.toProposal)

/-- The first proposal of a batch that is not approved is named. -/
def requireApproved : List StoredProposal → Except String Unit
  | [] => .ok ()
  | proposal :: rest => do
      refuseIf (proposal.status != .approved)
        s!"proposal `{proposal.id}` is not approved"
      requireApproved rest

/-- The loop of a batch: each change is previewed on the result of the one
before it. -/
def plannedRecords (self : ProposalRuntime σ) :
    Nat → LiveAuthorityState → List StoredProposal →
      Except String (LiveAuthorityState × List ChangeRecord)
  | _, current, [] => .ok (current, [])
  | index, current, proposal :: rest => do
      refuseIf (proposal.contractFingerprint != self.fingerprint)
        "STALE_AUTHORITY_PROPOSAL: contract fingerprint changed"
      refuseIf (proposal.revision != self.authority.revision)
        (staleRevision proposal.revision self.authority.revision)
      let next ← self.previewAuthorityChange store current proposal.change
      let record : ChangeRecord :=
        { changeId :=
            s!"change-{clock (2 * index)}-{index}-rev{next.revision}"
          proposalId := proposal.id
          change := proposal.change
          previousState := current
          resultingState := next
          appliedAt := clock (2 * index + 1)
          appliedBy := none
          revertedChangeId := proposal.change.revertedChangeId }
      let (last, records) ← self.plannedRecords (index + 1) next rest
      .ok (last, record :: records)

/-- What a batch checks and computes before any change is live. -/
def plannedBatch (self : ProposalRuntime σ) (proposalIds : List String) :
    Except String (LiveAuthorityState × List ChangeRecord) := do
  let stored ← proposalIds.mapM (store.retrieveProposal self.proposals)
  requireApproved stored
  self.plannedRecords store clock 0 self.authority stored

def applyApprovedStoredProposals (proposalIds : List String) :
    ProposalM σ (List (String × String × Nat)) :=
  if proposalIds.isEmpty then
    pure []
  else do
    let (next, records) ← inspect fun self =>
      self.plannedBatch store clock proposalIds
    assign fun self => self.changeAuthority next
    onStore (store.recordAll clock (2 * proposalIds.length) records)
    pure (records.map fun record =>
      (record.proposalId, record.changeId, record.resultingState.revision))

end ProposalRuntime

end AuthBoundry
