import AuthBoundry.Boundary.Adoption

/-!
# Proposals that are made once

A change that discovery asks for is proposed once for a contract and a
discovery; asked for again, the proposal that is already stored is returned.
What a stored proposal changes never changes, and every record is of the change
of its stored proposal.
-/

namespace AuthBoundry

open Library
open Library.Stateful
open MemoryProposalStore (port)

deriving instance BEq for Condition
deriving instance BEq for Rule
deriving instance BEq for Policy
deriving instance BEq for AuthorityChange

theorem AuthorityChange.beq_protectRoute_iff {change : AuthorityChange}
    {method : Method} {path capability : String} :
    (change == .protectRoute method path capability) = true ↔
      change = .protectRoute method path capability := by
  cases change with
  | protectRoute changeMethod changePath changeCapability =>
      change (changeMethod == method &&
        (changePath == path && changeCapability == capability)) = true ↔ _
      simp
  | _ =>
      constructor
      · intro same
        exact (Bool.false_ne_true same).elim
      · intro same
        cases same

namespace MemoryProposalStore

def findProposal (self : MemoryProposalStore) (change : AuthorityChange)
    (contractFingerprint : String) (discoveryRevision : Nat) :
    Option StoredProposal :=
  self.proposals.values.find? fun proposal =>
    proposal.change == change &&
      proposal.contractFingerprint == contractFingerprint &&
      proposal.discoveryRevision == discoveryRevision

end MemoryProposalStore

namespace ProposalRuntime

def ensureProposal (clock : Nat → Nat) (change : AuthorityChange)
    (source : ProposalSource) (discoveryRevision : Nat) :
    ProposalM MemoryProposalStore StoredProposal := do
  let self ← get
  match self.proposals.findProposal change self.fingerprint
      discoveryRevision with
  | some existing => pure existing
  | none => do
      let proposal ← proposeChangeWithMetadata port clock change source
        discoveryRevision
      inspect fun self => port.retrieveProposal self.proposals proposal.id

end ProposalRuntime

/-! ## What stays of the stored proposals -/

def StoredProposal.SameChange (old new : StoredProposal) : Prop :=
  new.change = old.change

def KeepsChanges (before after : MemoryProposalStore) : Prop :=
  KeyedMap.Persists StoredProposal.SameChange before.proposals after.proposals

def RecordsStored (store : MemoryProposalStore) : Prop :=
  ∀ (changeId : String) (record : ChangeRecord),
    store.changes[changeId]? = some record →
    ∃ proposal, store.proposals[record.proposalId]? = some proposal ∧
      proposal.change = record.change

namespace KeepsChanges

variable {before middle after : MemoryProposalStore}

theorem refl (store : MemoryProposalStore) : KeepsChanges store store := by
  apply KeyedMap.Persists.refl
  exact fun _ => rfl

theorem trans (first : KeepsChanges before middle)
    (second : KeepsChanges middle after) : KeepsChanges before after :=
  KeyedMap.Persists.trans
    (fun _ _ _ early late => late.trans early) first second

theorem insert {proposalId : String} {proposal : StoredProposal}
    (kept : ∀ old, before.proposals[proposalId]? = some old →
      proposal.change = old.change) :
    KeepsChanges before
      { before with
        proposals := before.proposals.insert proposalId proposal } := by
  apply KeyedMap.Persists.insert
  · exact fun _ => rfl
  · exact kept

theorem recordsStored (kept : KeepsChanges before after)
    (changes : after.changes = before.changes)
    (stored : RecordsStored before) : RecordsStored after := by
  intro changeId record found
  rw [changes] at found
  obtain ⟨old, oldStored, same⟩ := stored changeId record found
  obtain ⟨new, newStored, sameChange⟩ := kept record.proposalId old oldStored
  exact ⟨new, newStored, sameChange.trans same⟩

end KeepsChanges

namespace MemoryProposalStore

theorem storeProposal_stores {proposal : StoredProposal}
    {store : MemoryProposalStore}
    {outcome : EStateM.Result String MemoryProposalStore Unit}
    (stored : port.storeProposal proposal store = outcome) :
    KeepsChanges store (finalState outcome) ∧
      ∀ after, outcome = .ok () after →
        after.proposals[proposal.id]? = some proposal := by
  rw [← stored]
  dsimp only [port, storeProposal]
  split
  · refine ⟨.refl store, ?_⟩
    intro after succeeded
    cases succeeded
  · rename_i fresh
    constructor
    · apply KeepsChanges.insert
      intro old found
      have taken : store.proposals.contains proposal.id = true := by
        rw [← Std.ExtTreeMap.isSome_getElem?_eq_contains, found]
        rfl
      exact (fresh taken).elim
    · intro after succeeded
      cases succeeded
      exact Std.ExtTreeMap.getElem?_insert_self

theorem updateProposal_keepsChanges (proposalId : String)
    {update : StoredProposal → StoredProposal}
    (same : ∀ proposal, (update proposal).change = proposal.change)
    (store : MemoryProposalStore) :
    KeepsChanges store
      (finalState (updateProposal proposalId update store)) := by
  dsimp only [updateProposal]
  split
  · rename_i proposal stored
    apply KeepsChanges.insert
    intro old oldStored
    rw [stored] at oldStored
    cases oldStored
    exact same proposal
  · exact .refl store

theorem recordAll_recordsStored {clock : Nat → Nat} {reading : Nat}
    {records : List ChangeRecord} {store after : MemoryProposalStore}
    (taken : port.recordAll clock reading records store = .ok () after)
    (ofStored : ∀ record ∈ records, ∃ proposal,
      store.proposals[record.proposalId]? = some proposal ∧
        proposal.change = record.change)
    (stored : RecordsStored store) :
    KeepsChanges store after ∧ RecordsStored after := by
  induction records generalizing store reading with
  | nil =>
      cases taken
      exact ⟨.refl _, stored⟩
  | cons record records induction =>
      obtain ⟨⟨proposal, found, sameChange⟩, others⟩ :=
        List.forall_mem_cons.mp ofStored
      unfold ProposalStore.recordAll at taken
      obtain ⟨_, middle, first, rest⟩ := bind_eq_ok_iff.mp taken
      rw [recordApplied_stored (clock reading) found] at first
      cases first
      have kept : KeepsChanges store
          (store.recorded (clock reading) record proposal) := by
        apply KeepsChanges.insert
        intro old oldStored
        rw [found] at oldStored
        cases oldStored
        rfl
      have firstStored : RecordsStored
          (store.recorded (clock reading) record proposal) := by
        apply KeyedMap.forall_insert
        · obtain ⟨new, newStored, same⟩ := kept record.proposalId proposal found
          exact ⟨new, newStored, same.trans sameChange⟩
        · intro changeId old oldStored
          obtain ⟨held, heldStored, heldChange⟩ :=
            stored changeId old oldStored
          obtain ⟨new, newStored, same⟩ := kept old.proposalId held heldStored
          exact ⟨new, newStored, same.trans heldChange⟩
      obtain ⟨keptRest, restStored⟩ := induction rest
        (fun later member => by
          obtain ⟨held, heldStored, heldChange⟩ := others later member
          obtain ⟨new, newStored, same⟩ :=
            kept later.proposalId held heldStored
          exact ⟨new, newStored, same.trans heldChange⟩)
        firstStored
      exact ⟨kept.trans keptRest, restStored⟩

end MemoryProposalStore

/-! ## What is planned is stored -/

namespace ApplyCall

variable {hashChange : AuthorityChange → UInt64} {clock : Nat → Nat}
  {self : ProposalRuntime MemoryProposalStore}

theorem plannedRecords_changes {stored : List StoredProposal} {index : Nat}
    {current next : LiveAuthorityState} {records : List ChangeRecord}
    (planned : self.plannedRecords port clock index current stored =
      .ok (next, records)) :
    ∀ record ∈ records, ∃ proposal ∈ stored,
      record.proposalId = proposal.id ∧ record.change = proposal.change := by
  induction stored generalizing index current records with
  | nil =>
      cases planned
      exact fun _ member => by cases member
  | cons proposal rest induction =>
      obtain ⟨_, _, planned⟩ := except_bind_eq_ok_iff.mp planned
      obtain ⟨_, _, planned⟩ := except_bind_eq_ok_iff.mp planned
      obtain ⟨middle, _, planned⟩ := except_bind_eq_ok_iff.mp planned
      obtain ⟨⟨last, others⟩, remaining, planned⟩ :=
        except_bind_eq_ok_iff.mp planned
      cases planned
      intro record member
      rcases List.mem_cons.mp member with rfl | later
      · exact ⟨proposal, List.mem_cons_self, rfl, rfl⟩
      · obtain ⟨source, sourceMember, same⟩ := induction remaining record later
        exact ⟨source, List.mem_cons_of_mem _ sourceMember, same⟩

theorem applicableProposal_stored
    (keyed : KeyedMap.KeyedBy StoredProposal.id self.proposals.proposals)
    {proposalId : String} {proposal : ChangeProposal}
    (applicable : self.applicableProposal port proposalId = .ok proposal) :
    ∃ stored, self.proposals.proposals[proposal.id]? = some stored ∧
      stored.change = proposal.change := by
  obtain ⟨stored, found, applicable⟩ := except_bind_eq_ok_iff.mp applicable
  obtain ⟨_, _, applicable⟩ := except_bind_eq_ok_iff.mp applicable
  obtain ⟨_, _, applicable⟩ := except_bind_eq_ok_iff.mp applicable
  cases applicable
  have there := retrieveProposal_eq_ok_iff.mp found
  have sameId : stored.id = proposalId := keyed _ _ there
  refine ⟨stored, ?_, rfl⟩
  rw [← sameId] at there
  exact there

theorem plan_stored
    (keyed : KeyedMap.KeyedBy StoredProposal.id self.proposals.proposals)
    {call : ApplyCall} (fromStore : call.FromStore)
    {next : LiveAuthorityState} {records : List ChangeRecord}
    (planned : call.plan port hashChange clock self = .ok (next, records)) :
    ∀ record ∈ records, ∃ proposal,
      self.proposals.proposals[record.proposalId]? = some proposal ∧
        proposal.change = record.change := by
  have single : ∀ {proposalId : String} {proposal : ChangeProposal}
      {approval : Approval} {record : ChangeRecord},
      self.applicableProposal port proposalId = .ok proposal →
      self.plannedChange port hashChange clock proposal approval =
        .ok record →
      ∃ stored, self.proposals.proposals[record.proposalId]? = some stored ∧
        stored.change = record.change := by
    intro proposalId proposal approval record applicable found
    obtain ⟨sameId, sameChange⟩ := plannedChange_eq_ok found
    rw [sameId, sameChange]
    exact applicableProposal_stored keyed applicable
  cases call with
  | change proposal approval => cases fromStore
  | stored proposalId approval =>
      obtain ⟨proposal, applicable, planned⟩ :=
        except_bind_eq_ok_iff.mp planned
      obtain ⟨record, found, planned⟩ := except_bind_eq_ok_iff.mp planned
      cases planned
      intro other member
      rw [List.mem_singleton.mp member]
      exact single applicable found
  | approved proposalId =>
      obtain ⟨_, _, planned⟩ := except_bind_eq_ok_iff.mp planned
      obtain ⟨proposal, applicable, planned⟩ :=
        except_bind_eq_ok_iff.mp planned
      obtain ⟨record, found, planned⟩ := except_bind_eq_ok_iff.mp planned
      cases planned
      intro other member
      rw [List.mem_singleton.mp member]
      exact single applicable found
  | batch ids =>
      simp only [plan] at planned
      split at planned
      · cases planned
        exact fun _ member => by cases member
      · obtain ⟨stored, retrieved, planned⟩ :=
          except_bind_eq_ok_iff.mp planned
        obtain ⟨_, _, planned⟩ := except_bind_eq_ok_iff.mp planned
        obtain ⟨_, present⟩ := retrieved_ids keyed retrieved
        intro record member
        obtain ⟨proposal, proposalMember, sameId, sameChange⟩ :=
          plannedRecords_changes planned record member
        refine ⟨proposal, ?_, sameChange.symm⟩
        rw [sameId]
        exact present proposal proposalMember

end ApplyCall

/-! ## What the calls keep -/

namespace ProposalRuntime

variable {self : ProposalRuntime MemoryProposalStore} {clock : Nat → Nat}
  {change : AuthorityChange} {source : ProposalSource}
  {discoveryRevision : Nat}

theorem proposeChangeWithMetadata_stores :
    KeepsChanges self.proposals
        (finalState (proposeChangeWithMetadata port clock change source
          discoveryRevision self)).proposals ∧
      ∀ proposal after,
        proposeChangeWithMetadata port clock change source discoveryRevision
            self = .ok proposal after →
          ∃ stored, after.proposals.proposals[proposal.id]? = some stored ∧
            stored.id = proposal.id ∧ stored.change = change := by
  unfold proposeChangeWithMetadata onStore
  rw [bind_apply]
  dsimp only [get, getThe, MonadStateOf.get, EStateM.get]
  rw [inspect_bind]
  cases self.previewAuthorityChange port self.authority change with
  | error message =>
      refine ⟨.refl _, ?_⟩
      intro proposal after proposed
      cases proposed
  | ok next =>
      dsimp only
      rw [onPart_bind]
      dsimp only [ProposalStore.takeProposalId]
      rw [onPart_bind]
      split <;> rename_i written
      · obtain ⟨kept, held⟩ :=
          MemoryProposalStore.storeProposal_stores written
        refine ⟨kept, ?_⟩
        intro proposal after proposed
        cases proposed
        exact ⟨_, held _ rfl, rfl, rfl⟩
      · obtain ⟨kept, _⟩ :=
          MemoryProposalStore.storeProposal_stores written
        refine ⟨kept, ?_⟩
        intro proposal after proposed
        cases proposed

theorem finalState_onStore_proposals {α : Type}
    (program : EStateM String MemoryProposalStore α) :
    (finalState (onStore program self)).proposals =
      finalState (program self.proposals) := by
  unfold onStore onPart
  cases program self.proposals with
  | ok value after => rfl
  | error message after => rfl

theorem approveStoredProposal_keepsChanges (proposalId : String) :
    KeepsChanges self.proposals
      (finalState (approveStoredProposal port proposalId self)).proposals := by
  unfold approveStoredProposal
  rw [inspect_bind]
  cases port.retrieveProposal self.proposals proposalId with
  | error message => exact .refl _
  | ok stored =>
      dsimp only
      cases stored.status with
      | pending =>
          dsimp only
          rw [inspect_bind]
          cases self.verifyStoredProposalIsCurrent port stored with
          | error message => exact .refl _
          | ok _ =>
              dsimp only
              rw [finalState_onStore_proposals]
              apply MemoryProposalStore.updateProposal_keepsChanges
              exact fun _ => rfl
      | _ => exact .refl _

theorem rejectStoredProposal_keepsChanges (proposalId reason : String) :
    KeepsChanges self.proposals
      (finalState
        (rejectStoredProposal port proposalId reason self)).proposals := by
  unfold rejectStoredProposal
  rw [inspect_bind]
  cases port.retrieveProposal self.proposals proposalId with
  | error message => exact .refl _
  | ok stored =>
      dsimp only
      cases stored.status with
      | applied => exact .refl _
      | rejected => exact .refl _
      | _ =>
          dsimp only
          rw [finalState_onStore_proposals]
          apply MemoryProposalStore.updateProposal_keepsChanges
          exact fun _ => rfl

theorem ensureProposal_proposes :
    finalState (ensureProposal clock change source discoveryRevision self) =
        self ∨
      finalState (ensureProposal clock change source discoveryRevision self) =
        finalState (proposeChangeWithMetadata port clock change source
          discoveryRevision self) := by
  unfold ensureProposal
  rw [bind_apply]
  dsimp only [get, getThe, MonadStateOf.get, EStateM.get]
  cases self.proposals.findProposal change self.fingerprint
      discoveryRevision with
  | some existing => exact .inl rfl
  | none =>
      refine .inr ?_
      dsimp only
      rw [bind_apply]
      cases proposeChangeWithMetadata port clock change source
          discoveryRevision self with
      | error message after => rfl
      | ok proposal after =>
          dsimp only [inspect]
          cases port.retrieveProposal after.proposals proposal.id with
          | error message => rfl
          | ok stored => rfl

theorem ensureProposal_keepsChanges :
    KeepsChanges self.proposals
      (finalState (ensureProposal clock change source discoveryRevision
        self)).proposals := by
  rcases @ensureProposal_proposes self clock change source discoveryRevision
    with unchanged | proposed
  · rw [unchanged]
    exact .refl _
  · rw [proposed]
    exact proposeChangeWithMetadata_stores.1

theorem ensureProposal_eq_ok {method : Method} {path capability : String}
    (keyed : KeyedMap.KeyedBy StoredProposal.id self.proposals.proposals)
    {stored : StoredProposal} {after : ProposalRuntime MemoryProposalStore}
    (ensured : ensureProposal clock (.protectRoute method path capability)
      source discoveryRevision self = .ok stored after) :
    after.proposals.proposals[stored.id]? = some stored ∧
      stored.change = .protectRoute method path capability := by
  unfold ensureProposal at ensured
  rw [bind_apply] at ensured
  dsimp only [get, getThe, MonadStateOf.get, EStateM.get] at ensured
  cases found : self.proposals.findProposal
      (.protectRoute method path capability) self.fingerprint
      discoveryRevision with
  | some existing =>
      rw [found] at ensured
      cases ensured
      have listed := List.mem_of_find?_eq_some found
      have fits := List.find?_some found
      simp only [Bool.and_eq_true] at fits
      exact ⟨keyed.mem_values.mp listed,
        AuthorityChange.beq_protectRoute_iff.mp fits.1.1⟩
  | none =>
      rw [found] at ensured
      obtain ⟨proposal, middle, proposed, retrieved⟩ :=
        bind_eq_ok_iff.mp ensured
      obtain ⟨held, there, sameId, sameChange⟩ :=
        proposeChangeWithMetadata_stores.2 proposal middle proposed
      obtain ⟨found, rfl⟩ := inspect_eq_ok_iff.mp retrieved
      have same := ApplyCall.retrieveProposal_eq_ok_iff.mp found
      rw [there] at same
      cases same
      rw [sameId]
      exact ⟨there, sameChange⟩

theorem ensureProposal_new {next : LiveAuthorityState}
    (absent : self.proposals.findProposal change self.fingerprint
      discoveryRevision = none)
    (unused : self.proposals.proposals[self.nextProposalId]? = none)
    (previewed : self.previewAuthorityChange port self.authority change =
      .ok next) :
    ensureProposal clock change source discoveryRevision self =
      .ok (self.proposedChange clock change source discoveryRevision next)
        (self.withStored (self.proposedChange clock change source
          discoveryRevision next)) := by
  have retrieved : port.retrieveProposal
      (self.withStored (self.proposedChange clock change source
        discoveryRevision next)).proposals self.nextProposalId =
      .ok (self.proposedChange clock change source discoveryRevision next) :=
    ApplyCall.retrieveProposal_eq_ok_iff.mpr
      Std.ExtTreeMap.getElem?_insert_self
  unfold ensureProposal
  rw [bind_apply]
  dsimp only [get, getThe, MonadStateOf.get, EStateM.get]
  rw [absent]
  dsimp only
  rw [bind_apply, proposeChangeWithMetadata_eq_ok unused previewed]
  dsimp only [inspect]
  have sameId : (self.proposedChange clock change source discoveryRevision
      next).toProposal.id = self.nextProposalId :=
    rfl
  rw [sameId, retrieved]

end ProposalRuntime

/-! ## Runs -/

namespace ProposalHistory

variable {hashChange : AuthorityChange → UInt64} {self : ProposalHistory}
  {revision : Nat}

theorem step_recordsStored (tracked : self.Tracked revision)
    (stored : RecordsStored self.runtime.proposals) (call : ControlCall) :
    KeepsChanges self.runtime.proposals
        (perform hashChange self call).runtime.proposals ∧
      RecordsStored (perform hashChange self call).runtime.proposals := by
  have quiet : ∀ {after : ProposalRuntime MemoryProposalStore},
      AppliesNothing self.runtime after →
      KeepsChanges self.runtime.proposals after.proposals →
      KeepsChanges self.runtime.proposals after.proposals ∧
        RecordsStored after.proposals :=
    fun nothing kept => ⟨kept, kept.recordsStored nothing.changes stored⟩
  obtain ⟨clock, operation⟩ := call
  cases operation with
  | propose change source discoveryRevision =>
      exact quiet (.propose clock self.runtime change source discoveryRevision)
        ProposalRuntime.proposeChangeWithMetadata_stores.1
  | approve proposalId =>
      exact quiet (.approve self.runtime proposalId)
        (ProposalRuntime.approveStoredProposal_keepsChanges proposalId)
  | reject proposalId reason =>
      exact quiet (.reject self.runtime proposalId reason)
        (ProposalRuntime.rejectStoredProposal_keepsChanges proposalId reason)
  | apply apply fromStore =>
      cases planned : apply.plan port hashChange clock self.runtime with
      | error message =>
          rw [perform_refused fromStore planned]
          exact ⟨.refl _, stored⟩
      | ok plan =>
          obtain ⟨next, records⟩ := plan
          obtain ⟨proposals, taken, performed⟩ :=
            perform_planned tracked.marks fromStore planned
          rw [performed]
          exact MemoryProposalStore.recordAll_recordsStored taken
            (ApplyCall.plan_stored tracked.marks.keyed fromStore planned)
            stored

theorem Fresh.recordsStored (fresh : self.Fresh revision) :
    RecordsStored self.runtime.proposals := by
  intro changeId record found
  simp [fresh.proposals, MemoryProposalStore.new] at found

theorem reachable_recordsStored
    (reached : (system hashChange revision).Reachable self) :
    RecordsStored self.runtime.proposals := by
  apply reached.invariant
  · exact fun start fresh => fresh.recordsStored
  · intro state call before _ stored
    exact (step_recordsStored (reachable_tracked before) stored call).2

theorem run_keepsChanges
    (reached : (system hashChange revision).Reachable self)
    (calls : List ControlCall) :
    KeepsChanges self.runtime.proposals
      ((system hashChange revision).run self calls).runtime.proposals := by
  induction calls generalizing self with
  | nil => exact .refl _
  | cons call calls induction =>
      have first : KeepsChanges self.runtime.proposals
          (perform hashChange self call).runtime.proposals :=
        (step_recordsStored (reachable_tracked reached)
          (reachable_recordsStored reached) call).1
      exact first.trans (induction (reachable_perform reached call))

theorem reachable_ensured
    (reached : (system hashChange revision).Reachable self)
    {clock : Nat → Nat} {change : AuthorityChange} {source : ProposalSource}
    {discoveryRevision : Nat} :
    (system hashChange revision).Reachable
      { self with
        runtime := finalState (ProposalRuntime.ensureProposal clock change
          source discoveryRevision self.runtime) } := by
  rcases @ProposalRuntime.ensureProposal_proposes self.runtime clock change
    source discoveryRevision with unchanged | proposed
  · rw [unchanged]
    exact reached
  · rw [proposed]
    exact reachable_perform reached
      ⟨clock, .propose change source discoveryRevision⟩

end ProposalHistory

end AuthBoundry
