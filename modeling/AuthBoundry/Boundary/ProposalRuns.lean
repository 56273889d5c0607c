import AuthBoundry.Boundary.ProposalFailures
import Mathlib.Data.List.Dedup

/-!
# How often a proposal is applied

A single application marks its proposal as applied, and what is marked is
never approved again.  A batch looks at the marks once, before its loop, so a
proposal that is named twice in a batch is applied twice.
-/

namespace AuthBoundry

open Library
open Library.Stateful

/-- A call of the control plane.  Changes are applied from the store. -/
inductive ControlOperation where
  | propose (change : AuthorityChange) (source : ProposalSource)
      (discoveryRevision : Nat)
  | approve (proposalId : String)
  | reject (proposalId reason : String)
  | apply (call : ApplyCall) (fromStore : call.FromStore)

structure ControlCall where
  clock : Nat → Nat
  operation : ControlOperation

/-- A runtime with the ids of the proposals whose application was reported, in
the order of the reports. -/
structure ProposalHistory where
  runtime : ProposalRuntime MemoryProposalStore
  applied : List String

namespace ProposalHistory

open MemoryProposalStore (port)

variable (hashChange : AuthorityChange → UInt64)

def perform (self : ProposalHistory) (call : ControlCall) : ProposalHistory :=
  match call.operation with
  | .propose change source discoveryRevision =>
      { self with
        runtime := finalState
          (ProposalRuntime.proposeChangeWithMetadata port call.clock change
            source discoveryRevision self.runtime) }
  | .approve proposalId =>
      { self with
        runtime := finalState
          (ProposalRuntime.approveStoredProposal port proposalId
            self.runtime) }
  | .reject proposalId reason =>
      { self with
        runtime := finalState
          (ProposalRuntime.rejectStoredProposal port proposalId reason
            self.runtime) }
  | .apply apply _ =>
      match apply.perform port hashChange call.clock self.runtime with
      | .ok () runtime =>
          { runtime, applied := self.applied ++ apply.proposalIds }
      | .error _ runtime => { self with runtime }

/-- A runtime with an empty proposal store. -/
structure Fresh (history : ProposalHistory) (revision : Nat) : Prop where
  proposals : history.runtime.proposals = .new
  revision : history.runtime.authority.revision = revision
  applied : history.applied = []

def system (revision : Nat) : TransitionSystem ProposalHistory ControlCall :=
  { initial := fun self => self.Fresh revision, step := perform hashChange }

/-- Each proposal is applied at most once, leaves at most one record, and is
one revision. -/
structure AppliesOnce (revision : Nat) (history : ProposalHistory) : Prop where
  records : ∀ (first second : String) (record record' : ChangeRecord),
    history.runtime.proposals.changes[first]? = some record →
    history.runtime.proposals.changes[second]? = some record' →
    record.proposalId = record'.proposalId → first = second
  applied : ∀ proposalId, history.applied.count proposalId ≤ 1
  revision : history.runtime.authority.revision =
    revision + history.applied.dedup.length

/-- A batch whose checks all pass names no proposal twice. -/
def NamesOnce (self : ProposalHistory) (call : ControlCall) : Prop :=
  match call.operation with
  | .apply apply _ =>
      ∀ next records,
        apply.plan port hashChange call.clock self.runtime =
          .ok (next, records) →
        apply.proposalIds.Nodup
  | _ => True

end ProposalHistory

/-! ## What the store keeps -/

namespace MemoryProposalStore

/-- Proposals are stored under their ids, and those that were applied are
marked. -/
structure Marks (store : MemoryProposalStore) (applied : List String) :
    Prop where
  keyed : KeyedMap.KeyedBy StoredProposal.id store.proposals
  marked : ∀ proposalId ∈ applied, ∃ proposal : StoredProposal,
    store.proposals[proposalId]? = some proposal ∧
      proposal.status = .applied

/-- The records are of proposals that were applied, one of each. -/
structure RecordsOnce (store : MemoryProposalStore) (applied : List String) :
    Prop where
  ofApplied : ∀ (changeId : String) (record : ChangeRecord),
    store.changes[changeId]? = some record → record.proposalId ∈ applied
  unique : ∀ (first second : String) (record record' : ChangeRecord),
    store.changes[first]? = some record →
    store.changes[second]? = some record' →
    record.proposalId = record'.proposalId → first = second

variable {store : MemoryProposalStore} {applied : List String}

theorem marks_new : Marks .new [] :=
  ⟨KeyedMap.KeyedBy.empty, fun _ member => by cases member⟩

theorem recordsOnce_new : RecordsOnce .new [] := by
  constructor
  · intro changeId record found
    simp [MemoryProposalStore.new] at found
  · intro first second record record' found
    simp [MemoryProposalStore.new] at found

theorem Marks.unmarked (marks : store.Marks applied) {proposalId : String}
    {proposal : StoredProposal}
    (stored : store.proposals[proposalId]? = some proposal)
    (status : proposal.status ≠ .applied) : proposalId ∉ applied := by
  intro member
  obtain ⟨held, found, marked⟩ := marks.marked proposalId member
  rw [stored] at found
  cases found
  exact status marked

theorem Marks.write (marks : store.Marks applied) (proposal : StoredProposal)
    (unmarked : proposal.id ∉ applied) :
    Marks
      { store with
        proposals := store.proposals.insert proposal.id proposal }
      applied := by
  refine ⟨marks.keyed.insert proposal, ?_⟩
  intro proposalId member
  obtain ⟨held, stored, status⟩ := marks.marked proposalId member
  have different : proposal.id ≠ proposalId := by
    intro same
    rw [same] at unmarked
    exact unmarked member
  refine ⟨held, ?_, status⟩
  rw [KeyedMap.getElem?_insert_of_ne _ _ different]
  exact stored

theorem storeProposal_keeps {proposal : StoredProposal}
    {outcome : EStateM.Result String MemoryProposalStore Unit}
    (stored : port.storeProposal proposal store = outcome) :
    (finalState outcome).changes = store.changes ∧
      ∀ applied, store.Marks applied → (finalState outcome).Marks applied := by
  rw [← stored]
  dsimp only [port, storeProposal]
  split
  · exact ⟨rfl, fun _ marks => marks⟩
  · rename_i fresh
    refine ⟨rfl, ?_⟩
    intro applied marks
    apply marks.write proposal
    intro member
    obtain ⟨held, found, _⟩ := marks.marked proposal.id member
    have taken : store.proposals.contains proposal.id = true := by
      rw [← Std.ExtTreeMap.isSome_getElem?_eq_contains, found]
      rfl
    exact fresh taken

section Recorded

variable {now : Nat} {record : ChangeRecord} {proposal : StoredProposal}

theorem Marks.recorded (marks : store.Marks applied)
    (stored : store.proposals[record.proposalId]? = some proposal) :
    (store.recorded now record proposal).Marks
      (applied ++ [record.proposalId]) := by
  have sameId : proposal.id = record.proposalId := marks.keyed _ _ stored
  constructor
  · exact KeyedMap.forall_insert sameId marks.keyed
  · intro proposalId member
    unfold MemoryProposalStore.recorded
    rw [KeyedMap.getElem?_insert_eq]
    by_cases same : record.proposalId = proposalId
    · rw [if_pos same]
      exact ⟨_, rfl, rfl⟩
    · rw [if_neg same]
      rcases List.mem_append.mp member with before | now
      · exact marks.marked proposalId before
      · exact (same (List.mem_singleton.mp now).symm).elim

theorem RecordsOnce.recorded (once : store.RecordsOnce applied)
    (unapplied : record.proposalId ∉ applied) :
    (store.recorded now record proposal).RecordsOnce
      (applied ++ [record.proposalId]) := by
  have origin : ∀ (changeId : String) (found : ChangeRecord),
      (store.recorded now record proposal).changes[changeId]? = some found →
        (changeId = record.changeId ∧ found = record) ∨
          store.changes[changeId]? = some found := by
    intro changeId found stored
    unfold MemoryProposalStore.recorded at stored
    rw [KeyedMap.getElem?_insert_eq] at stored
    split at stored
    · rename_i same
      exact .inl ⟨same.symm, (Option.some.inj stored).symm⟩
    · exact .inr stored
  constructor
  · intro changeId found stored
    rcases origin changeId found stored with ⟨_, rfl⟩ | before
    · exact List.mem_append_right _ (List.mem_singleton.mpr rfl)
    · exact List.mem_append_left _ (once.ofApplied changeId found before)
  · intro first second found found' stored stored' same
    rcases origin first found stored with ⟨rfl, rfl⟩ | before
    · rcases origin second found' stored' with ⟨rfl, _⟩ | before'
      · rfl
      · exact (unapplied (same ▸ once.ofApplied second found' before')).elim
    · rcases origin second found' stored' with ⟨_, rfl⟩ | before'
      · exact (unapplied (same ▸ once.ofApplied first found before)).elim
      · exact once.unique first second found found' before before' same

end Recorded

theorem recordAll_keeps {clock : Nat → Nat} {reading : Nat}
    {records : List ChangeRecord} {after : MemoryProposalStore}
    (taken : port.recordAll clock reading records store = .ok () after)
    (marks : store.Marks applied) :
    after.Marks (applied ++ records.map ChangeRecord.proposalId) ∧
      (store.RecordsOnce applied →
        (applied ++ records.map ChangeRecord.proposalId).Nodup →
        after.RecordsOnce
          (applied ++ records.map ChangeRecord.proposalId)) := by
  induction records generalizing store reading applied with
  | nil =>
      cases taken
      rw [List.map_nil, List.append_nil]
      exact ⟨marks, fun once _ => once⟩
  | cons record records induction =>
      unfold ProposalStore.recordAll at taken
      obtain ⟨_, middle, first, rest⟩ := bind_eq_ok_iff.mp taken
      cases stored : store.proposals[record.proposalId]? with
      | none =>
          rw [recordApplied_absent (clock reading) stored] at first
          cases first
      | some proposal =>
          rw [recordApplied_stored (clock reading) stored] at first
          cases first
          obtain ⟨marksAfter, onceAfter⟩ :=
            induction rest (marks.recorded stored)
          have joined : applied ++
                (record :: records).map ChangeRecord.proposalId =
              (applied ++ [record.proposalId]) ++
                records.map ChangeRecord.proposalId := by
            simp
          rw [joined]
          refine ⟨marksAfter, ?_⟩
          intro once distinct
          have unapplied : record.proposalId ∉ applied := by
            intro member
            have apart := (List.nodup_append.mp
              (List.nodup_append.mp distinct).1).2.2
            exact apart _ member _ (List.mem_singleton.mpr rfl) rfl
          exact onceAfter (once.recorded unapplied) distinct

end MemoryProposalStore

/-! ## What one call does -/

/-- A call that applies nothing: the live state and the records stay, and no
mark is lost. -/
structure AppliesNothing (before after : ProposalRuntime MemoryProposalStore) :
    Prop where
  authority : after.authority = before.authority
  changes : after.proposals.changes = before.proposals.changes
  marks : ∀ applied, before.proposals.Marks applied →
    after.proposals.Marks applied

namespace AppliesNothing

open MemoryProposalStore (port)

variable (clock : Nat → Nat) (runtime : ProposalRuntime MemoryProposalStore)

theorem refl : AppliesNothing runtime runtime :=
  ⟨rfl, rfl, fun _ marks => marks⟩

theorem propose (proposed : AuthorityChange) (source : ProposalSource)
    (discoveryRevision : Nat) :
    AppliesNothing runtime (finalState
      (ProposalRuntime.proposeChangeWithMetadata port clock proposed source
        discoveryRevision runtime)) := by
  unfold ProposalRuntime.proposeChangeWithMetadata ProposalRuntime.onStore
  rw [bind_apply]
  dsimp only [get, getThe, MonadStateOf.get, EStateM.get]
  rw [inspect_bind]
  cases runtime.previewAuthorityChange port runtime.authority proposed with
  | error message => exact refl runtime
  | ok after =>
      dsimp only
      rw [onPart_bind]
      dsimp only [ProposalStore.takeProposalId]
      rw [onPart_bind]
      have allocated : ∀ applied, runtime.proposals.Marks applied →
          (port.allocateProposalId runtime.proposals).2.Marks applied :=
        fun applied marks => ⟨marks.keyed, marks.marked⟩
      split <;> rename_i stored
      · obtain ⟨changes, marks⟩ :=
          MemoryProposalStore.storeProposal_keeps stored
        exact ⟨rfl, changes, fun applied before =>
          marks applied (allocated applied before)⟩
      · obtain ⟨changes, marks⟩ :=
          MemoryProposalStore.storeProposal_keeps stored
        exact ⟨rfl, changes, fun applied before =>
          marks applied (allocated applied before)⟩

theorem update {proposalId : String} {proposal : StoredProposal}
    (change : StoredProposal → StoredProposal)
    (stored : runtime.proposals.proposals[proposalId]? = some proposal)
    (status : proposal.status ≠ .applied)
    (sameId : (change proposal).id = proposal.id) :
    AppliesNothing runtime (finalState
      (ProposalRuntime.onStore
        (MemoryProposalStore.updateProposal proposalId change) runtime)) := by
  unfold ProposalRuntime.onStore onPart MemoryProposalStore.updateProposal
  simp only [stored, finalState_ok]
  refine ⟨rfl, rfl, ?_⟩
  intro applied marks
  have ownId : proposal.id = proposalId := marks.keyed _ _ stored
  have unmarked := marks.unmarked stored status
  have changedId : (change proposal).id = proposalId := sameId.trans ownId
  have written := marks.write (change proposal) (changedId ▸ unmarked)
  rw [changedId] at written
  exact written

theorem approve (proposalId : String) :
    AppliesNothing runtime (finalState
      (ProposalRuntime.approveStoredProposal port proposalId runtime)) := by
  unfold ProposalRuntime.approveStoredProposal
  rw [inspect_bind]
  cases found : port.retrieveProposal runtime.proposals proposalId with
  | error message => exact refl runtime
  | ok stored =>
      have there := ApplyCall.retrieveProposal_eq_ok_iff.mp found
      dsimp only
      cases status : stored.status with
      | pending =>
          dsimp only
          rw [inspect_bind]
          cases runtime.verifyStoredProposalIsCurrent port stored with
          | error message => exact refl runtime
          | ok _ => exact update runtime _ there (by simp [status]) rfl
      | _ => exact refl runtime

theorem reject (proposalId reason : String) :
    AppliesNothing runtime (finalState
      (ProposalRuntime.rejectStoredProposal port proposalId reason
        runtime)) := by
  unfold ProposalRuntime.rejectStoredProposal
  rw [inspect_bind]
  cases found : port.retrieveProposal runtime.proposals proposalId with
  | error message => exact refl runtime
  | ok stored =>
      have there := ApplyCall.retrieveProposal_eq_ok_iff.mp found
      dsimp only
      cases status : stored.status with
      | applied => exact refl runtime
      | rejected => exact refl runtime
      | _ => exact update runtime _ there (by simp [status]) rfl

end AppliesNothing

namespace ProposalHistory

open MemoryProposalStore (port)

variable {hashChange : AuthorityChange → UInt64} {self : ProposalHistory}

theorem perform_refused {clock : Nat → Nat} {call : ApplyCall}
    (fromStore : call.FromStore) {message : String}
    (refused : call.plan port hashChange clock self.runtime =
      .error message) :
    perform hashChange self ⟨clock, .apply call fromStore⟩ = self := by
  simp only [perform]
  rw [ApplyCall.perform_eq, refused]

theorem perform_planned
    (marks : self.runtime.proposals.Marks self.applied) {clock : Nat → Nat}
    {call : ApplyCall} (fromStore : call.FromStore)
    {next : LiveAuthorityState} {records : List ChangeRecord}
    (planned : call.plan port hashChange clock self.runtime =
      .ok (next, records)) :
    ∃ proposals, port.recordAll clock call.readings records
          self.runtime.proposals = .ok () proposals ∧
      perform hashChange self ⟨clock, .apply call fromStore⟩ =
        { runtime := (self.runtime.changeAuthority next).changeProposals
            proposals
          applied := self.applied ++ call.proposalIds } := by
  have unchanged : call.FailsUnchanged port hashChange clock self.runtime :=
    ApplyCall.fromStore_failsUnchanged marks.keyed fromStore
  have takes := (ApplyCall.failsUnchanged_iff call).mp unchanged
  obtain ⟨proposals, taken⟩ := takes next records planned
  refine ⟨proposals, taken, ?_⟩
  simp only [perform]
  rw [ApplyCall.perform_eq, planned]
  dsimp only [ApplyCall.settle]
  rw [taken]

/-- What holds in every run: applied proposals are marked, and each of them
was one revision. -/
structure Tracked (revision : Nat) (history : ProposalHistory) : Prop where
  marks : history.runtime.proposals.Marks history.applied
  revision : history.runtime.authority.revision =
    revision + history.applied.length

theorem Tracked.quiet {revision : Nat} (tracked : self.Tracked revision)
    {runtime : ProposalRuntime MemoryProposalStore}
    (quiet : AppliesNothing self.runtime runtime) :
    Tracked revision { self with runtime } := by
  constructor
  · exact quiet.marks self.applied tracked.marks
  · exact (congrArg LiveAuthorityState.revision quiet.authority).trans
      tracked.revision

/-- The two kinds of step: nothing is applied, or a plan is carried out. -/
inductive Stepped (hashChange : AuthorityChange → UInt64)
    (history : ProposalHistory) (call : ControlCall) : Prop where
  | quiet (runtime : ProposalRuntime MemoryProposalStore)
      (performed : perform hashChange history call = { history with runtime })
      (nothing : AppliesNothing history.runtime runtime)
      (names : history.NamesOnce hashChange call)
  | applies (apply : ApplyCall) (next : LiveAuthorityState)
      (records : List ChangeRecord) (proposals : MemoryProposalStore)
      (fromStore : apply.FromStore)
      (planned : apply.plan port hashChange call.clock history.runtime =
        .ok (next, records))
      (taken : port.recordAll call.clock apply.readings records
        history.runtime.proposals = .ok () proposals)
      (performed : perform hashChange history call =
        { runtime :=
            (history.runtime.changeAuthority next).changeProposals proposals
          applied := history.applied ++ apply.proposalIds })
      (names : history.NamesOnce hashChange call ↔ apply.proposalIds.Nodup)

theorem stepped (marks : self.runtime.proposals.Marks self.applied)
    (call : ControlCall) : Stepped hashChange self call := by
  obtain ⟨clock, operation⟩ := call
  cases operation with
  | propose change source discoveryRevision =>
      have nothing := AppliesNothing.propose clock self.runtime change source
        discoveryRevision
      exact .quiet _ rfl nothing trivial
  | approve proposalId =>
      exact .quiet _ rfl (.approve self.runtime proposalId) trivial
  | reject proposalId reason =>
      exact .quiet _ rfl (.reject self.runtime proposalId reason) trivial
  | apply apply fromStore =>
      cases planned : apply.plan port hashChange clock self.runtime with
      | error message =>
          refine .quiet self.runtime (perform_refused fromStore planned)
            (.refl self.runtime) ?_
          intro next records found
          rw [planned] at found
          cases found
      | ok pair =>
          obtain ⟨next, records⟩ := pair
          obtain ⟨proposals, taken, performed⟩ :=
            perform_planned marks fromStore planned
          refine .applies apply next records proposals fromStore planned taken
            performed ?_
          constructor
          · exact fun names => names next records planned
          · exact fun distinct _ _ _ => distinct

theorem Tracked.step {revision : Nat} (tracked : self.Tracked revision)
    (call : ControlCall) :
    (perform hashChange self call).Tracked revision := by
  cases stepped tracked.marks call with
  | quiet runtime performed nothing names =>
      rw [performed]
      exact tracked.quiet nothing
  | applies apply next records proposals fromStore planned taken performed
      names =>
      obtain ⟨sameIds, _⟩ :=
        ApplyCall.plan_approved tracked.marks.keyed fromStore planned
      have marks :=
        (MemoryProposalStore.recordAll_keeps taken tracked.marks).1
      rw [performed]
      constructor
      · rw [← sameIds]
        exact marks
      · have advanced := ApplyCall.plan_revision planned
        have numbers : records.length = apply.proposalIds.length := by
          rw [← sameIds, List.length_map]
        have start := tracked.revision
        change next.revision = _
        rw [List.length_append]
        omega

theorem nodup_append_iff {revision : Nat} (tracked : self.Tracked revision)
    {proposalIds : List String}
    (approved : ∀ proposalId ∈ proposalIds,
      ApplyCall.HoldsApproved self.runtime.proposals proposalId) :
    (self.applied ++ proposalIds).Nodup ↔
      self.applied.Nodup ∧ proposalIds.Nodup := by
  rw [List.nodup_append]
  constructor
  · exact fun distinct => ⟨distinct.1, distinct.2.1⟩
  · rintro ⟨before, added⟩
    refine ⟨before, added, ?_⟩
    intro proposalId member other named same
    rw [same] at member
    obtain ⟨proposal, stored, status⟩ := approved other named
    have unmarked := tracked.marks.unmarked stored (by simp [status])
    exact unmarked member

def AppliedApart (history : ProposalHistory) : Prop :=
  history.applied.Nodup

/-- A step applies no proposal again exactly when it names none twice. -/
theorem step_appliedApart_iff {revision : Nat}
    (tracked : self.Tracked revision) (call : ControlCall) :
    (perform hashChange self call).AppliedApart ↔
      self.AppliedApart ∧ self.NamesOnce hashChange call := by
  cases stepped tracked.marks call with
  | quiet runtime performed nothing names =>
      rw [performed]
      exact (and_iff_left names).symm
  | applies apply next records proposals fromStore planned taken performed
      names =>
      obtain ⟨_, approved⟩ :=
        ApplyCall.plan_approved tracked.marks.keyed fromStore planned
      rw [performed, names]
      exact nodup_append_iff tracked approved

theorem step_recordsOnce {revision : Nat} (tracked : self.Tracked revision)
    (call : ControlCall)
    (once : self.runtime.proposals.RecordsOnce self.applied)
    (apart : (perform hashChange self call).AppliedApart) :
    (perform hashChange self call).runtime.proposals.RecordsOnce
      (perform hashChange self call).applied := by
  cases stepped tracked.marks call with
  | quiet runtime performed nothing names =>
      rw [performed]
      dsimp only
      constructor
      · rw [nothing.changes]
        exact once.ofApplied
      · rw [nothing.changes]
        exact once.unique
  | applies apply next records proposals fromStore planned taken performed
      names =>
      obtain ⟨sameIds, _⟩ :=
        ApplyCall.plan_approved tracked.marks.keyed fromStore planned
      rw [performed] at apart ⊢
      rw [← sameIds] at apart ⊢
      exact (MemoryProposalStore.recordAll_keeps taken tracked.marks).2 once
        apart

section Runs

variable {revision : Nat}

theorem Fresh.tracked (fresh : self.Fresh revision) :
    self.Tracked revision := by
  constructor
  · rw [fresh.proposals, fresh.applied]
    exact MemoryProposalStore.marks_new
  · rw [fresh.revision, fresh.applied]
    rfl

theorem reachable_perform
    (reached : (system hashChange revision).Reachable self)
    (call : ControlCall) :
    (system hashChange revision).Reachable (perform hashChange self call) :=
  .next call reached trivial

theorem run_cons (call : ControlCall) (calls : List ControlCall) :
    (system hashChange revision).run self (call :: calls) =
      (system hashChange revision).run (perform hashChange self call) calls :=
  rfl

theorem reachable_tracked
    (reached : (system hashChange revision).Reachable self) :
    self.Tracked revision := by
  apply reached.invariant
  · exact fun _ fresh => fresh.tracked
  · exact fun _ call _ _ tracked => tracked.step call

/-- What holds in the runs whose batches name no proposal twice. -/
structure Once (history : ProposalHistory) : Prop where
  applied : history.AppliedApart
  records : history.runtime.proposals.RecordsOnce history.applied

theorem reachable_once
    (reached : (system hashChange revision).ReachableUnder
      (NamesOnce hashChange) self) :
    self.Once := by
  apply reached.invariant
  · intro start fresh
    constructor
    · rw [AppliedApart, fresh.applied]
      exact List.nodup_nil
    · rw [fresh.proposals, fresh.applied]
      exact MemoryProposalStore.recordsOnce_new
  · intro state call before names once
    have tracked := reachable_tracked before.reachable
    have apart :=
      (step_appliedApart_iff tracked call).mpr ⟨once.applied, names⟩
    exact ⟨apart, step_recordsOnce tracked call once.records apart⟩

/-- At the end of a run each proposal was applied at most once, left at most
one record and counts as one revision, exactly when no batch that went through
named a proposal twice. -/
theorem appliesOnce_run_iff (fresh : self.Fresh revision)
    (calls : List ControlCall) :
    ((system hashChange revision).run self calls).AppliesOnce revision ↔
      (system hashChange revision).Follows (NamesOnce hashChange) self
        calls := by
  have start : (system hashChange revision).Reachable self := .start fresh
  have nothing : self.AppliedApart := by
    rw [AppliedApart, fresh.applied]
    exact List.nodup_nil
  have apart_iff : ((system hashChange revision).run self
        calls).AppliedApart ↔
      (system hashChange revision).Follows (NamesOnce hashChange) self
        calls :=
    @TransitionSystem.run_iff_follows _ _ (system hashChange revision)
      (NamesOnce hashChange) AppliedApart (fun _ => True)
      (fun _ _ _ => trivial)
      (fun _ call reached _ =>
        step_appliedApart_iff (reachable_tracked reached) call)
      _ start nothing calls trivial
  constructor
  · intro once
    exact apart_iff.mp (List.nodup_iff_count_le_one.mpr once.applied)
  · intro follows
    have once := reachable_once
      (TransitionSystem.ReachableUnder.run (.start fresh) follows)
    have tracked := reachable_tracked (start.run calls)
    constructor
    · exact once.records.unique
    · exact List.nodup_iff_count_le_one.mp once.applied
    · rw [once.applied.dedup]
      exact tracked.revision

end Runs

end ProposalHistory

/-! ## A batch that names a proposal twice -/

namespace ProposalRuntime

open MemoryProposalStore (port)

variable {self : ProposalRuntime MemoryProposalStore}
  {proposal : StoredProposal} {next : LiveAuthorityState}

/-- A proposal that was made under the contract and the revision that are in
force. -/
structure IsCurrent (runtime : ProposalRuntime MemoryProposalStore)
    (proposal : StoredProposal) : Prop where
  contract : proposal.contractFingerprint = runtime.fingerprint
  revision : proposal.revision = runtime.authority.revision

theorem verifyStoredProposalIsCurrent_eq_ok
    (current : self.IsCurrent proposal)
    (previewed : self.previewAuthorityChange port self.authority
      proposal.change = .ok next) :
    self.verifyStoredProposalIsCurrent port proposal = .ok () := by
  simp only [verifyStoredProposalIsCurrent, refuseIf, current.contract,
    current.revision, previewed, bne_self_eq_false]
  rfl

def withApproved (runtime : ProposalRuntime MemoryProposalStore)
    (proposalId : String) (proposal : StoredProposal) :
    ProposalRuntime MemoryProposalStore :=
  runtime.changeProposals
    { runtime.proposals with
      proposals := runtime.proposals.proposals.insert proposalId
        { proposal with status := .approved } }

theorem approveStoredProposal_eq_ok {proposalId : String}
    (stored : self.proposals.proposals[proposalId]? = some proposal)
    (pending : proposal.status = .pending)
    (current : self.IsCurrent proposal)
    (previewed : self.previewAuthorityChange port self.authority
      proposal.change = .ok next) :
    approveStoredProposal port proposalId self =
      .ok () (self.withApproved proposalId proposal) := by
  have found := ApplyCall.retrieveProposal_eq_ok_iff.mpr stored
  have verified := verifyStoredProposalIsCurrent_eq_ok current previewed
  unfold approveStoredProposal
  rw [inspect_bind, found]
  dsimp only
  rw [pending]
  dsimp only
  rw [inspect_bind, verified]
  simp only [onStore, onPart, port, MemoryProposalStore.markApproved,
    MemoryProposalStore.updateProposal, stored, withApproved]

theorem previewAuthorityChange_disable (current : LiveAuthorityState)
    (provider : String) :
    self.previewAuthorityChange port current
        (.setProviderEnabled provider false) =
      .ok { current with
        providerState :=
          current.providerState.insert provider { enabled := false }
        revision := current.revision + 1 } :=
  rfl

/-- What a batch checks of two proposals.  Nothing of it tells a repeated
proposal from two. -/
theorem plan_pair {hashChange : AuthorityChange → UInt64}
    {clock : Nat → Nat} {proposalId otherId : String}
    {other : StoredProposal} {last : LiveAuthorityState}
    (stored : self.proposals.proposals[proposalId]? = some proposal)
    (otherStored : self.proposals.proposals[otherId]? = some other)
    (approved : proposal.status = .approved)
    (otherApproved : other.status = .approved)
    (current : self.IsCurrent proposal) (otherCurrent : self.IsCurrent other)
    (first : self.previewAuthorityChange port self.authority
      proposal.change = .ok next)
    (second : self.previewAuthorityChange port next other.change =
      .ok last) :
    ∃ records, (ApplyCall.batch [proposalId, otherId]).plan port hashChange
      clock self = .ok (last, records) := by
  have found := ApplyCall.retrieveProposal_eq_ok_iff.mpr stored
  have otherFound := ApplyCall.retrieveProposal_eq_ok_iff.mpr otherStored
  have both : [proposalId, otherId].mapM
      (port.retrieveProposal self.proposals) = .ok [proposal, other] := by
    simp only [List.mapM_cons, List.mapM_nil, found, otherFound]
    rfl
  have checked : requireApproved [proposal, other] = .ok () := by
    simp only [requireApproved, refuseIf, approved, otherApproved,
      bne_self_eq_false]
    rfl
  simp only [ApplyCall.plan, List.isEmpty_cons, plannedBatch, both, checked,
    plannedRecords, refuseIf, current.contract, current.revision,
    otherCurrent.contract, otherCurrent.revision, first, second,
    bne_self_eq_false, Bool.false_eq_true, if_false, except_ok_bind]
  exact ⟨_, rfl⟩

end ProposalRuntime

/-- A fresh runtime. -/
def quietHistory : ProposalHistory :=
  { runtime := quietRuntime, applied := [] }

theorem quietHistory_fresh : quietHistory.Fresh 0 := ⟨rfl, rfl, rfl⟩

def quietCall (operation : ControlOperation) : ControlCall :=
  { clock := fun _ => 0, operation }

def batchCalls (proposalIds : List String) : List ControlCall :=
  [quietCall (.propose (.setProviderEnabled "local" false) .explicit 0),
    quietCall (.approve "proposal-1"),
    quietCall (.apply (.batch proposalIds) trivial)]

def batchHistory (proposalIds : List String) : ProposalHistory :=
  (ProposalHistory.system (fun _ => 0) 0).run quietHistory
    (batchCalls proposalIds)

theorem appliesOnce_batch :
    (batchHistory ["proposal-1"]).AppliesOnce 0 ↔
      (ProposalHistory.system (fun _ => 0) 0).Follows
        (ProposalHistory.NamesOnce fun _ => 0) quietHistory
        (batchCalls ["proposal-1"]) :=
  ProposalHistory.appliesOnce_run_iff quietHistory_fresh _

theorem quietHistory_approved :
    ∃ (runtime : ProposalRuntime MemoryProposalStore)
      (proposal : StoredProposal),
      ProposalHistory.perform (fun _ => 0)
          (ProposalHistory.perform (fun _ => 0) quietHistory
            (quietCall
              (.propose (.setProviderEnabled "local" false) .explicit 0)))
          (quietCall (.approve "proposal-1")) =
        { quietHistory with runtime } ∧
      runtime.proposals.proposals["proposal-1"]? = some proposal ∧
      proposal.status = .approved ∧
      proposal.change = .setProviderEnabled "local" false ∧
      runtime.IsCurrent proposal := by
  have proposed : ∃ (proposals : MemoryProposalStore)
      (proposal : StoredProposal),
      finalState (ProposalRuntime.proposeChangeWithMetadata
          MemoryProposalStore.port (fun _ => 0)
          (.setProviderEnabled "local" false) .explicit 0 quietRuntime) =
        quietRuntime.changeProposals proposals ∧
      proposals.proposals["proposal-1"]? = some proposal ∧
      proposal.status = .pending ∧
      proposal.change = .setProviderEnabled "local" false ∧
      quietRuntime.IsCurrent proposal :=
    ⟨_, _, rfl, rfl, rfl, rfl, rfl, rfl⟩
  obtain ⟨proposals, proposal, performed, stored, pending, sameChange,
    current⟩ := proposed
  have previewed := @ProposalRuntime.previewAuthorityChange_disable
    (quietRuntime.changeProposals proposals) quietRuntime.authority "local"
  rw [← sameChange] at previewed
  have isCurrent :
      (quietRuntime.changeProposals proposals).IsCurrent proposal :=
    ⟨current.contract, current.revision⟩
  have approved := ProposalRuntime.approveStoredProposal_eq_ok stored pending
    isCurrent previewed
  refine ⟨(quietRuntime.changeProposals proposals).withApproved "proposal-1"
    proposal, { proposal with status := .approved }, ?_, ?_, rfl, sameChange,
    ?_⟩
  · simp only [ProposalHistory.perform, quietCall, quietHistory, performed,
      approved, finalState_ok]
  · exact Std.ExtTreeMap.getElem?_insert_self
  · exact ⟨current.contract, current.revision⟩

/-- The one proposal makes two revisions and two records. -/
theorem repeatedBatch_not_appliesOnce :
    quietHistory.Fresh 0 ∧
      ¬(batchHistory ["proposal-1", "proposal-1"]).AppliesOnce 0 := by
  refine ⟨quietHistory_fresh, ?_⟩
  intro once
  obtain ⟨runtime, proposal, performed, stored, approved, sameChange,
    current⟩ := quietHistory_approved
  have first := @ProposalRuntime.previewAuthorityChange_disable runtime
    runtime.authority "local"
  have second := fun next =>
    @ProposalRuntime.previewAuthorityChange_disable runtime next "local"
  rw [← sameChange] at first second
  obtain ⟨records, planned⟩ := ProposalRuntime.plan_pair stored stored
    approved approved current current first (second _)
  have start : (ProposalHistory.system (fun _ => 0) 0).Reachable
      quietHistory :=
    .start quietHistory_fresh
  have reached := ProposalHistory.reachable_perform
    (ProposalHistory.reachable_perform start (quietCall
      (.propose (.setProviderEnabled "local" false) .explicit 0)))
    (quietCall (.approve "proposal-1"))
  rw [performed] at reached
  have marks := (ProposalHistory.reachable_tracked reached).marks
  obtain ⟨_, _, applied⟩ := ProposalHistory.perform_planned marks
    (show (ApplyCall.batch ["proposal-1", "proposal-1"]).FromStore from trivial)
    planned
  have counted := once.applied "proposal-1"
  rw [batchHistory, batchCalls, ProposalHistory.run_cons,
    ProposalHistory.run_cons, ProposalHistory.run_cons, performed, quietCall,
    applied] at counted
  simp [quietHistory, ApplyCall.proposalIds, TransitionSystem.run] at counted

end AuthBoundry
