import AuthBoundry.Boundary.ProposalRuns
import AuthBoundry.Library.Encoding
import AuthBoundry.Library.Journal

/-!
# The record of every revision

Each change that becomes live leaves a record with the state before it and the
state after it.  As long as changes are applied from the store, the records are
a journal of the live state: one for every revision, none of them ever
overwritten.
-/

namespace AuthBoundry

open Library
open Library.Stateful
open MemoryProposalStore (port)

/-- The records account for every revision since the initial state. -/
structure RecordsEveryRevision (initial : LiveAuthorityState)
    (runtime : ProposalRuntime MemoryProposalStore) : Prop where
  unique : ∀ revision, initial.revision < revision →
    revision ≤ runtime.authority.revision →
    ∃! stored : String × ChangeRecord,
      runtime.proposals.changes[stored.1]? = some stored.2 ∧
        stored.2.resultingState.revision = revision
  first : ∀ (changeId : String) (record : ChangeRecord),
    runtime.proposals.changes[changeId]? = some record →
    record.resultingState.revision = initial.revision + 1 →
    record.previousState = initial
  continues : ∀ (changeId changeId' : String) (record next : ChangeRecord),
    runtime.proposals.changes[changeId]? = some record →
    runtime.proposals.changes[changeId']? = some next →
    next.resultingState.revision = record.resultingState.revision + 1 →
    next.previousState = record.resultingState
  previewed : ∀ (changeId : String) (record : ChangeRecord),
    runtime.proposals.changes[changeId]? = some record →
    runtime.previewAuthorityChange port record.previousState record.change =
      .ok record.resultingState
  last : ∀ (changeId : String) (record : ChangeRecord),
    runtime.proposals.changes[changeId]? = some record →
    record.resultingState.revision = runtime.authority.revision →
    record.resultingState = runtime.authority

def KeepsRecords (before after : MemoryProposalStore) : Prop :=
  ∀ (changeId : String) (record : ChangeRecord),
    before.changes[changeId]? = some record →
      after.changes[changeId]? = some record

def ChangeRecord.Numbered (self : ChangeRecord) : Prop :=
  ∃ front, self.changeId.toList =
    front ++ 'v' :: (toString self.resultingState.revision).toList

theorem ChangeRecord.Numbered.of_suffix {record : ChangeRecord}
    {front : String}
    (spelled : record.changeId =
      front ++ "-rev" ++ toString record.resultingState.revision) :
    record.Numbered := by
  refine ⟨front.toList ++ ['-', 'r', 'e'], ?_⟩
  rw [spelled]
  simp

theorem ChangeRecord.Numbered.revision_eq {record other : ChangeRecord}
    (numbered : record.Numbered) (otherNumbered : other.Numbered)
    (same : record.changeId = other.changeId) :
    record.resultingState.revision = other.resultingState.revision := by
  obtain ⟨front, spelled⟩ := numbered
  obtain ⟨front', spelled'⟩ := otherNumbered
  rw [same, spelled'] at spelled
  exact (decimal_suffix_inj (by decide) spelled).symm

/-! ## What is planned -/

namespace ApplyCall

variable {hashChange : AuthorityChange → UInt64} {clock : Nat → Nat}
  {self : ProposalRuntime MemoryProposalStore}

/-- The records that a runtime plans lead from one live state to another. -/
structure Planned (runtime : ProposalRuntime MemoryProposalStore)
    (current next : LiveAuthorityState) (records : List ChangeRecord) :
    Prop where
  chained : Chained ChangeRecord.previousState ChangeRecord.resultingState
    current records next
  previewed : ∀ record ∈ records,
    runtime.previewAuthorityChange port record.previousState record.change =
      .ok record.resultingState
  numbered : ∀ record ∈ records, record.Numbered

theorem Planned.nil (current : LiveAuthorityState) :
    Planned self current current [] := by
  constructor
  · rfl
  · simp
  · simp

theorem plannedChange_planned {proposal : ChangeProposal}
    {approval : Approval} {record : ChangeRecord}
    (planned : self.plannedChange port hashChange clock proposal approval =
      .ok record) :
    Planned self self.authority record.resultingState [record] := by
  obtain ⟨_, _, planned⟩ := except_bind_eq_ok_iff.mp planned
  obtain ⟨_, _, planned⟩ := except_bind_eq_ok_iff.mp planned
  obtain ⟨next, previewed, planned⟩ := except_bind_eq_ok_iff.mp planned
  cases planned
  constructor
  · exact ⟨rfl, rfl⟩
  · intro record member
    rw [List.mem_singleton.mp member]
    exact previewed
  · intro record member
    rw [List.mem_singleton.mp member]
    exact .of_suffix rfl

theorem plannedRecords_planned {stored : List StoredProposal} {index : Nat}
    {current next : LiveAuthorityState} {records : List ChangeRecord}
    (planned : self.plannedRecords port clock index current stored =
      .ok (next, records)) :
    Planned self current next records := by
  induction stored generalizing index current records with
  | nil =>
      cases planned
      exact .nil next
  | cons proposal rest induction =>
      obtain ⟨_, _, planned⟩ := except_bind_eq_ok_iff.mp planned
      obtain ⟨_, _, planned⟩ := except_bind_eq_ok_iff.mp planned
      obtain ⟨middle, previewed, planned⟩ := except_bind_eq_ok_iff.mp planned
      obtain ⟨⟨last, others⟩, remaining, planned⟩ :=
        except_bind_eq_ok_iff.mp planned
      cases planned
      have after := induction remaining
      constructor
      · exact ⟨rfl, after.chained⟩
      · exact List.forall_mem_cons.mpr ⟨previewed, after.previewed⟩
      · refine List.forall_mem_cons.mpr ⟨?_, after.numbered⟩
        exact .of_suffix rfl

theorem plan_planned {call : ApplyCall} {next : LiveAuthorityState}
    {records : List ChangeRecord}
    (planned : call.plan port hashChange clock self = .ok (next, records)) :
    Planned self self.authority next records := by
  cases call with
  | change proposal approval =>
      obtain ⟨record, found, planned⟩ := except_bind_eq_ok_iff.mp planned
      cases planned
      exact plannedChange_planned found
  | stored proposalId approval =>
      obtain ⟨_, _, planned⟩ := except_bind_eq_ok_iff.mp planned
      obtain ⟨record, found, planned⟩ := except_bind_eq_ok_iff.mp planned
      cases planned
      exact plannedChange_planned found
  | approved proposalId =>
      obtain ⟨_, _, planned⟩ := except_bind_eq_ok_iff.mp planned
      obtain ⟨_, _, planned⟩ := except_bind_eq_ok_iff.mp planned
      obtain ⟨record, found, planned⟩ := except_bind_eq_ok_iff.mp planned
      cases planned
      exact plannedChange_planned found
  | batch proposalIds =>
      simp only [plan] at planned
      split at planned
      · cases planned
        exact .nil self.authority
      · obtain ⟨_, _, planned⟩ := except_bind_eq_ok_iff.mp planned
        obtain ⟨_, _, planned⟩ := except_bind_eq_ok_iff.mp planned
        exact plannedRecords_planned planned

theorem Planned.climbs {current next : LiveAuthorityState}
    {records : List ChangeRecord} (planned : Planned self current next records) :
    Climbs ChangeRecord.previousState ChangeRecord.resultingState
      LiveAuthorityState.revision records :=
  fun record member =>
    previewAuthorityChange_revision (planned.previewed record member)

end ApplyCall

namespace MemoryProposalStore

theorem recordAll_changes {clock : Nat → Nat} {reading : Nat}
    {records : List ChangeRecord} {store after : MemoryProposalStore}
    (taken : port.recordAll clock reading records store = .ok () after) :
    after.changes = file ChangeRecord.changeId store.changes records := by
  induction records generalizing store reading with
  | nil =>
      cases taken
      rfl
  | cons record records induction =>
      unfold ProposalStore.recordAll at taken
      obtain ⟨_, middle, first, rest⟩ := bind_eq_ok_iff.mp taken
      cases stored : store.proposals[record.proposalId]? with
      | none =>
          rw [recordApplied_absent (clock reading) stored] at first
          cases first
      | some proposal =>
          rw [recordApplied_stored (clock reading) stored] at first
          cases first
          exact induction rest

end MemoryProposalStore

theorem previewAuthorityChange_kept
    {before after : ProposalRuntime MemoryProposalStore}
    (kept : KeepsRecords before.proposals after.proposals)
    {current next : LiveAuthorityState} {change : AuthorityChange}
    (previewed : before.previewAuthorityChange port current change =
      .ok next) :
    after.previewAuthorityChange port current change = .ok next := by
  cases change with
  | revert changeId =>
      obtain ⟨record, found, reverted⟩ := except_bind_eq_ok_iff.mp previewed
      have there : before.proposals.changes[changeId]? = some record := by
        simp only [port, MemoryProposalStore.retrieveChangeRecord] at found
        cases stored : before.proposals.changes[changeId]? with
        | none => simp [stored] at found
        | some stored' =>
            rw [stored] at found
            cases found
            rfl
      simp only [ProposalRuntime.previewAuthorityChange, port,
        MemoryProposalStore.retrieveChangeRecord, kept _ _ there]
      exact reverted
  | _ => exact previewed

/-! ## The journal -/

/-- The records of a runtime, in the order in which their changes became
live. -/
structure Journal (initial : LiveAuthorityState)
    (runtime : ProposalRuntime MemoryProposalStore)
    (records : List ChangeRecord) : Prop where
  planned : ApplyCall.Planned runtime initial runtime.authority records
  filed : ∀ (changeId : String) (record : ChangeRecord),
    runtime.proposals.changes[changeId]? = some record ↔
      record ∈ records ∧ record.changeId = changeId

namespace Journal

variable {initial : LiveAuthorityState}
  {self after : ProposalRuntime MemoryProposalStore}
  {records more : List ChangeRecord}

/-- A longer journal holds what the shorter one does. -/
theorem keepsRecords (journal : Journal initial self records)
    (later : Journal initial after (records ++ more)) :
    KeepsRecords self.proposals after.proposals := by
  intro changeId record stored
  obtain ⟨member, named⟩ := (journal.filed changeId record).mp stored
  exact (later.filed changeId record).mpr
    ⟨List.mem_append_left _ member, named⟩

theorem unused (journal : Journal initial self records)
    {next : LiveAuthorityState}
    (planned : ApplyCall.Planned self self.authority next more) :
    ∀ record ∈ more, self.proposals.changes[record.changeId]? = none := by
  intro record member
  have above := (planned.chained.rank_within planned.climbs member).1
  cases stored : self.proposals.changes[record.changeId]? with
  | none => rfl
  | some old =>
      obtain ⟨oldMember, sameId⟩ := (journal.filed _ _).mp stored
      have below := (journal.planned.chained.rank_within
        journal.planned.climbs oldMember).2
      have sameRevision :=
        (journal.planned.numbered old oldMember).revision_eq
          (planned.numbered record member) sameId
      omega

theorem idsApart {current next : LiveAuthorityState}
    (planned : ApplyCall.Planned self current next more) :
    (more.map ChangeRecord.changeId).Nodup := by
  have revisions := planned.chained.ranks_nodup planned.climbs
  rw [List.Nodup, List.pairwise_map] at revisions ⊢
  apply revisions.imp_of_mem
  intro record other member otherMember different same
  exact different ((planned.numbered record member).revision_eq
    (planned.numbered other otherMember) same)

/-- Applying a plan continues the journal. -/
theorem applies (journal : Journal initial self records)
    {clock : Nat → Nat} {reading : Nat} {next : LiveAuthorityState}
    {proposals : MemoryProposalStore}
    (planned : ApplyCall.Planned self self.authority next more)
    (taken : port.recordAll clock reading more self.proposals =
      .ok () proposals) :
    Journal initial ((self.changeAuthority next).changeProposals proposals)
      (records ++ more) := by
  have filed : ∀ (changeId : String) (record : ChangeRecord),
      proposals.changes[changeId]? = some record ↔
        record ∈ records ++ more ∧ record.changeId = changeId := by
    intro changeId record
    rw [MemoryProposalStore.recordAll_changes taken,
      getElem?_file_iff _ (idsApart planned) (journal.unused planned),
      journal.filed, List.mem_append, or_and_right]
  have kept : KeepsRecords self.proposals proposals := by
    intro changeId record stored
    obtain ⟨member, named⟩ := (journal.filed changeId record).mp stored
    exact (filed changeId record).mpr
      ⟨List.mem_append_left _ member, named⟩
  refine ⟨⟨?_, ?_, ?_⟩, filed⟩
  · exact chained_append_iff.mpr
      ⟨_, journal.planned.chained, planned.chained⟩
  · intro record member
    apply previewAuthorityChange_kept kept
    rcases List.mem_append.mp member with old | new
    · exact journal.planned.previewed record old
    · exact planned.previewed record new
  · exact List.forall_mem_append.mpr
      ⟨journal.planned.numbered, planned.numbered⟩

theorem quiet (journal : Journal initial self records)
    (nothing : AppliesNothing self after) : Journal initial after records := by
  have kept : KeepsRecords self.proposals after.proposals := by
    intro changeId record stored
    rw [nothing.changes]
    exact stored
  refine ⟨⟨?_, ?_, journal.planned.numbered⟩, ?_⟩
  · rw [nothing.authority]
    exact journal.planned.chained
  · exact fun record member => previewAuthorityChange_kept kept
      (journal.planned.previewed record member)
  · rw [nothing.changes]
    exact journal.filed

theorem recordsEveryRevision (journal : Journal initial self records) :
    RecordsEveryRevision initial self := by
  have chained := journal.planned.chained
  have climbs := journal.planned.climbs
  have member : ∀ {changeId : String} {record : ChangeRecord},
      self.proposals.changes[changeId]? = some record → record ∈ records :=
    fun stored => ((journal.filed _ _).mp stored).1
  constructor
  · intro revision above within
    obtain ⟨record, listed, reaches⟩ :=
      chained.exists_rank climbs above within
    refine ⟨(record.changeId, record), ⟨?_, reaches⟩, ?_⟩
    · exact (journal.filed _ _).mpr ⟨listed, rfl⟩
    · rintro ⟨changeId, other⟩ ⟨stored, otherReaches⟩
      obtain ⟨otherListed, named⟩ := (journal.filed _ _).mp stored
      have same : other = record := chained.rank_inj climbs otherListed listed
        (otherReaches.trans reaches.symm)
      rw [← same, Prod.mk.injEq]
      exact ⟨named.symm, rfl⟩
  · intro changeId record stored lowest
    exact chained.start_eq_first climbs (member stored) lowest
  · intro changeId changeId' record next stored nextStored follows
    exact chained.continues climbs (member stored) (member nextStored) follows
  · intro changeId record stored
    exact journal.planned.previewed record (member stored)
  · intro changeId record stored highest
    exact chained.stop_eq_last climbs (member stored) highest

end Journal

/-! ## Runs -/

namespace ProposalHistory

variable {hashChange : AuthorityChange → UInt64} {self : ProposalHistory}
  {initial : LiveAuthorityState} {records : List ChangeRecord}
  {revision : Nat}

theorem Fresh.journal (fresh : self.Fresh revision) :
    Journal self.runtime.authority self.runtime [] := by
  refine ⟨.nil self.runtime.authority, ?_⟩
  simp [fresh.proposals, MemoryProposalStore.new]

theorem step_journal (tracked : self.Tracked revision)
    (journal : Journal initial self.runtime records) (call : ControlCall) :
    ∃ more, Journal initial (perform hashChange self call).runtime
      (records ++ more) := by
  cases stepped tracked.marks call with
  | quiet runtime performed nothing names =>
      rw [performed]
      refine ⟨[], ?_⟩
      rw [List.append_nil]
      exact journal.quiet nothing
  | applies apply next more proposals fromStore planned taken performed
      names =>
      rw [performed]
      exact ⟨more, journal.applies (ApplyCall.plan_planned planned) taken⟩

theorem reachable_journal
    (reached : (system hashChange revision).Reachable self) :
    ∃ initial records, Journal initial self.runtime records := by
  apply reached.invariant
  · exact fun start fresh => ⟨_, _, fresh.journal⟩
  · rintro state call before _ ⟨initial, records, journal⟩
    obtain ⟨more, next⟩ :=
      step_journal (reachable_tracked before) journal call
    exact ⟨initial, records ++ more, next⟩

theorem run_journal (tracked : self.Tracked revision)
    (journal : Journal initial self.runtime records)
    (calls : List ControlCall) :
    ∃ more, Journal initial
      ((system hashChange revision).run self calls).runtime
      (records ++ more) := by
  induction calls generalizing self records with
  | nil =>
      refine ⟨[], ?_⟩
      rw [List.append_nil]
      exact journal
  | cons call calls induction =>
      obtain ⟨first, next⟩ := step_journal tracked journal call
      obtain ⟨rest, last⟩ := induction (tracked.step call) next
      rw [List.append_assoc] at last
      exact ⟨first ++ rest, last⟩

/-- At the end of every run the records account for every revision, and no run
that continues it loses or overwrites one. -/
theorem recordsEveryRevision_run (fresh : self.Fresh revision)
    (calls : List ControlCall) :
    RecordsEveryRevision self.runtime.authority
        ((system hashChange revision).run self calls).runtime ∧
      ∀ later, KeepsRecords
        ((system hashChange revision).run self calls).runtime.proposals
        ((system hashChange revision).run self
          (calls ++ later)).runtime.proposals := by
  have start : (system hashChange revision).Reachable self := .start fresh
  obtain ⟨records, journal⟩ :=
    @run_journal hashChange _ _ _ _ fresh.tracked fresh.journal calls
  refine ⟨journal.recordsEveryRevision, ?_⟩
  intro later
  have tracked := reachable_tracked (start.run calls)
  obtain ⟨more, continued⟩ :=
    @run_journal hashChange _ _ _ _ tracked journal later
  rw [TransitionSystem.run_append]
  exact journal.keepsRecords continued

end ProposalHistory

/-- Disabling a provider is proposed, approved and applied. -/
theorem recordsEveryRevision_batch :
    RecordsEveryRevision quietRuntime.authority
        (batchHistory ["proposal-1"]).runtime ∧
      ∀ later, KeepsRecords (batchHistory ["proposal-1"]).runtime.proposals
        ((ProposalHistory.system (fun _ => 0) 0).run quietHistory
          (batchCalls ["proposal-1"] ++ later)).runtime.proposals :=
  ProposalHistory.recordsEveryRevision_run quietHistory_fresh
    (batchCalls ["proposal-1"])

end AuthBoundry
