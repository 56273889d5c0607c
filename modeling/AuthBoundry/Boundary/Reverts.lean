import AuthBoundry.Boundary.Adoption

/-!
# What a revert takes back

A revert puts the whole state from before a change back, under a new revision.
It takes back that change alone exactly if nothing else has changed since.
-/

namespace AuthBoundry

open Library
open Library.Stateful
open MemoryProposalStore (port)

/-- The places of the live state that a change can write. -/
inductive AuthorityEntry where
  | route (routeId : RouteId)
  | capability (name : String)
  | provider (name : String)
  | passwordPolicy

/-- Two states have the same value in a place. -/
def AuthorityEntry.SameIn :
    AuthorityEntry → LiveAuthorityState → LiveAuthorityState → Prop
  | .route routeId, left, right =>
      left.routeProtection[routeId]? = right.routeProtection[routeId]?
  | .capability name, left, right =>
      left.capabilityPolicies[name]? = right.capabilityPolicies[name]?
  | .provider name, left, right =>
      left.providerState[name]? = right.providerState[name]?
  | .passwordPolicy, left, right => left.passwordPolicy = right.passwordPolicy

namespace AuthorityEntry

variable {entry : AuthorityEntry} {first second third : LiveAuthorityState}

theorem SameIn.symm (same : entry.SameIn first second) :
    entry.SameIn second first := by
  cases entry <;> exact Eq.symm same

theorem SameIn.trans (same : entry.SameIn first second)
    (next : entry.SameIn second third) : entry.SameIn first third := by
  cases entry <;> exact Eq.trans same next

theorem sameIn_revision (entry : AuthorityEntry) (state : LiveAuthorityState)
    (revision : Nat) : entry.SameIn { state with revision } state := by
  cases entry <;> rfl

end AuthorityEntry

namespace ChangeRecord

/-- The change gave the place another value. -/
def Modifies (self : ChangeRecord) (entry : AuthorityEntry) : Prop :=
  ¬entry.SameIn self.previousState self.resultingState

/-- The step from one live state to another takes back the change of a record
and nothing else. -/
structure UndoneBy (record : ChangeRecord)
    (before after : LiveAuthorityState) : Prop where
  others : ∀ entry, ¬record.Modifies entry → entry.SameIn after before
  modified : ∀ entry, record.Modifies entry →
    entry.SameIn before record.resultingState →
    entry.SameIn after record.previousState
  revision : after.revision = before.revision + 1

/-- What the change left alone is still as it was then. -/
def OthersStay (self : ChangeRecord) (current : LiveAuthorityState) : Prop :=
  ∀ entry, ¬self.Modifies entry → entry.SameIn current self.resultingState

variable {record : ChangeRecord} {current next : LiveAuthorityState}
  {changeId : String}

theorem applyRevertChange_undoneBy_iff
    (reverted : applyRevertChange current changeId record = .ok next) :
    record.UndoneBy current next ↔ record.OthersStay current := by
  obtain ⟨_, _, reverted⟩ := except_bind_eq_ok_iff.mp reverted
  obtain ⟨_, _, reverted⟩ := except_bind_eq_ok_iff.mp reverted
  cases reverted
  have restored : ∀ entry : AuthorityEntry, entry.SameIn
      { record.previousState with revision := current.revision + 1 }
      record.previousState :=
    fun entry => entry.sameIn_revision _ _
  constructor
  · intro undone entry unmodified
    have kept := undone.others entry unmodified
    have same := Classical.not_not.mp unmodified
    exact kept.symm.trans ((restored entry).trans same)
  · intro stay
    constructor
    · intro entry unmodified
      have same := Classical.not_not.mp unmodified
      exact (restored entry).trans
        (same.trans (stay entry unmodified).symm)
    · intro entry _ _
      exact restored entry
    · rfl

end ChangeRecord

namespace ProposalHistory

variable {hashChange : AuthorityChange → UInt64} {revision : Nat}
  {self : ProposalHistory}

theorem revert_previewed
    (reached : (system hashChange revision).Reachable self)
    {changeId : String} {record : ChangeRecord}
    (recorded : self.runtime.proposals.changes[changeId]? = some record) :
    self.runtime.previewAuthorityChange port self.runtime.authority
        (.revert changeId) =
      .ok { record.previousState with
        revision := self.runtime.authority.revision + 1 } := by
  obtain ⟨initial, records, journal⟩ := reachable_journal reached
  obtain ⟨member, named⟩ := (journal.filed changeId record).mp recorded
  have below := (journal.planned.chained.rank_within journal.planned.climbs
    member).2
  have notOlder : ¬self.runtime.authority.revision <
      record.resultingState.revision := by
    omega
  have found : port.retrieveChangeRecord self.runtime.proposals changeId =
      .ok record := by
    simp [port, MemoryProposalStore.retrieveChangeRecord, recorded]
  simp only [ProposalRuntime.previewAuthorityChange, found, applyRevertChange,
    refuseIf, named, notOlder, decide_false, bne_self_eq_false,
    Bool.false_eq_true, if_false, except_ok_bind]

/-- Each revert that became live took back its change and nothing else exactly
if what the change had left alone was still the same. -/
theorem revert_undoneBy_iff
    (reached : (system hashChange revision).Reachable self)
    {revertId changeId : String} {revert record : ChangeRecord}
    (applied : self.runtime.proposals.changes[revertId]? = some revert)
    (reverts : revert.change = .revert changeId)
    (recorded : self.runtime.proposals.changes[changeId]? = some record) :
    record.UndoneBy revert.previousState revert.resultingState ↔
      record.OthersStay revert.previousState := by
  obtain ⟨initial, records, journal⟩ := reachable_journal reached
  have previewed := journal.recordsEveryRevision.previewed revertId revert
    applied
  rw [reverts] at previewed
  obtain ⟨found, retrieved, reverted⟩ := except_bind_eq_ok_iff.mp previewed
  have same : found = record := by
    simpa [port, MemoryProposalStore.retrieveChangeRecord, recorded] using
      retrieved.symm
  rw [same] at reverted
  exact ChangeRecord.applyRevertChange_undoneBy_iff reverted

end ProposalHistory

/-! ## A revert that takes back more -/

section Example

open ProposalHistory

def disableProvider (name : String) : AuthorityChange :=
  .setProviderEnabled name false

def localDisabled : LiveAuthorityState :=
  { LiveAuthorityState.new with
    providerState := (∅ : KeyedMap String ProviderState).insert "local"
      { enabled := false }
    revision := 1 }

def bothDisabled : LiveAuthorityState :=
  { localDisabled with
    providerState := localDisabled.providerState.insert "oidc"
      { enabled := false }
    revision := 2 }

def localDisabledRuntime : ProposalRuntime MemoryProposalStore :=
  adopted quietRuntime (fun _ => 0) (disableProvider "local") localDisabled

def bothDisabledRuntime : ProposalRuntime MemoryProposalStore :=
  adopted localDisabledRuntime (fun _ => 0) (disableProvider "oidc")
    bothDisabled

def revertedRuntime : ProposalRuntime MemoryProposalStore :=
  adopted bothDisabledRuntime (fun _ => 0) (.revert "change-0-rev1")
    { LiveAuthorityState.new with revision := 3 }

def revertedHistory : ProposalHistory :=
  { runtime := revertedRuntime
    applied := ["proposal-1", "proposal-2", "proposal-3"] }

theorem unallocated_quiet : Unallocated quietRuntime := by
  intro number _
  simp [quietRuntime, MemoryProposalStore.new]

theorem localDisabled_recorded :
    bothDisabledRuntime.proposals.changes["change-0-rev1"]? =
      some (adoptedRecord quietRuntime (fun _ => 0) (disableProvider "local")
        localDisabled) := by
  rw [bothDisabledRuntime, adopted_changes, KeyedMap.getElem?_insert_of_ne,
    localDisabledRuntime, adopted_changes]
  · exact Std.ExtTreeMap.getElem?_insert_self
  · decide

theorem revertedHistory_reachable :
    (system (fun _ => 0) 0).Reachable revertedHistory := by
  have start : (system (fun _ => 0) 0).Reachable quietHistory :=
    .start quietHistory_fresh
  have localUnallocated : Unallocated localDisabledRuntime :=
    unallocated_quiet.adopted
  have bothUnallocated : Unallocated bothDisabledRuntime :=
    localUnallocated.adopted
  have first : (system (fun _ => 0) 0).Reachable
      { runtime := localDisabledRuntime, applied := ["proposal-1"] } :=
    reachable_adopted start unallocated_quiet rfl (fun _ => 0)
  have second : (system (fun _ => 0) 0).Reachable
      { runtime := bothDisabledRuntime
        applied := ["proposal-1", "proposal-2"] } :=
    reachable_adopted first localUnallocated rfl (fun _ => 0)
  exact reachable_adopted second bothUnallocated
    (revert_previewed second localDisabled_recorded) (fun _ => 0)

theorem localDisabled_kept :
    revertedRuntime.proposals.changes["change-0-rev1"]? =
      some (adoptedRecord quietRuntime (fun _ => 0) (disableProvider "local")
        localDisabled) := by
  rw [revertedRuntime, adopted_changes, KeyedMap.getElem?_insert_of_ne]
  · exact localDisabled_recorded
  · decide

theorem revert_recorded :
    revertedRuntime.proposals.changes["change-0-rev3"]? =
      some (adoptedRecord bothDisabledRuntime (fun _ => 0)
        (.revert "change-0-rev1")
        { LiveAuthorityState.new with revision := 3 }) := by
  rw [revertedRuntime, adopted_changes]
  exact Std.ExtTreeMap.getElem?_insert_self

theorem revert_undoneBy_iff_local :
    (adoptedRecord quietRuntime (fun _ => 0) (disableProvider "local")
        localDisabled).UndoneBy bothDisabled
          { LiveAuthorityState.new with revision := 3 } ↔
      (adoptedRecord quietRuntime (fun _ => 0) (disableProvider "local")
        localDisabled).OthersStay bothDisabled :=
  revert_undoneBy_iff revertedHistory_reachable revert_recorded rfl
    localDisabled_kept

/-- The revert of the first change enables both providers again. -/
theorem revertedHistory_not_undone :
    (system (fun _ => 0) 0).Reachable revertedHistory ∧
      ∃ record revert,
        revertedRuntime.proposals.changes["change-0-rev1"]? = some record ∧
        revertedRuntime.proposals.changes["change-0-rev3"]? = some revert ∧
        revert.change = .revert "change-0-rev1" ∧
        ¬record.UndoneBy revert.previousState revert.resultingState := by
  refine ⟨revertedHistory_reachable, ?_⟩
  refine ⟨_, _, localDisabled_kept, revert_recorded, rfl, ?_⟩
  intro undone
  have kept : (AuthorityEntry.provider "oidc").SameIn
      { LiveAuthorityState.new with revision := 3 } bothDisabled := by
    apply undone.others
    intro modified
    apply modified
    change none = localDisabled.providerState["oidc"]?
    decide
  change none = bothDisabled.providerState["oidc"]? at kept
  have disabled : bothDisabled.providerState["oidc"]? =
      some { enabled := false } := by
    decide
  rw [disabled] at kept
  cases kept

end Example

end AuthBoundry
