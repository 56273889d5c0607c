import AuthBoundry.Boundary.Reverts

/-!
# What a reviewer was shown

A proposal is previewed on the state it is made in.  In a batch it is applied
on top of the changes before it: an entry that its preview shows unchanged, and
that it writes nevertheless, changes with them.
-/

namespace AuthBoundry

open Library
open Library.Stateful
open MemoryProposalStore (port)

/-! ## Entries -/

namespace AuthorityEntry

/-- Two shown states have the same value in a place. -/
def SameShown : AuthorityEntry → PreviewState → PreviewState → Prop
  | .route routeId, left, right =>
      left.routeProtection[routeId]? = right.routeProtection[routeId]?
  | .capability name, left, right =>
      left.capabilityPolicies[name]? = right.capabilityPolicies[name]?
  | .provider name, left, right =>
      left.providerState[name]? = right.providerState[name]?
  | .passwordPolicy, left, right => left.passwordPolicy = right.passwordPolicy

variable {entry : AuthorityEntry} {first second third : PreviewState}
  {left right : LiveAuthorityState}

theorem SameShown.refl (entry : AuthorityEntry) (state : PreviewState) :
    entry.SameShown state state := by
  cases entry <;> rfl

theorem SameShown.symm (same : entry.SameShown first second) :
    entry.SameShown second first := by
  cases entry <;> exact Eq.symm same

theorem SameShown.trans (same : entry.SameShown first second)
    (next : entry.SameShown second third) : entry.SameShown first third := by
  cases entry <;> exact Eq.trans same next

theorem sameShown_ofState_iff :
    entry.SameShown (.ofState left) (.ofState right) ↔
      entry.SameIn left right := by
  cases entry <;> exact Iff.rfl

end AuthorityEntry

namespace AuthorityChange

/-- The places that a change gives a value, the same one whatever they had. -/
def Writes : AuthorityChange → AuthorityEntry → Prop
  | .protectRoute method path _, .route routeId => routeId = { method, path }
  | .unprotectRoute method path, .route routeId => routeId = { method, path }
  | .setCapabilityPolicy capability _, .capability name => name = capability
  | .setProviderEnabled provider _, .provider name => name = provider
  | .setPasswordPolicy _, .passwordPolicy => True
  | .revert _, _ => True
  | _, _ => False

instance (change : AuthorityChange) (entry : AuthorityEntry) :
    Decidable (change.Writes entry) := by
  cases change <;> cases entry <;> unfold Writes <;> infer_instance

end AuthorityChange

theorem getElem?_erase_route (routes : KeyedMap RouteId RouteProtection)
    (erased routeId : RouteId) :
    (routes.erase erased)[routeId]? =
      if routeId = erased then none else routes[routeId]? := by
  rw [Std.ExtTreeMap.getElem?_erase]
  simp only [Std.LawfulEqOrd.compare_eq_iff_eq, @eq_comm _ routeId]

theorem applyChange_unwritten {current next : LiveAuthorityState}
    {change : AuthorityChange} (applied : applyChange current change = .ok next)
    {entry : AuthorityEntry} (unwritten : ¬change.Writes entry) :
    entry.SameIn next current := by
  cases change with
  | protectRoute method path capability =>
      cases applied
      cases entry with
      | route routeId =>
          exact KeyedMap.getElem?_insert_of_ne _ _ fun same =>
            unwritten same.symm
      | _ => rfl
  | unprotectRoute method path =>
      cases applied
      cases entry with
      | route routeId =>
          exact (getElem?_erase_route _ _ _).trans (if_neg unwritten)
      | _ => rfl
  | setCapabilityPolicy capability policy =>
      cases applied
      cases entry with
      | capability name =>
          exact KeyedMap.getElem?_insert_of_ne _ _ fun same =>
            unwritten same.symm
      | _ => rfl
  | setProviderEnabled provider enabled =>
      cases applied
      cases entry with
      | provider name =>
          exact KeyedMap.getElem?_insert_of_ne _ _ fun same =>
            unwritten same.symm
      | _ => rfl
  | setPasswordPolicy policy =>
      rw [applyChange] at applied
      cases valid : policy.validate with
      | error err =>
          rw [valid] at applied
          cases applied
      | ok _ =>
          rw [valid] at applied
          cases applied
          cases entry with
          | passwordPolicy => exact absurd trivial unwritten
          | _ => rfl
  | revert changeId => cases applied

theorem applyChange_written {current next current' next' : LiveAuthorityState}
    {change : AuthorityChange} (applied : applyChange current change = .ok next)
    (applied' : applyChange current' change = .ok next')
    {entry : AuthorityEntry} (written : change.Writes entry) :
    entry.SameIn next next' := by
  cases change with
  | protectRoute method path capability =>
      cases applied
      cases applied'
      cases entry with
      | route routeId =>
          obtain rfl := written
          exact Std.ExtTreeMap.getElem?_insert_self.trans
            Std.ExtTreeMap.getElem?_insert_self.symm
      | _ => exact absurd written id
  | unprotectRoute method path =>
      cases applied
      cases applied'
      cases entry with
      | route routeId =>
          exact ((getElem?_erase_route _ _ _).trans (if_pos written)).trans
            ((getElem?_erase_route _ _ _).trans (if_pos written)).symm
      | _ => exact absurd written id
  | setCapabilityPolicy capability policy =>
      cases applied
      cases applied'
      cases entry with
      | capability name =>
          obtain rfl := written
          exact Std.ExtTreeMap.getElem?_insert_self.trans
            Std.ExtTreeMap.getElem?_insert_self.symm
      | _ => exact absurd written id
  | setProviderEnabled provider enabled =>
      cases applied
      cases applied'
      cases entry with
      | provider name =>
          obtain rfl := written
          exact Std.ExtTreeMap.getElem?_insert_self.trans
            Std.ExtTreeMap.getElem?_insert_self.symm
      | _ => exact absurd written id
  | setPasswordPolicy policy =>
      rw [applyChange] at applied applied'
      cases valid : policy.validate with
      | error err =>
          rw [valid] at applied
          cases applied
      | ok _ =>
          rw [valid] at applied applied'
          cases applied
          cases applied'
          cases entry with
          | passwordPolicy => rfl
          | _ => exact absurd written id
  | revert changeId => cases applied

section Previewed

variable {self : ProposalRuntime MemoryProposalStore}
  {current next current' next' : LiveAuthorityState} {change : AuthorityChange}
  {entry : AuthorityEntry}

theorem previewAuthorityChange_direct
    (direct : change.revertedChangeId = none) :
    self.previewAuthorityChange port current change =
      applyChange current change := by
  cases change with
  | revert changeId => cases direct
  | _ => rfl

/-- What a change writes and what it leaves, also if it is a revert. -/
theorem previewAuthorityChange_unwritten
    (previewed : self.previewAuthorityChange port current change = .ok next)
    (unwritten : ¬change.Writes entry) : entry.SameIn next current := by
  cases change with
  | revert changeId => exact absurd trivial unwritten
  | _ =>
      rw [previewAuthorityChange_direct rfl] at previewed
      exact applyChange_unwritten previewed unwritten

theorem previewAuthorityChange_written
    (previewed : self.previewAuthorityChange port current change = .ok next)
    (previewed' : self.previewAuthorityChange port current' change = .ok next')
    (written : change.Writes entry) : entry.SameIn next next' := by
  cases change with
  | revert changeId =>
      obtain ⟨record, found, reverted⟩ := except_bind_eq_ok_iff.mp previewed
      obtain ⟨record', found', reverted'⟩ :=
        except_bind_eq_ok_iff.mp previewed'
      obtain rfl := Except.ok.inj (found.symm.trans found')
      obtain ⟨_, _, reverted⟩ := except_bind_eq_ok_iff.mp reverted
      obtain ⟨_, _, reverted⟩ := except_bind_eq_ok_iff.mp reverted
      obtain ⟨_, _, reverted'⟩ := except_bind_eq_ok_iff.mp reverted'
      obtain ⟨_, _, reverted'⟩ := except_bind_eq_ok_iff.mp reverted'
      cases reverted
      cases reverted'
      exact (entry.sameIn_revision _ _).trans (entry.sameIn_revision _ _).symm
  | _ =>
      rw [previewAuthorityChange_direct rfl] at previewed previewed'
      exact applyChange_written previewed previewed' written

end Previewed

/-! ## Proposals as they were made -/

/-- The parts of a proposal that never change. -/
def StoredProposal.SameRequest (self other : StoredProposal) : Prop :=
  self.change = other.change ∧ self.preview = other.preview ∧
    self.revision = other.revision

def StoredProposal.ShowsNow (self : StoredProposal)
    (runtime : ProposalRuntime MemoryProposalStore) : Prop :=
  self.preview.before = .ofState runtime.authority ∧
    ∃ next, runtime.previewAuthorityChange port runtime.authority self.change =
        .ok next ∧
      self.preview.after = .ofState next

/-- Whatever is stored is a proposal from before, or was made just now. -/
def KeepsOrMakes (before after : ProposalRuntime MemoryProposalStore) : Prop :=
  ∀ (proposalId : String) (proposal : StoredProposal),
    after.proposals.proposals[proposalId]? = some proposal →
      (∃ old : StoredProposal,
        before.proposals.proposals[proposalId]? = some old ∧
          proposal.SameRequest old) ∨
      proposal.revision = before.authority.revision ∧ proposal.ShowsNow before

namespace KeepsOrMakes

variable (clock : Nat → Nat) (runtime : ProposalRuntime MemoryProposalStore)

theorem refl : KeepsOrMakes runtime runtime :=
  fun _ proposal stored => .inl ⟨proposal, stored, rfl, rfl, rfl⟩

theorem propose (proposed : AuthorityChange) (source : ProposalSource)
    (discoveryRevision : Nat) :
    KeepsOrMakes runtime (finalState
      (ProposalRuntime.proposeChangeWithMetadata port clock proposed source
        discoveryRevision runtime)) := by
  unfold ProposalRuntime.proposeChangeWithMetadata ProposalRuntime.onStore
  rw [bind_apply]
  dsimp only [get, getThe, MonadStateOf.get, EStateM.get]
  rw [inspect_bind]
  cases previewed :
      runtime.previewAuthorityChange port runtime.authority proposed with
  | error message => exact refl runtime
  | ok next =>
      have storing : ∀ (proposal : StoredProposal)
          (outcome : EStateM.Result String MemoryProposalStore Unit),
          proposal.revision = runtime.authority.revision →
          proposal.ShowsNow runtime →
          port.storeProposal proposal
              (port.allocateProposalId runtime.proposals).2 = outcome →
          KeepsOrMakes runtime
            (runtime.changeProposals (finalState outcome)) := by
        intro proposal outcome current shown stored
        rw [← stored]
        dsimp only [port, MemoryProposalStore.storeProposal]
        split
        · exact fun _ other found => .inl ⟨other, found, rfl, rfl, rfl⟩
        · intro proposalId other found
          change (runtime.proposals.proposals.insert _ _)[_]? = _ at found
          rw [KeyedMap.getElem?_insert_eq] at found
          split at found
          · obtain rfl := Option.some.inj found
            exact .inr ⟨current, shown⟩
          · exact .inl ⟨other, found, rfl, rfl, rfl⟩
      dsimp only
      rw [onPart_bind]
      dsimp only [ProposalStore.takeProposalId]
      rw [onPart_bind]
      split <;> rename_i stored
      · exact storing _ _ rfl ⟨rfl, next, previewed, rfl⟩ stored
      · exact storing _ _ rfl ⟨rfl, next, previewed, rfl⟩ stored

theorem update (proposalId : String) (change : StoredProposal → StoredProposal)
    (same : ∀ proposal, (change proposal).SameRequest proposal) :
    KeepsOrMakes runtime (finalState
      (ProposalRuntime.onStore
        (MemoryProposalStore.updateProposal proposalId change) runtime)) := by
  unfold ProposalRuntime.onStore onPart MemoryProposalStore.updateProposal
  cases stored : runtime.proposals.proposals[proposalId]? with
  | none => exact refl runtime
  | some proposal =>
      intro otherId other found
      change (runtime.proposals.proposals.insert _ _)[_]? = _ at found
      rw [KeyedMap.getElem?_insert_eq] at found
      split at found
      · rename_i sameId
        obtain rfl := Option.some.inj found
        rw [← sameId]
        exact .inl ⟨proposal, stored, same proposal⟩
      · exact .inl ⟨other, found, rfl, rfl, rfl⟩

theorem approve (proposalId : String) :
    KeepsOrMakes runtime (finalState
      (ProposalRuntime.approveStoredProposal port proposalId runtime)) := by
  unfold ProposalRuntime.approveStoredProposal
  rw [inspect_bind]
  cases port.retrieveProposal runtime.proposals proposalId with
  | error message => exact refl runtime
  | ok stored =>
      dsimp only
      cases stored.status with
      | pending =>
          dsimp only
          rw [inspect_bind]
          cases runtime.verifyStoredProposalIsCurrent port stored with
          | error message => exact refl runtime
          | ok _ => exact update runtime _ _ fun _ => ⟨rfl, rfl, rfl⟩
      | _ => exact refl runtime

theorem reject (proposalId reason : String) :
    KeepsOrMakes runtime (finalState
      (ProposalRuntime.rejectStoredProposal port proposalId reason
        runtime)) := by
  unfold ProposalRuntime.rejectStoredProposal
  rw [inspect_bind]
  cases port.retrieveProposal runtime.proposals proposalId with
  | error message => exact refl runtime
  | ok stored =>
      dsimp only
      cases stored.status with
      | applied => exact refl runtime
      | rejected => exact refl runtime
      | _ => exact update runtime _ _ fun _ => ⟨rfl, rfl, rfl⟩

end KeepsOrMakes

def KeepsRequests (before after : MemoryProposalStore) : Prop :=
  ∀ (proposalId : String) (proposal : StoredProposal),
    after.proposals[proposalId]? = some proposal →
      ∃ old : StoredProposal, before.proposals[proposalId]? = some old ∧
        proposal.SameRequest old

theorem recordAll_keepsRequests {clock : Nat → Nat} {reading : Nat}
    {records : List ChangeRecord} {store after : MemoryProposalStore}
    (taken : port.recordAll clock reading records store = .ok () after) :
    KeepsRequests store after := by
  induction records generalizing reading store with
  | nil =>
      cases taken
      exact fun _ proposal stored => ⟨proposal, stored, rfl, rfl, rfl⟩
  | cons record records induction =>
      unfold ProposalStore.recordAll at taken
      obtain ⟨_, middle, first, rest⟩ := bind_eq_ok_iff.mp taken
      cases held : store.proposals[record.proposalId]? with
      | none =>
          rw [MemoryProposalStore.recordApplied_absent (clock reading) held]
            at first
          cases first
      | some old =>
          rw [MemoryProposalStore.recordApplied_stored (clock reading) held]
            at first
          cases first
          intro proposalId proposal stored
          obtain ⟨marked, found, same⟩ := induction rest proposalId proposal
            stored
          change (store.proposals.insert _ _)[_]? = _ at found
          rw [KeyedMap.getElem?_insert_eq] at found
          split at found
          · rename_i sameId
            obtain rfl := Option.some.inj found
            exact ⟨old, sameId ▸ held, same⟩
          · exact ⟨marked, found, same⟩

/-! ## Runs -/

namespace ProposalHistory

variable {hashChange : AuthorityChange → UInt64} {self : ProposalHistory}
  {revision : Nat}

/-- No stored proposal is newer than the live state, and those that are not
older show what their change does now. -/
def ShowsTruly (runtime : ProposalRuntime MemoryProposalStore) : Prop :=
  ∀ (proposalId : String) (proposal : StoredProposal),
    runtime.proposals.proposals[proposalId]? = some proposal →
      proposal.revision ≤ runtime.authority.revision ∧
        (proposal.revision = runtime.authority.revision →
          proposal.ShowsNow runtime)

theorem perform_keepsOrMakes (tracked : self.Tracked revision)
    (call : ControlCall) :
    KeepsOrMakes self.runtime (perform hashChange self call).runtime := by
  obtain ⟨clock, operation⟩ := call
  cases operation with
  | propose change source discoveryRevision =>
      exact .propose clock self.runtime change source discoveryRevision
  | approve proposalId => exact .approve self.runtime proposalId
  | reject proposalId reason => exact .reject self.runtime proposalId reason
  | apply apply fromStore =>
      cases planned : apply.plan port hashChange clock self.runtime with
      | error message =>
          rw [perform_refused fromStore planned]
          exact .refl self.runtime
      | ok pair =>
          obtain ⟨next, records⟩ := pair
          obtain ⟨proposals, taken, performed⟩ :=
            perform_planned tracked.marks fromStore planned
          rw [performed]
          exact fun proposalId proposal stored =>
            .inl (recordAll_keepsRequests taken proposalId proposal stored)

theorem ShowsNow.kept {before after : ProposalRuntime MemoryProposalStore}
    (authority : after.authority = before.authority)
    (records : KeepsRecords before.proposals after.proposals)
    {proposal old : StoredProposal} (same : proposal.SameRequest old)
    (shown : old.ShowsNow before) : proposal.ShowsNow after := by
  obtain ⟨sameChange, samePreview, _⟩ := same
  obtain ⟨current, next, previewed, following⟩ := shown
  rw [StoredProposal.ShowsNow, sameChange, samePreview, authority]
  exact ⟨current, next, previewAuthorityChange_kept records previewed,
    following⟩

/-- A call after which the live state is the same. -/
theorem ShowsTruly.stays {before after : ProposalRuntime MemoryProposalStore}
    (truly : ShowsTruly before)
    (authority : after.authority = before.authority)
    (records : KeepsRecords before.proposals after.proposals)
    (keeps : KeepsOrMakes before after) : ShowsTruly after := by
  intro proposalId proposal stored
  rw [authority]
  rcases keeps proposalId proposal stored with
    ⟨old, held, same⟩ | ⟨current, shown⟩
  · obtain ⟨within, shows⟩ := truly proposalId old held
    rw [same.2.2]
    exact ⟨within, fun current =>
      ShowsNow.kept authority records same (shows current)⟩
  · exact ⟨current.le, fun _ =>
      ShowsNow.kept authority records ⟨rfl, rfl, rfl⟩ shown⟩

/-- A call after which the live state is newer. -/
theorem ShowsTruly.advances
    {before after : ProposalRuntime MemoryProposalStore}
    (truly : ShowsTruly before)
    (newer : before.authority.revision < after.authority.revision)
    (keeps : KeepsOrMakes before after) : ShowsTruly after := by
  intro proposalId proposal stored
  rcases keeps proposalId proposal stored with
    ⟨old, held, same⟩ | ⟨current, shown⟩
  · have within := (truly proposalId old held).1
    rw [same.2.2]
    omega
  · omega

theorem step_showsTruly (tracked : self.Tracked revision)
    {initial : LiveAuthorityState} {records : List ChangeRecord}
    (journal : Journal initial self.runtime records)
    (truly : ShowsTruly self.runtime) (call : ControlCall) :
    ShowsTruly (perform hashChange self call).runtime := by
  have keeps := @perform_keepsOrMakes hashChange _ _ tracked call
  obtain ⟨_, continued⟩ := @step_journal hashChange _ _ _ _ tracked journal call
  have kept := journal.keepsRecords continued
  cases @stepped hashChange _ tracked.marks call with
  | quiet runtime performed nothing names =>
      rw [performed] at keeps kept ⊢
      exact truly.stays nothing.authority kept keeps
  | applies apply next more proposals fromStore planned taken performed
      names =>
      have advanced := ApplyCall.plan_revision planned
      have chained := (ApplyCall.plan_planned planned).chained
      rw [performed] at keeps kept ⊢
      cases more with
      | nil => exact truly.stays chained.symm kept keeps
      | cons record others =>
          apply truly.advances _ keeps
          change self.runtime.authority.revision < next.revision
          simp only [List.length_cons] at advanced
          omega

theorem reachable_showsTruly
    (reached : (system hashChange revision).Reachable self) :
    ShowsTruly self.runtime := by
  apply reached.invariant
  · intro start fresh proposalId proposal stored
    simp [fresh.proposals, MemoryProposalStore.new] at stored
  · intro state call before _ truly
    obtain ⟨initial, records, journal⟩ := reachable_journal before
    exact step_showsTruly (reachable_tracked before) journal truly call

end ProposalHistory

/-! ## Batches -/

namespace StoredProposal

/-- The record of a proposal is as its preview: what the preview changes has
the value shown, and what it leaves is left. -/
structure AsShown (proposal : StoredProposal) (record : ChangeRecord) :
    Prop where
  changed : ∀ entry : AuthorityEntry,
    ¬entry.SameShown proposal.preview.before proposal.preview.after →
      entry.SameShown (.ofState record.resultingState) proposal.preview.after
  kept : ∀ entry : AuthorityEntry,
    entry.SameShown proposal.preview.before proposal.preview.after →
      entry.SameIn record.previousState record.resultingState

/-- What a place shows after some changes of a batch: the value that the last
one to write it shows. -/
def shownAfter (entry : AuthorityEntry) (base : PreviewState)
    (earlier : List StoredProposal) : PreviewState :=
  earlier.foldl
    (fun shown proposal =>
      if proposal.change.Writes entry then proposal.preview.after else shown)
    base

def FindsShown (proposal : StoredProposal) (earlier : List StoredProposal) :
    Prop :=
  ∀ entry : AuthorityEntry, proposal.change.Writes entry →
    entry.SameShown proposal.preview.before proposal.preview.after →
      entry.SameShown (shownAfter entry proposal.preview.before earlier)
        proposal.preview.before

/-- Each proposal of a batch finds what its preview leaves. -/
def EachFindsShown : List StoredProposal → List StoredProposal → Prop
  | _, [] => True
  | earlier, proposal :: rest =>
      proposal.FindsShown earlier ∧ EachFindsShown (earlier ++ [proposal]) rest

theorem shownAfter_append (entry : AuthorityEntry) (base : PreviewState)
    (earlier : List StoredProposal) (proposal : StoredProposal) :
    shownAfter entry base (earlier ++ [proposal]) =
      if proposal.change.Writes entry then proposal.preview.after
      else shownAfter entry base earlier := by
  simp only [shownAfter, List.foldl_append, List.foldl_cons, List.foldl_nil]

variable {proposal : StoredProposal}
  {self : ProposalRuntime MemoryProposalStore}
  {current following : LiveAuthorityState} {earlier : List StoredProposal}

/-- The live state has, in every place, the value last shown. -/
def Accounts (self : ProposalRuntime MemoryProposalStore)
    (earlier : List StoredProposal) (current : LiveAuthorityState) : Prop :=
  ∀ entry : AuthorityEntry,
    entry.SameShown (.ofState current)
      (shownAfter entry (.ofState self.authority) earlier)

theorem Accounts.nil : Accounts self [] self.authority :=
  fun entry => .refl entry _

theorem Accounts.next (accounts : Accounts self earlier current)
    (shown : proposal.ShowsNow self)
    (previewed : self.previewAuthorityChange port current proposal.change =
      .ok following) : Accounts self (earlier ++ [proposal]) following := by
  obtain ⟨_, promised, reviewed, after⟩ := shown
  intro entry
  rw [shownAfter_append]
  split
  · rename_i written
    rw [after, AuthorityEntry.sameShown_ofState_iff]
    exact previewAuthorityChange_written previewed reviewed written
  · rename_i unwritten
    have left := previewAuthorityChange_unwritten previewed unwritten
    exact (AuthorityEntry.sameShown_ofState_iff.mpr left).trans
      (accounts entry)

theorem asShown_iff (accounts : Accounts self earlier current)
    (shown : proposal.ShowsNow self) {record : ChangeRecord}
    (starts : record.previousState = current)
    (previewed : self.previewAuthorityChange port current proposal.change =
      .ok record.resultingState) :
    proposal.AsShown record ↔ proposal.FindsShown earlier := by
  obtain ⟨before, promised, reviewed, after⟩ := shown
  have written : ∀ {entry : AuthorityEntry}, proposal.change.Writes entry →
      entry.SameIn record.resultingState promised :=
    fun writes => previewAuthorityChange_written previewed reviewed writes
  constructor
  · intro asShown entry writes leaves
    have kept := asShown.kept entry leaves
    rw [before, after, AuthorityEntry.sameShown_ofState_iff] at leaves
    rw [starts] at kept
    have same := (kept.trans (written writes)).trans leaves.symm
    rw [before]
    exact (accounts entry).symm.trans
      (AuthorityEntry.sameShown_ofState_iff.mpr same)
  · intro finds
    constructor
    · intro entry changes
      rw [before, after, AuthorityEntry.sameShown_ofState_iff] at changes
      rw [after, AuthorityEntry.sameShown_ofState_iff]
      apply written
      by_contra unwritten
      exact changes (previewAuthorityChange_unwritten reviewed unwritten).symm
    · intro entry leaves
      by_cases writes : proposal.change.Writes entry
      · have found := finds entry writes leaves
        rw [before] at found
        rw [before, after, AuthorityEntry.sameShown_ofState_iff] at leaves
        have same := AuthorityEntry.sameShown_ofState_iff.mp
          ((accounts entry).trans found)
        rw [starts]
        exact (same.trans leaves).trans (written writes).symm
      · rw [starts]
        exact (previewAuthorityChange_unwritten previewed writes).symm

theorem plannedRecords_asShown_iff {clock : Nat → Nat} {index : Nat}
    {batch : List StoredProposal} {records : List ChangeRecord}
    (accounts : Accounts self earlier current)
    (shown : ∀ proposal ∈ batch, proposal.ShowsNow self)
    (planned : self.plannedRecords port clock index current batch =
      .ok (following, records)) :
    List.Forall₂ AsShown batch records ↔ EachFindsShown earlier batch := by
  induction batch generalizing index current earlier records with
  | nil =>
      cases planned
      exact iff_of_true .nil trivial
  | cons proposal rest induction =>
      obtain ⟨_, _, planned⟩ := except_bind_eq_ok_iff.mp planned
      obtain ⟨_, _, planned⟩ := except_bind_eq_ok_iff.mp planned
      obtain ⟨middle, previewed, planned⟩ := except_bind_eq_ok_iff.mp planned
      obtain ⟨⟨last, others⟩, remaining, planned⟩ :=
        except_bind_eq_ok_iff.mp planned
      cases planned
      obtain ⟨first, rests⟩ := List.forall_mem_cons.mp shown
      rw [List.forall₂_cons, EachFindsShown,
        induction (accounts.next first previewed) rests remaining]
      exact and_congr_left' (asShown_iff accounts first rfl previewed)

end StoredProposal

namespace ProposalHistory

variable {hashChange : AuthorityChange → UInt64} {self : ProposalHistory}
  {revision : Nat}

def RecordedAsShown (store : MemoryProposalStore) (proposal : StoredProposal)
    (changeId : String) : Prop :=
  ∃ record, store.changes[changeId]? = some record ∧
    record.proposalId = proposal.id ∧ proposal.AsShown record

theorem showsNow_of_current
    (reached : (system hashChange revision).Reachable self)
    {proposalId : String} {proposal : StoredProposal}
    (stored : self.runtime.proposals.proposals[proposalId]? = some proposal)
    (current : proposal.revision = self.runtime.authority.revision) :
    proposal.ShowsNow self.runtime :=
  (reachable_showsTruly reached proposalId proposal stored).2 current

theorem filed_of_planned
    (reached : (system hashChange revision).Reachable self)
    {clock : Nat → Nat} {reading : Nat} {next : LiveAuthorityState}
    {records : List ChangeRecord} {proposals : MemoryProposalStore}
    (planned : ApplyCall.Planned self.runtime self.runtime.authority next
      records)
    (taken : port.recordAll clock reading records self.runtime.proposals =
      .ok () proposals) :
    ∀ record ∈ records, proposals.changes[record.changeId]? = some record := by
  obtain ⟨initial, earlier, journal⟩ := reachable_journal reached
  have continued := journal.applies planned taken
  intro record member
  exact (continued.filed _ _).mpr ⟨List.mem_append_right _ member, rfl⟩

theorem plannedRecords_current {runtime : ProposalRuntime MemoryProposalStore}
    {clock : Nat → Nat} {index : Nat} {current next : LiveAuthorityState}
    {batch : List StoredProposal} {records : List ChangeRecord}
    (planned : runtime.plannedRecords port clock index current batch =
      .ok (next, records)) :
    ∀ proposal ∈ batch, proposal.revision = runtime.authority.revision := by
  induction batch generalizing index current next records with
  | nil => exact fun _ member => by cases member
  | cons proposal rest induction =>
      obtain ⟨_, _, planned⟩ := except_bind_eq_ok_iff.mp planned
      obtain ⟨_, current, planned⟩ := except_bind_eq_ok_iff.mp planned
      obtain ⟨_, _, planned⟩ := except_bind_eq_ok_iff.mp planned
      obtain ⟨⟨_, _⟩, remaining, _⟩ := except_bind_eq_ok_iff.mp planned
      have first : proposal.revision = runtime.authority.revision := by
        simpa using refuseIf_eq_ok_iff.mp current
      exact List.forall_mem_cons.mpr ⟨first, induction remaining⟩

theorem forall₂_recorded_iff {store : MemoryProposalStore}
    {batch : List StoredProposal} {records : List ChangeRecord}
    (filed : ∀ record ∈ records,
      store.changes[record.changeId]? = some record)
    (sameIds : records.map ChangeRecord.proposalId =
      batch.map StoredProposal.id) :
    List.Forall₂ (fun proposal record =>
        RecordedAsShown store proposal record.changeId) batch records ↔
      List.Forall₂ StoredProposal.AsShown batch records := by
  induction records generalizing batch with
  | nil =>
      have none : batch = [] := List.map_eq_nil_iff.mp sameIds.symm
      rw [none]
      exact iff_of_true .nil .nil
  | cons record records induction =>
      cases batch with
      | nil => cases sameIds
      | cons proposal batch =>
          obtain ⟨sameId, sameIds⟩ := List.cons.inj sameIds
          obtain ⟨first, others⟩ := List.forall_mem_cons.mp filed
          rw [List.forall₂_cons, List.forall₂_cons, induction others sameIds]
          apply and_congr_left'
          constructor
          · rintro ⟨found, stored, _, shown⟩
            obtain rfl := Option.some.inj (first.symm.trans stored)
            exact shown
          · exact fun shown => ⟨record, first, sameId, shown⟩

/-- A batch that went through makes every record as it was shown exactly if
each proposal finds what its preview leaves. -/
theorem batch_recorded_iff
    (reached : (system hashChange revision).Reachable self)
    {clock : Nat → Nat} {proposalIds : List String}
    {outcomes : List (String × String × Nat)}
    {after : ProposalRuntime MemoryProposalStore}
    (applied : ProposalRuntime.applyApprovedStoredProposals port clock
      proposalIds self.runtime = .ok outcomes after) :
    ∃ batch, proposalIds.mapM
          (port.retrieveProposal self.runtime.proposals) = .ok batch ∧
      (List.Forall₂ (fun proposal outcome =>
          RecordedAsShown after.proposals proposal outcome.2.1) batch outcomes ↔
        StoredProposal.EachFindsShown [] batch) := by
  unfold ProposalRuntime.applyApprovedStoredProposals at applied
  by_cases empty : proposalIds.isEmpty = true
  · rw [if_pos empty] at applied
    cases applied
    rw [List.isEmpty_iff.mp empty]
    exact ⟨[], rfl, iff_of_true .nil trivial⟩
  · rw [if_neg empty, inspect_bind] at applied
    cases planned : self.runtime.plannedBatch port clock proposalIds with
    | error message =>
        rw [planned] at applied
        cases applied
    | ok pair =>
        obtain ⟨next, records⟩ := pair
        rw [planned] at applied
        dsimp only at applied
        rw [assign_bind, ProposalRuntime.onStore, onPart_bind] at applied
        have sameStore : (self.runtime.changeAuthority next).proposals =
            self.runtime.proposals :=
          rfl
        rw [sameStore] at applied
        cases taken : port.recordAll clock (2 * proposalIds.length) records
          self.runtime.proposals with
        | error message proposals =>
            rw [taken] at applied
            cases applied
        | ok _ proposals =>
            rw [taken] at applied
            cases applied
            obtain ⟨batch, retrieved, planned⟩ :=
              except_bind_eq_ok_iff.mp planned
            obtain ⟨_, _, planned⟩ := except_bind_eq_ok_iff.mp planned
            have keyed := (reachable_tracked reached).marks.keyed
            have present := (ApplyCall.retrieved_ids keyed retrieved).2
            have filed := filed_of_planned reached
              (ApplyCall.plannedRecords_planned planned) taken
            have shown : ∀ proposal ∈ batch,
                proposal.ShowsNow self.runtime :=
              fun proposal member => showsNow_of_current reached
                (present proposal member)
                (plannedRecords_current planned proposal member)
            refine ⟨batch, retrieved, ?_⟩
            rw [List.forall₂_map_right_iff]
            exact (forall₂_recorded_iff filed
              (ApplyCall.plannedRecords_ids planned)).trans
                (StoredProposal.plannedRecords_asShown_iff .nil shown planned)

theorem approved_recorded
    (reached : (system hashChange revision).Reachable self)
    {clock : Nat → Nat} {proposalId : String} {outcome : String × Nat}
    {after : ProposalRuntime MemoryProposalStore}
    (applied : ProposalRuntime.applyApprovedStoredProposal port hashChange
      clock proposalId self.runtime = .ok outcome after) :
    ∃ proposal, port.retrieveProposal self.runtime.proposals proposalId =
          .ok proposal ∧
      RecordedAsShown after.proposals proposal outcome.1 := by
  obtain ⟨stored, _, read, applied⟩ := bind_eq_ok_iff.mp applied
  obtain ⟨found, rfl⟩ := inspect_eq_ok_iff.mp read
  obtain ⟨proposal, _, read, applied⟩ := bind_eq_ok_iff.mp applied
  obtain ⟨applicable, rfl⟩ := inspect_eq_ok_iff.mp read
  obtain ⟨changeId, live, changed, applied⟩ := bind_eq_ok_iff.mp applied
  cases applied
  have there := ApplyCall.retrieveProposal_eq_ok_iff.mp found
  obtain ⟨held, foundHeld, applicable⟩ := except_bind_eq_ok_iff.mp applicable
  obtain rfl := Except.ok.inj (found.symm.trans foundHeld)
  obtain ⟨_, _, applicable⟩ := except_bind_eq_ok_iff.mp applicable
  obtain ⟨_, _, applicable⟩ := except_bind_eq_ok_iff.mp applicable
  cases applicable
  cases planned : self.runtime.plannedChange port hashChange clock
      stored.toProposal (.forProposal hashChange stored.toProposal) with
  | error message =>
      rw [ApplyCall.applyChange_of_refused planned] at changed
      cases changed
  | ok record =>
      rw [ApplyCall.applyChange_of_planned planned] at changed
      cases taken : port.recordAll clock 1 [record] self.runtime.proposals with
      | error message proposals =>
          rw [taken] at changed
          cases changed
      | ok _ proposals =>
          rw [taken] at changed
          cases changed
          have filed := filed_of_planned reached
            (ApplyCall.plannedChange_planned planned) taken
          obtain ⟨_, _, planned⟩ := except_bind_eq_ok_iff.mp planned
          obtain ⟨_, current, planned⟩ := except_bind_eq_ok_iff.mp planned
          obtain ⟨next, previewed, planned⟩ :=
            except_bind_eq_ok_iff.mp planned
          cases planned
          have isCurrent : stored.toProposal.revision =
              self.runtime.authority.revision := by
            simpa using refuseIf_eq_ok_iff.mp current
          have previewed : self.runtime.previewAuthorityChange port
              self.runtime.authority stored.change = .ok next :=
            previewed
          have shown := showsNow_of_current reached there isCurrent
          refine ⟨stored, found, _, filed _ (List.mem_singleton.mpr rfl), rfl,
            ?_⟩
          apply (StoredProposal.asShown_iff .nil shown rfl previewed).mpr
          exact fun entry _ _ => .refl entry _

/-- Whatever was applied has the effect that it showed: alone always, and in a
batch exactly if each proposal finds what its preview leaves. -/
theorem appliesAsShown_iff
    (reached : (system hashChange revision).Reachable self)
    (clock : Nat → Nat) :
    (∀ proposalId outcome after,
      ProposalRuntime.applyApprovedStoredProposal port hashChange clock
          proposalId self.runtime = .ok outcome after →
        ∃ proposal, port.retrieveProposal self.runtime.proposals proposalId =
              .ok proposal ∧
          RecordedAsShown after.proposals proposal outcome.1) ∧
      ∀ proposalIds outcomes after,
        ProposalRuntime.applyApprovedStoredProposals port clock proposalIds
            self.runtime = .ok outcomes after →
          ∃ batch, proposalIds.mapM
                (port.retrieveProposal self.runtime.proposals) = .ok batch ∧
            (List.Forall₂ (fun proposal outcome =>
                RecordedAsShown after.proposals proposal outcome.2.1)
                batch outcomes ↔
              StoredProposal.EachFindsShown [] batch) :=
  ⟨fun _ _ _ => approved_recorded reached,
    fun _ _ _ => batch_recorded_iff reached⟩

/-! ## A preview that shows no change -/

theorem reachable_pending
    (reached : (system hashChange revision).Reachable self)
    {change : AuthorityChange} {next : LiveAuthorityState}
    (unused : self.runtime.proposals.proposals[
      self.runtime.nextProposalId]? = none)
    (previewed : self.runtime.previewAuthorityChange port
      self.runtime.authority change = .ok next) (clock : Nat → Nat) :
    (system hashChange revision).Reachable
      { self with runtime := self.runtime.withPending clock change next } := by
  have stepped := reachable_perform reached
    ⟨clock, .propose change .explicit 0⟩
  have proposed := @ProposalRuntime.proposeChange_eq_ok _ clock _ _ unused
    previewed
  rw [ProposalRuntime.proposeChange] at proposed
  simp only [perform, proposed, finalState_ok] at stepped
  exact stepped

theorem reachable_approved
    (reached : (system hashChange revision).Reachable self)
    {proposalId : String} {proposal : StoredProposal}
    {next : LiveAuthorityState}
    (stored : self.runtime.proposals.proposals[proposalId]? = some proposal)
    (pending : proposal.status = .pending)
    (current : self.runtime.IsCurrent proposal)
    (previewed : self.runtime.previewAuthorityChange port
      self.runtime.authority proposal.change = .ok next) :
    (system hashChange revision).Reachable
      { self with
        runtime := self.runtime.withApproved proposalId proposal } := by
  have stepped := reachable_perform reached
    ⟨fun _ => 0, .approve proposalId⟩
  have approved := ProposalRuntime.approveStoredProposal_eq_ok stored pending
    current previewed
  simp only [perform, approved, finalState_ok] at stepped
  exact stepped

theorem batch_eq_ok (reached : (system hashChange revision).Reachable self)
    {clock : Nat → Nat} {proposalIds : List String}
    {next : LiveAuthorityState} {records : List ChangeRecord}
    (nonempty : proposalIds ≠ [])
    (planned : (ApplyCall.batch proposalIds).plan port hashChange clock
      self.runtime = .ok (next, records)) :
    ∃ outcomes after, ProposalRuntime.applyApprovedStoredProposals port clock
      proposalIds self.runtime = .ok outcomes after := by
  obtain ⟨proposals, taken, _⟩ := perform_planned
    (reachable_tracked reached).marks
    (show (ApplyCall.batch proposalIds).FromStore from trivial) planned
  have some : ¬proposalIds.isEmpty = true :=
    fun empty => nonempty (List.isEmpty_iff.mp empty)
  rw [ApplyCall.plan, if_neg some] at planned
  have sameStore : (self.runtime.changeAuthority next).proposals =
      self.runtime.proposals :=
    rfl
  refine ⟨records.map fun record =>
      (record.proposalId, record.changeId, record.resultingState.revision),
    (self.runtime.changeAuthority next).changeProposals proposals, ?_⟩
  unfold ProposalRuntime.applyApprovedStoredProposals
  rw [if_neg some, inspect_bind, planned]
  dsimp only
  rw [assign_bind, ProposalRuntime.onStore, onPart_bind, sameStore]
  rw [ApplyCall.readings] at taken
  rw [taken]
  rfl

section Example

def protectAdmin : AuthorityChange := .protectRoute .get "/admin" "admin"

def unprotectAdmin : AuthorityChange := .unprotectRoute .get "/admin"

def adminProtected : LiveAuthorityState :=
  { LiveAuthorityState.new with
    routeProtection := (∅ : KeyedMap RouteId RouteProtection).insert
      { method := .get, path := "/admin" } { capability := some "admin" }
    revision := 1 }

/-- Nothing is protected, so there is nothing to remove. -/
def adminUnprotected (current : LiveAuthorityState) : LiveAuthorityState :=
  { current with
    routeProtection :=
      current.routeProtection.erase { method := .get, path := "/admin" }
    revision := current.revision + 1 }

def protectPending : ProposalRuntime MemoryProposalStore :=
  quietRuntime.withPending (fun _ => 0) protectAdmin adminProtected

def protectProposal : StoredProposal :=
  quietRuntime.pendingProposal (fun _ => 0) protectAdmin adminProtected

def bothPending : ProposalRuntime MemoryProposalStore :=
  protectPending.withPending (fun _ => 0) unprotectAdmin
    (adminUnprotected .new)

def unprotectProposal : StoredProposal :=
  protectPending.pendingProposal (fun _ => 0) unprotectAdmin
    (adminUnprotected .new)

/-- Both proposals are made and approved in the fresh state. -/
def bothApproved : ProposalRuntime MemoryProposalStore :=
  (bothPending.withApproved "proposal-1" protectProposal).withApproved
    "proposal-2" unprotectProposal

def approvedHistory : ProposalHistory :=
  { runtime := bothApproved, applied := [] }

theorem previewed_protect (runtime : ProposalRuntime MemoryProposalStore) :
    runtime.previewAuthorityChange port .new protectAdmin =
      .ok adminProtected :=
  rfl

theorem previewed_unprotect (runtime : ProposalRuntime MemoryProposalStore)
    (current : LiveAuthorityState) :
    runtime.previewAuthorityChange port current unprotectAdmin =
      .ok (adminUnprotected current) :=
  rfl

theorem bothPending_protect :
    bothPending.proposals.proposals["proposal-1"]? = some protectProposal := by
  have different : protectPending.nextProposalId ≠ "proposal-1" := by
    decide
  exact (KeyedMap.getElem?_insert_of_ne _ _ different).trans
    Std.ExtTreeMap.getElem?_insert_self

theorem bothPending_unprotect :
    (bothPending.withApproved "proposal-1"
        protectProposal).proposals.proposals["proposal-2"]? =
      some unprotectProposal := by
  have different : "proposal-1" ≠ "proposal-2" := by
    decide
  exact (KeyedMap.getElem?_insert_of_ne _ _ different).trans
    Std.ExtTreeMap.getElem?_insert_self

theorem protectProposal_isCurrent :
    bothPending.IsCurrent protectProposal :=
  ⟨rfl, rfl⟩

theorem unprotectProposal_isCurrent :
    (bothPending.withApproved "proposal-1" protectProposal).IsCurrent
      unprotectProposal :=
  ⟨rfl, rfl⟩

theorem approvedHistory_reachable :
    (system (fun _ => 0) 0).Reachable approvedHistory := by
  have start : (system (fun _ => 0) 0).Reachable quietHistory :=
    .start quietHistory_fresh
  have first := reachable_pending start rfl
    (previewed_protect quietRuntime) (fun _ => 0)
  have unused : protectPending.proposals.proposals[
      protectPending.nextProposalId]? = none := by
    exact KeyedMap.getElem?_insert_of_ne _ _ (by decide)
  have second := reachable_pending first unused
    (previewed_unprotect protectPending .new) (fun _ => 0)
  have third := reachable_approved second bothPending_protect rfl
    protectProposal_isCurrent (previewed_protect bothPending)
  exact reachable_approved third bothPending_unprotect rfl
    unprotectProposal_isCurrent (previewed_unprotect _ .new)

theorem bothApproved_protect :
    bothApproved.proposals.proposals["proposal-1"]? =
      some { protectProposal with status := .approved } := by
  have different : "proposal-2" ≠ "proposal-1" := by
    decide
  exact (KeyedMap.getElem?_insert_of_ne _ _ different).trans
    Std.ExtTreeMap.getElem?_insert_self

theorem bothApproved_unprotect :
    bothApproved.proposals.proposals["proposal-2"]? =
      some { unprotectProposal with status := .approved } :=
  Std.ExtTreeMap.getElem?_insert_self

theorem unprotectProposal_not_findsShown :
    ¬StoredProposal.EachFindsShown []
      [{ protectProposal with status := .approved },
        { unprotectProposal with status := .approved }] := by
  rintro ⟨_, finds, _⟩
  let admin : RouteId := { method := .get, path := "/admin" }
  have unshown : (AuthorityEntry.route admin).SameShown (.ofState .new)
      (.ofState (adminUnprotected .new)) :=
    ((getElem?_erase_route _ admin admin).trans (if_pos rfl)).symm
  have found := finds (.route admin) rfl unshown
  rw [StoredProposal.shownAfter_append] at found
  have protection : adminProtected.routeProtection[admin]? =
      some { capability := some "admin" } :=
    Std.ExtTreeMap.getElem?_insert_self
  have absent : adminProtected.routeProtection[admin]? = none := found
  rw [protection] at absent
  cases absent

theorem appliesAsShown_iff_approved :
    (∀ proposalId outcome after,
      ProposalRuntime.applyApprovedStoredProposal port (fun _ => 0)
          (fun _ => 0) proposalId bothApproved = .ok outcome after →
        ∃ proposal, port.retrieveProposal bothApproved.proposals proposalId =
              .ok proposal ∧
          RecordedAsShown after.proposals proposal outcome.1) ∧
      ∀ proposalIds outcomes after,
        ProposalRuntime.applyApprovedStoredProposals port (fun _ => 0)
            proposalIds bothApproved = .ok outcomes after →
          ∃ batch, proposalIds.mapM
                (port.retrieveProposal bothApproved.proposals) = .ok batch ∧
            (List.Forall₂ (fun proposal outcome =>
                RecordedAsShown after.proposals proposal outcome.2.1)
                batch outcomes ↔
              StoredProposal.EachFindsShown [] batch) :=
  appliesAsShown_iff approvedHistory_reachable fun _ => 0

/-- The batch protects the route and takes the protection away again, which no
preview shows. -/
theorem hiddenRemoval_not_asShown :
    (system (fun _ => 0) 0).Reachable approvedHistory ∧
      ∃ outcomes after batch,
        ProposalRuntime.applyApprovedStoredProposals port (fun _ => 0)
            ["proposal-1", "proposal-2"] approvedHistory.runtime =
          .ok outcomes after ∧
        ["proposal-1", "proposal-2"].mapM
            (port.retrieveProposal approvedHistory.runtime.proposals) =
          .ok batch ∧
        ¬List.Forall₂ (fun proposal outcome =>
            RecordedAsShown after.proposals proposal outcome.2.1)
          batch outcomes := by
  refine ⟨approvedHistory_reachable, ?_⟩
  have first := ApplyCall.retrieveProposal_eq_ok_iff.mpr bothApproved_protect
  have second :=
    ApplyCall.retrieveProposal_eq_ok_iff.mpr bothApproved_unprotect
  obtain ⟨records, planned⟩ := @ProposalRuntime.plan_pair bothApproved _ _
    (fun _ => 0) (fun _ => 0) _ _ _ _ bothApproved_protect
    bothApproved_unprotect rfl rfl ⟨rfl, rfl⟩ ⟨rfl, rfl⟩
    (previewed_protect bothApproved) (previewed_unprotect _ adminProtected)
  obtain ⟨outcomes, after, applied⟩ := batch_eq_ok approvedHistory_reachable
    (by simp) planned
  obtain ⟨batch, retrieved, asShown_iff⟩ :=
    batch_recorded_iff approvedHistory_reachable applied
  refine ⟨outcomes, after, batch, applied, retrieved, ?_⟩
  have read : ["proposal-1", "proposal-2"].mapM
      (port.retrieveProposal approvedHistory.runtime.proposals) =
        .ok [{ protectProposal with status := .approved },
          { unprotectProposal with status := .approved }] := by
    change ["proposal-1", "proposal-2"].mapM
      (port.retrieveProposal bothApproved.proposals) = _
    simp only [List.mapM_cons, List.mapM_nil, first, second]
    rfl
  rw [asShown_iff]
  obtain rfl := Except.ok.inj (read.symm.trans retrieved)
  exact unprotectProposal_not_findsShown

end Example

end ProposalHistory

end AuthBoundry
