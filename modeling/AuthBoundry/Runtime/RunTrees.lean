import AuthBoundry.Library.Forest
import AuthBoundry.Runtime.Records
import AuthBoundry.Runtime.RunAuthority

/-!
# The tree of runs

A run is created under a delegation and possibly under a parent run, and is
contained in both.  Delegations and runs are never removed, and what later
calls change about them (a revocation, a cancellation) is not what containment
is about, so that it holds in every state and, along the parent links, up to
the first run.
-/

namespace AuthBoundry

open Library
open Library.Stateful

/-- The run asks for no more than the delegation it was created under. -/
structure AgentRun.Attenuates (run : AgentRun) (delegation : Delegation) :
    Prop where
  sameId : delegation.id = run.delegationId
  sameTenant : delegation.tenantId = run.tenantId
  addressed : delegation.delegate = run.agentPrincipal
  capabilities : ∀ capability ∈ run.capabilityScope,
    capability ∈ delegation.capabilities
  scope : run.resourceScope.isSubsetOf delegation.resourceScope = true
  expiry : ∀ expiresAt, delegation.expiresAt = some expiresAt →
    run.expiresAt ≤ expiresAt
  chain : run.delegationChain = delegation.chain ++ [delegation.id]

/-- The run asks for no more than another run of its tenant. -/
structure AgentRun.Within (run parent : AgentRun) : Prop where
  sameTenant : parent.tenantId = run.tenantId
  capabilities : ∀ capability ∈ run.capabilityScope,
    capability ∈ parent.capabilityScope
  scope : run.resourceScope.isSubsetOf parent.resourceScope = true
  expiry : run.expiresAt ≤ parent.expiresAt

theorem AgentRun.within_refl (run : AgentRun) : run.Within run where
  sameTenant := rfl
  capabilities _ member := member
  scope := ResourceScope.isSubsetOf_refl run.resourceScope
  expiry := le_refl run.expiresAt

theorem AgentRun.within_trans (lower middle upper : AgentRun)
    (below : lower.Within middle) (above : middle.Within upper) :
    lower.Within upper where
  sameTenant := above.sameTenant.trans below.sameTenant
  capabilities capability member :=
    above.capabilities capability (below.capabilities capability member)
  scope := ResourceScope.isSubsetOf_trans below.scope above.scope
  expiry := le_trans below.expiry above.expiry

namespace AuthMesh

theorem firstMissing_eq_none_iff {requested available : List Capability} :
    firstMissing requested available = none ↔
      ∀ capability ∈ requested, capability ∈ available := by
  simp [firstMissing, List.find?_eq_none]

section Checks

variable {self : AuthMesh} {tenant : TenantContext} {agentId : PrincipalId}
  {request : RunCreationRequest} {now : Int}

theorem runDelegation_ok {delegation : Delegation}
    (found : self.runDelegation tenant agentId request now = .ok delegation) :
    self.delegationMap[request.delegationId]? = some delegation ∧
      delegation.tenantId = tenant.tenantId ∧
      delegation.delegate = agentId ∧
      delegation.isValidAt now = true ∧
      ∀ expiresAt, delegation.expiresAt = some expiresAt →
        request.expiresAt ≤ expiresAt := by
  unfold runDelegation at found
  split at found
  · cases found
  · cases found
  · rename_i listed stored
    obtain ⟨_, owned, found⟩ := except_bind_eq_ok_iff.mp found
    obtain ⟨_, _, found⟩ := except_bind_eq_ok_iff.mp found
    obtain ⟨_, valid, found⟩ := except_bind_eq_ok_iff.mp found
    obtain ⟨_, within, found⟩ := except_bind_eq_ok_iff.mp found
    cases found
    rw [refuseIf_eq_ok_iff] at owned valid within
    simp only [Bool.or_eq_false_iff, bne_eq_false_iff_eq] at owned
    have record := getScoped_eq_some_iff.mp stored
    refine ⟨record.1, owned.2, owned.1, by simpa using valid, ?_⟩
    intro expiresAt expires
    simpa [expires] using within

theorem checkRunScope_ok {delegation : Delegation} {result : Unit}
    (checked : checkRunScope tenant delegation request = .ok result) :
    (∀ capability ∈ request.capabilities,
        capability ∈ delegation.capabilities) ∧
      request.resourceScope.isSubsetOf delegation.resourceScope = true := by
  unfold checkRunScope at checked
  split at checked
  · cases checked
  · rename_i covered
    obtain ⟨_, _, checked⟩ := except_bind_eq_ok_iff.mp checked
    rw [refuseIf_eq_ok_iff] at checked
    exact ⟨firstMissing_eq_none_iff.mp covered, by simpa using checked⟩

theorem checkParentRun_ok {result : Unit}
    (checked : self.checkParentRun tenant request now = .ok result) :
    ∀ parentId, request.parentRunId = some parentId →
      ∃ parent, self.runMap[parentId]? = some parent ∧
        parent.tenantId = tenant.tenantId ∧
        (∀ capability ∈ request.capabilities,
          capability ∈ parent.capabilityScope) ∧
        request.resourceScope.isSubsetOf parent.resourceScope = true ∧
        request.expiresAt ≤ parent.expiresAt := by
  intro parentId named
  unfold checkParentRun at checked
  rw [named] at checked
  dsimp only at checked
  split at checked
  · cases checked
  · rename_i parent found
    obtain ⟨stored, inTenant, _, _⟩ := checkedRun_eq_ok_iff.mp found
    split at checked
    · cases checked
    · rename_i covered
      rw [refuseIf_eq_ok_iff, Bool.or_eq_false_iff] at checked
      obtain ⟨scope, expiry⟩ := checked
      exact ⟨parent, stored, inTenant, firstMissing_eq_none_iff.mp covered,
        by simpa using scope, by simpa using expiry⟩

end Checks

/-- Everything a created run was checked for. -/
structure RunGrounds (mesh : AuthMesh) (tenantId : String)
    (tenant : TenantContext) (agentId : PrincipalId)
    (request : RunCreationRequest) (now : Int) (run : AgentRun)
    (agent : Principal) (delegation : Delegation) : Prop where
  tenantFound : mesh.tenant tenantId = .ok tenant
  agentStored : mesh.principal tenant agentId = .ok agent
  isAgent : agent.kind = .agent
  usable : assertPrincipalIsUsable agent = .ok ()
  unexpired : now < request.expiresAt
  delegationFound : mesh.runDelegation tenant agentId request now =
    .ok delegation
  inScope : checkRunScope tenant delegation request = .ok ()
  inParent : mesh.checkParentRun tenant request now = .ok ()
  created : ∃ credential authorityRevision contractFingerprint,
    run = createdRun tenant agentId request delegation
      (mesh.chosenRunId tenant request.id) credential now authorityRevision
      contractFingerprint

theorem createRunGrounds_ok {self : AuthMesh} {tenantId : String}
    {agentId : PrincipalId} {request : RunCreationRequest} {now : Int}
    {authorityRevision : Nat} {contractFingerprint : String}
    {tenant : TenantContext} {run : AgentRun}
    (granted : self.createRunGrounds tenantId agentId request now
      authorityRevision contractFingerprint = .ok (tenant, run)) :
    ∃ agent delegation, RunGrounds self tenantId tenant agentId request now
      run agent delegation := by
  obtain ⟨found, tenantFound, granted⟩ := except_bind_eq_ok_iff.mp granted
  obtain ⟨delegation, checked, granted⟩ := except_bind_eq_ok_iff.mp granted
  cases granted
  obtain ⟨_, _, checked⟩ := except_bind_eq_ok_iff.mp checked
  obtain ⟨_, unexpired, checked⟩ := except_bind_eq_ok_iff.mp checked
  obtain ⟨agent, agentStored, checked⟩ := except_bind_eq_ok_iff.mp checked
  obtain ⟨_, isAgent, checked⟩ := except_bind_eq_ok_iff.mp checked
  obtain ⟨_, usable, checked⟩ := except_bind_eq_ok_iff.mp checked
  obtain ⟨_, delegationFound, checked⟩ := except_bind_eq_ok_iff.mp checked
  obtain ⟨_, inScope, checked⟩ := except_bind_eq_ok_iff.mp checked
  obtain ⟨_, inParent, checked⟩ := except_bind_eq_ok_iff.mp checked
  cases checked
  rw [refuseIf_eq_ok_iff] at unexpired isAgent
  exact ⟨agent, delegation,
    { tenantFound
      agentStored
      isAgent := by simpa using isAgent
      usable
      unexpired := by simpa using unexpired
      delegationFound
      inScope
      inParent
      created := ⟨_, _, _, rfl⟩ }⟩

/-! ## What persists -/

/-- Nothing about a delegation changes but its revocation. -/
def SameDelegation (old new : Delegation) : Prop :=
  ∃ revokedAt, new = { old with revokedAt }

/-- Nothing about a run changes but its status. -/
def SameRun (old new : AgentRun) : Prop :=
  ∃ status cancelledAt, new = { old with status, cancelledAt }

theorem sameDelegation_refl (delegation : Delegation) :
    SameDelegation delegation delegation :=
  ⟨delegation.revokedAt, rfl⟩

theorem sameRun_refl (run : AgentRun) : SameRun run run :=
  ⟨run.status, run.cancelledAt, rfl⟩

theorem attenuates_of_same {run newRun : AgentRun}
    {delegation newDelegation : Delegation}
    (attenuates : run.Attenuates delegation) (sameRun : SameRun run newRun)
    (same : SameDelegation delegation newDelegation) :
    newRun.Attenuates newDelegation := by
  obtain ⟨_, _, rfl⟩ := sameRun
  obtain ⟨_, rfl⟩ := same
  exact
    { sameId := attenuates.sameId
      sameTenant := attenuates.sameTenant
      addressed := attenuates.addressed
      capabilities := attenuates.capabilities
      scope := attenuates.scope
      expiry := attenuates.expiry
      chain := attenuates.chain }

theorem within_of_same {run newRun parent newParent : AgentRun}
    (within : run.Within parent) (sameRun : SameRun run newRun)
    (sameParent : SameRun parent newParent) : newRun.Within newParent := by
  obtain ⟨_, _, rfl⟩ := sameRun
  obtain ⟨_, _, rfl⟩ := sameParent
  exact
    { sameTenant := within.sameTenant
      capabilities := within.capabilities
      scope := within.scope
      expiry := within.expiry }

variable {self : AuthMesh} {call : MeshCall} {after : Records}

theorem delegateGrounds_ok {environment : Environment} {tenantId : String}
    {request : DelegationRequest} {now : Int} {tenant : TenantContext}
    {delegation : Delegation}
    (granted : self.delegateGrounds environment tenantId request now =
      .ok (tenant, delegation)) :
    self.tenant tenantId = .ok tenant ∧
      self.checkedDelegation environment tenant request now =
        .ok delegation ∧
      self.delegationMap[delegation.id]? = none := by
  obtain ⟨found, tenantFound, granted⟩ := except_bind_eq_ok_iff.mp granted
  obtain ⟨checked, prepared, granted⟩ := except_bind_eq_ok_iff.mp granted
  obtain ⟨pair, written, granted⟩ := except_bind_eq_ok_iff.mp granted
  cases granted
  obtain ⟨created, delegations⟩ := pair
  obtain ⟨rfl, fresh, _, _⟩ := MemoryDelegationStore.createDelegation_ok
    (except_mapError_eq_ok_iff.mp written)
  exact ⟨tenantFound, prepared, fresh⟩

theorem delegations_persist (self : AuthMesh) (call : MeshCall) :
    KeyedMap.Persists SameDelegation self.delegationMap
      (self.perform call).delegationMap := by
  have change := perform_delegationMap self call
  generalize (self.perform call).delegationMap = after at change
  cases change with
  | unchanged =>
      exact KeyedMap.Persists.refl sameDelegation_refl self.delegationMap
  | created _ _ _ delegation _ _ _ fresh =>
      apply KeyedMap.Persists.insert sameDelegation_refl
      intro old stored
      rw [fresh] at stored
      cases stored
  | revoked _ delegationId _ delegation _ _ stored =>
      apply KeyedMap.Persists.insert sameDelegation_refl
      intro old oldStored
      rw [stored] at oldStored
      cases oldStored
      exact ⟨_, rfl⟩

theorem run_origin (keyed : KeyedMap.KeyedBy AgentRun.id self.runMap)
    (change : RecordsChange self call after) {key : RunId} {run : AgentRun}
    (stored : after.runs.runs[key]? = some run) :
    (∃ old, self.runMap[key]? = some old ∧ SameRun old run) ∨
      (self.runMap[key]? = none ∧ run.id = key ∧
        ∃ tenantId tenant agentId request agent delegation,
          RunGrounds self tenantId tenant agentId request call.now run agent
            delegation) := by
  have unchanged : self.runMap[key]? = some run →
      ∃ old, self.runMap[key]? = some old ∧ SameRun old run :=
    fun same => ⟨run, same, sameRun_refl run⟩
  have runs := change.runs
  generalize after.runs.runs = written at runs stored
  cases runs with
  | unchanged => exact Or.inl (unchanged stored)
  | created tenantId agentId request _ _ tenant created _ grounds fresh =>
      rw [KeyedMap.getElem?_insert_eq] at stored
      split at stored
      · rename_i same
        cases stored
        obtain ⟨agent, delegation, checked⟩ := createRunGrounds_ok grounds
        subst same
        exact Or.inr ⟨fresh, rfl, tenantId, tenant, agentId, request, agent,
          delegation, checked⟩
      · exact Or.inl (unchanged stored)
  | cancelled _ runId _ cancelled _ _ found =>
      have sameKey : cancelled.id = runId := keyed runId cancelled found
      rw [KeyedMap.getElem?_insert_eq] at stored
      split at stored
      · rename_i same
        have foundAt : self.runMap[key]? = some cancelled := by
          rw [← same, sameKey]
          exact found
        cases stored
        exact Or.inl ⟨cancelled, foundAt, _, _, rfl⟩
      · exact Or.inl (unchanged stored)

theorem runs_persist (keyed : KeyedMap.KeyedBy AgentRun.id self.runMap)
    (change : RecordsChange self call after) :
    KeyedMap.Persists SameRun self.runMap after.runs.runs := by
  have runs := change.runs
  generalize after.runs.runs = written at runs
  cases runs with
  | unchanged => exact KeyedMap.Persists.refl sameRun_refl self.runMap
  | created _ _ _ _ _ _ created _ _ fresh =>
      apply KeyedMap.Persists.insert sameRun_refl
      intro old stored
      rw [show self.runMap[created.id]? = none from fresh] at stored
      cases stored
  | cancelled _ runId _ cancelled _ _ found =>
      have sameKey : cancelled.id = runId := keyed runId cancelled found
      apply KeyedMap.Persists.insert sameRun_refl
      intro old stored
      rw [show self.runMap[cancelled.id]? = some cancelled by
        rw [sameKey]; exact found] at stored
      cases stored
      exact ⟨_, _, rfl⟩

/-! ## Soundness of the stored runs -/

def UnderDelegation (delegations : KeyedMap DelegationId Delegation)
    (run : AgentRun) : Prop :=
  ∃ delegation, delegations[run.delegationId]? = some delegation ∧
    run.Attenuates delegation

def UnderParent (runs : KeyedMap RunId AgentRun) (run : AgentRun) : Prop :=
  ∀ parentId, run.parentRunId = some parentId →
    ∃ parent, runs[parentId]? = some parent ∧ run.Within parent

/-- What holds of the stored runs in every state. -/
structure RunsSound (delegations : KeyedMap DelegationId Delegation)
    (runs : KeyedMap RunId AgentRun) : Prop where
  keyed : KeyedMap.KeyedBy AgentRun.id runs
  underDelegation : ∀ (key : RunId) run, runs[key]? = some run →
    UnderDelegation delegations run
  underParent : ∀ (key : RunId) run, runs[key]? = some run →
    UnderParent runs run
  grown : Forest.Grown AgentRun.parentRunId runs

theorem underDelegation_of_persists
    {delegations newDelegations : KeyedMap DelegationId Delegation}
    {run newRun : AgentRun} (sameRun : SameRun run newRun)
    (persists : KeyedMap.Persists SameDelegation delegations newDelegations)
    (under : UnderDelegation delegations run) :
    UnderDelegation newDelegations newRun := by
  obtain ⟨delegation, stored, attenuates⟩ := under
  obtain ⟨newDelegation, newStored, same⟩ :=
    persists run.delegationId delegation stored
  have sameId : newRun.delegationId = run.delegationId := by
    obtain ⟨_, _, rfl⟩ := sameRun
    rfl
  refine ⟨newDelegation, ?_, attenuates_of_same attenuates sameRun same⟩
  rw [sameId]
  exact newStored

theorem underParent_of_persists {runs newRuns : KeyedMap RunId AgentRun}
    {run newRun : AgentRun} (sameRun : SameRun run newRun)
    (persists : KeyedMap.Persists SameRun runs newRuns)
    (under : UnderParent runs run) : UnderParent newRuns newRun := by
  intro parentId named
  have sameParent : newRun.parentRunId = run.parentRunId := by
    obtain ⟨_, _, rfl⟩ := sameRun
    rfl
  rw [sameParent] at named
  obtain ⟨parent, stored, within⟩ := under parentId named
  obtain ⟨newParent, newStored, same⟩ := persists parentId parent stored
  exact ⟨newParent, newStored, within_of_same within sameRun same⟩

theorem RunGrounds.contained {tenantId : String} {tenant : TenantContext}
    {agentId : PrincipalId} {request : RunCreationRequest} {now : Int}
    {run : AgentRun} {agent : Principal} {delegation : Delegation}
    (keyed : KeyedMap.KeyedBy Delegation.id self.delegationMap)
    (grounds : RunGrounds self tenantId tenant agentId request now run agent
      delegation) :
    UnderDelegation self.delegationMap run ∧ UnderParent self.runMap run := by
  obtain ⟨stored, inTenant, addressed, _, expiry⟩ :=
    runDelegation_ok grounds.delegationFound
  obtain ⟨capabilities, scope⟩ := checkRunScope_ok grounds.inScope
  have sameId := keyed request.delegationId delegation stored
  obtain ⟨credential, revision, fingerprint, rfl⟩ := grounds.created
  constructor
  · refine ⟨delegation, ?_, ?_⟩
    · change self.delegationMap[delegation.id]? = some delegation
      rw [sameId]
      exact stored
    · exact
        { sameId := rfl
          sameTenant := inTenant
          addressed
          capabilities
          scope
          expiry
          chain := rfl }
  · intro parentId named
    obtain ⟨parent, parentStored, sameTenant, parentCapabilities, parentScope,
      parentExpiry⟩ := checkParentRun_ok grounds.inParent parentId named
    exact ⟨parent, parentStored,
      { sameTenant
        capabilities := parentCapabilities
        scope := parentScope
        expiry := parentExpiry }⟩

theorem grown_change (sound : RunsSound self.delegationMap self.runMap)
    (change : RecordsChange self call after) :
    Forest.Grown AgentRun.parentRunId after.runs.runs := by
  have runs := change.runs
  generalize after.runs.runs = written at runs
  cases runs with
  | unchanged => exact sound.grown
  | created _ _ _ _ _ _ created _ grounds fresh =>
      obtain ⟨agent, delegation, checked⟩ := createRunGrounds_ok grounds
      apply Forest.Grown.insert created.id created sound.grown fresh
      intro parentId named
      obtain ⟨credential, revision, fingerprint, rfl⟩ := checked.created
      obtain ⟨parent, stored, _⟩ :=
        checkParentRun_ok checked.inParent parentId named
      rw [stored]
      simp
  | cancelled _ runId _ cancelled _ _ found =>
      have sameKey : cancelled.id = runId := sound.keyed runId cancelled found
      have foundAt : self.runMap[cancelled.id]? = some cancelled := by
        rw [sameKey]
        exact found
      exact Forest.Grown.replace cancelled.id cancelled _ sound.grown foundAt
        rfl

theorem runsSound_perform (self : AuthMesh) (call : MeshCall)
    (keyed : KeyedMap.KeyedBy Delegation.id self.delegationMap)
    (sound : RunsSound self.delegationMap self.runMap) :
    RunsSound (self.perform call).delegationMap (self.perform call).runMap := by
  have change := perform_records self call
  have delegations := delegations_persist self call
  have runs := runs_persist sound.keyed change
  refine
    { keyed := ?_
      underDelegation := ?_
      underParent := ?_
      grown := grown_change sound change }
  · intro key run stored
    rcases run_origin sound.keyed change stored with ⟨old, oldStored, same⟩ | ⟨_, sameKey, _⟩
    · obtain ⟨_, _, rfl⟩ := same
      exact sound.keyed key old oldStored
    · exact sameKey
  · intro key run stored
    rcases run_origin sound.keyed change stored with ⟨old, oldStored, same⟩ |
      ⟨_, _, _, _, _, _, _, _, grounds⟩
    · exact underDelegation_of_persists same delegations
        (sound.underDelegation key old oldStored)
    · exact underDelegation_of_persists (sameRun_refl run) delegations
        (grounds.contained keyed).1
  · intro key run stored
    rcases run_origin sound.keyed change stored with ⟨old, oldStored, same⟩ |
      ⟨_, _, _, _, _, _, _, _, grounds⟩
    · exact underParent_of_persists same runs
        (sound.underParent key old oldStored)
    · exact underParent_of_persists (sameRun_refl run) runs
        (grounds.contained keyed).2

theorem Fresh.runMap_eq {self : AuthMesh} (fresh : self.Fresh) :
    self.runMap = ∅ := by
  unfold runMap
  rw [fresh.stores_eq]
  rfl

theorem runsSound {self : AuthMesh} (run : system.Reachable self) :
    RunsSound self.delegationMap self.runMap := by
  refine run.invariant (motive := fun state : AuthMesh =>
    RunsSound state.delegationMap state.runMap) ?_ ?_
  · intro state fresh
    rw [Fresh.runMap_eq fresh]
    refine
      { keyed := KeyedMap.KeyedBy.empty
        underDelegation := ?_
        underParent := ?_
        grown := .empty }
    · intro key run found
      simp at found
    · intro key run found
      simp at found
  · intro state call before _ sound
    exact runsSound_perform state call (delegationMap_keyed before) sound

/-! ## The parent chain -/

/-- At some moment of the run of calls the first key was stored and the second
was not. -/
def StoredBefore (initial : AuthMesh) (calls : List MeshCall)
    (earlier later : RunId) : Prop :=
  ∃ before after, calls = before ++ after ∧
    (∃ run, (system.run initial before).runMap[earlier]? = some run) ∧
    (system.run initial before).runMap[later]? = none

theorem parent_storedBefore {initial : AuthMesh} (fresh : initial.Fresh)
    (calls : List MeshCall) {key parentId : RunId} {run : AgentRun}
    (stored : (system.run initial calls).runMap[key]? = some run)
    (named : run.parentRunId = some parentId) :
    StoredBefore initial calls parentId key := by
  induction calls using List.reverseRecOn generalizing run with
  | nil =>
      change initial.runMap[key]? = some run at stored
      rw [Fresh.runMap_eq fresh] at stored
      simp at stored
  | append_singleton calls call induction =>
      have sound := runsSound (.run (.start fresh) calls)
      rw [TransitionSystem.run_concat] at stored
      have change := perform_records (system.run initial calls) call
      rcases run_origin sound.keyed change stored with
        ⟨old, oldStored, same⟩ | ⟨absent, _, _, _, _, _, _, _, grounds⟩
      · have sameParent : old.parentRunId = some parentId := by
          obtain ⟨_, _, rfl⟩ := same
          exact named
        obtain ⟨before, after, rfl, earlier, later⟩ :=
          induction oldStored sameParent
        exact ⟨before, after ++ [call], List.append_assoc .., earlier, later⟩
      · obtain ⟨_, _, _, rfl⟩ := grounds.created
        obtain ⟨parent, parentStored, _⟩ :=
          checkParentRun_ok grounds.inParent parentId named
        exact ⟨calls, [call], rfl, ⟨parent, parentStored⟩, absent⟩

/-- What is known of every stored run: it lies under its delegation and under
its parent, which was stored before it, so that no run is its own ancestor and
each is contained in the first run of its chain. -/
structure RunContained (initial : AuthMesh) (calls : List MeshCall)
    (key : RunId) (run : AgentRun) : Prop where
  delegation :
    UnderDelegation (system.run initial calls).delegationMap run
  parent : ∀ parentId, run.parentRunId = some parentId →
    StoredBefore initial calls parentId key ∧
      ∃ parent, (system.run initial calls).runMap[parentId]? = some parent ∧
        run.Within parent
  acyclic : ¬Relation.TransGen
    (Forest.IsParent AgentRun.parentRunId (system.run initial calls).runMap)
    key key
  first : ∃ firstId first,
    Forest.Descends AgentRun.parentRunId (system.run initial calls).runMap key
        firstId ∧
      (system.run initial calls).runMap[firstId]? = some first ∧
      first.parentRunId = none ∧ run.Within first

/-- Every stored run is contained in its delegation, its parent and the first
run of its chain, after any calls. -/
theorem runs_contained {initial : AuthMesh} (fresh : initial.Fresh)
    (calls : List MeshCall) {key : RunId} {run : AgentRun}
    (stored : (system.run initial calls).runMap[key]? = some run) :
    RunContained initial calls key run := by
  have sound := runsSound (.run (.start fresh) calls)
  refine
    { delegation := sound.underDelegation key run stored
      parent := ?_
      acyclic := ?_
      first := ?_ }
  · intro parentId named
    exact ⟨parent_storedBefore fresh calls stored named,
      sound.underParent key run stored parentId named⟩
  · exact sound.grown.acyclic key
  · obtain ⟨firstId, first, descends, firstStored, isFirst⟩ :=
      sound.grown.exists_first stored
    have linked : ∀ (childId parentId : RunId) (child parent : AgentRun),
        (system.run initial calls).runMap[childId]? = some child →
          child.parentRunId = some parentId →
            (system.run initial calls).runMap[parentId]? = some parent →
              child.Within parent := by
      intro childId parentId child parent childStored named parentStored
      obtain ⟨found, foundAt, within⟩ :=
        sound.underParent childId child childStored parentId named
      rw [parentStored] at foundAt
      cases foundAt
      exact within
    obtain ⟨found, foundAt, within⟩ := descends.related AgentRun.within_refl
      AgentRun.within_trans linked firstStored
    rw [stored] at foundAt
    cases foundAt
    exact ⟨firstId, first, descends, firstStored, isFirst, within⟩

end AuthMesh

/-- A run of the worker and a run within that run. -/
def nestedRunCalls : List MeshCall :=
  runCalls ++ [startRun "run_2" "dlg_a" (some ⟨"run_1"⟩)]

theorem runs_contained_nested :
    ∃ run : AgentRun,
      (AuthMesh.system.run emptyMesh nestedRunCalls).runMap[
          (⟨"run_2"⟩ : RunId)]? = some run ∧
        run.parentRunId = some ⟨"run_1"⟩ ∧
        AuthMesh.RunContained emptyMesh nestedRunCalls ⟨"run_2"⟩ run := by
  have nested : ∃ run : AgentRun,
      (AuthMesh.system.run emptyMesh nestedRunCalls).runMap[
          (⟨"run_2"⟩ : RunId)]? = some run ∧
        run.parentRunId = some ⟨"run_1"⟩ :=
    Option.map_eq_some_iff.mp (by decide +kernel)
  obtain ⟨run, stored, named⟩ := nested
  exact ⟨run, stored, named,
    AuthMesh.runs_contained emptyMesh_fresh nestedRunCalls stored⟩

end AuthBoundry
