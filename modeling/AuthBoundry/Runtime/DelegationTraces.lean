import AuthBoundry.Runtime.DelegationChains

/-!
# Tracing delegated capabilities

A delegation made by an agent should lead back, for each capability, to a
delegation that carried it.  The recorded chain is that of the parent of the
first capability, so this holds in those runs in which that parent carries all
of them and is not outlived.
-/

namespace AuthBoundry

open Library

/-- The delegation was handed down from this parent. -/
structure Delegation.HandedDown (delegation parent : Delegation) :
    Prop where
  sameTenant : parent.tenantId = delegation.tenantId
  addressed : parent.delegate = delegation.delegator
  narrowed : delegation.resourceScope.isSubsetOf parent.resourceScope = true
  chained : delegation.chain = parent.chain ++ [parent.id]
  outlived : ∀ parentExpiry, parent.expiresAt = some parentExpiry →
    ∃ expiry, delegation.expiresAt = some expiry ∧ expiry ≤ parentExpiry

def Traced (delegations : KeyedMap DelegationId Delegation)
    (delegation : Delegation) : Prop :=
  ∀ capability ∈ delegation.capabilities, ∃ parent : Delegation,
    delegations[parent.id]? = some parent ∧
      capability ∈ parent.capabilities ∧ delegation.HandedDown parent

theorem Delegation.HandedDown.revoked {delegation parent : Delegation}
    (handedDown : delegation.HandedDown parent)
    (revokedAt parentRevokedAt : Option Int) :
    ({ delegation with revokedAt } : Delegation).HandedDown
      { parent with revokedAt := parentRevokedAt } where
  sameTenant := handedDown.sameTenant
  addressed := handedDown.addressed
  narrowed := handedDown.narrowed
  chained := handedDown.chained
  outlived := handedDown.outlived

theorem Traced.insert_fresh {delegations : KeyedMap DelegationId Delegation}
    {delegation stored : Delegation} (traced : Traced delegations delegation)
    (fresh : delegations[stored.id]? = none) :
    Traced (delegations.insert stored.id stored) delegation := by
  intro capability member
  obtain ⟨parent, found, facts⟩ := traced capability member
  exact ⟨parent, KeyedMap.getElem?_insert_of_fresh fresh found, facts⟩

theorem Traced.insert_revoked
    {delegations : KeyedMap DelegationId Delegation}
    {delegation revoked : Delegation} {time : Int}
    (traced : Traced delegations delegation)
    (stored : delegations[revoked.id]? = some revoked)
    (revokedAt : Option Int) :
    Traced
      (delegations.insert revoked.id
        { revoked with revokedAt := some time })
      { delegation with revokedAt } := by
  intro capability member
  obtain ⟨parent, found, carried, handedDown⟩ := traced capability member
  by_cases same : revoked.id = parent.id
  · rw [same, found] at stored
    cases stored
    refine ⟨{ revoked with revokedAt := some time }, ?_, carried,
      handedDown.revoked revokedAt (some time)⟩
    exact Std.ExtTreeMap.getElem?_insert_self
  · refine ⟨parent, ?_, carried,
      handedDown.revoked revokedAt parent.revokedAt⟩
    rw [KeyedMap.getElem?_insert_of_ne _ _ same]
    exact found

namespace AuthMesh

/-- The delegation an agent's request will be chained to carries every
requested capability and is not outlived. -/
def delegatesCarried (self : AuthMesh) (tenantId : String)
    (request : DelegationRequest) (now : Int) : Bool :=
  (self.chainParent tenantId request now).all fun parent =>
    (request.capabilities.all fun capability =>
      parent.capabilities.contains capability) &&
    Delegation.expiresWithin request.expiresAt parent

/-- A new agent does not take over the id of a principal of another kind that
has made a delegation. -/
def keepsDelegators (self : AuthMesh) (environment : Environment)
    (tenantId : String) (response : AuthResponse)
    (registration : Registration) : Bool :=
  registration.kind != .agent ||
    match self.tenant tenantId with
    | .error _ => true
    | .ok tenant =>
        match self.authenticateExternal environment tenant response with
        | .error _ => true
        | .ok external =>
            let id := principalIdFor tenant.tenantId external.connector
              external.subject
            (self.principalMap[id]?.all fun stored => stored.kind == .agent) ||
              self.delegationMap.values.all fun delegation =>
                delegation.delegator != id

/-- The calls that keep every delegation of an agent traceable. -/
def keepsTraces (self : AuthMesh) (call : MeshCall) : Bool :=
  match call.operation with
  | .delegate tenantId request =>
      self.delegatesCarried tenantId request call.now
  | .signUp tenantId response registration =>
      self.keepsDelegators call.environment tenantId response registration
  | _ => true

def RootDelegator (principals : KeyedMap PrincipalId Principal)
    (delegation : Delegation) : Prop :=
  ∃ principal, principals[delegation.delegator]? = some principal ∧
    principal.kind ≠ .agent

theorem rootDelegator_perform {self : AuthMesh} {call : MeshCall}
    {delegation : Delegation}
    (root : RootDelegator self.principalMap delegation)
    (listed : ∀ tenantId response registration,
      call.operation = .signUp tenantId response registration →
        delegation ∈ self.delegationMap.values)
    (permitted : self.keepsTraces call = true) :
    RootDelegator (self.perform call).principalMap delegation := by
  obtain ⟨principal, found, other⟩ := root
  have change := perform_principalMap self call
  generalize (self.perform call).principalMap = after at change ⊢
  cases change with
  | unchanged => exact ⟨principal, found, other⟩
  | provisioned tenantId response registration tenant external claims
      operation tenantFound proven =>
      by_cases same : principalIdFor tenant.tenantId external.connector
          external.subject = delegation.delegator
      · refine ⟨Resolution.provisionedPrincipal tenant external
          registration.kind claims, ?_, ?_⟩
        · rw [KeyedMap.getElem?_insert_eq, if_pos same]
        · intro agent
          change registration.kind = .agent at agent
          have member := listed tenantId response registration operation
          simp only [keepsTraces, operation, keepsDelegators, agent,
            tenantFound, proven, same, found, Option.all_some,
            bne_self_eq_false, Bool.false_or, Bool.or_eq_true, beq_iff_eq,
            List.all_eq_true, bne_iff_ne] at permitted
          rcases permitted with wasAgent | unused
          · exact other wasAgent
          · exact unused delegation member rfl
      · refine ⟨principal, ?_, other⟩
        rw [KeyedMap.getElem?_insert_of_ne _ _ same]
        exact found
  | stateSet principalId changed state stored agent =>
      by_cases same : principalId = delegation.delegator
      · rw [same, found] at stored
        cases stored
        exact (other agent).elim
      · refine ⟨principal, ?_, other⟩
        rw [KeyedMap.getElem?_insert_of_ne _ _ same]
        exact found

theorem traced_created {self : AuthMesh} {environment : Environment}
    {tenantId : String} {tenant : TenantContext} {request : DelegationRequest}
    {now : Int} {delegation : Delegation}
    (delegationsKeyed : KeyedMap.KeyedBy Delegation.id self.delegationMap)
    (principalsKeyed : KeyedMap.KeyedBy Principal.id self.principalMap)
    (permitted : self.delegatesCarried tenantId request now = true)
    (tenantFound : self.tenant tenantId = .ok tenant)
    (checked : self.checkedDelegation environment tenant request now =
      .ok delegation) :
    Traced self.delegationMap delegation ∨
      RootDelegator self.principalMap delegation := by
  have requested : ∃ chain,
      delegation = requestedDelegation tenant request chain := by
    obtain ⟨_, _, _, _, chain, _, same⟩ := checkedDelegation_ok checked
    exact ⟨chain, same⟩
  obtain ⟨delegator, delegatorStored, chained⟩ :=
    checkedDelegation_parent delegationsKeyed tenantFound checked
  obtain ⟨stored, _⟩ := principal_eq_ok delegatorStored
  obtain ⟨chain, same⟩ := requested
  rcases chained with ⟨other, _⟩ |
    ⟨_, parent, chainedTo, parentStored, inTenant, addressed, _, narrowed,
      parentChain⟩
  · right
    refine ⟨delegator, ?_, other⟩
    rw [same]
    exact stored
  · left
    simp only [delegatesCarried, chainedTo, Option.all_some,
      Bool.and_eq_true, List.all_eq_true, List.contains_iff_mem,
      Delegation.expiresWithin_iff] at permitted
    obtain ⟨carried, outlived⟩ := permitted
    intro capability member
    refine ⟨parent, parentStored, ?_, ?_⟩
    · apply carried
      rw [same] at member
      exact member
    · refine ⟨?_, ?_, narrowed, parentChain, ?_⟩
      · rw [inTenant, same]
        rfl
      · rw [addressed, principalsKeyed _ _ stored, same]
        rfl
      · rw [same]
        exact outlived

/-- Every stored delegation is traced or was made by no agent. -/
def DelegationsTraced (self : AuthMesh) : Prop :=
  ∀ (key : DelegationId) delegation,
    self.delegationMap[key]? = some delegation →
      Traced self.delegationMap delegation ∨
        RootDelegator self.principalMap delegation

theorem delegationsTraced_perform {self : AuthMesh} {call : MeshCall}
    (delegationsKeyed : KeyedMap.KeyedBy Delegation.id self.delegationMap)
    (principalsKeyed : KeyedMap.KeyedBy Principal.id self.principalMap)
    (traced : self.DelegationsTraced)
    (permitted : self.keepsTraces call = true) :
    (self.perform call).DelegationsTraced := by
  have roots : ∀ {key : DelegationId} {delegation : Delegation},
      self.delegationMap[key]? = some delegation →
        RootDelegator self.principalMap delegation →
          RootDelegator (self.perform call).principalMap delegation := by
    intro key delegation stored root
    have listed := KeyedMap.mem_values_iff.mpr ⟨key, stored⟩
    exact rootDelegator_perform root (fun _ _ _ _ => listed) permitted
  have change := perform_delegationMap self call
  unfold DelegationsTraced
  generalize (self.perform call).delegationMap = after at change ⊢
  cases change with
  | unchanged =>
      intro key delegation found
      exact (traced key delegation found).imp_right (roots found)
  | created tenantId request tenant created operation tenantFound checked
      fresh _ =>
      have carried : self.delegatesCarried tenantId request call.now = true := by
        simpa only [keepsTraces, operation] using permitted
      apply KeyedMap.forall_insert
      · have new := traced_created delegationsKeyed principalsKeyed carried
          tenantFound checked
        refine new.imp (fun links => links.insert_fresh fresh) ?_
        intro root
        refine rootDelegator_perform root ?_ permitted
        intro _ _ _ signingUp
        rw [operation] at signingUp
        cases signingUp
      · intro key delegation found
        exact (traced key delegation found).imp
          (fun links => links.insert_fresh fresh) (roots found)
  | revoked tenantId delegationId tenant revoked operation _ stored _ =>
      have keyed := delegationsKeyed delegationId revoked stored
      subst keyed
      apply KeyedMap.forall_insert
      · refine (traced revoked.id revoked stored).imp
          (fun links => links.insert_revoked stored _) ?_
        intro root
        obtain ⟨delegator, delegatorFound, other⟩ := roots stored root
        exact ⟨delegator, delegatorFound, other⟩
      · intro key delegation found
        exact (traced key delegation found).imp
          (fun links => links.insert_revoked stored delegation.revokedAt)
          (roots found)

theorem delegationsTraced {self : AuthMesh}
    (run : system.ReachableUnder
      (fun state call => state.keepsTraces call = true) self) :
    self.DelegationsTraced := by
  refine run.invariant (motive := DelegationsTraced) ?_ ?_
  · intro state fresh key delegation found
    rw [Fresh.delegationMap_eq fresh] at found
    simp at found
  · intro state call before permitted traced
    exact delegationsTraced_perform (delegationMap_keyed before.reachable)
      (principalMap_keyed before.reachable) traced permitted

/-- In every run in which agents delegate what their chained parent carries,
and for no longer, every delegation of an agent is traced. -/
theorem traced_of_agent_delegator {self : AuthMesh}
    (run : system.ReachableUnder
      (fun state call => state.keepsTraces call = true) self)
    {id : DelegationId} {delegation : Delegation} {delegator : Principal}
    (stored : self.delegationMap[id]? = some delegation)
    (found : self.principalMap[delegation.delegator]? = some delegator)
    (agent : delegator.kind = .agent) :
    Traced self.delegationMap delegation := by
  rcases delegationsTraced run id delegation stored with traced | root
  · exact traced
  · obtain ⟨principal, same, other⟩ := root
    rw [found] at same
    cases same
    exact (other agent).elim

end AuthMesh

/-! ## One chain for two parents -/

theorem chainMesh_keepsTraces :
    AuthMesh.system.ReachableUnder
      (fun state call => state.keepsTraces call = true) chainMesh :=
  .run (.start emptyMesh_fresh) (by decide +kernel)

theorem traced_of_agent_delegator_worker :
    ∃ delegation : Delegation,
      chainMesh.delegationMap[(⟨"dlg_worker"⟩ : DelegationId)]? =
          some delegation ∧
        Traced chainMesh.delegationMap delegation := by
  have stored : ∃ delegation : Delegation,
      chainMesh.delegationMap[(⟨"dlg_worker"⟩ : DelegationId)]? =
          some delegation ∧
        delegation.delegator = acmeId "manager" :=
    Option.map_eq_some_iff.mp (by decide +kernel)
  have manager : ∃ principal : Principal,
      chainMesh.principalMap[acmeId "manager"]? = some principal ∧
        principal.kind = .agent :=
    Option.map_eq_some_iff.mp (by decide +kernel)
  obtain ⟨delegation, found, delegator⟩ := stored
  obtain ⟨principal, principalFound, agent⟩ := manager
  rw [← delegator] at principalFound
  exact ⟨delegation, found, AuthMesh.traced_of_agent_delegator
    chainMesh_keepsTraces found principalFound agent⟩

/-- Administrators may also write invoices. -/
def writeRule : Rule :=
  .allow ⟨"invoice.write"⟩ (.claimEquals "role" (.string "admin"))

/-- The manager holds reading and writing by two delegations and hands both to
the worker in one. -/
def forkMesh : AuthMesh :=
  AuthMesh.system.run emptyMesh
    (acmeCalls [readRule, writeRule] ++
      [handOver "dlg_read" "alice" "manager" [⟨"invoice.read"⟩] .any,
        handOver "dlg_write" "alice" "manager" [⟨"invoice.write"⟩] .any,
        handOver "dlg_both" "manager" "worker"
          [⟨"invoice.read"⟩, ⟨"invoice.write"⟩] .any])

/-- Writing cannot be traced: the chain names the delegation of reading. -/
theorem forkMesh_not_traced :
    AuthMesh.system.Reachable forkMesh ∧
      ∃ delegation delegator,
        forkMesh.delegationMap[(⟨"dlg_both"⟩ : DelegationId)]? =
            some delegation ∧
          forkMesh.principalMap[delegation.delegator]? = some delegator ∧
          delegator.kind = .agent ∧
          ¬Traced forkMesh.delegationMap delegation := by
  have stored : ∃ delegation : Delegation,
      forkMesh.delegationMap[(⟨"dlg_both"⟩ : DelegationId)]? =
          some delegation ∧
        (delegation.delegator, delegation.capabilities, delegation.chain) =
          (acmeId "manager", [⟨"invoice.read"⟩, ⟨"invoice.write"⟩],
            [⟨"dlg_read"⟩]) :=
    Option.map_eq_some_iff.mp (by decide +kernel)
  have readParent : ∃ parent : Delegation,
      forkMesh.delegationMap[(⟨"dlg_read"⟩ : DelegationId)]? = some parent ∧
        parent.capabilities = [⟨"invoice.read"⟩] :=
    Option.map_eq_some_iff.mp (by decide +kernel)
  have manager : ∃ principal : Principal,
      forkMesh.principalMap[acmeId "manager"]? = some principal ∧
        principal.kind = .agent :=
    Option.map_eq_some_iff.mp (by decide +kernel)
  obtain ⟨delegation, found, described⟩ := stored
  simp only [Prod.mk.injEq] at described
  obtain ⟨delegator, capabilities, chain⟩ := described
  obtain ⟨parent, parentFound, parentCapabilities⟩ := readParent
  obtain ⟨principal, principalFound, agent⟩ := manager
  refine ⟨.run (.start emptyMesh_fresh) _, delegation, principal, found, ?_,
    agent, ?_⟩
  · rw [delegator]
    exact principalFound
  · intro traced
    obtain ⟨source, sourceFound, carried, handedDown⟩ :=
      traced ⟨"invoice.write"⟩ (by simp [capabilities])
    have chained := handedDown.chained
    rw [chain] at chained
    have sourceId : source.id = ⟨"dlg_read"⟩ := by
      have last := congrArg List.getLast? chained
      simpa using last.symm
    rw [sourceId, parentFound] at sourceFound
    cases sourceFound
    simp [parentCapabilities] at carried

end AuthBoundry
