import AuthBoundry.Runtime.DelegationSelection

/-!
# Attenuation

Delegating reads the delegator's envelope, which knows nothing of effects,
actions, selectors and resource conditions; acting reads the rules in full.
What the delegate is allowed on a delegation is therefore allowed to the
delegator exactly when the rules do not withhold it from the delegator.
-/

namespace AuthBoundry

open Library
open Library.Stateful

theorem delegationScopeMatches_of_isSubsetOf {inner outer : ResourceScope}
    {request : AuthorizationRequest}
    {resourceAttributes : Option ResourceAttributes}
    (subset : inner.isSubsetOf outer = true)
    (covered : delegationScopeMatches inner request resourceAttributes =
      true) :
    delegationScopeMatches outer request resourceAttributes = true := by
  by_cases unconstrained : outer.isUnconstrained = true
  · simp [delegationScopeMatches, unconstrained]
  · have constrained : inner.isUnconstrained = false := by
      rw [Bool.eq_false_iff]
      exact mt (ResourceScope.isUnconstrained_of_isSubsetOf subset)
        unconstrained
    obtain ⟨types, ids, attributes⟩ := ResourceScope.isSubsetOf_iff.mp subset
    unfold delegationScopeMatches at covered ⊢
    rw [if_neg (by simp [constrained])] at covered
    rw [if_neg unconstrained]
    cases named : request.resource with
    | none => simp [named] at covered
    | some resource =>
        simp only [named, Bool.and_eq_true, List.all_eq_true, Prod.forall,
          Std.ExtTreeMap.mem_toList_iff_getElem?_eq_some] at covered ⊢
        obtain ⟨⟨typeCovered, idCovered⟩, attributesCovered⟩ := covered
        refine ⟨⟨?_, ?_⟩, ?_⟩
        · cases outerType : outer.resourceType with
          | none => rfl
          | some value => simpa [types value outerType] using typeCovered
        · cases outerId : outer.resourceId with
          | none => rfl
          | some value => simpa [ids value outerId] using idCovered
        · intro key value stored
          exact attributesCovered key value (attributes key value stored)

/-! ## Chains of scopes -/

/-- What a narrower scope matches, a wider one matches. -/
structure ScopeSound (inner outer : ResourceScope) : Prop where
  delegation : ∀ request attributes,
    delegationScopeMatches inner request attributes = true →
      delegationScopeMatches outer request attributes = true
  run : ∀ request attributes,
    resourceScopeMatches inner request attributes = true →
      resourceScopeMatches outer request attributes = true

/-- Each scope lies within the one before it. -/
def Narrowing (scopes : List ResourceScope) : Prop :=
  scopes.IsChain fun earlier later => later.isSubsetOf earlier = true

theorem scopeSound_of_isSubsetOf {inner outer : ResourceScope}
    (subset : inner.isSubsetOf outer = true) : ScopeSound inner outer where
  delegation _ _ covered := delegationScopeMatches_of_isSubsetOf subset covered
  run _ _ covered := delegationScopeMatches_of_isSubsetOf subset covered

/-- The last scope of a chain lies within all of them. -/
theorem Narrowing.isSubsetOf {scopes : List ResourceScope}
    (narrowing : Narrowing scopes) {last : ResourceScope}
    (atEnd : scopes.getLast? = some last) {scope : ResourceScope}
    (member : scope ∈ scopes) : last.isSubsetOf scope = true := by
  induction scopes generalizing scope with
  | nil => cases member
  | cons first rest induction =>
      cases rest with
      | nil =>
          have same : first = last := by simpa using atEnd
          rw [List.mem_singleton.mp member, same]
          exact ResourceScope.isSubsetOf_refl last
      | cons second rest =>
          rw [List.getLast?_cons_cons] at atEnd
          obtain ⟨within, later⟩ := List.isChain_cons_cons.mp narrowing
          rcases List.mem_cons.mp member with rfl | inRest
          · have step := induction later atEnd List.mem_cons_self
            exact ResourceScope.isSubsetOf_trans step within
          · exact induction later atEnd inRest

/-- A narrower scope matches less for both matchers, the order of scopes is
reflexive and transitive, and so the last scope of a chain matches less than
all of them. -/
theorem isSubsetOf_scopeSound :
    (∀ inner outer : ResourceScope, inner.isSubsetOf outer = true →
        ScopeSound inner outer) ∧
      (∀ scope : ResourceScope, scope.isSubsetOf scope = true) ∧
      (∀ inner middle outer : ResourceScope, inner.isSubsetOf middle = true →
        middle.isSubsetOf outer = true → inner.isSubsetOf outer = true) ∧
      ∀ scopes last, Narrowing scopes → scopes.getLast? = some last →
        ∀ scope ∈ scopes, ScopeSound last scope := by
  refine ⟨?_, ResourceScope.isSubsetOf_refl, ?_, ?_⟩
  · intro inner outer subset
    exact scopeSound_of_isSubsetOf subset
  · intro inner middle outer first second
    exact ResourceScope.isSubsetOf_trans first second
  · intro scopes last narrowing atEnd scope member
    exact scopeSound_of_isSubsetOf (narrowing.isSubsetOf atEnd member)

namespace AuthMesh

/-- A bare context in which a principal acts. -/
def actor (tenant : TenantContext) (principal : Principal) : RuntimeContext :=
  { principal
    tenant
    sessionId := none
    delegation := none
    run := none
    claims := principal.claims
    capabilities := .empty }

/-- What a call of `delegate` that returns leaves behind. -/
structure DelegateResult (environment : Environment) (mesh after : AuthMesh)
    (tenant : TenantContext) (request : DelegationRequest) (now : Int)
    (delegation : Delegation) : Prop where
  checked : mesh.checkedDelegation environment tenant request now =
    .ok delegation
  fresh : mesh.delegationMap[delegation.id]? = none
  different : delegation.delegator ≠ delegation.delegate
  stored : after.delegationMap =
    mesh.delegationMap.insert delegation.id delegation
  samePolicy : after.policy tenant = mesh.policy tenant
  recorded : after.auditSequence = mesh.auditSequence + 1

theorem delegate_ok {environment : Environment} {self after : AuthMesh}
    {tenantId : String} {request : DelegationRequest} {now : Int}
    {delegation : Delegation}
    (outcome : delegate environment tenantId request now self =
      .ok delegation after) :
    ∃ tenant, self.tenant tenantId = .ok tenant ∧
      DelegateResult environment self after tenant request now delegation := by
  obtain ⟨tenant, _, found, checks⟩ := bind_eq_ok_iff.mp outcome
  obtain ⟨tenantFound, same⟩ := inspect_eq_ok_iff.mp found
  rw [same] at checks
  obtain ⟨prepared, _, inspected, writes⟩ := bind_eq_ok_iff.mp checks
  obtain ⟨checked, unchanged⟩ := inspect_eq_ok_iff.mp inspected
  rw [unchanged] at writes
  obtain ⟨created, _, commits, records⟩ := bind_eq_ok_iff.mp writes
  obtain ⟨delegations, accepted, rfl⟩ := commitPart_eq_ok_iff.mp commits
  obtain ⟨rfl, fresh, different, rfl⟩ :=
    MemoryDelegationStore.createDelegation_ok
      (except_mapError_eq_ok_iff.mp accepted)
  obtain ⟨_, audited, stamps, finished⟩ := bind_eq_ok_iff.mp records
  cases finished
  refine ⟨tenant, tenantFound, ?_⟩
  rw [audit_eq_ok stamps]
  exact
    { checked
      fresh
      different
      stored := rfl
      samePolicy := rfl
      recorded := rfl }

/-- Whatever an agent is allowed on the strength of the delegation, its
delegator is allowed too, in any contexts of the two. -/
def Attenuates (self : AuthMesh) (environment : Environment)
    (tenant : TenantContext) (delegator delegate : Principal)
    (delegation : Delegation) (now : Int) : Prop :=
  ∀ context delegatorContext : RuntimeContext,
    context.principal = delegate → context.tenant = tenant →
    delegatorContext.principal = delegator →
    delegatorContext.tenant = tenant →
    ∀ (request : AuthorizationRequest)
      (resourceAttributes : Option ResourceAttributes)
      (grant : GrantedCapability),
      request.capability ∈ delegation.capabilities →
      (self.authorizeRequest environment context request resourceAttributes
        now).1.grant = some grant →
      grant.delegationId = some delegation.id →
      (self.authorizeRequest environment delegatorContext
        { request with principal := delegator.id } resourceAttributes
        now).1.isAllowed = true

/-- Where the new delegation will be the one that decides for the delegate,
the rules let the delegator do the same: the first that applies to the
delegator allows, or none applies to an agent. -/
def RulesAllowDelegator (self : AuthMesh) (environment : Environment)
    (tenant : TenantContext) (delegator delegate : Principal)
    (delegation : DelegationRequest) (now : Int) : Prop :=
  delegate.kind = .agent → delegation.issuedAt ≤ now →
  environment.auditFault (self.auditSequence + 1) = none →
  ∀ (policy : Policy) (request : AuthorizationRequest)
    (resourceAttributes : Option ResourceAttributes),
    self.policy tenant = .ok policy →
    RequestAccepted policy delegate tenant request resourceAttributes →
    request.capability ∈ delegation.capabilities →
    (∀ other, self.Offers tenant delegate.id request.capability now other →
      delegation.id ≤ other.id) →
    delegationScopeMatches delegation.resourceScope request
      resourceAttributes = true →
    decidingRule environment.systemTime policy delegate request
      resourceAttributes = none →
    match decidingRule environment.systemTime policy delegator
        { request with principal := delegator.id } resourceAttributes with
    | some rule => rule.effect = .allow
    | none => delegator.kind = .agent

section Result

variable {environment acting : Environment} {self after : AuthMesh}
  {tenant : TenantContext} {request : DelegationRequest} {now : Int}
  {delegation : Delegation}

/-- What a principal is offered once a delegation was made: what it was
offered before, and the new delegation if it is the delegate. -/
theorem offers_after_iff
    (result : DelegateResult environment self after tenant request now
      delegation)
    {principalId : PrincipalId} {capability : Capability} {time : Int}
    {offered : Delegation} :
    after.Offers tenant principalId capability time offered ↔
      self.Offers tenant principalId capability time offered ∨
        offered = delegation ∧ delegation.tenantId = tenant.tenantId ∧
          delegation.delegate = principalId ∧
          delegation.isValidAt time = true ∧
          capability ∈ delegation.capabilities := by
  constructor
  · intro offers
    obtain ⟨stored, sameTenant, addressed, valid, contains⟩ := offers
    rw [result.stored] at stored
    by_cases same : delegation.id = offered.id
    · rw [KeyedMap.getElem?_insert_eq, if_pos same] at stored
      cases stored
      exact Or.inr ⟨rfl, sameTenant, addressed, valid, contains⟩
    · rw [KeyedMap.getElem?_insert_of_ne _ _ same] at stored
      exact Or.inl ⟨stored, sameTenant, addressed, valid, contains⟩
  · intro either
    rcases either with offers | ⟨rfl, sameTenant, addressed, valid, contains⟩
    · obtain ⟨stored, sameTenant, addressed, valid, contains⟩ := offers
      refine ⟨?_, sameTenant, addressed, valid, contains⟩
      rw [result.stored]
      exact KeyedMap.getElem?_insert_of_fresh result.fresh stored
    · refine ⟨?_, sameTenant, addressed, valid, contains⟩
      rw [result.stored]
      exact Std.ExtTreeMap.getElem?_insert_self

theorem DelegateResult.keyed
    (result : DelegateResult environment self after tenant request now
      delegation)
    (keyed : KeyedMap.KeyedBy Delegation.id self.delegationMap) :
    KeyedMap.KeyedBy Delegation.id after.delegationMap := by
  rw [result.stored]
  exact keyed.insert delegation

theorem DelegateResult.offers_iff
    (result : DelegateResult environment self after tenant request now
      delegation) {delegate : Principal}
    (delegateStored : self.principal tenant request.delegate = .ok delegate)
    (principalsKeyed : KeyedMap.KeyedBy Principal.id self.principalMap)
    (capability : Capability) :
    after.Offers tenant delegate.id capability now delegation ↔
      request.issuedAt ≤ now ∧ capability ∈ request.capabilities := by
  obtain ⟨_, _, _, _, chain, grounds, rfl⟩ :=
    checkedDelegation_ok result.checked
  have addressed : delegate.id = request.delegate :=
    principalsKeyed _ _ (principal_eq_ok delegateStored).1
  constructor
  · intro offers
    exact ⟨(Delegation.isValidAt_iff.mp offers.valid).2.1, offers.contains⟩
  · intro facts
    obtain ⟨issued, contains⟩ := facts
    refine (offers_after_iff result).mpr (Or.inr ⟨rfl, rfl, addressed.symm,
      ?_, contains⟩)
    exact Delegation.isValidAt_iff.mpr ⟨rfl, issued, grounds.unexpired⟩

theorem DelegateResult.granted_iff
    (result : DelegateResult environment self after tenant request now
      delegation) {delegate : Principal}
    (delegateStored : self.principal tenant request.delegate = .ok delegate)
    (keyed : KeyedMap.KeyedBy Delegation.id self.delegationMap)
    (principalsKeyed : KeyedMap.KeyedBy Principal.id self.principalMap)
    (context : RuntimeContext) (acts : context.principal = delegate)
    (inTenant : context.tenant = tenant) {asked : AuthorizationRequest}
    {resourceAttributes : Option ResourceAttributes} :
    (∃ grant : GrantedCapability,
      (after.authorizeRequest acting context asked resourceAttributes
        now).1.grant = some grant ∧
      grant.delegationId = some delegation.id) ↔
    delegate.kind = .agent ∧ request.issuedAt ≤ now ∧
      acting.auditFault (self.auditSequence + 1) = none ∧
      ∃ policy, self.policy tenant = .ok policy ∧
        RequestAccepted policy delegate tenant asked resourceAttributes ∧
        asked.capability ∈ request.capabilities ∧
        (∀ other, self.Offers tenant delegate.id asked.capability now other →
          delegation.id ≤ other.id) ∧
        delegationScopeMatches delegation.resourceScope asked
          resourceAttributes = true ∧
        decidingRule acting.systemTime policy delegate asked
          resourceAttributes = none := by
  subst acts inTenant
  have keyedAfter := result.keyed keyed
  have offersNew :=
    result.offers_iff delegateStored principalsKeyed asked.capability
  unfold authorizeRequest
  simp only [authorizeRequest_grant_iff, result.recorded, result.samePolicy]
  constructor
  · intro granted
    obtain ⟨grant, ⟨recorded, policy, policyFound, grounds⟩, strength⟩ :=
      granted
    cases grounds with
    | claim rule => cases strength
    | delegated source accepted undecided agent offered covers scope =>
        have search := (pickDelegation_covers_iff
          (delegationsFor_addressed keyedAfter)).mp ⟨offered, covers⟩
        obtain ⟨offers, least⟩ := (firstValid_eq_some_iff keyedAfter).mp search
        have same : source = delegation := by
          have sameId : source.id = delegation.id := Option.some.inj strength
          have stored := offers.stored
          rw [sameId, result.stored, Std.ExtTreeMap.getElem?_insert_self]
            at stored
          exact (Option.some.inj stored).symm
        subst same
        obtain ⟨issued, contains⟩ := offersNew.mp offers
        refine ⟨agent, issued, recorded, policy, policyFound, accepted,
          contains, ?_, scope, undecided⟩
        intro other before
        exact least other ((offers_after_iff result).mpr (Or.inl before))
  · intro facts
    obtain ⟨agent, issued, recorded, policy, policyFound, accepted, contains,
      least, scope, undecided⟩ := facts
    have offers := offersNew.mpr ⟨issued, contains⟩
    have search := (firstValid_eq_some_iff keyedAfter).mpr ⟨offers, by
      intro other later
      rcases (offers_after_iff result).mp later with before | ⟨rfl, _⟩
      · exact least other before
      · exact AuthorityId.precedes_refl _⟩
    obtain ⟨offered, covers⟩ := (pickDelegation_covers_iff
      (delegationsFor_addressed keyedAfter)).mpr search
    exact ⟨_, ⟨recorded, policy, policyFound, .delegated delegation accepted
      undecided agent offered covers scope⟩, rfl⟩

theorem DelegateResult.parent
    (result : DelegateResult environment self after tenant request now
      delegation) {delegator : Principal}
    (delegatorStored : self.principal tenant request.delegator =
      .ok delegator)
    (keyed : KeyedMap.KeyedBy Delegation.id self.delegationMap)
    (principalsKeyed : KeyedMap.KeyedBy Principal.id self.principalMap)
    (agent : delegator.kind = .agent) {capability : Capability}
    (contains : capability ∈ request.capabilities) :
    ∃ parent,
      firstValid (after.delegationsFor tenant delegator.id) capability now =
          some parent ∧
        delegation.resourceScope.isSubsetOf parent.resourceScope = true := by
  obtain ⟨found, _, _, _, _, grounds, same⟩ :=
    checkedDelegation_ok result.checked
  have sameDelegator := grounds.delegatorStored
  rw [delegatorStored] at sameDelegator
  cases sameDelegator
  obtain ⟨parent, search, narrowed⟩ :=
    checkCapabilities_parent agent grounds.checked capability contains
  have scope : delegation.resourceScope = request.resourceScope := by
    rw [same]
    rfl
  refine ⟨parent, ?_, by rwa [scope]⟩
  -- The new delegation is addressed to somebody else.
  have elsewhere : delegation.delegate ≠ delegator.id := by
    have named : delegation.delegator = delegator.id := by
      rw [same]
      exact (principalsKeyed _ _
        (principal_eq_ok delegatorStored).1).symm
    rw [← named]
    exact result.different.symm
  have unchanged : ∀ offered,
      after.Offers tenant delegator.id capability now offered ↔
        self.Offers tenant delegator.id capability now offered := by
    intro offered
    rw [offers_after_iff result]
    constructor
    · intro either
      rcases either with before | ⟨_, _, addressed, _⟩
      · exact before
      · exact (elsewhere addressed).elim
    · exact Or.inl
  obtain ⟨offers, least⟩ := (firstValid_eq_some_iff keyed).mp search
  refine (firstValid_eq_some_iff (result.keyed keyed)).mpr
    ⟨(unchanged parent).mpr offers, ?_⟩
  intro other later
  exact least other ((unchanged other).mp later)

theorem DelegateResult.accepted
    (result : DelegateResult environment self after tenant request now
      delegation) {delegator delegate : Principal} {policy : Policy}
    (delegatorStored : self.principal tenant request.delegator =
      .ok delegator)
    {asked : AuthorizationRequest}
    {resourceAttributes : Option ResourceAttributes}
    (contains : asked.capability ∈ request.capabilities)
    (accepted :
      RequestAccepted policy delegate tenant asked resourceAttributes) :
    RequestAccepted policy delegator tenant
      { asked with principal := delegator.id } resourceAttributes := by
  obtain ⟨_, _, _, _, _, grounds, _⟩ := checkedDelegation_ok result.checked
  have sameDelegator := grounds.delegatorStored
  rw [delegatorStored] at sameDelegator
  cases sameDelegator
  have allowed :=
    checkCapabilities_allows grounds.checked asked.capability contains
  have active :=
    ((evaluateWithDelegations_allows_iff grounds.evaluated).mp allowed).1
  exact
    { sameTenant := (principal_eq_ok delegatorStored).2
      samePolicy := accepted.samePolicy
      active
      samePrincipal := rfl
      requestTenant := accepted.requestTenant
      resourceTenant := accepted.resourceTenant }

theorem DelegateResult.delegator_allowed_iff
    (result : DelegateResult environment self after tenant request now
      delegation) {delegator delegate : Principal} {policy : Policy}
    (delegatorStored : self.principal tenant request.delegator =
      .ok delegator)
    (keyed : KeyedMap.KeyedBy Delegation.id self.delegationMap)
    (principalsKeyed : KeyedMap.KeyedBy Principal.id self.principalMap)
    {context : RuntimeContext} (acts : context.principal = delegator)
    (inTenant : context.tenant = tenant) {asked : AuthorizationRequest}
    {resourceAttributes : Option ResourceAttributes}
    (recorded : acting.auditFault (self.auditSequence + 1) = none)
    (policyFound : self.policy tenant = .ok policy)
    (contains : asked.capability ∈ request.capabilities)
    (accepted :
      RequestAccepted policy delegate tenant asked resourceAttributes)
    (scope : delegationScopeMatches delegation.resourceScope asked
      resourceAttributes = true) :
    (after.authorizeRequest acting context
        { asked with principal := delegator.id } resourceAttributes
        now).1.isAllowed = true ↔
      match decidingRule acting.systemTime policy delegator
          { asked with principal := delegator.id } resourceAttributes with
      | some rule => rule.effect = .allow
      | none => delegator.kind = .agent := by
  subst acts inTenant
  have own := result.accepted delegatorStored contains accepted
  unfold authorizeRequest
  rw [authorizeRequest_isAllowed_iff, result.recorded, result.samePolicy,
    policyFound, and_iff_right recorded]
  simp only [Except.ok.injEq, exists_eq_left', and_iff_right own]
  cases decides : decidingRule acting.systemTime policy context.principal
      { asked with principal := context.principal.id }
      resourceAttributes with
  | some rule => exact mayDo_decided_iff decides
  | none =>
      rw [mayDo_undecided_iff decides]
      constructor
      · exact And.left
      · intro agent
        obtain ⟨parent, search, narrowed⟩ :=
          result.parent delegatorStored keyed principalsKeyed agent contains
        obtain ⟨offered, covers⟩ := (pickDelegation_covers_iff
          (delegationsFor_addressed (result.keyed keyed))).mpr search
        exact ⟨agent, parent, offered, covers,
          delegationScopeMatches_of_isSubsetOf narrowed scope⟩

/-- A delegation hands on nothing that its delegator may not do itself exactly
if the rules let the delegator do what the delegation covers. -/
theorem delegate_attenuates_iff (run : system.Reachable self)
    {tenantId : String} {delegator delegate : Principal}
    (outcome : AuthMesh.delegate environment tenantId request now self =
      .ok delegation after)
    (tenantFound : self.tenant tenantId = .ok tenant)
    (delegatorStored : self.principal tenant request.delegator =
      .ok delegator)
    (delegateStored : self.principal tenant request.delegate =
      .ok delegate) :
    after.Attenuates acting tenant delegator delegate delegation now ↔
      self.RulesAllowDelegator acting tenant delegator delegate request
        now := by
  have keyed := delegationMap_keyed run
  have principalsKeyed := principalMap_keyed run
  obtain ⟨found, sameTenant, result⟩ := delegate_ok outcome
  rw [tenantFound] at sameTenant
  cases sameTenant
  have requested : delegation.id = request.id ∧
      delegation.capabilities = request.capabilities ∧
      delegation.resourceScope = request.resourceScope := by
    obtain ⟨_, _, _, _, _, _, rfl⟩ := checkedDelegation_ok result.checked
    exact ⟨rfl, rfl, rfl⟩
  obtain ⟨sameId, sameCapabilities, sameScope⟩ := requested
  constructor
  · intro attenuates agent issued recorded policy asked attributes policyFound
      accepted contains least scope undecided
    rw [← sameId] at least
    rw [← sameScope] at scope
    obtain ⟨grant, granted, strength⟩ := (result.granted_iff delegateStored
      keyed principalsKeyed (actor tenant delegate) rfl rfl).mpr
        ⟨agent, issued, recorded, policy, policyFound, accepted, contains,
          least, scope, undecided⟩
    have allowed := attenuates (actor tenant delegate) (actor tenant delegator)
      rfl rfl rfl rfl asked attributes grant (by rwa [sameCapabilities])
      granted strength
    exact (result.delegator_allowed_iff delegatorStored keyed principalsKeyed
      rfl rfl recorded policyFound contains accepted scope).mp allowed
  · intro rulesAllow context delegatorContext acts inTenant delegatorActs
      delegatorInTenant asked attributes grant contains granted strength
    obtain ⟨agent, issued, recorded, policy, policyFound, accepted, listed,
      least, scope, undecided⟩ :=
      (result.granted_iff delegateStored keyed principalsKeyed context acts
        inTenant).mp ⟨grant, granted, strength⟩
    refine (result.delegator_allowed_iff delegatorStored keyed principalsKeyed
      delegatorActs delegatorInTenant recorded policyFound listed accepted
      scope).mpr ?_
    rw [sameId] at least
    rw [sameScope] at scope
    exact rulesAllow agent issued recorded policy asked attributes policyFound
      accepted listed least scope undecided

end Result

end AuthMesh

/-! ## A secret invoice -/

/-- Alice as she is stored. -/
def alice : Principal :=
  { acmePrincipal (acmeId "alice").value .human with
    claims :=
      { values := (∅ : KeyedMap String ClaimValue).insert "role"
          (.string "admin") } }

/-- The worker as it is stored. -/
def worker : Principal := (agentContext "worker").principal

def secretRule : Rule :=
  { capability := ⟨"invoice.read"⟩
    condition := .claimEquals "role" (.string "admin")
    resource :=
      some { resourceType := "invoice", resourceId := some "secret" }
    action := none
    effect := .deny }

def handOverReading : DelegationRequest :=
  { id := ⟨"dlg_worker"⟩
    delegator := acmeId "alice"
    delegate := acmeId "worker"
    capabilities := [⟨"invoice.read"⟩]
    resourceScope := .any
    issuedAt := 2
    expiresAt := none }

def secretMesh : AuthMesh :=
  AuthMesh.system.run emptyMesh (acmeCalls [secretRule, readRule])

theorem secretMesh_reachable : AuthMesh.system.Reachable secretMesh :=
  .run (.start emptyMesh_fresh) _

theorem secretMesh_principals :
    secretMesh.principal acme (acmeId "alice") = .ok alice ∧
      secretMesh.principal acme (acmeId "worker") = .ok worker := by
  decide +kernel

theorem secretMesh_tenant : secretMesh.tenant "acme" = .ok acme := by
  decide +kernel

def secretRequest : AuthorizationRequest :=
  { principal := worker.id
    tenant := ⟨"acme"⟩
    capability := ⟨"invoice.read"⟩
    action := ⟨"read"⟩
    resource :=
      some
        { resourceType := "invoice"
          resourceId := "secret"
          tenantId := ⟨"acme"⟩ }
    context := .default }

/-- Alice is refused the secret invoice, and the worker reads it for her. -/
theorem secretMesh_not_attenuates :
    AuthMesh.system.Reachable secretMesh ∧
      secretMesh.principal acme (acmeId "alice") = .ok alice ∧
      secretMesh.principal acme (acmeId "worker") = .ok worker ∧
      ∃ delegation after,
        AuthMesh.delegate acmeEnvironment "acme" handOverReading 2
            secretMesh = .ok delegation after ∧
          ¬after.Attenuates acmeEnvironment acme alice worker delegation
            2 := by
  have decided : ∃ pair : Delegation × AuthMesh,
      returned (AuthMesh.delegate acmeEnvironment "acme" handOverReading 2
        secretMesh) = some pair ∧
      (pair.1.id, pair.1.capabilities,
          (pair.2.authorizeRequest acmeEnvironment (AuthMesh.actor acme worker)
            secretRequest none 2).1.grant.map GrantedCapability.delegationId,
          (pair.2.authorizeRequest acmeEnvironment (AuthMesh.actor acme alice)
            { secretRequest with principal := alice.id } none
            2).1.isAllowed) =
        (⟨"dlg_worker"⟩, [⟨"invoice.read"⟩], some (some ⟨"dlg_worker"⟩),
          false) :=
    Option.map_eq_some_iff.mp (by decide +kernel)
  obtain ⟨⟨delegation, after⟩, returns, described⟩ := decided
  simp only [Prod.mk.injEq] at described
  obtain ⟨id, capabilities, granted, refused⟩ := described
  obtain ⟨grant, allowed, strength⟩ := Option.map_eq_some_iff.mp granted
  refine ⟨secretMesh_reachable, secretMesh_principals.1,
    secretMesh_principals.2, delegation, after, returned_eq_some returns, ?_⟩
  intro attenuates
  have allowedToo := attenuates (AuthMesh.actor acme worker)
    (AuthMesh.actor acme alice) rfl rfl rfl rfl secretRequest none grant
    (by simp [capabilities, secretRequest]) allowed (by rw [strength, id])
  rw [refused] at allowedToo
  cases allowedToo

theorem delegate_attenuates_iff_worker :
    ∃ delegation after,
      AuthMesh.delegate acmeEnvironment "acme" handOverReading 2 secretMesh =
          .ok delegation after ∧
        (after.Attenuates acmeEnvironment acme alice worker delegation 2 ↔
          secretMesh.RulesAllowDelegator acmeEnvironment acme alice worker
            handOverReading 2) := by
  have decided : (returned (AuthMesh.delegate acmeEnvironment "acme"
      handOverReading 2 secretMesh)).isSome = true := by
    decide +kernel
  obtain ⟨⟨delegation, after⟩, returns⟩ := Option.isSome_iff_exists.mp decided
  have outcome := returned_eq_some returns
  exact ⟨delegation, after, outcome, AuthMesh.delegate_attenuates_iff
    secretMesh_reachable outcome secretMesh_tenant secretMesh_principals.1
    secretMesh_principals.2⟩

end AuthBoundry
