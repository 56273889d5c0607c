import AuthBoundry.Runtime.Decisions
import AuthBoundry.Runtime.System

/-!
# Which delegation decides a request

The mesh picks one delegation before its resource scope is looked at: of the
valid ones that contain the capability, the one with the least id.  A request
that another of them covers is allowed only if the picked one covers it too.
-/

namespace AuthBoundry

open Library

namespace AuthMesh

/-- The delegation is stored for the principal in the tenant, is valid and
contains the capability. -/
structure Offers (mesh : AuthMesh) (tenant : TenantContext)
    (principalId : PrincipalId) (capability : Capability) (now : Int)
    (delegation : Delegation) : Prop where
  stored : mesh.delegationMap[delegation.id]? = some delegation
  sameTenant : delegation.tenantId = tenant.tenantId
  addressed : delegation.delegate = principalId
  valid : delegation.isValidAt now = true
  contains : capability ∈ delegation.capabilities

variable {self : AuthMesh} {tenant : TenantContext}
  {principalId : PrincipalId} {capability : Capability} {now : Int}

theorem offers_iff_listed
    (keyed : KeyedMap.KeyedBy Delegation.id self.delegationMap)
    {delegation : Delegation} :
    self.Offers tenant principalId capability now delegation ↔
      delegation ∈ self.delegationsFor tenant principalId ∧
        delegation.isValidAt now = true ∧
        capability ∈ delegation.capabilities := by
  have listed : delegation ∈ self.delegationsFor tenant principalId ↔ _ :=
    MemoryDelegationStore.mem_listDelegationsForDelegate keyed
  constructor
  · intro offers
    obtain ⟨stored, sameTenant, addressed, valid, contains⟩ := offers
    exact ⟨listed.mpr ⟨stored, sameTenant, addressed⟩, valid, contains⟩
  · intro facts
    obtain ⟨member, valid, contains⟩ := facts
    obtain ⟨stored, sameTenant, addressed⟩ := listed.mp member
    exact ⟨stored, sameTenant, addressed, valid, contains⟩

instance : Std.Total fun left right : Delegation => left.id ≤ right.id :=
  ⟨fun left right => AuthorityId.precedes_total left.id right.id⟩

instance : IsTrans Delegation fun left right => left.id ≤ right.id :=
  ⟨fun _ _ _ before after => AuthorityId.precedes_trans before after⟩

theorem delegationsFor_addressed
    (keyed : KeyedMap.KeyedBy Delegation.id self.delegationMap) :
    ∀ delegation ∈ self.delegationsFor tenant principalId,
      delegation.tenantId = tenant.tenantId ∧
        delegation.delegate = principalId := by
  intro delegation listed
  exact ((MemoryDelegationStore.mem_listDelegationsForDelegate keyed).mp
    listed).2

theorem firstValid_least {found other : Delegation}
    (search : firstValid (self.delegationsFor tenant principalId) capability
      now = some found)
    (member : other ∈ self.delegationsFor tenant principalId)
    (valid : other.isValidAt now = true)
    (contains : capability ∈ other.capabilities) :
    found.id ≤ other.id := by
  unfold delegationsFor MemoryDelegationStore.listDelegationsForDelegate
    at search member
  obtain ⟨_, _, least⟩ := find?_insertionSort_foremost _ search
  apply least other ((List.mem_insertionSort _).mp member)
  rw [valid, List.contains_iff_mem.mpr contains]
  rfl

theorem firstValid_eq_some_iff
    (keyed : KeyedMap.KeyedBy Delegation.id self.delegationMap)
    {first : Delegation} :
    firstValid (self.delegationsFor tenant principalId) capability now =
        some first ↔
      self.Offers tenant principalId capability now first ∧
        ∀ other, self.Offers tenant principalId capability now other →
          first.id ≤ other.id := by
  have least : ∀ {found : Delegation},
      firstValid (self.delegationsFor tenant principalId) capability now =
          some found →
        ∀ other, self.Offers tenant principalId capability now other →
          found.id ≤ other.id := by
    intro found search other offers
    obtain ⟨member, valid, contains⟩ := (offers_iff_listed keyed).mp offers
    exact firstValid_least search member valid contains
  constructor
  · intro search
    exact ⟨(offers_iff_listed keyed).mpr (firstValid_eq_some search),
      least search⟩
  · intro foremost
    obtain ⟨offers, before⟩ := foremost
    obtain ⟨member, valid, contains⟩ := (offers_iff_listed keyed).mp offers
    cases search : firstValid (self.delegationsFor tenant principalId)
        capability now with
    | none =>
        have refused := firstValid_eq_none_iff.mp search first member valid
        exact (refused contains).elim
    | some found =>
        have foundOffers := (offers_iff_listed keyed).mpr
          (firstValid_eq_some search)
        have sameId := AuthorityId.precedes_antisymm
          (least search first offers) (before found foundOffers)
        have stored := foundOffers.stored
        rw [sameId, offers.stored] at stored
        exact stored.symm

variable {environment : Environment} {context : RuntimeContext}
  {request : AuthorizationRequest}
  {resourceAttributes : Option ResourceAttributes}

def NoRuleDecides (self : AuthMesh) (environment : Environment)
    (context : RuntimeContext) (request : AuthorizationRequest)
    (resourceAttributes : Option ResourceAttributes) : Prop :=
  ∀ policy, self.policy context.tenant = .ok policy →
    decidingRule environment.systemTime policy context.principal request
      resourceAttributes = none

/-- The tenant has a policy, the request is the principal's own and stays in
the tenant, and the audit log takes the next event. -/
def Admits (self : AuthMesh) (environment : Environment)
    (context : RuntimeContext) (request : AuthorizationRequest)
    (resourceAttributes : Option ResourceAttributes) : Prop :=
  environment.auditFault self.auditSequence = none ∧
    ∃ policy, self.policy context.tenant = .ok policy ∧
      RequestAccepted policy context.principal context.tenant request
        resourceAttributes

theorem authorizeRequest_iff_picked
    (keyed : KeyedMap.KeyedBy Delegation.id self.delegationMap)
    (agent : context.principal.kind = .agent)
    (undecided : self.NoRuleDecides environment context request
      resourceAttributes) :
    (self.authorizeRequest environment context request resourceAttributes
        now).1.isAllowed = true ↔
      self.Admits environment context request resourceAttributes ∧
        ∃ source,
          firstValid
              (self.delegationsFor context.tenant context.principal.id)
              request.capability now = some source ∧
            delegationScopeMatches source.resourceScope request
              resourceAttributes = true := by
  constructor
  · intro allowed
    obtain ⟨recorded, policy, policyFound, accepted, permitted⟩ :=
      authorizeRequest_isAllowed_iff.mp allowed
    obtain ⟨_, source, offered, covers, scope⟩ :=
      (mayDo_undecided_iff (undecided policy policyFound)).mp permitted
    have search := (pickDelegation_covers_iff
      (delegationsFor_addressed keyed)).mp ⟨offered, covers⟩
    exact ⟨⟨recorded, policy, policyFound, accepted⟩, source, search, scope⟩
  · intro covered
    obtain ⟨admitted, source, search, scope⟩ := covered
    obtain ⟨recorded, policy, policyFound, accepted⟩ := admitted
    obtain ⟨offered, covers⟩ := (pickDelegation_covers_iff
      (delegationsFor_addressed keyed)).mpr search
    have permitted := (mayDo_undecided_iff (undecided policy policyFound)).mpr
      ⟨agent, source, offered, covers, scope⟩
    exact authorizeRequest_isAllowed_iff.mpr
      ⟨recorded, policy, policyFound, accepted, permitted⟩

/-- Where no rule decides, an agent is allowed what one of its delegations
covers exactly if that of them with the least id covers it. -/
theorem authorizeRequest_iff_covered_iff (run : system.Reachable self)
    (agent : context.principal.kind = .agent)
    (undecided : self.NoRuleDecides environment context request
      resourceAttributes) :
    ((self.authorizeRequest environment context request resourceAttributes
          now).1.isAllowed = true ↔
        ∃ delegation,
          self.Offers context.tenant context.principal.id request.capability
              now delegation ∧
            delegationScopeMatches delegation.resourceScope request
              resourceAttributes = true) ↔
      ∀ delegation,
        self.Offers context.tenant context.principal.id request.capability now
            delegation →
          delegationScopeMatches delegation.resourceScope request
              resourceAttributes = true →
            self.Admits environment context request resourceAttributes ∧
              ∀ first,
                self.Offers context.tenant context.principal.id
                    request.capability now first →
                  (∀ other,
                    self.Offers context.tenant context.principal.id
                      request.capability now other → first.id ≤ other.id) →
                    delegationScopeMatches first.resourceScope request
                      resourceAttributes = true := by
  have keyed := delegationMap_keyed run
  rw [authorizeRequest_iff_picked keyed agent undecided]
  constructor
  · intro agree delegation offers scope
    obtain ⟨admitted, source, search, sourceScope⟩ :=
      agree.mpr ⟨delegation, offers, scope⟩
    refine ⟨admitted, ?_⟩
    intro first firstOffers least
    have sameSource :=
      (firstValid_eq_some_iff keyed).mpr ⟨firstOffers, least⟩
    rw [search] at sameSource
    cases sameSource
    exact sourceScope
  · intro condition
    constructor
    · intro picked
      obtain ⟨_, source, search, scope⟩ := picked
      exact ⟨source, ((firstValid_eq_some_iff keyed).mp search).1, scope⟩
    · intro covered
      obtain ⟨delegation, offers, scope⟩ := covered
      obtain ⟨admitted, narrowest⟩ := condition delegation offers scope
      refine ⟨admitted, ?_⟩
      cases search : firstValid
          (self.delegationsFor context.tenant context.principal.id)
          request.capability now with
      | none =>
          obtain ⟨member, valid, contains⟩ :=
            (offers_iff_listed keyed).mp offers
          have refused :=
            firstValid_eq_none_iff.mp search delegation member valid
          exact (refused contains).elim
      | some first =>
          obtain ⟨firstOffers, least⟩ :=
            (firstValid_eq_some_iff keyed).mp search
          exact ⟨first, rfl, narrowest first firstOffers least⟩

end AuthMesh

/-! ## Two scopes -/

/-- Alice hands the worker the reports under one id and the invoices under a
later one. -/
def twoScopesMesh : AuthMesh :=
  AuthMesh.system.run emptyMesh
    (acmeCalls [readRule] ++
      [handOver "dlg_a" "alice" "worker" [⟨"invoice.read"⟩]
          (.resource "report"),
        handOver "dlg_b" "alice" "worker" [⟨"invoice.read"⟩]
          (.resource "invoice")])

theorem twoScopesMesh_reachable : AuthMesh.system.Reachable twoScopesMesh :=
  .run (.start emptyMesh_fresh) _

/-- The worker asks to read something of a type. -/
def workerRequest (resourceType : String) : AuthorizationRequest :=
  { principal := acmeId "worker"
    tenant := ⟨"acme"⟩
    capability := ⟨"invoice.read"⟩
    action := ⟨"read"⟩
    resource :=
      some { resourceType, resourceId := "7", tenantId := ⟨"acme"⟩ }
    context := .default }

theorem twoScopesMesh_undecided :
    twoScopesMesh.NoRuleDecides acmeEnvironment (agentContext "worker")
      (workerRequest "invoice") none := by
  have undecided : (twoScopesMesh.policy acme).toOption.all (fun policy =>
      (decidingRule (some 0) policy (agentContext "worker").principal
        (workerRequest "invoice") none).isNone) = true := by
    decide +kernel
  intro policy found
  rw [show twoScopesMesh.policy acme = .ok policy from found] at undecided
  exact Option.isNone_iff_eq_none.mp undecided

theorem authorizeRequest_iff_covered_iff_worker :
    ((twoScopesMesh.authorizeRequest acmeEnvironment (agentContext "worker")
          (workerRequest "invoice") none 10).1.isAllowed = true ↔
        ∃ delegation,
          twoScopesMesh.Offers acme (acmeId "worker") ⟨"invoice.read"⟩ 10
              delegation ∧
            delegationScopeMatches delegation.resourceScope
              (workerRequest "invoice") none = true) ↔
      ∀ delegation,
        twoScopesMesh.Offers acme (acmeId "worker") ⟨"invoice.read"⟩ 10
            delegation →
          delegationScopeMatches delegation.resourceScope
              (workerRequest "invoice") none = true →
            twoScopesMesh.Admits acmeEnvironment (agentContext "worker")
                (workerRequest "invoice") none ∧
              ∀ first,
                twoScopesMesh.Offers acme (acmeId "worker") ⟨"invoice.read"⟩
                    10 first →
                  (∀ other,
                    twoScopesMesh.Offers acme (acmeId "worker")
                      ⟨"invoice.read"⟩ 10 other → first.id ≤ other.id) →
                    delegationScopeMatches first.resourceScope
                      (workerRequest "invoice") none = true :=
  AuthMesh.authorizeRequest_iff_covered_iff twoScopesMesh_reachable rfl
    twoScopesMesh_undecided

/-- The worker is refused an invoice that its second delegation covers. -/
theorem twoScopesMesh_refuses_covered :
    AuthMesh.system.Reachable twoScopesMesh ∧
      (agentContext "worker").principal.kind = .agent ∧
      (agentContext "worker").principal.agentState = some .active ∧
      twoScopesMesh.NoRuleDecides acmeEnvironment (agentContext "worker")
        (workerRequest "invoice") none ∧
      ¬((twoScopesMesh.authorizeRequest acmeEnvironment
            (agentContext "worker") (workerRequest "invoice") none
            10).1.isAllowed = true ↔
          ∃ delegation,
            twoScopesMesh.Offers acme (acmeId "worker") ⟨"invoice.read"⟩ 10
                delegation ∧
              delegationScopeMatches delegation.resourceScope
                (workerRequest "invoice") none = true) := by
  refine ⟨twoScopesMesh_reachable, rfl, rfl,
    twoScopesMesh_undecided, ?_⟩
  have refused : (twoScopesMesh.authorizeRequest acmeEnvironment
      (agentContext "worker") (workerRequest "invoice") none
      10).1.isAllowed = false := by
    decide +kernel
  have second : ∃ delegation : Delegation,
      twoScopesMesh.delegationMap[(⟨"dlg_b"⟩ : DelegationId)]? =
          some delegation ∧
        (delegation.tenantId, delegation.delegate, delegation.isValidAt 10,
            delegation.capabilities,
            delegationScopeMatches delegation.resourceScope
              (workerRequest "invoice") none) =
          (⟨"acme"⟩, acmeId "worker", true, [⟨"invoice.read"⟩], true) :=
    Option.map_eq_some_iff.mp (by decide +kernel)
  obtain ⟨delegation, stored, described⟩ := second
  simp only [Prod.mk.injEq] at described
  obtain ⟨sameTenant, addressed, valid, capabilities, scope⟩ := described
  have keyed := AuthMesh.delegationMap_keyed twoScopesMesh_reachable
  rw [← keyed _ delegation stored] at stored
  intro agree
  have allowed := agree.mpr ⟨delegation,
    ⟨stored, sameTenant, addressed, valid, by simp [capabilities]⟩, scope⟩
  rw [refused] at allowed
  cases allowed

end AuthBoundry
