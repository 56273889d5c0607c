import AuthBoundry.Cli.DevelopmentAccounts
import AuthBoundry.Runtime.Decisions
import AuthBoundry.Runtime.DeclaredPolicies
import AuthBoundry.Runtime.System

/-!
# The policies that are in force after the start

The standalone server stores one policy for each tenant, with a rule for each
grant of the command line.  The policies of the contract are translated only
for a tenant without a stored policy.
-/

namespace AuthBoundry

open Library
open Library.Stateful

/-! ## What no ordinary call changes -/

namespace AuthMesh

/-- The contract and the policies. -/
def rulings (self : AuthMesh) : AuthConfig × MemoryPolicyStore :=
  (self.config, self.stores.policies)

theorem rulings_ignoresAccounts : IgnoresAccounts rulings where
  identities _ _ := rfl
  bindings _ _ := rfl
  sessions _ _ := rfl
  runs _ _ _ := rfl
  trail _ _ _ _ := rfl

end AuthMesh

/-! ## Starting -/

namespace Serve

/-- A grant of the command line. -/
structure Grant where
  capability : String
  claim : String
  value : String
  deriving DecidableEq, Repr

def Grant.parse (raw : String) : Except String Grant :=
  match splitOnce '=' raw with
  | none => .error "--grant expects capability=claim:value"
  | some (capability, condition) =>
      match splitOnce ':' condition with
      | none => .error "--grant expects capability=claim:value"
      | some (claim, value) =>
          .ok
            { capability := trim capability
              claim := trim claim
              value := trim value }

/-- The options that say what is stored at the start. -/
structure Seeds where
  tenants : List String
  accounts : List Account
  grants : List Grant

def tenantContext (tenant : String) : TenantContext :=
  { tenantId := ⟨tenant⟩
    tenantNamespace := tenant
    policyId := ⟨tenant ++ "-policy"⟩
    storageRootId := ⟨tenant ++ "-root"⟩ }

def policy (tenant : TenantContext) (grants : List Grant) : Policy :=
  { id := tenant.policyId
    rules := grants.map fun grant =>
      .allow ⟨grant.capability⟩ (.claimEquals grant.claim (.enum grant.value)) }

def Seeds.served (self : Seeds) : List String :=
  if self.tenants.isEmpty then ["default"] else self.tenants

def Seeds.stores (self : Seeds) : MeshStores :=
  self.served.foldl
    (fun stores tenant =>
      let context := tenantContext tenant
      { stores with
        tenants := stores.tenants.putTenant context
        policies := stores.policies.put (policy context self.grants) })
    .new

/-- What an account signs in with.  The state is the challenge's. -/
def credentials (state tenant username password : String) : AuthResponse :=
  { connector := "local"
    tenant := some tenant
    state
    parameters :=
      collectPairs [("username", username), ("password", password)] }

/-- The accounts become principals one after the other. -/
def seed (environment : Environment) (state : String) (now : Int) :
    List Account → AuthMesh → Except String AuthMesh
  | [], mesh => .ok mesh
  | account :: accounts, mesh =>
      match AuthMesh.signUp environment account.tenant
          (credentials state account.tenant account.username account.password)
          { kind := .human, claims := account.claims } now mesh with
      | .ok _ mesh => seed environment state now accounts mesh
      | .error err _ =>
          .error ("seeding account `" ++ account.username ++ "`: " ++
            err.message)

/-- The mesh behind the server, with the connectors that were registered. -/
def start (environment : Environment) (registry : ConnectorRegistry)
    (state : String) (now : Int) (config : AuthConfig) (seeds : Seeds) :
    Except String AuthMesh := do
  let mesh ← (AuthMesh.new config registry seeds.stores).mapError
    AuthError.message
  seed environment state now seeds.accounts mesh

/-! ## What is stored -/

section Stored

variable {environment : Environment} {registry : ConnectorRegistry}
  {state : String} {now : Int} {config : AuthConfig} {seeds : Seeds}
  {mesh after : AuthMesh}

theorem foldl_put_policies (context : String → TenantContext)
    (policies : String → Policy) (tenants : List String) (stores : MeshStores) :
    (tenants.foldl (fun stores tenant =>
        { stores with
          tenants := stores.tenants.putTenant (context tenant)
          policies := stores.policies.put (policies tenant) })
        stores).policies.policies =
      tenants.foldl (fun stored tenant =>
        stored.insert (policies tenant).id (policies tenant))
        stores.policies.policies := by
  induction tenants generalizing stores with
  | nil => rfl
  | cons tenant tenants induction => exact induction _

theorem policyId_injective {left right : String}
    (same : (tenantContext left).policyId = (tenantContext right).policyId) :
    left = right := by
  have texts : left ++ "-policy" = right ++ "-policy" :=
    congrArg AuthorityId.value same
  have lists := congrArg String.toList texts
  rw [String.toList_append, String.toList_append] at lists
  exact String.toList_inj.mp (List.append_cancel_right lists)

theorem stores_policyFor {tenant : String} (served : tenant ∈ seeds.served) :
    seeds.stores.policies.policyFor (tenantContext tenant) =
      some (policy (tenantContext tenant) seeds.grants) := by
  have stored := foldl_put_policies tenantContext
    (fun tenant => policy (tenantContext tenant) seeds.grants) seeds.served .new
  unfold Seeds.stores MemoryPolicyStore.policyFor
  dsimp only
  rw [stored, KeyedMap.getElem?_foldl_insert]
  cases found : seeds.served.reverse.find? (fun other =>
      (policy (tenantContext other) seeds.grants).id ==
        (tenantContext tenant).policyId) with
  | none =>
      have missed := List.find?_eq_none.mp found tenant
        (List.mem_reverse.mpr served)
      simp [policy] at missed
  | some other =>
      have here := List.find?_some found
      have same : other = tenant := by
        apply policyId_injective
        simpa [policy] using here
      rw [same]
      rfl

theorem seed_rulings {accounts : List Account}
    (seeded : seed environment state now accounts mesh = .ok after) :
    after.rulings = mesh.rulings := by
  induction accounts generalizing mesh with
  | nil =>
      cases seeded
      rfl
  | cons account accounts induction =>
      have framed : Frames AuthMesh.rulings
          (AuthMesh.signUp environment account.tenant
            (credentials state account.tenant account.username
              account.password)
            { kind := .human, claims := account.claims } now) :=
        AuthMesh.signUp_frames AuthMesh.rulings_ignoresAccounts
          (fun _ _ => rfl) account.tenant _ _ now
      have kept := framed mesh
      unfold seed at seeded
      split at seeded
      · rename_i outcome
        rw [outcome] at kept
        exact (induction seeded).trans kept
      · cases seeded

theorem start_rulings
    (started : start environment registry state now config seeds = .ok mesh) :
    config.validate = .ok () ∧
      mesh.rulings = (config, seeds.stores.policies) := by
  unfold start at started
  obtain ⟨created, built, seeded⟩ := except_bind_eq_ok_iff.mp started
  have made := except_mapError_eq_ok_iff.mp built
  have kept := seed_rulings seeded
  unfold AuthMesh.new at made
  split at made
  · cases made
  · rename_i valid
    split at made
    · cases made
    · cases made
      exact ⟨valid, kept⟩

/-- A call that changes neither tenants nor policies. -/
structure Ordinary (call : MeshCall) : Prop where
  noTenant : ∀ tenant, call.operation ≠ .putTenant tenant
  noPolicy : ∀ policy, call.operation ≠ .putPolicy policy

variable (config seeds) in
/-- The states of the server before the authority changes. -/
inductive Running : AuthMesh → Prop where
  | started {environment : Environment} {registry : ConnectorRegistry}
      {state : String} {now : Int} {mesh : AuthMesh}
      (started : start environment registry state now config seeds =
        .ok mesh) : Running mesh
  | next {mesh : AuthMesh} (call : MeshCall) (before : Running mesh)
      (ordinary : Ordinary call) : Running (mesh.perform call)

theorem Running.rulings (running : Running config seeds mesh) :
    config.validate = .ok () ∧
      mesh.rulings = (config, seeds.stores.policies) := by
  induction running with
  | started started => exact start_rulings started
  | next call before ordinary induction =>
      refine ⟨induction.1, Eq.trans ?_ induction.2⟩
      exact AuthMesh.perform_frames AuthMesh.rulings_ignoresAccounts
        (fun _ _ => rfl) (fun _ _ => rfl) _ ordinary.noTenant
        ordinary.noPolicy

theorem Running.policy_eq (running : Running config seeds mesh)
    {tenant : String} (served : tenant ∈ seeds.served) :
    mesh.policy (tenantContext tenant) =
      .ok (policy (tenantContext tenant) seeds.grants) := by
  have stores : mesh.stores.policies = seeds.stores.policies :=
    congrArg Prod.snd running.rulings.2
  unfold AuthMesh.policy
  rw [stores, stores_policyFor served]
  rfl

end Stored


/-! ## What a request is allowed by -/

section Requests

variable (config : AuthConfig) (seeds : Seeds) (systemTime : Option Int)
  (tenant : String) (principal : Principal) (request : AuthorizationRequest)
  (attributes : Option ResourceAttributes)

/-- The principal asks for itself, in its tenant and about its tenant. -/
structure OwnRequest : Prop where
  samePrincipal : principal.id = request.principal
  principalTenant : principal.tenantId = ⟨tenant⟩
  requestTenant : request.tenant = ⟨tenant⟩
  resourceTenant : ∀ resource, request.resource = some resource →
    resolvedTenant resource attributes = ⟨tenant⟩

/-- A declared policy for the capability holds, as it is translated. -/
def DeclaredHolds : Prop :=
  ∃ declared,
    AuthMesh.policyFromConfig config (tenantContext tenant) = some declared ∧
      ∃ rule ∈ declared.rules, ruleAddresses request rule = true ∧
        (evaluateCondition systemTime principal attributes
          rule.condition).1 = true

/-- The principal has the claim, and written as text it is what is granted. -/
def Grant.Holds (grant : Grant) : Prop :=
  grant.capability = request.capability.value ∧
    ∃ value, principal.claims.values[grant.claim]? = some value ∧
      claimValueText value = grant.value

def GrantHolds : Prop :=
  ∃ grant ∈ seeds.grants, grant.Holds principal request

def VariantGrantHolds : Prop :=
  ∃ grant ∈ seeds.grants, grant.Holds principal request ∧
    config.DeclaresEnum grant.claim

variable {config seeds systemTime tenant principal request attributes}

theorem grant_rule_iff {provided : KeyedMap String String}
    (accepted : config.validate = .ok ())
    (registered : resolveClaims config provided = .ok principal.claims)
    (grant : Grant) :
    (ruleAddresses request
          (.allow ⟨grant.capability⟩
            (.claimEquals grant.claim (.enum grant.value))) &&
        (evaluateCondition systemTime principal attributes
          (.claimEquals grant.claim (.enum grant.value))).1) = true ↔
      grant.Holds principal request ∧ config.DeclaresEnum grant.claim := by
  have valid := AuthConfig.validate_eq_ok_iff.mp accepted
  have variant : principal.claims.values[grant.claim]? =
        some (.enum grant.value) ↔
      (∃ value, principal.claims.values[grant.claim]? = some value ∧
        claimValueText value = grant.value) ∧
          config.DeclaresEnum grant.claim := by
    constructor
    · intro found
      exact ⟨⟨.enum grant.value, found, rfl⟩,
        (valid.resolved_enum_iff registered found).mp ⟨grant.value, rfl⟩⟩
    · rintro ⟨⟨value, found, text⟩, declared⟩
      obtain ⟨written, rfl⟩ :=
        (valid.resolved_enum_iff registered found).mpr declared
      have same : written = grant.value := text
      rw [found, same]
  have named : (⟨grant.capability⟩ : Capability) = request.capability ↔
      grant.capability = request.capability.value := by
    exact ⟨congrArg AuthorityId.value, fun same => by rw [same]⟩
  unfold Grant.Holds
  rw [and_assoc, ← variant, ← named]
  simp [ruleAddresses, Rule.allow, evaluateCondition]

theorem mayDo_iff {provided : KeyedMap String String}
    (accepted : config.validate = .ok ())
    (registered : resolveClaims config provided = .ok principal.claims)
    (human : principal.kind = .human) {delegation : Option Delegation}
    {now : Int} :
    MayDo systemTime (policy (tenantContext tenant) seeds.grants) principal
        (tenantContext tenant) delegation request attributes now ↔
      VariantGrantHolds config seeds principal request := by
  cases decides : decidingRule systemTime
      (policy (tenantContext tenant) seeds.grants) principal request
      attributes with
  | none =>
      have missed := List.find?_eq_none.mp decides
      rw [mayDo_undecided_iff decides, human]
      constructor
      · rintro ⟨agent, -⟩
        cases agent
      · rintro ⟨grant, member, granted⟩
        have rule := missed _ (List.mem_map_of_mem member)
        exact absurd ((grant_rule_iff accepted registered grant).mpr granted)
          rule
  | some rule =>
      obtain ⟨grant, member, rfl⟩ :=
        List.mem_map.mp (List.mem_of_find?_eq_some decides)
      have granted := List.find?_some decides
      rw [mayDo_decided_iff decides]
      exact iff_of_true rfl ⟨grant, member,
        (grant_rule_iff accepted registered grant).mp granted⟩

theorem requestAccepted_iff (human : principal.kind = .human) :
    RequestAccepted (policy (tenantContext tenant) seeds.grants) principal
        (tenantContext tenant) request attributes ↔
      OwnRequest tenant principal request attributes := by
  have active : agentRefusal principal = none := by
    rw [agentRefusal_eq_none_iff, human]
    exact fun agent => nomatch agent
  constructor
  · intro accepted
    exact
      { samePrincipal := accepted.samePrincipal
        principalTenant := accepted.sameTenant
        requestTenant := accepted.requestTenant.symm
        resourceTenant := accepted.resourceTenant }
  · intro own
    exact
      { sameTenant := own.principalTenant
        samePolicy := rfl
        active
        samePrincipal := own.samePrincipal
        requestTenant := own.requestTenant.symm
        resourceTenant := own.resourceTenant }

end Requests

section InForce

variable {config : AuthConfig} {seeds : Seeds} {mesh : AuthMesh}
  {tenant : String} {environment : Environment} {context : RuntimeContext}
  {provided : KeyedMap String String}

theorem authorizeRequest_isAllowed_iff (running : Running config seeds mesh)
    (served : tenant ∈ seeds.served)
    (recorded : environment.auditFault mesh.auditSequence = none)
    (here : context.tenant = tenantContext tenant)
    (human : context.principal.kind = .human)
    (registered : resolveClaims config provided = .ok context.principal.claims)
    (request : AuthorizationRequest) (attributes : Option ResourceAttributes)
    (now : Int) (revision : Nat) :
    (mesh.authorizeRequestWithAuthorityRevision environment context request
        attributes now revision).1.isAllowed = true ↔
      OwnRequest tenant context.principal request attributes ∧
        VariantGrantHolds config seeds context.principal request := by
  have accepted := running.rulings.1
  have inForce := running.policy_eq served
  unfold AuthMesh.authorizeRequestWithAuthorityRevision
  rw [here, inForce]
  dsimp only
  rw [AuthMesh.settleDecision_isAllowed_iff,
    evaluateAuthorizationRequest_isAllowed_iff, requestAccepted_iff human,
    mayDo_iff accepted registered human]
  exact and_iff_right recorded

theorem VariantGrantHolds.grantHolds {principal : Principal}
    {request : AuthorizationRequest}
    (holds : VariantGrantHolds config seeds principal request) :
    GrantHolds seeds principal request := by
  obtain ⟨grant, member, granted, -⟩ := holds
  exact ⟨grant, member, granted⟩

variable (config seeds mesh tenant environment context) in
def AllowedAsDeclared (request : AuthorizationRequest)
    (attributes : Option ResourceAttributes) (now : Int) (revision : Nat) :
    Prop :=
  (mesh.authorizeRequestWithAuthorityRevision environment context request
      attributes now revision).1.isAllowed = true ↔
    OwnRequest tenant context.principal request attributes ∧
      (DeclaredHolds config environment.systemTime tenant context.principal
          request attributes ∨
        GrantHolds seeds context.principal request)

/-- Requests are allowed as the contract and the grants say exactly if a grant
of a claim with listed variants holds whenever anything does. -/
theorem allowedAsDeclared_iff (running : Running config seeds mesh)
    (served : tenant ∈ seeds.served)
    (recorded : environment.auditFault mesh.auditSequence = none)
    (here : context.tenant = tenantContext tenant)
    (human : context.principal.kind = .human)
    (registered : resolveClaims config provided = .ok context.principal.claims)
    (request : AuthorizationRequest) (attributes : Option ResourceAttributes)
    (now : Int) (revision : Nat) :
    AllowedAsDeclared config seeds mesh tenant environment context request
        attributes now revision ↔
      (OwnRequest tenant context.principal request attributes →
        DeclaredHolds config environment.systemTime tenant context.principal
            request attributes ∨
          GrantHolds seeds context.principal request →
        VariantGrantHolds config seeds context.principal request) := by
  have allowed := authorizeRequest_isAllowed_iff running served recorded here
    human registered request attributes now revision
  unfold AllowedAsDeclared
  rw [allowed]
  constructor
  · intro same own holds
    exact (same.mpr ⟨own, holds⟩).2
  · intro enough
    constructor
    · exact fun ⟨own, variant⟩ => ⟨own, .inr variant.grantHolds⟩
    · exact fun ⟨own, holds⟩ => ⟨own, enough own holds⟩

end InForce

/-! ## A report that a declared policy opens -/

def financeConfig : AuthConfig := departmentConfig (.enum ["finance", "legal"])

def financeSeeds (grants : List Grant) : Seeds :=
  { tenants := ["acme"], accounts := [], grants }

def financeMesh (grants : List Grant) : AuthMesh :=
  { config := financeConfig
    registry := { ids := ["local"] }
    stores := (financeSeeds grants).stores
    sessionTtl := AuthMesh.defaultSessionTtlSeconds
    auditSequence := 0
    runSequence := 0
    decisions := [] }

theorem financeMesh_running (grants : List Grant) :
    Running financeConfig (financeSeeds grants) (financeMesh grants) := by
  have valid : financeConfig.validate = .ok () := by decide +kernel
  have started : start acmeEnvironment { ids := ["local"] } "" 0 financeConfig
      (financeSeeds grants) = .ok (financeMesh grants) := by
    unfold start AuthMesh.new
    rw [valid]
    rfl
  exact .started started

def financeContext : RuntimeContext :=
  { principal := financePrincipal (.enum "finance")
    tenant := tenantContext "acme"
    sessionId := none
    delegation := none
    run := none
    claims := (financePrincipal (.enum "finance")).claims
    capabilities := .empty }

def readReport : AuthorizationRequest :=
  { principal := financeContext.principal.id
    tenant := ⟨"acme"⟩
    capability := ⟨"report.read"⟩
    action := ⟨"read"⟩
    resource := none
    context := .default }

def financeGrant : Grant :=
  { capability := "report.read", claim := "department", value := "finance" }

theorem financeContext_registered :
    resolveClaims financeConfig financeClaims =
      .ok financeContext.principal.claims := by
  decide +kernel

theorem readReport_own :
    OwnRequest "acme" financeContext.principal readReport none where
  samePrincipal := rfl
  principalTenant := rfl
  requestTenant := rfl
  resourceTenant := by
    intro resource named
    cases named

/-- Without grants the policy that is declared for the report is not
consulted. -/
theorem readReport_refused :
    Running financeConfig (financeSeeds []) (financeMesh []) ∧
      resolveClaims financeConfig financeClaims =
        .ok financeContext.principal.claims ∧
      DeclaredHolds financeConfig acmeEnvironment.systemTime "acme"
        financeContext.principal readReport none ∧
      ¬AllowedAsDeclared financeConfig (financeSeeds []) (financeMesh [])
        "acme" acmeEnvironment financeContext readReport none 0 0 := by
  have declared : DeclaredHolds financeConfig acmeEnvironment.systemTime "acme"
      financeContext.principal readReport none := by
    refine ⟨_, rfl, financeRule, List.mem_singleton.mpr rfl, rfl, ?_⟩
    decide +kernel
  refine ⟨financeMesh_running [], financeContext_registered, declared, ?_⟩
  intro same
  have allowed := (authorizeRequest_isAllowed_iff (financeMesh_running [])
    (List.mem_singleton.mpr rfl) rfl rfl rfl financeContext_registered
    readReport none 0 0).mp (same.mpr ⟨readReport_own, .inl declared⟩)
  obtain ⟨grant, member, -⟩ := allowed.2
  exact List.not_mem_nil member

/-- With a grant for the same claim it does. -/
theorem readReport_allowedAsDeclared :
    AllowedAsDeclared financeConfig (financeSeeds [financeGrant])
      (financeMesh [financeGrant]) "acme" acmeEnvironment financeContext
      readReport none 0 0 := by
  apply (allowedAsDeclared_iff (financeMesh_running [financeGrant])
    (List.mem_singleton.mpr rfl) rfl rfl rfl financeContext_registered
    readReport none 0 0).mpr
  intro _ _
  refine ⟨financeGrant, List.mem_singleton.mpr rfl, ?_, ?_⟩
  · exact ⟨rfl, .enum "finance", by decide +kernel, rfl⟩
  · exact ⟨["finance", "legal"], rfl⟩

end Serve

end AuthBoundry
