import AuthBoundry.Boundary.Decisions
import AuthBoundry.Runtime.System

/-!
# Requests without an inferred target

Nothing is inferred for HEAD and OPTIONS, so that they are decided by name
where the GET request for the same path is decided by resource.  By name neither
action nor selector of a rule is read, nor the scope of a delegation, nor a run.
Such a request is no wider than the GET request where nothing of this would have
stopped it.
-/

namespace AuthBoundry

open Library
open Library.Stateful

def BoundaryRequest.asGet (self : BoundaryRequest) : BoundaryRequest :=
  { self with method := .get }

mutual

theorem evaluateCondition_of_conditionMatches {systemTime : Option Int}
    {principal : Principal} (resource : Option ResourceAttributes)
    {condition : Condition}
    (holds : (evaluateCondition systemTime principal none condition).1 =
      true) :
    (evaluateCondition systemTime principal resource condition).1 = true := by
  cases condition with
  | all conditions =>
      unfold evaluateCondition at holds ⊢
      exact evaluateConditions_of_conditionMatches resource holds
  | always => rfl
  | claimEquals key value => exact holds
  | claimIn key values => exact holds
  | timeBound start finish =>
      unfold evaluateCondition at holds ⊢
      exact holds
  | _ =>
      unfold evaluateCondition at holds
      cases holds

theorem evaluateConditions_of_conditionMatches {systemTime : Option Int}
    {principal : Principal} (resource : Option ResourceAttributes)
    {conditions : List Condition}
    (hold : (evaluateConditions systemTime principal none conditions).1 =
      true) :
    (evaluateConditions systemTime principal resource conditions).1 = true := by
  cases conditions with
  | nil => rfl
  | cons condition conditions =>
      unfold evaluateConditions at hold ⊢
      obtain ⟨first, rest⟩ := (Bool.and_eq_true _ _).mp hold
      apply (Bool.and_eq_true _ _).mpr
      exact ⟨evaluateCondition_of_conditionMatches resource first,
        evaluateConditions_of_conditionMatches resource rest⟩

end

/-- What a decision by name does not ask of a rule: that it is the tenant's,
names no other action and selects the resource. -/
structure Rule.StandsFor (rule : Rule) (policy : Policy)
    (request : AuthorizationRequest) : Prop where
  member : rule ∈ policy.rules
  action : ∀ action, rule.action = some action → action = request.action
  selects : ∀ selector, rule.resource = some selector →
    ∃ resource, request.resource = some resource ∧
      selector.selects resource = true

theorem Rule.StandsFor.addresses {rule : Rule} {policy : Policy}
    {request : AuthorizationRequest} (stands : rule.StandsFor policy request)
    (names : rule.capability = request.capability) :
    ruleAddresses request rule = true := by
  unfold ruleAddresses
  rw [Bool.and_eq_true, Bool.and_eq_true, beq_iff_eq]
  refine ⟨⟨names, ?_⟩, ?_⟩
  · cases action : rule.action with
    | none => rfl
    | some named => simp [stands.action named action]
  · cases selector : rule.resource with
    | none => rfl
    | some chosen =>
        obtain ⟨resource, named, selected⟩ := stands.selects chosen selector
        simp [named, selected]

namespace AuthPortRuntime

variable {environment : Environment} {self : AuthPortRuntime} {now : Int}
  {request : BoundaryRequest} {capability : String}

theorem authenticate_asGet :
    self.authenticate environment request.asGet now =
      self.authenticate environment request now := rfl

theorem authorizationRequest_untargeted {context : RuntimeContext}
    (untargeted : request.method = .head ∨ request.method = .options) :
    authorizationRequest context capability request = none := by
  unfold authorizationRequest inferResourceTarget
  rw [Option.map_eq_none_iff]
  split
  · rfl
  · split
    · rfl
    · rcases untargeted with head | options
      · rw [head]
        rfl
      · rw [options]
        rfl

/-- The tenant's policy lets the principal do what the GET request stands for,
in the run it names, and the decision can be recorded. -/
structure PassesAsGet (environment : Environment) (runtime : AuthPortRuntime)
    (context : AuthContext) (policy : Policy) (request : BoundaryRequest)
    (authRequest : AuthorizationRequest) (now : Int) : Prop where
  recorded : environment.auditFault runtime.mesh.auditSequence = none
  inRun : RunAdmits runtime context request.asGet authRequest now
  inTenant : runtime.InTenant context authRequest
  permitted : MayDo environment.systemTime policy context.principal
    context.tenant
    (pickDelegation
      (runtime.mesh.delegationsFor context.tenant context.principal.id)
      authRequest.capability now) authRequest
    (runtime.resourceAttributes authRequest) now

/-! ## From names to resources -/

def namingPolicy (self : AuthPortRuntime) (policy : Policy)
    (capability : String) : Policy :=
  (self.authority.capabilityPolicies[capability]?).getD policy

def namingDelegation (self : AuthPortRuntime) (context : AuthContext)
    (capability : String) (now : Int) : Option Delegation :=
  match self.authority.capabilityPolicies[capability]? with
  | some _ => context.delegation
  | none =>
      pickDelegation
        (self.mesh.delegationsFor context.tenant context.principal.id)
        ⟨capability⟩ now

/-- Nothing that only the GET request is asked for would stop it. -/
structure AsNarrowAsGet (environment : Environment) (runtime : AuthPortRuntime)
    (context : AuthContext) (policy : Policy) (capability : String)
    (request : BoundaryRequest) (authRequest : AuthorizationRequest)
    (now : Int) : Prop where
  /-- A live policy decides without recording. -/
  recorded : (runtime.authority.capabilityPolicies[capability]?).isSome →
    environment.auditFault runtime.mesh.auditSequence = none
  inTenant : runtime.InTenant context authRequest
  inRun : RunAdmits runtime context request.asGet authRequest now
  undenied : ∀ rule,
    decidingRule environment.systemTime policy context.principal authRequest
      (runtime.resourceAttributes authRequest) = some rule →
    rule.effect ≠ .deny
  ruleStands : ∀ rule,
    claimRule environment.systemTime (runtime.namingPolicy policy capability)
      context.principal ⟨capability⟩ = some rule →
    rule.StandsFor policy authRequest
  delegationStands : context.principal.kind = .agent → ∀ source,
    runtime.namingDelegation context capability now = some source →
    source.Covers context.tenant context.principal ⟨capability⟩ now →
    pickDelegation
        (runtime.mesh.delegationsFor context.tenant context.principal.id)
        ⟨capability⟩ now = some source ∧
      delegationScopeMatches source.resourceScope authRequest
        (runtime.resourceAttributes authRequest) = true

theorem nameGrants_holdsBy {context : AuthContext} {policy : Policy}
    (granted :
      NameGrants environment self context policy capability now) :
    HoldsBy environment.systemTime (self.namingPolicy policy capability)
        context.principal context.tenant
        (self.namingDelegation context capability now) ⟨capability⟩ now ∧
      ((self.authority.capabilityPolicies[capability]?).isSome ∨
        environment.auditFault self.mesh.auditSequence = none) := by
  unfold NameGrants at granted
  unfold namingPolicy namingDelegation
  cases live : self.authority.capabilityPolicies[capability]? with
  | none =>
      rw [live] at granted
      exact ⟨granted.2, Or.inr granted.1⟩
  | some overlay =>
      rw [live] at granted
      exact ⟨granted.2, Or.inl rfl⟩

theorem mayDo_of_rule {systemTime : Option Int} {policy : Policy}
    {principal : Principal} {tenant : TenantContext}
    {delegation : Option Delegation} {authRequest : AuthorizationRequest}
    {attributes : Option ResourceAttributes} {rule : Rule}
    (member : rule ∈ policy.rules)
    (addresses : ruleAddresses authRequest rule = true)
    (holds : (evaluateCondition systemTime principal attributes
      rule.condition).1 = true)
    (undenied : ∀ rule, decidingRule systemTime policy principal authRequest
      attributes = some rule → rule.effect ≠ .deny) :
    MayDo systemTime policy principal tenant delegation authRequest attributes
      now := by
  cases decides : decidingRule systemTime policy principal authRequest
      attributes with
  | none =>
      have passedOver := List.find?_eq_none.mp decides rule member
      simp [addresses, holds] at passedOver
  | some first =>
      rw [mayDo_decided_iff decides]
      have allowed := undenied first decides
      cases effect : first.effect with
      | allow => rfl
      | deny => exact (allowed effect).elim

theorem AsNarrowAsGet.permitted {context : AuthContext} {policy : Policy}
    {authRequest : AuthorizationRequest}
    (narrow : AsNarrowAsGet environment self context policy capability request
      authRequest now)
    (names : authRequest.capability = ⟨capability⟩)
    (held : HoldsBy environment.systemTime
      (self.namingPolicy policy capability) context.principal context.tenant
      (self.namingDelegation context capability now) ⟨capability⟩ now) :
    MayDo environment.systemTime policy context.principal context.tenant
      (pickDelegation
        (self.mesh.delegationsFor context.tenant context.principal.id)
        authRequest.capability now) authRequest
      (self.resourceAttributes authRequest) now := by
  rcases held with claimed | ⟨agent, source, offered, covers⟩
  · obtain ⟨rule, found⟩ := Option.ne_none_iff_exists'.mp claimed
    obtain ⟨_, ruleNames, holds⟩ := claimRule_eq_some found
    have stands := narrow.ruleStands rule found
    apply mayDo_of_rule stands.member
    · exact stands.addresses (ruleNames.trans names.symm)
    · exact evaluateCondition_of_conditionMatches _ holds
    · exact narrow.undenied
  · obtain ⟨picked, scope⟩ := narrow.delegationStands agent source offered
      covers
    cases decides : decidingRule environment.systemTime policy
        context.principal authRequest
        (self.resourceAttributes authRequest) with
    | none =>
        rw [mayDo_undecided_iff decides, names]
        exact ⟨agent, source, picked, covers, scope⟩
    | some first =>
        rw [mayDo_decided_iff decides]
        have allowed := narrow.undenied first decides
        cases effect : first.effect with
        | allow => rfl
        | deny => exact (allowed effect).elim

/-- A request without a target is admitted only where its GET request is,
exactly if no path that stands for a resource is granted by name but not by
resource. -/
theorem admits_imp_iff_passesAsGet
    (untargeted : request.method = .head ∨ request.method = .options) :
    (Admits environment self request (.capability capability) now →
        Admits environment self request.asGet (.capability capability) now) ↔
      ∀ context policy authRequest,
        self.authenticate environment request now = .ok context →
        self.mesh.policy context.tenant = .ok policy →
        authorizationRequest context.runtime capability request.asGet =
          some authRequest →
        isBlank capability = false →
        NameGrants environment self context policy capability now →
        PassesAsGet environment self context policy request authRequest
          now := by
  rw [admits_capability_iff, admits_capability_iff]
  simp only [authenticate_asGet]
  constructor
  · intro widened context policy authRequest authenticated found targeted named
      granted
    obtain ⟨stored, storedFound, accepted⟩ := authenticate_ok authenticated
    rw [found] at storedFound
    cases storedFound
    have byName := (decide_allows_by_name_iff
      (authorizationRequest_untargeted untargeted)).mpr
        ⟨named, (holdsByName_iff found accepted).mpr granted⟩
    obtain ⟨same, authenticatedSame, byResource⟩ :=
      widened ⟨context, authenticated, byName⟩
    rw [authenticated] at authenticatedSame
    cases authenticatedSame
    obtain ⟨_, inRun, allowed⟩ :=
      (decide_allows_resource_iff targeted).mp byResource
    obtain ⟨recorded, inTenant, permitted⟩ :=
      (allowsResource_iff found accepted targeted).mp allowed
    exact ⟨recorded, inRun, inTenant, permitted⟩
  · intro passes admitted
    obtain ⟨context, authenticated, byName⟩ := admitted
    obtain ⟨policy, found, accepted⟩ := authenticate_ok authenticated
    obtain ⟨named, held⟩ := (decide_allows_by_name_iff
      (authorizationRequest_untargeted untargeted)).mp byName
    have granted := (holdsByName_iff found accepted).mp held
    refine ⟨context, authenticated, ?_⟩
    cases targeted : authorizationRequest context.runtime capability
        request.asGet with
    | none =>
        -- Both requests are decided by name.
        exact (decide_allows_by_name_iff targeted).mpr ⟨named, held⟩
    | some authRequest =>
        obtain ⟨recorded, inRun, inTenant, permitted⟩ := passes context policy
          authRequest authenticated found targeted named granted
        exact (decide_allows_resource_iff targeted).mpr ⟨named, inRun,
          (allowsResource_iff found accepted targeted).mpr
            ⟨recorded, inTenant, permitted⟩⟩

/-- Where nothing would stop the GET request alone, the request without a
target is admitted only if the GET request is. -/
theorem admits_imp_admits_asGet
    (untargeted : request.method = .head ∨ request.method = .options)
    (narrow : ∀ context policy authRequest,
      self.authenticate environment request now = .ok context →
      self.mesh.policy context.tenant = .ok policy →
      authorizationRequest context.runtime capability request.asGet =
        some authRequest →
      AsNarrowAsGet environment self context policy capability request
        authRequest now) :
    Admits environment self request (.capability capability) now →
      Admits environment self request.asGet (.capability capability) now := by
  apply (admits_imp_iff_passesAsGet untargeted).mpr
  intro context policy authRequest authenticated found targeted _ granted
  have passes := narrow context policy authRequest authenticated found targeted
  obtain ⟨held, logged⟩ := nameGrants_holdsBy granted
  refine ⟨?_, passes.inRun, passes.inTenant, ?_⟩
  · rcases logged with live | recorded
    · exact passes.recorded live
    · exact recorded
  · exact passes.permitted (authorizationRequest_capability targeted) held

theorem admits_iff_returned {requirement : Requirement} :
    Admits environment self request requirement now ↔
      (returned (enforce environment request requirement now self)).isSome =
        true := by
  unfold Admits
  cases enforce environment request requirement now self with
  | ok context after => simp [returned]
  | error err after => simp [returned]

end AuthPortRuntime

/-! ## A rule for reports -/

/-- Administrators may read invoices, but only those that are reports. -/
def reportRule : Rule :=
  { readRule with resource := some (.any "report") }

def bareRuntime (mesh : AuthMesh) : AuthPortRuntime :=
  { mesh, resourceResolver := noResourceResolver, authority := .new }

def reportMesh : AuthMesh :=
  AuthMesh.system.run emptyMesh (acmeCalls [reportRule])

def aliceRequest (method : Method) (path : String) : BoundaryRequest :=
  (BoundaryRequest.new method path).withCredential
    { tenantId := "acme", sessionId := ⟨"sess_1"⟩ }

/-- Alice is admitted to the head of an invoice that she may not get. -/
theorem admits_head_not_get :
    AuthMesh.system.Reachable reportMesh ∧
      ¬(AuthPortRuntime.Admits acmeEnvironment (bareRuntime reportMesh)
            (aliceRequest .head "/invoices/7") (.capability "invoice.read")
            10 →
          AuthPortRuntime.Admits acmeEnvironment (bareRuntime reportMesh)
            (aliceRequest .head "/invoices/7").asGet
            (.capability "invoice.read") 10) := by
  refine ⟨.run (.start emptyMesh_fresh) _, ?_⟩
  rw [AuthPortRuntime.admits_iff_returned, AuthPortRuntime.admits_iff_returned]
  decide +kernel

def invoiceRule : Rule :=
  { readRule with
    resource := some (.any "invoice")
    action := some ⟨"read"⟩ }

def invoiceMesh : AuthMesh :=
  AuthMesh.system.run emptyMesh (acmeCalls [invoiceRule])

def invoiceHead : BoundaryRequest := aliceRequest .head "/invoices/7"

/-- What Alice asks for by HEAD is what the rule lets her get. -/
theorem invoiceHead_asNarrowAsGet {context : AuthContext} {policy : Policy}
    {authRequest : AuthorizationRequest}
    (authenticated : (bareRuntime invoiceMesh).authenticate acmeEnvironment
      invoiceHead 10 = .ok context)
    (found : invoiceMesh.policy context.tenant = .ok policy)
    (targeted : authorizationRequest context.runtime "invoice.read"
      invoiceHead.asGet = some authRequest) :
    AuthPortRuntime.AsNarrowAsGet acmeEnvironment (bareRuntime invoiceMesh)
      context policy "invoice.read" invoiceHead authRequest 10 := by
  have facts : ((bareRuntime invoiceMesh).authenticate acmeEnvironment
      invoiceHead 10).toOption.map (fun context =>
        (context.principal.kind,
          (invoiceMesh.policy context.tenant).toOption.map fun policy =>
            policy.rules.all fun rule =>
              rule.effect == .allow && rule.action == some ⟨"read"⟩ &&
                rule.resource == some (.any "invoice"))) =
        some (.human, some true) := by
    decide +kernel
  rw [authenticated] at facts
  obtain ⟨human, rules⟩ := Prod.mk.inj (Option.some.inj facts)
  rw [found] at rules
  have each := List.all_eq_true.mp (Option.some.inj rules)
  simp only [Bool.and_eq_true, beq_iff_eq] at each
  have target : inferResourceTarget invoiceHead.asGet.method
      invoiceHead.asGet.path = some ("invoice", "7", ⟨"read"⟩) := by
    decide +kernel
  unfold authorizationRequest at targeted
  rw [target] at targeted
  have asked := (Option.some.inj targeted).symm
  have read : authRequest.action = ⟨"read"⟩ := congrArg _ asked
  have invoice : authRequest.resource =
      some ⟨"invoice", "7", context.tenant.tenantId⟩ := congrArg _ asked
  refine ⟨?_, ?_, ?_, ?_, ?_, ?_⟩
  · intro live
    simp [bareRuntime, LiveAuthorityState.new] at live
  · intro resource named
    rw [invoice] at named
    cases named
    simp [AuthPortRuntime.resourceAttributes, invoice, bareRuntime,
      noResourceResolver, resolvedTenant, ResourceAttributes.withTenant]
  · have unnamed : (bareRuntime invoiceMesh).runIdFromRequest context
        invoiceHead.asGet = .ok none := by
      have fields : invoiceHead.asGet.field "run_id" = none ∧
          (invoiceHead.asGet.field "execution_credential").or
            (invoiceHead.asGet.field "run_credential") = none := by
        decide +kernel
      unfold AuthPortRuntime.runIdFromRequest
      rw [fields.1, fields.2]
    unfold AuthPortRuntime.RunAdmits
    rw [unnamed]
    trivial
  · intro rule decides
    have allows := (each rule (List.mem_of_find?_eq_some decides)).1.1
    rw [allows]
    decide
  · intro rule claims
    obtain ⟨member, _, _⟩ := claimRule_eq_some claims
    obtain ⟨⟨_, action⟩, selector⟩ := each rule member
    refine ⟨member, ?_, ?_⟩
    · intro named same
      rw [action] at same
      rw [read]
      exact (Option.some.inj same).symm
    · intro chosen same
      rw [selector] at same
      cases same
      refine ⟨_, invoice, ?_⟩
      simp [ResourceSelector.selects, ResourceSelector.any]
  · intro agent
    rw [human] at agent
    cases agent

/-- Alice asks for the head of an invoice and may get it as well. -/
theorem admits_imp_admits_asGet_invoice :
    AuthPortRuntime.Admits acmeEnvironment (bareRuntime invoiceMesh)
        invoiceHead (.capability "invoice.read") 10 ∧
      AuthPortRuntime.Admits acmeEnvironment (bareRuntime invoiceMesh)
        invoiceHead.asGet (.capability "invoice.read") 10 := by
  have admitted : AuthPortRuntime.Admits acmeEnvironment
      (bareRuntime invoiceMesh) invoiceHead (.capability "invoice.read")
      10 := by
    rw [AuthPortRuntime.admits_iff_returned]
    decide +kernel
  exact ⟨admitted, AuthPortRuntime.admits_imp_admits_asGet (Or.inl rfl)
    (fun _ _ _ => invoiceHead_asNarrowAsGet) admitted⟩

end AuthBoundry
