import AuthBoundry.Boundary.Runtime
import AuthBoundry.Runtime.Decisions

/-!
# What the boundary admits

An enforced capability is admitted when its request is authenticated and the
path it takes through the runtime allows it.  The lemmas below say, for each
path, what that amounts to in terms of rules, delegations and runs.
-/

namespace AuthBoundry

open Library
open Library.Stateful

namespace AuthPortRuntime

def Allows (program : BoundaryM AuthorizationDecision)
    (self : AuthPortRuntime) : Prop :=
  ∃ decision after, program self = .ok decision after ∧
    decision.isAllowed = true

theorem allows_congr {first second : BoundaryM AuthorizationDecision}
    {self : AuthPortRuntime} (same : first self = second self) :
    Allows first self ↔ Allows second self := by
  unfold Allows
  rw [same]

def Admits (environment : Environment) (self : AuthPortRuntime)
    (request : BoundaryRequest) (requirement : Requirement) (now : Int) :
    Prop :=
  ∃ context after,
    enforce environment request requirement now self = .ok context after

variable {environment : Environment} {self : AuthPortRuntime}
  {context : AuthContext} {now : Int}

theorem authenticate_resolved {request : BoundaryRequest}
    (authenticated : self.authenticate environment request now =
      .ok context) :
    ∃ tenantId sessionId session,
      self.mesh.resolveSession environment tenantId sessionId now =
        .ok (session, context.runtime) := by
  unfold authenticate at authenticated
  cases presented : request.credential with
  | none => simp [presented] at authenticated
  | some credential =>
      simp only [presented] at authenticated
      obtain ⟨⟨session, runtime⟩, resolved, authenticated⟩ :=
        except_bind_eq_ok_iff.mp authenticated
      obtain ⟨_, _, finished⟩ := except_bind_eq_ok_iff.mp authenticated
      cases finished
      exact ⟨_, _, session, resolved⟩

theorem authenticate_ok {request : BoundaryRequest}
    (authenticated : self.authenticate environment request now =
      .ok context) :
    ∃ policy, self.mesh.policy context.tenant = .ok policy ∧
      Accepted policy context.principal context.tenant := by
  obtain ⟨_, _, _, resolved⟩ := authenticate_resolved authenticated
  exact AuthMesh.resolveSession_accepted resolved

/-! ## By name alone -/

/-- The policy that decides by name grants the capability: the live policy of
the capability with the delegation of the context, or without one the tenant's
policy with the delegation that is picked. -/
def HoldsByName (environment : Environment) (self : AuthPortRuntime)
    (context : AuthContext) (capability : String) (now : Int) : Prop :=
  match self.authority.capabilityPolicies[capability]? with
  | some policy =>
      Accepted policy context.principal context.tenant ∧
        HoldsBy environment.systemTime policy context.principal context.tenant
          context.delegation ⟨capability⟩ now
  | none =>
      environment.auditFault self.mesh.auditSequence = none ∧
        ∃ policy, self.mesh.policy context.tenant = .ok policy ∧
          Accepted policy context.principal context.tenant ∧
          HoldsBy environment.systemTime policy context.principal
            context.tenant
            (pickDelegation
              (self.mesh.delegationsFor context.tenant context.principal.id)
              ⟨capability⟩ now) ⟨capability⟩ now

theorem authorize_allows_iff {capability : String} :
    Allows (authorize environment context capability now) self ↔
      isBlank capability = false ∧
        HoldsByName environment self context capability now := by
  unfold Allows authorize HoldsByName
  by_cases blank : isBlank capability = true
  · simp [blank]
  · rw [if_neg blank, and_iff_right (by simpa using blank)]
    cases self.authority.capabilityPolicies[capability]? with
    | some policy =>
        simp only [← evaluateCapability_isAllowed_iff]
        constructor
        · intro allowed
          obtain ⟨_, _, returned, allowed⟩ := allowed
          cases returned
          exact allowed
        · intro allowed
          exact ⟨_, _, rfl, allowed⟩
    | none =>
        constructor
        · intro allowed
          obtain ⟨_, _, returned, allowed⟩ := allowed
          cases returned
          exact AuthMesh.authorize_isAllowed_iff.mp allowed
        · intro held
          exact ⟨_, _, rfl, AuthMesh.authorize_isAllowed_iff.mpr held⟩

/-! ## By resource -/

/-- The tenant's policy allows the request with the delegation that is picked,
and the log takes the decision. -/
def AllowsResource (environment : Environment) (self : AuthPortRuntime)
    (context : AuthContext) (request : AuthorizationRequest) (now : Int) :
    Prop :=
  environment.auditFault self.mesh.auditSequence = none ∧
    ∃ policy, self.mesh.policy context.tenant = .ok policy ∧
      RequestAccepted policy context.principal context.tenant request
        (self.resourceAttributes request) ∧
      MayDo environment.systemTime policy context.principal context.tenant
        (pickDelegation
          (self.mesh.delegationsFor context.tenant context.principal.id)
          request.capability now) request (self.resourceAttributes request) now

theorem authorizeResource_allows_iff {request : AuthorizationRequest} :
    Allows (authorizeResource environment context request now) self ↔
      isBlank request.capability.value = false ∧
        AllowsResource environment self context request now := by
  unfold Allows authorizeResource AllowsResource
  by_cases blank : isBlank request.capability.value = true
  · simp [blank]
  · rw [if_neg blank, and_iff_right (by simpa using blank)]
    constructor
    · intro allowed
      obtain ⟨_, _, returned, allowed⟩ := allowed
      cases returned
      exact AuthMesh.authorizeRequest_isAllowed_iff.mp allowed
    · intro granted
      exact ⟨_, _, rfl, AuthMesh.authorizeRequest_isAllowed_iff.mpr granted⟩

theorem authorizeRunResource_allows_iff {runId : RunId}
    {request : AuthorizationRequest} :
    Allows (authorizeRunResource environment context runId request now) self ↔
      isBlank request.capability.value = false ∧
        (∃ run, self.mesh.checkedRunForRequest context.runtime runId request
          (self.resourceAttributes request) now = .ok run) ∧
        AllowsResource environment self context request now := by
  unfold Allows authorizeRunResource AllowsResource
  by_cases blank : isBlank request.capability.value = true
  · simp [blank]
  · rw [if_neg blank, and_iff_right (by simpa using blank)]
    constructor
    · intro allowed
      obtain ⟨_, _, returned, allowed⟩ := allowed
      cases returned
      obtain ⟨inRun, allowed⟩ :=
        AuthMesh.authorizeRunRequest_isAllowed_iff.mp allowed
      exact ⟨inRun, AuthMesh.authorizeRequest_isAllowed_iff.mp allowed⟩
    · intro both
      obtain ⟨inRun, granted⟩ := both
      exact ⟨_, _, rfl, AuthMesh.authorizeRunRequest_isAllowed_iff.mpr
        ⟨inRun, AuthMesh.authorizeRequest_isAllowed_iff.mpr granted⟩⟩

/-! ## Enforcing a capability -/

/-- The run that a request names, if it names one, is one in which its agent
may make the request. -/
def RunAdmits (self : AuthPortRuntime) (context : AuthContext)
    (request : BoundaryRequest) (authRequest : AuthorizationRequest)
    (now : Int) : Prop :=
  match self.runIdFromRequest context request with
  | .error _ => False
  | .ok none => True
  | .ok (some runId) =>
      ∃ run, self.mesh.checkedRunForRequest context.runtime runId authRequest
        (self.resourceAttributes authRequest) now = .ok run

theorem decide_allows_by_name_iff {capability : String}
    {request : BoundaryRequest}
    (untargeted :
      authorizationRequest context.runtime capability request = none) :
    Allows (decide environment context capability request now) self ↔
      isBlank capability = false ∧
        HoldsByName environment self context capability now := by
  unfold decide
  rw [untargeted]
  exact authorize_allows_iff

theorem authorizationRequest_capability {context : RuntimeContext}
    {capability : String} {request : BoundaryRequest}
    {authRequest : AuthorizationRequest}
    (targeted :
      authorizationRequest context capability request = some authRequest) :
    authRequest.capability = ⟨capability⟩ := by
  obtain ⟨_, _, rfl⟩ := Option.map_eq_some_iff.mp targeted
  rfl

theorem decide_allows_resource_iff {capability : String}
    {request : BoundaryRequest} {authRequest : AuthorizationRequest}
    (targeted : authorizationRequest context.runtime capability request =
      some authRequest) :
    Allows (decide environment context capability request now) self ↔
      isBlank capability = false ∧
        RunAdmits self context request authRequest now ∧
        AllowsResource environment self context authRequest now := by
  have names : authRequest.capability.value = capability := by
    rw [authorizationRequest_capability targeted]
  unfold RunAdmits
  cases found : self.runIdFromRequest context request with
  | error err =>
      have stopped : decide environment context capability request now self =
          .error err self := by
        simp only [decide, targeted, bind_apply, inspect, found]
      simp [Allows, stopped]
  | ok named =>
      cases named with
      | none =>
          have continued : decide environment context capability request now
              self = authorizeResource environment context authRequest now
              self := by
            simp only [decide, targeted, bind_apply, inspect, found]
          rw [allows_congr continued, authorizeResource_allows_iff, names]
          simp
      | some runId =>
          have continued : decide environment context capability request now
              self = authorizeRunResource environment context runId
              authRequest now self := by
            simp only [decide, targeted, bind_apply, inspect, found]
          rw [allows_congr continued, authorizeRunResource_allows_iff, names]

theorem enforce_capability_eq_ok_iff {capability : String}
    {request : BoundaryRequest} {result : Option AuthContext}
    {after : AuthPortRuntime} :
    enforce environment request (.capability capability) now self =
        .ok result after ↔
      ∃ context decision,
        self.authenticate environment request now = .ok context ∧
        decide environment context capability request now self =
          .ok decision after ∧
        decision.isAllowed = true ∧
        result = some (context.withDecision decision) := by
  unfold enforce
  dsimp only
  constructor
  · intro admitted
    obtain ⟨context, middle, inspected, continued⟩ :=
      bind_eq_ok_iff.mp admitted
    obtain ⟨authenticated, same⟩ := inspect_eq_ok_iff.mp inspected
    rw [same] at continued
    obtain ⟨decision, final, decided, finished⟩ :=
      bind_eq_ok_iff.mp continued
    cases decision with
    | allow =>
        cases finished
        exact ⟨context, _, authenticated, decided, rfl, rfl⟩
    | deny => cases finished
  · intro grounds
    obtain ⟨context, decision, authenticated, decided, allowed, rfl⟩ :=
      grounds
    refine bind_eq_ok_iff.mpr ⟨context, self,
      inspect_eq_ok_iff.mpr ⟨authenticated, rfl⟩,
      bind_eq_ok_iff.mpr ⟨decision, after, decided, ?_⟩⟩
    cases decision with
    | allow => rfl
    | deny => cases allowed

theorem admits_capability_iff {capability : String}
    {request : BoundaryRequest} :
    Admits environment self request (.capability capability) now ↔
      ∃ context, self.authenticate environment request now = .ok context ∧
        Allows (decide environment context capability request now) self := by
  unfold Admits Allows
  simp only [enforce_capability_eq_ok_iff]
  constructor
  · intro admitted
    obtain ⟨_, after, context, decision, authenticated, decided, allowed, _⟩ :=
      admitted
    exact ⟨context, authenticated, decision, after, decided, allowed⟩
  · intro grounds
    obtain ⟨context, authenticated, decision, after, decided, allowed⟩ :=
      grounds
    exact ⟨_, after, context, decision, authenticated, decided, allowed, rfl⟩

/-! ## Authenticated contexts -/

/-- The deployment's resolver leaves the resource in the tenant. -/
def InTenant (self : AuthPortRuntime) (context : AuthContext)
    (authRequest : AuthorizationRequest) : Prop :=
  ∀ resource, authRequest.resource = some resource →
    resolvedTenant resource (self.resourceAttributes authRequest) =
      context.tenant.tenantId

theorem requestAccepted_inferred_iff {policy other : Policy}
    {capability : String} {request : BoundaryRequest}
    {authRequest : AuthorizationRequest}
    (accepted : Accepted policy context.principal context.tenant)
    (targeted : authorizationRequest context.runtime capability request =
      some authRequest) :
    RequestAccepted other context.principal context.tenant authRequest
        (self.resourceAttributes authRequest) ↔
      other.id = context.tenant.policyId ∧
        self.InTenant context authRequest := by
  obtain ⟨_, _, inferred⟩ := Option.map_eq_some_iff.mp targeted
  have own : authRequest.principal = context.principal.id ∧
      authRequest.tenant = context.tenant.tenantId := by
    rw [← inferred]
    exact ⟨rfl, rfl⟩
  constructor
  · intro facts
    exact ⟨facts.samePolicy, facts.resourceTenant⟩
  · intro facts
    exact
      { sameTenant := accepted.sameTenant
        samePolicy := facts.1
        active := accepted.active
        samePrincipal := own.1.symm
        requestTenant := own.2.symm
        resourceTenant := facts.2 }

def NameGrants (environment : Environment) (self : AuthPortRuntime)
    (context : AuthContext) (policy : Policy) (capability : String)
    (now : Int) : Prop :=
  match self.authority.capabilityPolicies[capability]? with
  | some live =>
      live.id = context.tenant.policyId ∧
        HoldsBy environment.systemTime live context.principal context.tenant
          context.delegation ⟨capability⟩ now
  | none =>
      environment.auditFault self.mesh.auditSequence = none ∧
        HoldsBy environment.systemTime policy context.principal context.tenant
          (pickDelegation
            (self.mesh.delegationsFor context.tenant context.principal.id)
            ⟨capability⟩ now) ⟨capability⟩ now

theorem holdsByName_iff {policy : Policy} {capability : String}
    (found : self.mesh.policy context.tenant = .ok policy)
    (accepted : Accepted policy context.principal context.tenant) :
    HoldsByName environment self context capability now ↔
      NameGrants environment self context policy capability now := by
  unfold HoldsByName NameGrants
  cases self.authority.capabilityPolicies[capability]? with
  | some live =>
      constructor
      · intro held
        exact ⟨held.1.samePolicy, held.2⟩
      · intro held
        exact ⟨⟨accepted.sameTenant, held.1, accepted.active⟩, held.2⟩
  | none =>
      simp only [found, Except.ok.injEq, exists_eq_left']
      rw [and_iff_right accepted]

theorem allowsResource_iff {policy : Policy} {capability : String}
    {request : BoundaryRequest} {authRequest : AuthorizationRequest}
    (found : self.mesh.policy context.tenant = .ok policy)
    (accepted : Accepted policy context.principal context.tenant)
    (targeted : authorizationRequest context.runtime capability request =
      some authRequest) :
    AllowsResource environment self context authRequest now ↔
      environment.auditFault self.mesh.auditSequence = none ∧
        self.InTenant context authRequest ∧
        MayDo environment.systemTime policy context.principal context.tenant
          (pickDelegation
            (self.mesh.delegationsFor context.tenant context.principal.id)
            authRequest.capability now) authRequest
          (self.resourceAttributes authRequest) now := by
  unfold AllowsResource
  simp only [found, Except.ok.injEq, exists_eq_left',
    requestAccepted_inferred_iff accepted targeted, accepted.samePolicy,
    true_and]

end AuthPortRuntime

end AuthBoundry
