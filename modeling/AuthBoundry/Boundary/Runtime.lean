import AuthBoundry.Boundary.Control
import AuthBoundry.Runtime.Accounts
import AuthBoundry.Runtime.Authorize

/-!
# The boundary runtime

Every request passes `enforce`.  It reads the context back from the session,
infers what the request touches, and asks the mesh; only where nothing is
inferred does it ask by capability alone, and only there is the live policy of
the capability consulted.
-/

namespace AuthBoundry

open Library
open Library.Stateful

/-- What a route demands of a caller. -/
inductive Requirement where
  | publicAccess
  | authenticated
  | capability (name : String)
  deriving DecidableEq, Repr

/-- The authority of a request, read back from its session. -/
structure AuthContext where
  session : Session
  decision : Option AuthorizationDecision
  runtime : RuntimeContext
  deriving DecidableEq

namespace AuthContext

def new (session : Session) (runtime : RuntimeContext) : AuthContext :=
  { session, decision := none, runtime }

def principal (self : AuthContext) : Principal := self.runtime.principal

def tenant (self : AuthContext) : TenantContext := self.runtime.tenant

def delegation (self : AuthContext) : Option Delegation :=
  self.runtime.delegation

def withDecision (self : AuthContext) (decision : AuthorizationDecision) :
    AuthContext :=
  { self with decision := some decision }

end AuthContext

abbrev ResourceResolver :=
  ResourceRef → AuthorizationContext → ResourceAttributes

/-- The resolver of a deployment that configures none. -/
def noResourceResolver : ResourceResolver := fun resource _ =>
  ResourceAttributes.new.withTenant resource.tenantId

structure AuthPortRuntime where
  mesh : AuthMesh
  resourceResolver : ResourceResolver
  authority : LiveAuthorityState

/-- Programs over the runtime. -/
abbrev BoundaryM := EStateM AuthError AuthPortRuntime

def noCapabilityNamed : AuthError :=
  { stage := .policyEvaluation
    message := "no capability named"
    denial := .unknownCapability }

def singularResource (resource : String) : String :=
  (((stripFinish "ies" resource).map (· ++ "y")).or
    (stripFinish "s" resource)).getD resource

/-- The type, the id and the action a request is taken to be about. -/
def inferResourceTarget (method : Method) (path : String) :
    Option (String × String × Action) :=
  match segmentsOf '/' path with
  | [] => none
  | first :: rest =>
      if first == "auth" || first == "_authport" then
        none
      else
        let action : Option String :=
          match method with
          | .get => some "read"
          | .post => some "create"
          | .put | .patch => some "update"
          | .delete => some "delete"
          | .head | .options => none
        action.map fun action =>
          (singularResource first, rest.headD "*", ⟨action⟩)

def authorizationRequest (context : RuntimeContext) (capability : String)
    (request : BoundaryRequest) : Option AuthorizationRequest :=
  (inferResourceTarget request.method request.path).map
    fun (resourceType, resourceId, action) =>
      { principal := context.principal.id
        tenant := context.tenant.tenantId
        capability := ⟨capability⟩
        action
        resource :=
          some { resourceType, resourceId, tenantId := context.tenant.tenantId }
        context := .default }

namespace AuthPortRuntime

def authenticate (environment : Environment) (self : AuthPortRuntime)
    (request : BoundaryRequest) (now : Int) : Except AuthError AuthContext :=
  match request.credential with
  | none =>
      .error
        { stage := .sessionValidation
          message := "no session credential"
          denial := .missingCredential }
  | some credential => do
      let (session, context) ← self.mesh.resolveSession environment
        credential.tenantId credential.sessionId now
      -- A tenant hint is only ever compared with the session's own tenant.
      refuseIf
        ((request.tenantHint.map fun hint =>
          hint != context.tenant.tenantId.value).getD false)
        { stage := .tenantResolution
          message := "request addresses a tenant the session does not belong to"
          denial := .tenantMismatch }
      .ok (.new session context)

/-- Decide a capability by name alone. -/
def authorize (environment : Environment) (context : AuthContext)
    (capability : String) (now : Int) : BoundaryM AuthorizationDecision :=
  fun self =>
    if isBlank capability then
      .error noCapabilityNamed self
    else
      match self.authority.capabilityPolicies[capability]? with
      | some policy =>
          .ok
            (evaluateCapability environment.systemTime (some policy)
              (some context.principal) (some context.tenant)
              context.delegation ⟨capability⟩ now)
            self
      | none =>
          let (decision, mesh) :=
            self.mesh.authorizeWithAuthorityRevision environment
              context.runtime ⟨capability⟩ now self.authority.revision
          .ok decision { self with mesh }

/-- What the deployment's resolver says about the resource of a request. -/
def resourceAttributes (self : AuthPortRuntime)
    (request : AuthorizationRequest) : Option ResourceAttributes :=
  request.resource.map fun resource =>
    self.resourceResolver resource request.context

def authorizeResource (environment : Environment) (context : AuthContext)
    (request : AuthorizationRequest) (now : Int) :
    BoundaryM AuthorizationDecision := fun self =>
  if isBlank request.capability.value then
    .error noCapabilityNamed self
  else
    let (decision, mesh) :=
      self.mesh.authorizeRequestWithAuthorityRevision environment
        context.runtime request (self.resourceAttributes request) now
        self.authority.revision
    .ok decision { self with mesh }

def authorizeRunResource (environment : Environment) (context : AuthContext)
    (runId : RunId) (request : AuthorizationRequest) (now : Int) :
    BoundaryM AuthorizationDecision := fun self =>
  if isBlank request.capability.value then
    .error noCapabilityNamed self
  else
    let (decision, mesh) :=
      self.mesh.authorizeRunRequestWithAuthorityRevision environment
        context.runtime runId request (self.resourceAttributes request) now
        self.authority.revision
    .ok decision { self with mesh }

def runIdFromRequest (self : AuthPortRuntime) (context : AuthContext)
    (request : BoundaryRequest) : Except AuthError (Option RunId) :=
  match request.field "run_id" with
  | some runId => .ok (some ⟨runId⟩)
  | none =>
  match (request.field "execution_credential").or
      (request.field "run_credential") with
  | none => .ok none
  | some credential => do
      let tenant ← self.mesh.tenant context.tenant.tenantId.value
      match self.mesh.agentRunByCredential tenant ⟨credential⟩ with
      | some run => .ok (some run.id)
      | none =>
          .error
            { stage := .policyEvaluation
              message := "run credential was not found"
              denial := .runNotFound }

/-- The decision that `enforce` takes about a capability. -/
def decide (environment : Environment) (context : AuthContext)
    (capability : String) (request : BoundaryRequest) (now : Int) :
    BoundaryM AuthorizationDecision :=
  match authorizationRequest context.runtime capability request with
  | none => authorize environment context capability now
  | some authRequest => do
      let named ← inspect fun self => self.runIdFromRequest context request
      match named with
      | some runId =>
          authorizeRunResource environment context runId authRequest now
      | none => authorizeResource environment context authRequest now

/-- The single enforcement path: resolve a request against a requirement. -/
def enforce (environment : Environment) (request : BoundaryRequest)
    (requirement : Requirement) (now : Int) :
    BoundaryM (Option AuthContext) :=
  match requirement with
  | .publicAccess =>
      inspect fun self =>
        .ok (self.authenticate environment request now).toOption
  | .authenticated =>
      inspect fun self =>
        (self.authenticate environment request now).map some
  | .capability capability => do
      let context ← inspect fun self =>
        self.authenticate environment request now
      let decision ← decide environment context capability request now
      match decision with
      | .allow .. => pure (some (context.withDecision decision))
      | .deny reason .. =>
          throw
            { stage := .policyEvaluation
              message := s!"`{capability}` is not granted to this principal"
              denial := reason }

def getRouteProtection (self : AuthPortRuntime) (method : Method)
    (path : String) : Option String :=
  self.authority.routeProtection[({ method, path } : RouteId)]?.bind
    RouteProtection.capability

end AuthPortRuntime

end AuthBoundry
