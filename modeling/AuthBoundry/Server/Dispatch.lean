import AuthBoundry.Boundary.ClientContext
import AuthBoundry.Server.ControlRoutes
import AuthBoundry.Server.DecisionJson
import AuthBoundry.Server.Requests
import AuthBoundry.Server.Server
import AuthBoundry.Surface.Routes

/-!
# Serving one request

A request goes past the studio, the client script and the control plane to the
route table of the surface, and only then to the application.  What is rendered
without a decision (a page, a list of providers), what the studio does and what
the other handlers of the control plane do are parameters of the server.
-/

namespace AuthBoundry

open Library
open Library.Stateful

/-! ## Responses -/

namespace HttpResponse

def withSessionCookie (self : HttpResponse) (value : String) : HttpResponse :=
  self.withHeader "set-cookie"
    (sessionCookie ++ "=" ++ value ++ "; Path=/; HttpOnly; SameSite=Lax")

def clearingSessionCookie (self : HttpResponse) : HttpResponse :=
  self.withHeader "set-cookie"
    (sessionCookie ++ "=; Path=/; HttpOnly; SameSite=Lax; Max-Age=0")

end HttpResponse

/-- What is rendered from the state as it is. -/
inductive Page where
  | login
  | signup
  | passwordForgot
  | passwordReset
  | passwordPolicy
  | providers
  deriving DecidableEq, Repr

structure StudioController (Accounts : Type) where
  page : Option String
  handle : HttpRequest → CredentialRuntime Accounts →
    Option (HttpResponse × CredentialRuntime Accounts)

/-- The server with everything that its dispatch uses. -/
structure Frontend (Accounts : Type) where
  runtime : CredentialRuntime Accounts
  app : ApplicationBinding
  studioPage : Option String
  studio : Option (StudioController Accounts)
  render : Page → CredentialRuntime Accounts → HttpResponse
  control : ControlRoute → HttpRequest → CredentialRuntime Accounts →
    HttpResponse × CredentialRuntime Accounts

namespace Frontend

variable {Accounts : Type} (environment : CredentialEnvironment Accounts)

/-- The answer to a program, and the state it leaves. -/
def answer {α : Type} (self : Frontend Accounts)
    (program : CredentialM Accounts α) (respond : α → HttpResponse) :
    HttpResponse × Frontend Accounts :=
  match program self.runtime with
  | .ok value runtime => (respond value, { self with runtime })
  | .error err runtime => (denial err, { self with runtime })

/-- The caller of a request, as its session shows it. -/
def authenticate (self : Frontend Accounts) (request : BoundaryRequest) :
    Except AuthError AuthContext :=
  self.runtime.control.runtime.authenticate
    (environment.meshEnvironment self.runtime.accounts) request
    (environment.clock 0)

/-- An answer for authenticated callers only. -/
def whenAuthenticated (self : Frontend Accounts) (request : BoundaryRequest)
    (respond : AuthContext → HttpResponse) :
    HttpResponse × Frontend Accounts :=
  match self.authenticate environment request with
  | .ok context => (respond context, self)
  | .error err => (denial err, self)

/-! ## The control plane -/

def explainJson (decisions : List AuthorizationEvidence) : JsonValue :=
  .object
    [("latest_decision", (decisions.getLast?.map decisionJson).getD .null),
      ("message",
        .string
          "authorization explanations are derived from structured decisions")]

/-- The handlers that show policies and decisions ask nobody who they are. -/
def handleControlRoute (self : Frontend Accounts) (route : ControlRoute)
    (http : HttpRequest) : HttpResponse × Frontend Accounts :=
  let mesh := self.runtime.mesh
  match route with
  | .policies =>
      (.okJson (policiesJson self.runtime.authority mesh.config), self)
  | .authorizationDecisions =>
      (.okJson
        (.object [("decisions", .array (mesh.decisions.map decisionJson))]),
        self)
  | .authorizationExplain => (.okJson (explainJson mesh.decisions), self)
  | route =>
      let (response, runtime) := self.control route http self.runtime
      (response, { self with runtime })

/-! ## The surface -/

/-- A credential flow that ends with a session or a challenge. -/
def complete (self : Frontend Accounts)
    (program : CredentialM Accounts SignInOutcome) :
    HttpResponse × Frontend Accounts :=
  self.answer program fun outcome =>
    match outcome with
    | .authenticated context credential =>
        (HttpResponse.json 200 context.project.toJson).withSessionCookie
          credential.encode
    | .challenge challenge =>
        .json 202
          ("\x7b\"challenge\": \x7b\"connector\": \"" ++
            escape challenge.connector ++ "\", \"state\": \"" ++
            escape challenge.state ++ "\"\x7d\x7d")

def signOutAnswer (self : Frontend Accounts) (request : BoundaryRequest) :
    HttpResponse × Frontend Accounts :=
  self.answer (CredentialRuntime.signOut environment request) fun _ =>
    (HttpResponse.json 200 "\x7b\"signed_out\": true\x7d").clearingSessionCookie

def accepted : HttpResponse := .json 202 "\x7b\"accepted\": true\x7d"

/-- No session is not an error page: it is "you are nobody". -/
def sessionAnswer (self : Frontend Accounts) (request : BoundaryRequest) :
    HttpResponse × Frontend Accounts :=
  match self.authenticate environment request with
  | .ok context => (.json 200 context.project.toJson, self)
  | .error _ => (.json 401 ClientAuthContext.anonymousJson, self)

def sessionsJson (context : AuthContext) : String :=
  "\x7b\"sessions\": [\x7b\"id\": \"" ++ escape context.session.id.value ++
    "\", \"principal\": \"" ++ escape context.principal.id.value ++
    "\", \"tenant\": \"" ++ escape context.tenant.tenantId.value ++
    "\"\x7d]\x7d"

def profileJson (context : AuthContext) : String :=
  "\x7b\"profile\": \x7b\"principal\": \"" ++
    escape context.principal.id.value ++ "\", \"tenant\": \"" ++
    escape context.tenant.tenantId.value ++
    "\", \"application_profile_ref\": null\x7d\x7d"

def devicesJson (context : AuthContext) : String :=
  "\x7b\"devices\": [], \"principal\": \"" ++
    escape context.principal.id.value ++ "\"\x7d"

def currentTenantJson (context : AuthContext) : String :=
  "\x7b\"tenant\": \x7b\"id\": \"" ++ escape context.tenant.tenantId.value ++
    "\", \"namespace\": \"" ++ escape context.tenant.tenantNamespace ++
    "\"\x7d\x7d"

/-- A principal is told about its own tenant and no other. -/
def tenantsJson (context : AuthContext) : String :=
  "\x7b\"tenants\": [\x7b\"id\": \"" ++
    escape context.tenant.tenantId.value ++ "\"\x7d]\x7d"

def decisionAnswer (capability : String) :
    AuthorizationDecision → HttpResponse
  | .allow grant .. =>
      let delegation :=
        match grant.delegationId with
        | some id => "\"" ++ escape id.value ++ "\""
        | none => "null"
      .json 200
        ("\x7b\"allowed\": true, \"capability\": \"" ++ escape capability ++
          "\", \"principal\": \"" ++ escape grant.principalId.value ++
          "\", \"authority\": \"" ++ grant.authority.asStr ++
          "\", \"delegation\": " ++ delegation ++ "\x7d")
  | .deny reason .. =>
      .json 200
        ("\x7b\"allowed\": false, \"capability\": \"" ++ escape capability ++
          "\", \"reason\": \"" ++ reason.asStr ++ "\"\x7d")

/-- The question of `handleAuthorize`, in the run that the request names. -/
def authorizeProgram (context : AuthContext) (capability : String)
    (request : BoundaryRequest) (outside : Environment) :
    BoundaryM AuthorizationDecision := do
  let named ← inspect fun runtime => runtime.runIdFromRequest context request
  match named with
  | some runId =>
      AuthPortRuntime.authorizeRunResource outside context runId
        { principal := context.principal.id
          tenant := context.tenant.tenantId
          capability := ⟨capability⟩
          action := ⟨"authorize"⟩
          resource := none
          context := .default }
        (environment.clock 1)
  | none =>
      AuthPortRuntime.authorize outside context capability
        (environment.clock 1)

def handleAuthorize (self : Frontend Accounts) (request : BoundaryRequest) :
    HttpResponse × Frontend Accounts :=
  match self.authenticate environment request with
  | .error err => (denial err, self)
  | .ok context =>
      match request.field "capability" with
      | none =>
          (.denied 400 "missing_capability" "no capability named", self)
      | some capability =>
          let program := authorizeProgram environment context capability
            request (environment.meshEnvironment self.runtime.accounts)
          self.answer
            (onPart (fun runtime => runtime.control.runtime)
              (fun runtime part =>
                runtime.changeControl { runtime.control with runtime := part })
              program)
            (decisionAnswer capability)

def agentStateText : Option AgentState → String
  | some .created => "created"
  | some .active => "active"
  | some .revoked => "revoked"
  | some .suspended => "suspended"
  | some .retired => "retired"
  | none => "unknown"

def agentText (principal : Principal) : String :=
  "\x7b\"id\": \"" ++ escape principal.id.value ++ "\", \"state\": \"" ++
    agentStateText principal.agentState ++ "\"\x7d"

def agentsJson (mesh : AuthMesh) (context : AuthContext) : String :=
  let agents := mesh.stores.principals.principals.values.filter
    fun principal => principal.tenantId == context.tenant.tenantId &&
      principal.kind == .agent
  "\x7b\"agents\": [" ++ ", ".intercalate (agents.map agentText) ++ "]\x7d"

def delegationText (delegation : Delegation) : String :=
  "\x7b\"id\": \"" ++ escape delegation.id.value ++
    "\", \"delegated_by\": \"" ++ escape delegation.delegator.value ++
    "\", \"expires_at\": " ++
    ((delegation.expiresAt.map toString).getD "null") ++ ", \"revoked\": " ++
    toString delegation.revokedAt.isSome ++ "\x7d"

def delegationsJson (mesh : AuthMesh) (context : AuthContext) : String :=
  let delegations := mesh.delegationsFor context.tenant context.principal.id
  "\x7b\"delegations\": [" ++
    ", ".intercalate (delegations.map delegationText) ++ "]\x7d"

/-- A list that may be read by a session but not changed. -/
def readOnly (request : BoundaryRequest) (refusal : String)
    (list : String) : HttpResponse :=
  if request.method != .get then
    .denied 501 "not_enabled" refusal
  else
    .json 200 list

def handleAgents (self : Frontend Accounts) (request : BoundaryRequest) :
    HttpResponse × Frontend Accounts :=
  self.whenAuthenticated environment request fun context =>
    readOnly request
      ("agent lifecycle changes are not exposed over HTTP by this " ++
        "deployment")
      (agentsJson self.runtime.mesh context)

def handleDelegations (self : Frontend Accounts) (request : BoundaryRequest) :
    HttpResponse × Frontend Accounts :=
  self.whenAuthenticated environment request fun context =>
    readOnly request
      "delegation changes are not exposed over HTTP by this deployment"
      (delegationsJson self.runtime.mesh context)

/-- What verifies an address: the token of a request that has one, or a new
mail. -/
def emailProgram (request : BoundaryRequest) : CredentialM Accounts Unit :=
  if (request.field "token").isSome then
    CredentialRuntime.verifyEmail environment request
  else
    CredentialRuntime.requestEmailVerification environment request

def handleAuthRoute (self : Frontend Accounts) (route : AuthRoute)
    (request : BoundaryRequest) : HttpResponse × Frontend Accounts :=
  let page (page : Page) := (self.render page self.runtime, self)
  let shown (text : AuthContext → String) :=
    self.whenAuthenticated environment request fun context =>
      .json 200 (text context)
  match route.operation with
  | .login =>
      if request.method == .get then page .login
      else self.complete (CredentialRuntime.signIn environment request)
  | .signup =>
      if request.method == .get then page .signup
      else self.complete (CredentialRuntime.signUp environment request)
  | .passwordChange =>
      self.answer (CredentialRuntime.changePassword environment request)
        fun _ => .json 200 "\x7b\"changed\": true\x7d"
  | .passwordForgot =>
      if request.method == .get then page .passwordForgot
      else
        -- Whether the program failed does not cross this boundary.
        let (_, after) := self.answer
          (CredentialRuntime.forgotPassword environment request)
          fun _ => accepted
        (accepted, after)
  | .passwordReset =>
      if request.method == .get then page .passwordReset
      else
        self.answer (CredentialRuntime.resetPassword environment request)
          fun _ => .json 200 "\x7b\"reset\": true\x7d"
  | .passwordPolicy => page .passwordPolicy
  | .logout => self.signOutAnswer environment request
  | .session =>
      if request.method == .delete then self.signOutAnswer environment request
      else self.sessionAnswer environment request
  | .sessions => shown sessionsJson
  | .profile => shown profileJson
  | .devices => shown devicesJson
  | .emailVerification =>
      self.answer (emailProgram environment request) fun _ => accepted
  | .mfa | .passkeys | .recovery =>
      (.denied 501 "not_enabled"
        "experience is modeled but no provider implementation is enabled",
        self)
  | .providers => page .providers
  | .authorize => self.handleAuthorize environment request
  | .policies | .authorizationDecisions | .authorizationExplain =>
      (.denied 404 "no_route" "control-plane route was not handled", self)
  | .currentTenant => shown currentTenantJson
  | .tenants => shown tenantsJson
  | .agents => self.handleAgents environment request
  | .delegations => self.handleDelegations environment request
  | .accountLinks =>
      (.denied 501 "not_enabled"
        "account linking is not exposed by this deployment", self)

/-! ## Dispatch -/

def studioAnswer (self : Frontend Accounts) (request : BoundaryRequest) :
    Option HttpResponse :=
  if request.method == .get && request.path == "/_authboundry/studio" then
    ((self.studio.bind StudioController.page).or self.studioPage).map
      (HttpResponse.html 200)
  else
    none

def studioHandles (self : Frontend Accounts) (http : HttpRequest) :
    Option (HttpResponse × CredentialRuntime Accounts) :=
  if startsWith "/_authboundry/application" http.toBoundary.path then
    self.studio.bind fun controller => controller.handle http self.runtime
  else
    none

def controlHandles (request : BoundaryRequest) : Option ControlRoute :=
  if startsWith "/_authboundry/" request.path then
    controlRoute request.method request.path
  else
    none

variable (script : List UInt8)

/-- What follows the control plane: the surface, then the application. -/
def handleRoute (self : Frontend Accounts) (request : BoundaryRequest) :
    HttpResponse × Frontend Accounts :=
  match self.runtime.mesh.config.route request.path with
  | some route =>
      if ((AuthMethod.parse request.method.asStr).map route.allows).getD
          false then
        self.handleAuthRoute environment route request
      else
        (.denied 405 "method_not_allowed" "unsupported method", self)
  | none =>
      if startsWith "/auth/" request.path then
        (.denied 404 "unsupported_experience"
          "auth experience is not exposed by this contract", self)
      else
        let server : AuthPortServer :=
          { runtime := self.runtime.control.runtime, app := self.app }
        let (response, after) := server.handleApplication
          (environment.meshEnvironment self.runtime.accounts) request
          (environment.clock 0)
        (response,
          { self with
            runtime := self.runtime.changeControl
              { self.runtime.control with runtime := after.runtime } })

/-- Serve one request; `script` is the text of the client library. -/
def handle (self : Frontend Accounts) (http : HttpRequest) :
    HttpResponse × Frontend Accounts :=
  let request := http.toBoundary
  match self.studioAnswer request with
  | some response => (response, self)
  | none =>
  match self.studioHandles http with
  | some (response, runtime) => (response, { self with runtime })
  | none =>
  if request.path == "/authboundry/client.js" then
    (.new 200 "application/javascript" script, self)
  else
  match controlHandles request with
  | some route => self.handleControlRoute route http
  | none => self.handleRoute environment request

end Frontend

end AuthBoundry
