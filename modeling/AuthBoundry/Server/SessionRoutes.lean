import AuthBoundry.Boundary.PasswordRules
import AuthBoundry.Server.Dispatch

/-!
# Routes that ask for a session

The surface marks the routes that ask for a session.  This module states what
the mark promises to everybody without one, and which requests the control
plane answers all the same before the surface is asked.
-/

namespace AuthBoundry

open Library
open Library.Stateful

namespace Frontend

variable {Accounts : Type}

section Statement

variable (environment : CredentialEnvironment Accounts) (script : List UInt8)

/-- No credential of the request leads to a live session. -/
def Sessionless (self : Frontend Accounts) (request : BoundaryRequest) :
    Prop :=
  ∀ credential, request.credential = some credential → ∀ found,
    self.runtime.mesh.resolveSession
      (environment.meshEnvironment self.runtime.accounts) credential.tenantId
      credential.sessionId (environment.clock 0) ≠ .ok found

/-- The request is refused, changes nothing, and is answered alike by every
server with the same surface that refuses the caller for the same reason. -/
structure TurnsAway (server : Frontend Accounts) (http : HttpRequest) :
    Prop where
  refuses : 400 ≤ (server.handle environment script http).1.status
  keeps : (server.handle environment script http).2 = server
  conceals : ∀ other : Frontend Accounts,
    other.runtime.mesh.config.routes = server.runtime.mesh.config.routes →
      other.authenticate environment http.toBoundary =
        server.authenticate environment http.toBoundary →
      (other.handle environment script http).1 =
        (server.handle environment script http).1

end Statement

def shownPaths : List String :=
  ["/_authboundry/policies", "/_authboundry/authorization/decisions",
    "/_authboundry/authorization/explain"]

/-- The request is for a path at which the control plane answers first. -/
def IsShown (http : HttpRequest) : Prop :=
  http.method = .get ∧ http.path ∈ shownPaths

instance (http : HttpRequest) : Decidable (IsShown http) :=
  inferInstanceAs (Decidable (http.method = .get ∧ http.path ∈ shownPaths))

variable {environment : CredentialEnvironment Accounts} {script : List UInt8}
  {self : Frontend Accounts} {request : BoundaryRequest} {http : HttpRequest}
  {route : AuthRoute} {err : AuthError}

theorem Sessionless.authenticate_eq
    (sessionless : self.Sessionless environment request) :
    ∃ err, self.authenticate environment request = .error err := by
  unfold authenticate AuthPortRuntime.authenticate
  cases presented : request.credential with
  | none => exact ⟨_, rfl⟩
  | some credential =>
      cases resolved : self.runtime.control.runtime.mesh.resolveSession
          (environment.meshEnvironment self.runtime.accounts)
          credential.tenantId credential.sessionId (environment.clock 0) with
      | error err =>
          dsimp only
          rw [resolved]
          exact ⟨err, rfl⟩
      | ok found => exact absurd resolved (sessionless _ presented found)

/-! ## The way to the surface -/

theorem spelling_unclaimed {path : String} (listed : route ∈ AuthRoute.all)
    (isAt : route.isAt path = true) :
    path ≠ "/_authboundry/studio" ∧
      startsWith "/_authboundry/application" path = false ∧
      path ≠ "/authboundry/client.js" := by
  have unclaimed : ∀ route ∈ AuthRoute.all, ∀ path ∈ route.spellings,
      path ≠ "/_authboundry/studio" ∧
        startsWith "/_authboundry/application" path = false ∧
        path ≠ "/authboundry/client.js" := by
    decide +kernel
  exact unclaimed route listed path (AuthRoute.isAt_iff.mp isAt)

theorem controlHandles_sessionRoute (listed : route ∈ AuthRoute.all)
    (requires : route.requiresSession = true)
    (isAt : route.isAt request.path = true)
    (hidden : ¬(request.method = .get ∧ request.path ∈ shownPaths)) :
    controlHandles request = none := by
  have unhandled : ∀ route ∈ AuthRoute.all, route.requiresSession = true →
      ∀ path ∈ route.spellings, ∀ method ∈
          [Method.get, .post, .put, .patch, .delete, .head, .options],
        ¬(method = .get ∧ path ∈ shownPaths) →
          startsWith "/_authboundry/" path = true →
            controlRoute method path = none := by
    decide +kernel
  unfold controlHandles
  split
  · rename_i within
    apply unhandled route listed requires request.path
      (AuthRoute.isAt_iff.mp isAt) request.method _ hidden within
    cases request.method <;> decide
  · rfl

/-- What the surface does not share with the studio, the client script or the
control plane is left to it. -/
theorem handle_surface (listed : route ∈ AuthRoute.all)
    (isAt : route.isAt http.path = true)
    (unhandled : controlHandles http.toBoundary = none) :
    self.handle environment script http =
      self.handleRoute environment http.toBoundary := by
  obtain ⟨noStudio, noApplication, noScript⟩ := spelling_unclaimed listed isAt
  have noPage : self.studioAnswer http.toBoundary = none := by
    simp [studioAnswer, noStudio]
  have noStudio : self.studioHandles http = none := by
    simp [studioHandles, noApplication]
  unfold handle
  simp [noPage, noStudio, noScript, unhandled]

/-! ## Without a session -/

def methodNotAllowed : HttpResponse :=
  .denied 405 "method_not_allowed" "unsupported method"

/-- The answer of a session route to a caller who is refused. -/
def turnedAway (route : AuthRoute) (method : Method) (err : AuthError) :
    HttpResponse :=
  if ((AuthMethod.parse method.asStr).map route.allows).getD false then
    match route.operation with
    | .session =>
        if method == .delete then denial err
        else .json 401 ClientAuthContext.anonymousJson
    | .mfa | .passkeys =>
        .denied 501 "not_enabled"
          "experience is modeled but no provider implementation is enabled"
    | .accountLinks =>
        .denied 501 "not_enabled"
          "account linking is not exposed by this deployment"
    | .policies | .authorizationDecisions | .authorizationExplain =>
        .denied 404 "no_route" "control-plane route was not handled"
    | _ => denial err
  else
    methodNotAllowed

theorem denial_refuses (err : AuthError) : 400 ≤ (denial err).status := by
  have refuses : ∀ reason, 400 ≤ statusFor reason := by
    intro reason
    cases reason <;> decide
  exact refuses err.denial

theorem turnedAway_refuses (route : AuthRoute) (method : Method)
    (err : AuthError) : 400 ≤ (turnedAway route method err).status := by
  have denied := denial_refuses err
  have other : ∀ status reason message, 400 ≤ status →
      400 ≤ (HttpResponse.denied status reason message).status :=
    fun _ _ _ high => high
  unfold turnedAway
  split
  · split
    · split
      · exact denied
      · exact Nat.le_of_ble_eq_true rfl
    · exact other _ _ _ (by decide)
    · exact other _ _ _ (by decide)
    · exact other _ _ _ (by decide)
    · exact other _ _ _ (by decide)
    · exact other _ _ _ (by decide)
    · exact other _ _ _ (by decide)
    · exact denied
  · exact other _ _ _ (by decide)

theorem whenAuthenticated_error
    (fails : self.authenticate environment request = .error err)
    (respond : AuthContext → HttpResponse) :
    self.whenAuthenticated environment request respond =
      (denial err, self) := by
  unfold whenAuthenticated
  rw [fails]

theorem signOutAnswer_error
    (fails : self.authenticate environment request = .error err) :
    self.signOutAnswer environment request = (denial err, self) := by
  have stopped : CredentialRuntime.signOut environment request self.runtime =
      .error err self.runtime := by
    unfold CredentialRuntime.signOut
    rw [inspect_bind, show AuthPortRuntime.authenticate _ _ _ _ = _ from fails]
  unfold signOutAnswer answer
  rw [stopped]

theorem handleAuthorize_error
    (fails : self.authenticate environment request = .error err) :
    self.handleAuthorize environment request = (denial err, self) := by
  unfold handleAuthorize
  rw [fails]

theorem sessionAnswer_error
    (fails : self.authenticate environment request = .error err) :
    self.sessionAnswer environment request =
      (.json 401 ClientAuthContext.anonymousJson, self) := by
  unfold sessionAnswer
  rw [fails]

theorem sessionRoute_operation (listed : route ∈ AuthRoute.all)
    (requires : route.requiresSession = true) :
    route.operation ∉
      [.login, .signup, .passwordChange, .passwordForgot, .passwordReset,
        .passwordPolicy, .emailVerification, .recovery, .providers] := by
  have apart : ∀ route ∈ AuthRoute.all, route.requiresSession = true →
      route.operation ∉
        [.login, .signup, .passwordChange, .passwordForgot, .passwordReset,
          .passwordPolicy, .emailVerification, .recovery, .providers] := by
    decide
  exact apart route listed requires

theorem handleRoute_turnedAway
    (found : self.runtime.mesh.config.route request.path = some route)
    (requires : route.requiresSession = true)
    (fails : self.authenticate environment request = .error err) :
    self.handleRoute environment request =
      (turnedAway route request.method err, self) := by
  have listed := AuthRoute.mem_all (AuthConfig.route_isAt found).1
  have asks := sessionRoute_operation listed requires
  unfold handleRoute turnedAway
  rw [found]
  dsimp only
  split
  · unfold handleAuthRoute
    cases operation : route.operation with
    | login | signup | passwordChange | passwordForgot | passwordReset
    | passwordPolicy | emailVerification | recovery | providers =>
        exact absurd asks (by simp [operation])
    | logout => exact signOutAnswer_error fails
    | session =>
        dsimp only
        split
        · exact signOutAnswer_error fails
        · exact sessionAnswer_error fails
    | sessions | profile | devices | currentTenant | tenants | agents
    | delegations => exact whenAuthenticated_error fails _
    | authorize => exact handleAuthorize_error fails
    | mfa | passkeys | accountLinks | policies | authorizationDecisions
    | authorizationExplain => rfl
  · rfl

theorem handle_turnedAway
    (listed : route ∈ self.runtime.mesh.config.routes)
    (requires : route.requiresSession = true)
    (isAt : route.isAt http.path = true)
    (fails : self.authenticate environment http.toBoundary = .error err)
    (hidden : ¬IsShown http) :
    self.handle environment script http =
      (turnedAway route http.method err, self) := by
  have known := AuthRoute.mem_all listed
  rw [handle_surface known isAt
    (controlHandles_sessionRoute known requires isAt hidden)]
  exact handleRoute_turnedAway
    (AuthConfig.route_eq_some_iff.mpr ⟨listed, isAt⟩) requires fails

/-! ## What the control plane shows -/

theorem handle_shown (listed : route ∈ AuthRoute.all)
    (isAt : route.isAt http.path = true) (shown : IsShown http) :
    (self.handle environment script http).1.status = 200 := by
  obtain ⟨isGet, isShown⟩ := shown
  obtain ⟨noStudio, noApplication, noScript⟩ := spelling_unclaimed listed isAt
  have noPage : self.studioAnswer http.toBoundary = none := by
    simp [studioAnswer, noStudio]
  have noController : self.studioHandles http = none := by
    simp [studioHandles, noApplication]
  have handled : ∀ path ∈ shownPaths,
      startsWith "/_authboundry/" path = true ∧
        controlRoute .get path ∈
          [some .policies, some .authorizationDecisions,
            some .authorizationExplain] := by
    decide +kernel
  obtain ⟨within, found⟩ := handled http.path isShown
  have route :
      controlHandles http.toBoundary = controlRoute .get http.path := by
    simp [controlHandles, within, isGet]
  unfold handle
  simp only [noPage, noController, HttpRequest.toBoundary_path, noScript,
    beq_iff_eq, if_false, route]
  simp only [List.mem_cons, List.not_mem_nil, or_false] at found
  rcases found with found | found | found <;> rw [found] <;> rfl

/-- A session route turns everybody without a session away exactly when the
control plane does not answer for it. -/
theorem turnsAway_iff (listed : route ∈ self.runtime.mesh.config.routes)
    (requires : route.requiresSession = true)
    (isAt : route.isAt http.path = true)
    (sessionless : self.Sessionless environment http.toBoundary) :
    self.TurnsAway environment script http ↔ ¬IsShown http := by
  constructor
  · intro away shown
    have refuses := away.refuses
    rw [handle_shown (AuthRoute.mem_all listed) isAt shown] at refuses
    exact absurd refuses (by decide)
  · intro hidden
    obtain ⟨err, fails⟩ := sessionless.authenticate_eq
    have answered : self.handle environment script http =
        (turnedAway route http.method err, self) :=
      handle_turnedAway listed requires isAt fails hidden
    refine ⟨?_, ?_, ?_⟩
    · rw [answered]
      exact turnedAway_refuses route http.method err
    · rw [answered]
    · intro other sameSurface sameRefusal
      have otherListed : route ∈ other.runtime.mesh.config.routes := by
        rw [sameSurface]
        exact listed
      rw [answered, handle_turnedAway otherListed requires isAt
        (sameRefusal.trans fails) hidden]

end Frontend

/-! ## Decisions for everybody -/

/-- A server in front of an application without routes. -/
def bareFrontend : Frontend LocalDirectory :=
  { runtime := addressedRuntime
    app :=
      { resolve := fun _ _ => .notFound
        handle := fun _ _ => .json 200 ""
        upgrade := fun _ _ => false }
    studioPage := none
    studio := none
    render := fun _ _ => .html 200 ""
    control := fun _ _ runtime => (.json 200 "", runtime) }

/-- A request without headers, cookies and fields. -/
def anonymous (method : Method) (path : String) : HttpRequest :=
  { method, path, query := ∅, headers := ∅, cookies := ∅, body := "" }

theorem anonymous_sessionless {Accounts : Type}
    (environment : CredentialEnvironment Accounts) (self : Frontend Accounts)
    (method : Method) (path : String) :
    self.Sessionless environment (anonymous method path).toBoundary := by
  intro credential presented
  have none : (anonymous method path).toBoundary.credential = none := by
    rfl
  rw [none] at presented
  cases presented

/-- These routes are exposed by every contract. -/
theorem constantRoute_listed (config : AuthConfig) {route : AuthRoute}
    (constant : route ∈ (AuthRoute.groups.map Prod.snd).getD 14 []) :
    route ∈ config.routes :=
  List.mem_flatMap.mpr ⟨AuthRoute.groups[14], List.getElem_mem _, constant⟩

/-- Somebody without a session may not ask what is allowed. -/
theorem authorize_turnsAway :
    bareFrontend.TurnsAway mailEnvironment []
      (anonymous .post "/auth/authorize") :=
  (Frontend.turnsAway_iff
    (constantRoute_listed _ (by decide :
      AuthRoute.new "/auth/authorize" [.post] .authorize true ∈ _)) rfl
    (by decide) (anonymous_sessionless _ _ _ _)).mpr (by decide)

/-- The decisions of the past are shown to somebody without a session. -/
theorem decisions_not_turnsAway :
    ¬∀ (environment : CredentialEnvironment LocalDirectory)
        (script : List UInt8) (self : Frontend LocalDirectory)
        (http : HttpRequest),
      ∀ route ∈ self.runtime.mesh.config.routes,
        route.requiresSession = true → route.isAt http.path = true →
          self.Sessionless environment http.toBoundary →
            self.TurnsAway environment script http := by
  intro away
  have listed := constantRoute_listed bareFrontend.runtime.mesh.config
    (by decide : AuthRoute.new "/_authboundry/authorization/decisions" [.get]
      .authorizationDecisions true ∈ _)
  have refuses := (away mailEnvironment [] bareFrontend
    (anonymous .get "/_authboundry/authorization/decisions") _ listed rfl
    (by decide) (anonymous_sessionless _ _ _ _)).refuses
  rw [Frontend.handle_shown (AuthRoute.mem_all listed) (by decide)
    (by decide)] at refuses
  exact absurd refuses (by decide)

end AuthBoundry
