import AuthBoundry.Cli.ApplicationPolicy
import AuthBoundry.Library.JsonText
import AuthBoundry.Server.SessionRoutes
import AuthBoundry.Server.Upgrades

/-!
# Spellings of a path

The dispatch of a request, rules, live protections and inferred resources look
at the text of a path.  Two spellings of one path are held to the same where
none of them tells the texts apart; the rest of a decision never looks at the
path.
-/

namespace AuthBoundry

open Library

/-! ## When an application takes two paths to be the same -/

/-- A character that needs no percent encoding. -/
def isUnreserved (character : Char) : Bool :=
  character.isAlphanum || ['-', '.', '_', '~'].contains character

/-- Percent-encoded characters that need no encoding are decoded. -/
def decodeUnreserved : List Char → List Char
  | '%' :: high :: low :: rest =>
      match hexDigitValue high, hexDigitValue low with
      | some left, some right =>
          let character := Char.ofNat (16 * left + right)
          if isUnreserved character then
            character :: decodeUnreserved rest
          else
            '%' :: high :: low :: decodeUnreserved rest
      | _, _ => '%' :: decodeUnreserved (high :: low :: rest)
  | character :: rest => character :: decodeUnreserved rest
  | [] => []

/-- The segments of a path without those that stand for the same place or for
the place above, the last ones first. -/
def removeDotSegments : List String → List String → List String
  | kept, [] => kept
  | kept, segment :: rest =>
      let above :=
        if segment = "." then kept
        else if segment = ".." then kept.tail
        else segment :: kept
      if rest.isEmpty && (segment = "." || segment = "..") then
        "" :: above
      else
        removeDotSegments above rest

/-- What identifies a path that begins with a slash. -/
def normalSegments (path : String) : List String :=
  (removeDotSegments []
    (((decodeUnreserved path.toList).tail.splitOn '/').map
      String.ofList)).reverse

/-! ## What a decision looks at -/

/-- The same request for another path. -/
def BoundaryRequest.at (self : BoundaryRequest) (path : String) :
    BoundaryRequest := { self with path }

def resourceOf (method : Method) (path : String) : Option (String × String) :=
  (inferResourceTarget method path).map fun (resourceType, resourceId, _) =>
    (resourceType, resourceId)

section Texts

variable {first second : String}

theorem inferResourceTarget_congr
    (segments : (segmentsOf '/' first).take 2 = (segmentsOf '/' second).take 2)
    (method : Method) :
    inferResourceTarget method first = inferResourceTarget method second := by
  unfold inferResourceTarget
  generalize segmentsOf '/' first = left at segments
  generalize segmentsOf '/' second = right at segments
  cases left with
  | nil =>
      have empty : right = [] := by simpa using segments.symm
      rw [empty]
  | cons head left =>
      cases right with
      | nil => simp at segments
      | cons head' right =>
          simp only [List.take_succ_cons, List.cons.injEq] at segments
          obtain ⟨rfl, rests⟩ := segments
          have heads : left.head? = right.head? := by
            have firsts := congrArg List.head? rests
            simpa [List.head?_take] using firsts
          have ids : left.headD "*" = right.headD "*" := by
            rw [List.headD_eq_head?_getD, List.headD_eq_head?_getD, heads]
          simp only [ids]

variable {environment : Environment} {request : BoundaryRequest}

/-- A decision looks at a path for its resource only. -/
theorem AuthPortRuntime.enforce_congr
    (targets : inferResourceTarget request.method first =
      inferResourceTarget request.method second)
    (requirement : Requirement) (now : Int) :
    enforce environment (request.at first) requirement now =
      enforce environment (request.at second) requirement now := by
  have decisions : ∀ context capability,
      decide environment context capability (request.at first) now =
        decide environment context capability (request.at second) now := by
    intro context capability
    have requests : authorizationRequest context.runtime capability
        (request.at first) =
          authorizationRequest context.runtime capability
            (request.at second) := by
      unfold authorizationRequest BoundaryRequest.at
      dsimp only
      rw [targets]
    unfold decide
    rw [requests]
    rfl
  cases requirement with
  | publicAccess => rfl
  | authenticated => rfl
  | capability capability =>
      unfold enforce
      simp only [decisions]
      rfl

end Texts

theorem RoutePolicy.resolve_congr {policy : RoutePolicy}
    {first second : String}
    (alike : ∀ rule ∈ policy.rules,
      rule.pattern.covers first = rule.pattern.covers second)
    (method : Method) :
    policy.resolve method first = policy.resolve method second := by
  have each : ∀ (rules : List RouteRule) (pathMatched : Bool),
      (∀ rule ∈ rules,
        rule.pattern.covers first = rule.pattern.covers second) →
      resolveFrom method first pathMatched rules =
        resolveFrom method second pathMatched rules := by
    intro rules
    induction rules with
    | nil =>
        intro pathMatched _
        rfl
    | cons rule rules induction =>
        intro pathMatched alike
        rw [List.forall_mem_cons] at alike
        unfold resolveFrom
        rw [alike.1, induction pathMatched alike.2, induction true alike.2]
  exact each policy.rules false alike

/-! ## What is forwarded -/

/-- The same request for another path. -/
def HttpRequest.at (self : HttpRequest) (path : String) : HttpRequest :=
  { self with path }

theorem HttpRequest.toBoundary_at (self : HttpRequest) (path : String) :
    (self.at path).toBoundary = self.toBoundary.at path := rfl

namespace Frontend

variable {Accounts : Type} {environment : CredentialEnvironment Accounts}
  {script : List UInt8} {self : Frontend Accounts} {http : HttpRequest}

def applicationServer (self : Frontend Accounts) : AuthPortServer :=
  { runtime := self.runtime.control.runtime, app := self.app }

/-- The server answers the request neither from the studio nor with the client
script, nor from the control plane, nor as a request to the surface. -/
structure LeavesToApplication (server : Frontend Accounts)
    (http : HttpRequest) : Prop where
  page : server.studioAnswer http.toBoundary = none
  studio : server.studioHandles http = none
  script : http.path ≠ "/authboundry/client.js"
  control : controlHandles http.toBoundary = none
  surface : server.runtime.mesh.config.route http.path = none
  exposed : startsWith "/auth/" http.path = false

/-- The server hands the request to the application. -/
structure Forwards (environment : CredentialEnvironment Accounts)
    (server : Frontend Accounts) (http : HttpRequest) : Prop where
  left : server.LeavesToApplication http
  handed : AuthPortServer.HandsRequest
    (environment.meshEnvironment server.runtime.accounts)
    server.applicationServer http.toBoundary (environment.clock 0)

theorem handle_of_leaves (left : self.LeavesToApplication http) :
    (self.handle environment script http).1 =
      (self.applicationServer.handleApplication
        (environment.meshEnvironment self.runtime.accounts) http.toBoundary
        (environment.clock 0)).1 := by
  unfold handle
  simp only [left.page, left.studio, left.control, HttpRequest.toBoundary_path,
    beq_eq_false_iff_ne.mpr left.script, Bool.false_eq_true, if_false]
  unfold handleRoute
  simp only [HttpRequest.toBoundary_path, left.surface, left.exposed,
    Bool.false_eq_true, if_false]
  rfl

/-- What is forwarded gets the answer of the application. -/
theorem handle_of_forwards (forwards : self.Forwards environment http) :
    ∃ context, (self.handle environment script http).1 =
      self.app.handle http.toBoundary context := by
  obtain ⟨left, requirement, required, context, after, enforced⟩ := forwards
  refine ⟨context, (handle_of_leaves left).trans ?_⟩
  unfold AuthPortServer.handleApplication
  rw [required]
  dsimp only
  rw [enforced]
  rfl

/-! ### Other applications -/

/-- The same server before another application. -/
def withApplication (self : Frontend Accounts) (app : ApplicationBinding) :
    Frontend Accounts := { self with app }

variable {app : ApplicationBinding}

theorem answer_withApplication {α : Type} (program : CredentialM Accounts α)
    (respond : α → HttpResponse) :
    ((self.withApplication app).answer program respond).1 =
      (self.answer program respond).1 := by
  unfold answer withApplication
  dsimp only
  cases program self.runtime <;> rfl

theorem whenAuthenticated_withApplication (request : BoundaryRequest)
    (respond : AuthContext → HttpResponse) :
    ((self.withApplication app).whenAuthenticated environment request
        respond).1 =
      (self.whenAuthenticated environment request respond).1 := by
  unfold whenAuthenticated
  have same : (self.withApplication app).authenticate environment request =
      self.authenticate environment request := rfl
  rw [same]
  cases self.authenticate environment request <;> rfl

theorem sessionAnswer_withApplication (request : BoundaryRequest) :
    ((self.withApplication app).sessionAnswer environment request).1 =
      (self.sessionAnswer environment request).1 := by
  unfold sessionAnswer
  have same : (self.withApplication app).authenticate environment request =
      self.authenticate environment request := rfl
  rw [same]
  cases self.authenticate environment request <;> rfl

theorem handleAuthorize_withApplication (request : BoundaryRequest) :
    ((self.withApplication app).handleAuthorize environment request).1 =
      (self.handleAuthorize environment request).1 := by
  unfold handleAuthorize
  have same : (self.withApplication app).authenticate environment request =
      self.authenticate environment request := rfl
  rw [same]
  cases self.authenticate environment request with
  | error err => rfl
  | ok context =>
      cases request.field "capability" with
      | none => rfl
      | some capability => exact answer_withApplication _ _

theorem handleAuthRoute_withApplication (route : AuthRoute)
    (request : BoundaryRequest) :
    ((self.withApplication app).handleAuthRoute environment route request).1 =
      (self.handleAuthRoute environment route request).1 := by
  unfold handleAuthRoute
  cases route.operation <;>
    simp only [apply_ite Prod.fst, complete, signOutAnswer, handleAgents,
      handleDelegations, answer_withApplication,
      whenAuthenticated_withApplication, sessionAnswer_withApplication,
      handleAuthorize_withApplication] <;> rfl

/-- What is not left to the application is answered alike before any other
one. -/
theorem handle_of_not_leaves (kept : ¬self.LeavesToApplication http) :
    ((self.withApplication app).handle environment script http).1 =
      (self.handle environment script http).1 := by
  unfold handle
  dsimp only
  have samePage : (self.withApplication app).studioAnswer http.toBoundary =
      self.studioAnswer http.toBoundary := rfl
  have sameStudio : (self.withApplication app).studioHandles http =
      self.studioHandles http := rfl
  rw [samePage, sameStudio]
  cases page : self.studioAnswer http.toBoundary with
  | some response => rfl
  | none =>
  cases studio : self.studioHandles http with
  | some answered => rfl
  | none =>
  dsimp only
  by_cases script : http.path = "/authboundry/client.js"
  · simp only [HttpRequest.toBoundary_path, script, beq_self_eq_true, if_true]
  · rw [HttpRequest.toBoundary_path, if_neg (by simpa using script),
      if_neg (by simpa using script)]
    cases control : controlHandles http.toBoundary with
    | some route => cases route <;> rfl
    | none =>
        dsimp only
        unfold handleRoute
        have sameSurface : (self.withApplication app).runtime = self.runtime :=
          rfl
        rw [sameSurface]
        cases surface : self.runtime.mesh.config.route http.toBoundary.path with
        | some route =>
            simp only [apply_ite Prod.fst, handleAuthRoute_withApplication]
        | none =>
            dsimp only
            by_cases exposed : startsWith "/auth/" http.path = true
            · simp only [HttpRequest.toBoundary_path, exposed, if_true]
            · have left : self.LeavesToApplication http :=
                { page
                  studio
                  script
                  control
                  surface
                  exposed := by simpa using exposed }
              exact absurd left kept

/-- In the answer to a request that is not forwarded the application has no
part: another one with the same routes would do. -/
theorem handle_of_not_forwards (kept : ¬self.Forwards environment http)
    (sameRoutes : app.resolve = self.app.resolve) :
    ((self.withApplication app).handle environment script http).1 =
      (self.handle environment script http).1 := by
  by_cases left : self.LeavesToApplication http
  · have leftToOther : (self.withApplication app).LeavesToApplication http :=
      ⟨left.page, left.studio, left.script, left.control, left.surface,
        left.exposed⟩
    have refused : ¬AuthPortServer.HandsRequest
        (environment.meshEnvironment self.runtime.accounts)
        self.applicationServer http.toBoundary (environment.clock 0) :=
      fun handed => kept ⟨left, handed⟩
    have sameRuntime : (self.withApplication app).applicationServer.runtime =
        self.applicationServer.runtime := rfl
    rw [handle_of_leaves left, handle_of_leaves leftToOther]
    exact AuthPortServer.handleApplication_of_not_handsRequest refused
      sameRuntime sameRoutes
  · exact handle_of_not_leaves left

end Frontend

/-! ## Spellings that are held to the same -/

section Spellings

open Frontend

variable {Accounts : Type} {environment : CredentialEnvironment Accounts}
  {self : Frontend Accounts} {options : ServeOptions} {http : HttpRequest}
  {first second : String}

/-- The server forwards the request under the second path too, with the same
requirement and as a request for the same resource. -/
structure HeldAlike (environment : CredentialEnvironment Accounts)
    (server : Frontend Accounts) (http : HttpRequest) (first second : String) :
    Prop where
  forwarded : server.Forwards environment (http.at second)
  requirement :
    server.applicationServer.applicationRequirement
        (http.at first).toBoundary =
      server.applicationServer.applicationRequirement
        (http.at second).toBoundary
  resource : resourceOf http.method first = resourceOf http.method second

/-- What tells two texts apart: the rules of the flags, the live protections
and the first two segments. -/
structure ToldAlike (options : ServeOptions) (runtime : AuthPortRuntime)
    (first second : String) : Prop where
  rules : ∀ rule ∈ (applicationPolicy options).rules,
    rule.pattern.covers first = rule.pattern.covers second
  protections : ∀ method,
    runtime.getRouteProtection method first =
      runtime.getRouteProtection method second
  segments : (segmentsOf '/' first).take 2 = (segmentsOf '/' second).take 2

def Frontend.proxying (self : Frontend Accounts) (options : ServeOptions)
    (forward : BoundaryRequest → Option AuthContext → HttpResponse)
    (tunnel : BoundaryRequest → Option AuthContext → Bool) :
    Frontend Accounts :=
  self.withApplication
    (upstreamProxy (applicationPolicy options) forward tunnel)

/-- Paths that nothing tells apart are held to the same. -/
theorem toldAlike_heldAlike
    (alike : ToldAlike options self.runtime.control.runtime first second)
    (forward : BoundaryRequest → Option AuthContext → HttpResponse)
    (tunnel : BoundaryRequest → Option AuthContext → Bool)
    (forwards : (self.proxying options forward tunnel).Forwards environment
      (http.at first))
    (left : (self.proxying options forward tunnel).LeavesToApplication
      (http.at second)) :
    HeldAlike environment (self.proxying options forward tunnel) http first
      second := by
  have targets := inferResourceTarget_congr alike.segments http.method
  have resolved := RoutePolicy.resolve_congr alike.rules http.method
  have requirement : (self.proxying options forward
      tunnel).applicationServer.applicationRequirement
        (http.at first).toBoundary =
      (self.proxying options forward
        tunnel).applicationServer.applicationRequirement
          (http.at second).toBoundary := by
    unfold AuthPortServer.applicationRequirement applicationServer proxying
      withApplication upstreamProxy
    simp only [HttpRequest.toBoundary_at, BoundaryRequest.at,
      HttpRequest.toBoundary_method]
    rw [resolved, alike.protections]
  obtain ⟨-, required, demanded, context, after, enforced⟩ := forwards
  rw [requirement] at demanded
  rw [HttpRequest.toBoundary_at, AuthPortRuntime.enforce_congr targets]
    at enforced
  exact
    { forwarded := ⟨left, required, demanded, context, after, enforced⟩
      requirement
      resource := congrArg (Option.map _) targets }

end Spellings

/-! ## A public folder beside an administration page -/

def folderOptions : ServeOptions :=
  { publicPaths := ["/public/"]
    publicExact := []
    required := [("/admin", "admin.use")]
    requiredExact := [] }

/-- A proxy whose application answers and takes whatever it is handed. -/
def folderServer : Frontend LocalDirectory :=
  bareFrontend.proxying folderOptions (fun _ _ => .html 200 "") fun _ _ => true

theorem folderServer_leaves {path : String}
    (apart : path ≠ "/_authboundry/studio" ∧
      startsWith "/_authboundry/application" path = false ∧
      path ≠ "/authboundry/client.js" ∧
      startsWith "/_authboundry/" path = false ∧
      folderServer.runtime.mesh.config.route path = none ∧
      startsWith "/auth/" path = false) :
    folderServer.LeavesToApplication ((anonymous .get "").at path) := by
  obtain ⟨page, studio, script, control, surface, exposed⟩ := apart
  exact
    { page := by
        unfold Frontend.studioAnswer
        apply if_neg
        intro shown
        simp only [Bool.and_eq_true, beq_iff_eq] at shown
        exact page shown.2
      studio := by
        unfold Frontend.studioHandles
        exact if_neg (ne_true_of_eq_false studio)
      script
      control := by
        unfold Frontend.controlHandles
        exact if_neg (ne_true_of_eq_false control)
      surface
      exposed }

/-- A file whose name is spelled in two ways is public under both. -/
theorem publicFile_heldAlike :
    normalSegments "/public/files/%61" = normalSegments "/public/files/a" ∧
      HeldAlike mailEnvironment folderServer (anonymous .get "")
        "/public/files/%61" "/public/files/a" := by
  have alike : ToldAlike folderOptions
      bareFrontend.runtime.control.runtime "/public/files/%61"
      "/public/files/a" :=
    { rules := by decide +kernel
      protections := fun _ => rfl
      segments := by decide +kernel }
  refine ⟨by decide +kernel, ?_⟩
  apply toldAlike_heldAlike alike
  · refine ⟨folderServer_leaves (by decide +kernel), ?_⟩
    exact ⟨.publicAccess, by decide +kernel, none, _, rfl⟩
  · exact folderServer_leaves (by decide +kernel)

/-- The administration page is handed out to everyone under a path that leads
through the public folder. -/
theorem adminPage_not_heldAlike :
    normalSegments "/public/../admin" = normalSegments "/admin" ∧
      folderServer.Forwards mailEnvironment
        ((anonymous .get "").at "/public/../admin") ∧
      ¬HeldAlike mailEnvironment folderServer (anonymous .get "")
        "/public/../admin" "/admin" := by
  refine ⟨by decide +kernel, ?_, ?_⟩
  · refine ⟨folderServer_leaves (by decide +kernel), ?_⟩
    exact ⟨.publicAccess, by decide +kernel, none, _, rfl⟩
  · intro alike
    have told := alike.requirement
    revert told
    decide +kernel

end AuthBoundry
