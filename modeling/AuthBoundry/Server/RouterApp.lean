import AuthBoundry.Server.Router

/-!
# An application in the same process

Routes are registered with what they demand and with their handler.  The
demands are kept in a list in which the first match decides, the handlers in a
map in which the last registration stays.
-/

namespace AuthBoundry

open Library

/-- A handler in its box.  Boxes are told apart, whatever they answer. -/
structure AppHandler where
  box : Nat
  answer : BoundaryRequest → Option AuthContext → HttpResponse

structure RouterApp where
  routes : List (Method × String × Requirement)
  handlers : KeyedMap (Method × String) AppHandler

namespace RouterApp

def new : RouterApp := { routes := [], handlers := ∅ }

def route (self : RouterApp) (method : Method) (path : String)
    (requirement : Requirement) (handler : AppHandler) : RouterApp :=
  { routes := self.routes ++ [(method, path, requirement)]
    handlers := self.handlers.insert (method, path) handler }

def require (self : RouterApp) (method : Method) (path capability : String)
    (handler : AppHandler) : RouterApp :=
  self.route method path (.capability capability) handler

def publicRoute (self : RouterApp) (method : Method) (path : String)
    (handler : AppHandler) : RouterApp :=
  self.route method path .publicAccess handler

def authenticated (self : RouterApp) (method : Method) (path : String)
    (handler : AppHandler) : RouterApp :=
  self.route method path .authenticated handler

def policy (self : RouterApp) : RoutePolicy :=
  self.routes.foldl
    (fun policy (method, path, requirement) =>
      policy.rule [method] (.exact path) requirement)
    .new

def resolve (self : RouterApp) (method : Method) (path : String) :
    RouteOutcome :=
  match self.policy.resolve method path with
  | .noPolicy => .notFound
  | outcome => outcome

def handle (self : RouterApp) (request : BoundaryRequest)
    (context : Option AuthContext) : HttpResponse :=
  match self.handlers[(request.method, request.path)]? with
  | some handler => handler.answer request context
  | none => .denied 404 "no_route" "no such route"

def binding (self : RouterApp) : ApplicationBinding :=
  { resolve := self.resolve
    handle := self.handle
    upgrade := fun _ _ => false }

end RouterApp

/-- One call that registers a route. -/
structure RouteRegistration where
  method : Method
  path : String
  requirement : Requirement
  answer : BoundaryRequest → Option AuthContext → HttpResponse

namespace RouteRegistration

def key (self : RouteRegistration) : Method × String := (self.method, self.path)

def entry (self : RouteRegistration) : Method × String × Requirement :=
  (self.method, self.path, self.requirement)

def handler (self : RouteRegistration) (box : Nat) : AppHandler :=
  { box, answer := self.answer }

def isFor (self : RouteRegistration) (request : BoundaryRequest) : Bool :=
  decide (self.key = (request.method, request.path))

end RouteRegistration

namespace RouterApp

/-- The application after a sequence of registrations, each with a box of its
own. -/
def registered (registrations : List RouteRegistration) : RouterApp :=
  registrations.zipIdx.foldl
    (fun app (registration, box) =>
      app.route registration.method registration.path registration.requirement
        (registration.handler box))
    .new

/-! ## What is kept of the registrations -/

variable {registrations : List RouteRegistration} {request : BoundaryRequest}

theorem foldl_route (boxed : List (RouteRegistration × Nat))
    (app : RouterApp) :
    boxed.foldl
        (fun app (registration, box) =>
          app.route registration.method registration.path
            registration.requirement (registration.handler box)) app =
      { routes := app.routes ++ boxed.map fun entry => entry.1.entry
        handlers := boxed.foldl
          (fun handlers entry =>
            handlers.insert entry.1.key (entry.1.handler entry.2))
          app.handlers } := by
  induction boxed generalizing app with
  | nil => simp
  | cons first boxed induction =>
      rw [List.foldl_cons, induction]
      simp [route, RouteRegistration.entry, RouteRegistration.key]

theorem registered_routes :
    (registered registrations).routes =
      registrations.map RouteRegistration.entry := by
  have entries : registrations.zipIdx.map (fun entry => entry.1.entry) =
      registrations.map RouteRegistration.entry := by
    rw [← Function.comp_def, ← List.map_map, List.zipIdx_map_fst]
  simp [registered, foldl_route, new, entries]

theorem registered_handler :
    (registered registrations).handlers[(request.method, request.path)]? =
      (registrations.zipIdx.reverse.find? (·.1.isFor request)).map
        fun entry => entry.1.handler entry.2 := by
  rw [registered, foldl_route]
  dsimp only [new]
  rw [KeyedMap.getElem?_foldl_insert]
  simp
  rfl

theorem last_boxed {last : RouteRegistration}
    (isLast : registrations.reverse.find? (·.isFor request) = some last) :
    ∃ box, registrations[box]? = some last ∧
      registrations.zipIdx.reverse.find? (·.1.isFor request) =
        some (last, box) := by
  have unboxed : registrations.reverse =
      registrations.zipIdx.reverse.map Prod.fst := by
    rw [List.map_reverse, List.zipIdx_map_fst]
  rw [unboxed, List.find?_map] at isLast
  obtain ⟨entry, found, rfl⟩ := Option.map_eq_some_iff.mp isLast
  have member := List.mem_reverse.mp (List.mem_of_find?_eq_some found)
  exact ⟨entry.2, List.mk_mem_zipIdx_iff_getElem?.mp member, found⟩

theorem foldl_rule (policy : RoutePolicy)
    (routes : List (Method × String × Requirement)) :
    (routes.foldl
        (fun policy (method, path, requirement) =>
          policy.rule [method] (.exact path) requirement)
        policy).rules =
      policy.rules ++ routes.map fun (method, path, requirement) =>
        { methods := [method], pattern := .exact path, requirement } := by
  induction routes generalizing policy with
  | nil => simp
  | cons route routes induction =>
      rw [List.foldl_cons, induction]
      simp [RoutePolicy.rule]

/-- The demand of the first registration decides. -/
theorem registered_resolve_iff {requirement : Requirement} :
    (registered registrations).resolve request.method request.path =
        .matched requirement ↔
      (registrations.find? (·.isFor request)).map RouteRegistration.requirement =
        some requirement := by
  have matched_iff :
      (registered registrations).resolve request.method request.path =
          .matched requirement ↔
        (registered registrations).policy.resolve request.method
          request.path = .matched requirement := by
    unfold resolve
    cases (registered registrations).policy.resolve request.method
      request.path <;> simp
  rw [matched_iff, RoutePolicy.resolve_eq_matched_iff, policy, foldl_rule,
    registered_routes]
  have sameRoute : ∀ registration : RouteRegistration,
      RouteRule.applies
          { methods := [registration.method]
            pattern := .exact registration.path
            requirement := registration.requirement }
          request.method request.path =
        registration.isFor request := by
    intro registration
    rw [Bool.eq_iff_iff]
    simp [RouteRule.applies, PathPattern.covers, RouteRegistration.isFor,
      RouteRegistration.key]
    constructor
    · rintro ⟨samePath, sameMethod⟩
      exact ⟨sameMethod.symm, samePath⟩
    · rintro ⟨sameMethod, samePath⟩
      exact ⟨samePath, sameMethod.symm⟩
  simp only [RoutePolicy.new, List.nil_append, List.map_map, List.find?_map,
    Option.map_map, Function.comp_def, RouteRegistration.entry, sameRoute]

/-- The handler that answers a request was registered together with what the
request had to satisfy. -/
def HandlesAsRequired (registrations : List RouteRegistration)
    (request : BoundaryRequest) : Prop :=
  ∀ requirement,
    (registered registrations).resolve request.method request.path =
      .matched requirement →
    ∃ (registration : RouteRegistration) (box : Nat),
      registrations[box]? = some registration ∧
      registration.isFor request = true ∧
      registration.requirement = requirement ∧
      (registered registrations).handlers[(request.method, request.path)]? =
        some (registration.handler box)

def LastAsFirst (registrations : List RouteRegistration)
    (request : BoundaryRequest) : Prop :=
  ∀ first last, registrations.find? (·.isFor request) = some first →
    registrations.reverse.find? (·.isFor request) = some last →
    last.requirement = first.requirement

/-- The two tables agree about a route exactly if its last registration agrees
with its first. -/
theorem handlesAsRequired_iff (registrations : List RouteRegistration)
    (request : BoundaryRequest) :
    HandlesAsRequired registrations request ↔
      LastAsFirst registrations request := by
  unfold HandlesAsRequired LastAsFirst
  simp only [registered_resolve_iff, registered_handler]
  constructor
  · intro agrees first last isFirst isLast
    obtain ⟨registration, box, registeredIn, _, required, handles⟩ :=
      agrees first.requirement (by rw [isFirst]; rfl)
    obtain ⟨lastBox, lastIn, found⟩ := last_boxed isLast
    rw [found] at handles
    have sameBox : lastBox = box :=
      congrArg AppHandler.box (Option.some.inj handles)
    rw [sameBox, registeredIn] at lastIn
    rw [← required, Option.some.inj lastIn]
  · intro agrees requirement matched
    obtain ⟨first, isFirst, rfl⟩ := Option.map_eq_some_iff.mp matched
    have firstIsFor : first.isFor request = true := by
      simpa using List.find?_some isFirst
    have listed : ∃ registration ∈ registrations.reverse,
        registration.isFor request = true :=
      ⟨first, List.mem_reverse.mpr (List.mem_of_find?_eq_some isFirst),
        firstIsFor⟩
    obtain ⟨last, isLast⟩ :=
      Option.isSome_iff_exists.mp (List.find?_isSome.mpr listed)
    have lastIsFor : last.isFor request = true := by
      simpa using List.find?_some isLast
    obtain ⟨box, lastIn, found⟩ := last_boxed isLast
    refine ⟨last, box, lastIn, lastIsFor, agrees first last isFirst isLast, ?_⟩
    rw [found]
    rfl

end RouterApp

/-! ## A route that is registered twice -/

/-- The reports are public at first, and then behind a capability. -/
def reportRegistrations : List RouteRegistration :=
  [{ method := .get
     path := "/reports"
     requirement := .publicAccess
     answer := fun _ _ => .html 200 "public" },
   { method := .get
     path := "/reports"
     requirement := .capability "report.read"
     answer := fun _ _ => .html 200 "reports" }]

/-- The handler behind the capability answers whoever asks. -/
theorem reportRegistrations_not_handlesAsRequired :
    ¬RouterApp.HandlesAsRequired reportRegistrations
      (.new .get "/reports") := by
  intro agrees
  have isPublic : (RouterApp.registered reportRegistrations).resolve .get
      "/reports" = .matched .publicAccess := by
    decide +kernel
  have kept : (RouterApp.registered reportRegistrations).handlers[
      (Method.get, "/reports")]?.map AppHandler.box = some 1 := by
    decide +kernel
  obtain ⟨registration, box, registeredIn, _, required, handles⟩ :=
    agrees .publicAccess isPublic
  rw [show (RouterApp.registered reportRegistrations).handlers[
    (Method.get, "/reports")]? = some (registration.handler box) from handles]
    at kept
  have second : box = 1 := Option.some.inj kept
  rw [second] at registeredIn
  cases registeredIn
  cases required

end AuthBoundry
