import AuthBoundry.Boundary.Methods
import AuthBoundry.Server.Server

/-!
# Upgraded connections

An upgraded connection never meets the live protection of its route.  The two
ways into the application therefore demand the same only where the protection
repeats what the route demands anyway.
-/

namespace AuthBoundry

open Library

namespace AuthPortServer

/-- The boundary lets an upgrade through to the application, with what the
route itself demands. -/
def HandsUpgrade (environment : Environment) (self : AuthPortServer)
    (request : BoundaryRequest) (now : Int) : Prop :=
  ∃ requirement,
    self.app.resolve request.method request.path = .matched requirement ∧
      AuthPortRuntime.Admits environment self.runtime request requirement now

def HandsRequest (environment : Environment) (self : AuthPortServer)
    (request : BoundaryRequest) (now : Int) : Prop :=
  ∃ requirement,
    self.applicationRequirement request = .ok requirement ∧
      AuthPortRuntime.Admits environment self.runtime request requirement now

/-- Whatever an upgrade of the request is held to, so is the request. -/
def SameRequirement (self : AuthPortServer) (request : BoundaryRequest) :
    Prop :=
  ∀ requirement,
    self.app.resolve request.method request.path = .matched requirement →
    self.applicationRequirement request = .ok requirement

variable {environment : Environment} {self : AuthPortServer}
  {request : BoundaryRequest} {now : Int}

/-- A request that is not handed over gets an answer in which the application
has no part: any other application with the same routes would do. -/
theorem handleApplication_of_not_handsRequest
    (refused : ¬HandsRequest environment self request now)
    {other : AuthPortServer} (sameRuntime : other.runtime = self.runtime)
    (sameRoutes : other.app.resolve = self.app.resolve) :
    (other.handleApplication environment request now).1 =
      (self.handleApplication environment request now).1 := by
  have sameRequired : other.applicationRequirement request =
      self.applicationRequirement request := by
    unfold applicationRequirement
    rw [sameRuntime, sameRoutes]
  unfold handleApplication
  rw [sameRequired, sameRuntime]
  cases required : self.applicationRequirement request with
  | error response => rfl
  | ok requirement =>
      dsimp only
      cases enforced : AuthPortRuntime.enforce environment request requirement
          now self.runtime with
      | error err after => rfl
      | ok context after =>
          exact absurd ⟨requirement, required, context, after, enforced⟩ refused

theorem sameRequirement_iff :
    self.SameRequirement request ↔
      ∀ requirement capability,
        self.app.resolve request.method request.path = .matched requirement →
        self.runtime.getRouteProtection request.method request.path =
          some capability →
        requirement = .capability capability := by
  unfold SameRequirement applicationRequirement
  constructor
  · intro same requirement capability matched protection
    have required := same requirement matched
    simp only [matched, protection, Except.ok.injEq] at required
    exact required.symm
  · intro agreed requirement matched
    simp only [matched]
    cases protection : self.runtime.getRouteProtection request.method
        request.path with
    | none => rfl
    | some capability =>
        rw [agreed requirement capability matched protection]

/-- Upgrades are held to what requests are held to exactly if a live
protection of the route, where there is one, repeats the route's demand. -/
theorem handsUpgrade_imp_handsRequest_iff :
    ((HandsUpgrade environment self request now →
          HandsRequest environment self request now) ∧
        self.SameRequirement request) ↔
      ∀ requirement capability,
        self.app.resolve request.method request.path = .matched requirement →
        self.runtime.getRouteProtection request.method request.path =
          some capability →
        requirement = .capability capability := by
  rw [← sameRequirement_iff, and_iff_right_iff_imp]
  intro same upgraded
  obtain ⟨requirement, matched, admitted⟩ := upgraded
  exact ⟨requirement, same requirement matched, admitted⟩

end AuthPortServer

/-! ## A public route that is protected later -/

def protectedAuthority : LiveAuthorityState :=
  { LiveAuthorityState.new with
    routeProtection :=
      LiveAuthorityState.new.routeProtection.insert
        { method := .get, path := "/reports" }
        { capability := some "report.read" }
    revision := 1 }

/-- A proxy whose application answers and takes whatever it is handed. -/
def reportServer : AuthPortServer :=
  { runtime := { bareRuntime emptyMesh with authority := protectedAuthority }
    app :=
      upstreamProxy
        (RoutePolicy.new.rule [.get] (.exact "/reports") .publicAccess)
        (fun _ _ => .html 200 "") (fun _ _ => true) }

/-- Once the reports are protected, they cannot be requested without a
credential, but a connection to them can be upgraded. -/
theorem reportServer_hands_only_upgrade :
    applyChange .new (.protectRoute .get "/reports" "report.read") =
        .ok protectedAuthority ∧
      AuthPortServer.HandsUpgrade acmeEnvironment reportServer
        (.new .get "/reports") 10 ∧
      ¬AuthPortServer.HandsRequest acmeEnvironment reportServer
        (.new .get "/reports") 10 := by
  refine ⟨rfl, ?_, ?_⟩
  · exact ⟨.publicAccess, by decide +kernel, none, _, rfl⟩
  · rintro ⟨requirement, required, admitted⟩
    have protection :
        reportServer.applicationRequirement (.new .get "/reports") =
          .ok (.capability "report.read") := by decide +kernel
    rw [protection] at required
    cases required
    rw [AuthPortRuntime.admits_iff_returned] at admitted
    revert admitted
    decide +kernel

end AuthBoundry
