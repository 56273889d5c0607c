import AuthBoundry.Boundary.Decisions
import AuthBoundry.Server.Router

/-!
# The two ways into the application

A request is answered through `handleApplication`; a request that asks for
another protocol goes through `upgrade`.  Both resolve the route and let the
boundary enforce what it demands before the application sees anything.  Only
the first looks for a live protection of the route.
-/

namespace AuthBoundry

open Library

structure AuthPortServer where
  runtime : AuthPortRuntime
  app : ApplicationBinding

namespace AuthPortServer

/-- What is enforced before the application answers a request, or the refusal
of a request that has no route. -/
def applicationRequirement (self : AuthPortServer)
    (request : BoundaryRequest) : Except HttpResponse Requirement :=
  match self.app.resolve request.method request.path with
  | .matched requirement =>
      match self.runtime.getRouteProtection request.method request.path with
      | some capability => .ok (.capability capability)
      | none => .ok requirement
  | .methodNotAllowed =>
      .error (.denied 405 "method_not_allowed" "unsupported method")
  | .notFound => .error (.denied 404 "no_route" "no such route")
  | .noPolicy =>
      .error (.denied 403 "no_route_policy"
        "this path is not covered by an AuthBoundry route policy")

/-- The caller is a browser that asks for a page. -/
def asksForPage (request : BoundaryRequest) : Bool :=
  request.method == .get &&
    (request.headers["accept"]?.map (containsText "text/html")).getD false

def refusal (request : BoundaryRequest) (err : AuthError) : HttpResponse :=
  if asksForPage request && shouldRedirectToLogin err.denial then
    (HttpResponse.html 302 "").withHeader "location"
      ("/auth/login?return_to=" ++ percentEncodePath request.path)
  else if asksForPage request then
    .html 403
      ("<!doctype html><title>Forbidden · AuthBoundry</title>" ++
        "<h1>Access denied</h1><p>" ++ escape err.message ++ "</p>")
  else
    denial err

def handleApplication (environment : Environment) (self : AuthPortServer)
    (request : BoundaryRequest) (now : Int) : HttpResponse × AuthPortServer :=
  match self.applicationRequirement request with
  | .error response => (response, self)
  | .ok requirement =>
      match AuthPortRuntime.enforce environment request requirement now
          self.runtime with
      | .ok context runtime =>
          (self.app.handle request context, { self with runtime })
      | .error err runtime => (refusal request err, { self with runtime })

def upgrade (environment : Environment) (self : AuthPortServer)
    (request : BoundaryRequest) (now : Int) : Bool × AuthPortServer :=
  match self.app.resolve request.method request.path with
  | .matched requirement =>
      match AuthPortRuntime.enforce environment request requirement now
          self.runtime with
      | .ok context runtime =>
          (self.app.upgrade request context, { self with runtime })
      | .error _ runtime => (false, { self with runtime })
  | _ => (false, self)

end AuthPortServer

end AuthBoundry
