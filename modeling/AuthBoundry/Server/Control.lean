import AuthBoundry.Runtime.Mesh
import AuthBoundry.Server.ChangeReader
import AuthBoundry.Server.Http

/-!
# Requests to the control plane

A handler of the control plane reads a request as it came, and searches its
body for the fields that it wants.
-/

namespace AuthBoundry

open Library

/-- A parsed request; its body is the text that its bytes decode to. -/
structure HttpRequest where
  method : Method
  path : String
  query : KeyedMap String String
  headers : KeyedMap String String
  cookies : KeyedMap String String
  body : String

/-- A response before it is written out. -/
inductive ControlResponse where
  | okJson (value : JsonValue)
  | denied (status : Nat) (reason message : String)
  | badRequest (message : String)

namespace ControlResponse

def status : ControlResponse → Nat
  | .okJson _ => 200
  | .denied status _ _ => status
  | .badRequest _ => 400

/-- The request was answered with success. -/
def IsOk (self : ControlResponse) : Prop := self.status = 200

end ControlResponse

def requestValue (request : HttpRequest) (field : String) : Option String :=
  request.query[field]?.or (extractQuotedField request.body.toList field)

def tenantFromRequest (mesh : AuthMesh) (request : HttpRequest) :
    Except ControlResponse TenantContext :=
  match requestValue request "tenant" with
  | none => .error (.badRequest "missing tenant")
  | some tenantId =>
      (mesh.tenant tenantId).mapError fun err =>
        .denied (statusFor err.denial) err.denial.asStr err.message

end AuthBoundry
