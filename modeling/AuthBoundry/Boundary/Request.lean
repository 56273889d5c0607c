import AuthBoundry.Contract.Ids
import AuthBoundry.Library.Text

/-!
# Requests at the boundary

A request carries hints only.  Of everything in it the boundary reads a session
credential, a tenant hint, the method, the path and a few fields.
-/

namespace AuthBoundry

open Library

inductive Method where
  | get
  | post
  | put
  | patch
  | delete
  | head
  | options
  deriving DecidableEq, Repr

def Method.asStr : Method → String
  | .get => "GET"
  | .post => "POST"
  | .put => "PUT"
  | .patch => "PATCH"
  | .delete => "DELETE"
  | .head => "HEAD"
  | .options => "OPTIONS"

def Method.parse (value : String) : Option Method :=
  match asciiUpper value with
  | "GET" => some .get
  | "POST" => some .post
  | "PUT" => some .put
  | "PATCH" => some .patch
  | "DELETE" => some .delete
  | "HEAD" => some .head
  | "OPTIONS" => some .options
  | _ => none

theorem Method.asStr_inj {left right : Method}
    (same : left.asStr = right.asStr) : left = right := by
  cases left <;> cases right <;> first | rfl | simp [asStr] at same

/-- Methods are ordered as they are declared. -/
def Method.rank : Method → Nat
  | .get => 0
  | .post => 1
  | .put => 2
  | .patch => 3
  | .delete => 4
  | .head => 5
  | .options => 6

instance : Ord Method := ⟨compareOn Method.rank⟩

instance : Std.TransOrd Method :=
  inferInstanceAs (Std.TransCmp (compareOn Method.rank))

instance : Std.LawfulEqOrd Method where
  eq_of_compare {left right} same := by
    have ranks : left.rank = right.rank := Std.LawfulEqOrd.eq_of_compare same
    cases left <;> cases right <;> first | rfl | cases ranks

/-- The cookie in which the boundary keeps the session credential. -/
def sessionCookie : String := "authboundry_session"

/-- The handle issued at sign-in: a tenant and a session of it. -/
structure SessionCredential where
  tenantId : String
  sessionId : SessionId
  deriving DecidableEq, Repr

namespace SessionCredential

/-- What every encoded credential starts with. -/
def start : String := "apt_"

def encode (self : SessionCredential) : String :=
  s!"{start}{self.tenantId}.{self.sessionId}"

def parse (raw : String) : Option SessionCredential := do
  let body ← stripStart start (trim raw)
  let (tenantId, sessionId) ← splitOnce '.' body
  if tenantId.isEmpty || sessionId.isEmpty then
    none
  else
    some { tenantId, sessionId := ⟨sessionId⟩ }

end SessionCredential

structure BoundaryRequest where
  method : Method
  path : String
  headers : KeyedMap String String
  cookies : KeyedMap String String
  query : KeyedMap String String
  body : KeyedMap String String
  deriving DecidableEq

namespace BoundaryRequest

def new (method : Method) (path : String) : BoundaryRequest :=
  { method, path, headers := ∅, cookies := ∅, query := ∅, body := ∅ }

def withCookie (self : BoundaryRequest) (name value : String) :
    BoundaryRequest :=
  { self with cookies := self.cookies.insert name value }

def withCredential (self : BoundaryRequest) (credential : SessionCredential) :
    BoundaryRequest :=
  self.withCookie sessionCookie credential.encode

/-- A value counts only if something is left of it after trimming. -/
def given (value : Option String) : Option String :=
  (value.map trim).filter fun text => !text.isEmpty

def header (self : BoundaryRequest) (name : String) : Option String :=
  given self.headers[asciiLower name]?

/-- The body takes precedence over the query. -/
def field (self : BoundaryRequest) (name : String) : Option String :=
  given (self.body[name]?.or self.query[name]?)

/-- The credential in the cookie or, without one, the bearer token. -/
def credential (self : BoundaryRequest) : Option SessionCredential :=
  let raw := self.cookies[sessionCookie]?.or
    ((self.header "authorization").bind (stripStart "Bearer "))
  raw.bind SessionCredential.parse

def tenantHint (self : BoundaryRequest) : Option String :=
  (self.header "x-tenant-id").or (self.field "tenant")

end BoundaryRequest

end AuthBoundry
