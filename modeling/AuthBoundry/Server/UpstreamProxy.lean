import AuthBoundry.Boundary.ClientContext
import AuthBoundry.Server.Requests
import AuthBoundry.Server.Router

/-!
# The upstream proxy

In standalone placement the application sits behind the boundary.  A request
that passes is written anew: with the headers of the client that are not
withheld, with the context that the boundary derived, signed with a secret, and
with the fields of the body as one flat JSON object.
-/

namespace AuthBoundry

open Library

namespace ProxyHeader

def principal : String := "x-authboundry-principal"
def principalKind : String := "x-authboundry-principal-kind"
def tenant : String := "x-authboundry-tenant"
def claims : String := "x-authboundry-claims"
def capabilities : String := "x-authboundry-capabilities"
def delegation : String := "x-authboundry-delegation"
def delegatedBy : String := "x-authboundry-delegated-by"
def context : String := "x-authboundry-context"
def signature : String := "x-authboundry-signature"
def proxySignature : String := "x-authboundry-proxy-signature"

end ProxyHeader

/-- A request as the client of the upstream application writes it. -/
structure ClientRequest where
  method : Method
  path : String
  headers : List (String × String)
  body : List UInt8

namespace ClientRequest

def new (method : Method) (path : String) : ClientRequest :=
  { method, path, headers := [], body := [] }

def withHeader (self : ClientRequest) (name value : String) : ClientRequest :=
  { self with headers := self.headers ++ [(name, value)] }

end ClientRequest

def keptInQuery (byte : UInt8) : Bool :=
  let character := Char.ofNat byte.toNat
  character.isAlphanum || "-_.~/:".toList.contains character

def percentEncode (value : String) : String :=
  String.ofList <| (utf8 value).flatMap fun byte =>
    if keptInQuery byte then
      [Char.ofNat byte.toNat]
    else
      '%' :: (hexDigits 2 byte.toNat).map Char.toUpper

def encodeField (field : String × String) : String :=
  "\"" ++ escape field.1 ++ "\": \"" ++ escape field.2 ++ "\""

/-- The fields of a body as one JSON object. -/
def encodeFields (body : KeyedMap String String) : String :=
  "\x7b" ++ ", ".intercalate (body.toList.map encodeField) ++ "\x7d"

def encodeBody (body : KeyedMap String String) : List UInt8 :=
  if body.isEmpty then [] else utf8 (encodeFields body)

structure UpstreamProxy where
  policy : RoutePolicy
  secret : String

namespace UpstreamProxy

/-- A keyed digest, not a MAC. -/
def sign (secret context : String) : String :=
  hex16 (fnv1a (utf8 (secret ++ "|" ++ context)))

/-- For the upstream application: the context came from the boundary. -/
def verify (secret context signature : String) : Bool :=
  sign secret context == signature

def injectedHeaders (self : UpstreamProxy) (context : Option AuthContext) :
    List (String × String) :=
  (ProxyHeader.proxySignature, sign self.secret "proxy") ::
    match context with
    | none => []
    | some context =>
        let projection := context.project
        let serialized := projection.toJson
        [(ProxyHeader.principal, projection.principalId),
          (ProxyHeader.principalKind, projection.principalKind),
          (ProxyHeader.tenant, projection.tenantId),
          (ProxyHeader.claims,
            ";".intercalate (projection.claims.map fun (name, value) =>
              name ++ "=" ++ value)),
          (ProxyHeader.capabilities, ",".intercalate projection.capabilities),
          (ProxyHeader.signature, sign self.secret serialized),
          (ProxyHeader.context, serialized)] ++
          match projection.delegation with
          | none => []
          | some delegation =>
              [(ProxyHeader.delegation, delegation.id),
                (ProxyHeader.delegatedBy, delegation.delegatedBy)]

/-- The headers of a client that are not passed on. -/
def withheld : List String :=
  ["content-length", "connection", "host", "if-none-match",
    "if-modified-since", "if-match", "if-unmodified-since", "if-range"]

def passesOn (name : String) : Bool :=
  !(reservedHeaderPrefix.toList.isPrefixOf name.toList ||
    withheld.contains name)

def targetOf (request : BoundaryRequest) : String :=
  if request.query.isEmpty then
    request.path
  else
    request.path ++ "?" ++
      "&".intercalate (request.query.toList.map fun (name, value) =>
        percentEncode name ++ "=" ++ percentEncode value)

def forwarded (self : UpstreamProxy) (request : BoundaryRequest)
    (context : Option AuthContext) : ClientRequest :=
  let kept := request.headers.toList.filter fun (name, _) => passesOn name
  let headers := kept ++ self.injectedHeaders context
  let sent : ClientRequest :=
    { ClientRequest.new request.method (targetOf request) with
      headers
      body := encodeBody request.body }
  if !sent.body.isEmpty && !request.headers.contains "content-type" then
    sent.withHeader "content-type" "application/json"
  else
    sent

end UpstreamProxy

end AuthBoundry
