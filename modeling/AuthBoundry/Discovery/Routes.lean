import AuthBoundry.Contract.Ids
import AuthBoundry.Library.Text

/-!
# The routes of an application as discovery describes them

A discovered route is described under a normal form of its path, in which every
parameter is spelled alike and every other part is in lower case.  Where no
capability is known for a route, one is inferred from its shape.
-/

namespace AuthBoundry

open Library

namespace Discovery

/-- Where a route was found. -/
inductive RouteSource where
  | express
  | embedded
  | standalone
  | rust
  | client
  | python
  | unknown
  deriving DecidableEq, Repr, Ord

structure RouteCandidate where
  method : String
  path : String
  source : RouteSource
  capability : Option String
  deriving DecidableEq, Repr

inductive Confidence where
  | high
  | medium
  | low
  | unknown
  deriving DecidableEq, Repr

inductive InferenceKind where
  | capability
  deriving DecidableEq, Repr

structure ResourceInference where
  resourceType : String
  resourceId : String
  action : String
  deriving DecidableEq, Repr

structure Inference where
  kind : InferenceKind
  capability : String
  resource : Option ResourceInference
  confidence : Confidence
  reasons : List String
  deriving DecidableEq, Repr

inductive ProtectionState where
  | isPublic
  | isProtected
  | unprotected
  deriving DecidableEq, Repr

def ProtectionState.asStr : ProtectionState → String
  | .isPublic => "public"
  | .isProtected => "protected"
  | .unprotected => "unprotected"

structure RouteDescription where
  id : String
  method : String
  path : String
  source : RouteSource
  capability : Option String
  inference : Option Inference
  protection : ProtectionState
  protectionReason : String
  deriving DecidableEq, Repr

/-! ## Paths -/

/-- A part begins and ends with the given marks. -/
def isBetween (start finish part : String) : Bool :=
  (stripStart start part).isSome && (stripFinish finish part).isSome

/-- The three spellings of a parameter. -/
def isParameterPart (part : String) : Bool :=
  (stripStart ":" part).isSome || isBetween "\x7b" "\x7d" part ||
    isBetween "[" "]" part

def normalizePart (part : String) : String :=
  if isParameterPart part then ":param" else asciiLower part

def normalizePath (path : String) : String :=
  let trimmed := trim path
  if trimmed == "/" then
    "/"
  else
    "/" ++ "/".intercalate ((segmentsOf '/' trimmed).map normalizePart)

def pathSegments (path : String) : List String := segmentsOf '/' path

def isParameter (segment : String) : Bool := segment == ":param"

def parameterName (segment : String) : Option String :=
  (stripStart ":" segment).or
    ((stripStart "\x7b" segment).bind (stripFinish "\x7d"))

/-! ## Resources -/

def endsWith (finish text : String) : Bool := (stripFinish finish text).isSome

def isPlural (resource : String) : Bool :=
  endsWith "s" resource && !endsWith "ss" resource &&
    decide (1 < resource.utf8ByteSize)

def singularResource (resource : String) : String :=
  match stripFinish "ies" resource with
  | some stem => stem ++ "y"
  | none =>
      if endsWith "s" resource && !endsWith "ss" resource then
        trimFinish "s" resource
      else
        resource

/-! ## Inference -/

/-- The parts at which a path is not the application's to protect. -/
def unownedSegments : List String :=
  ["auth", "health", "healthz", "ready", "readyz", "metrics"]

def collectionAction (method : String) : Option String :=
  match method with
  | "GET" => some "read"
  | "POST" => some "create"
  | _ => none

def itemAction (method : String) : Option String :=
  match method with
  | "GET" => some "read"
  | "PUT" | "PATCH" => some "update"
  | "DELETE" => some "delete"
  | _ => none

/-- The last of the reasons of an inference from the shape of a route. -/
def noMapping : String := "no explicit capability mapping exists"

def pluralConfidence (resource : String) : Confidence :=
  if isPlural resource then .high else .low

def inferred (resourceType resourceId action : String)
    (confidence : Confidence) (reasons : List String) : Inference :=
  { kind := .capability
    capability := resourceType ++ "." ++ action
    resource := some { resourceType, resourceId, action }
    confidence
    reasons }

/-- A route of any other shape is left to a reviewer. -/
def ambiguous (resource : String) : Inference :=
  inferred (singularResource resource) "*" "review" .low
    ["route shape is ambiguous; review manually"]

def inferCapability (method path : String) : Option Inference :=
  let method := asciiUpper method
  let segments := pathSegments (normalizePath path)
  let rawSegments := pathSegments path
  match segments with
  | [] => none
  | resource :: rest =>
      if unownedSegments.contains resource then
        none
      else
        let singular := singularResource resource
        match rest with
        | [] =>
            (collectionAction method).map fun action =>
              inferred singular "*" action (pluralConfidence resource)
                ["method is " ++ method, "resource is " ++ resource,
                  "route is not parameterized", noMapping]
        | [second] =>
            if isParameter second then
              (itemAction method).map fun action =>
                inferred singular
                  ((((rawSegments[1]?.bind parameterName).or
                    (parameterName second)).map
                      fun name => "\x7b" ++ name ++ "\x7d").getD "*")
                  action (pluralConfidence resource)
                  ["method is " ++ method, "resource is " ++ resource,
                    "route is parameterized", noMapping]
            else if isParameter resource then
              some (ambiguous resource)
            else
              some (inferred singular "*" second
                (if method == "POST" then .high else .medium)
                ["method is " ++ method, "resource is " ++ resource,
                  "action segment is " ++ second, noMapping])
        | _ => some (ambiguous resource)

/-! ## Descriptions -/

def classifyProtection (method path : String) (capability : Option String) :
    ProtectionState × String :=
  let normalized := normalizePath path
  if capability.isSome then
    (.isProtected, "explicit or existing authority mapping")
  else if ["/", "/health", "/healthz", "/ready", "/readyz"].contains
      normalized then
    (.isPublic, "recognized safe infrastructure endpoint")
  else if normalized == "/metrics" then
    (.isPublic, "recognized metrics endpoint")
  else if normalized == "/auth" ||
      (stripStart "/auth/" normalized).isSome then
    (.isPublic, "AuthBoundry-owned authority endpoint")
  else if asciiUpper method == "GET" then
    (.unprotected,
      "application route remains behaviorally compatible until approved")
  else
    (.unprotected,
      "mutating application endpoint; protection is recommended, not applied")

/-- The capabilities that routes are mapped to, by method and path. -/
abbrev Mappings := KeyedMap (String × String) String

def describeRoute (existingMappings : Mappings) (route : RouteCandidate) :
    RouteDescription :=
  let path := normalizePath route.path
  let capability :=
    route.capability.or existingMappings[(route.method, path)]?
  let inference :=
    if capability.isSome then none
    else inferCapability route.method route.path
  let (protection, protectionReason) :=
    classifyProtection route.method route.path capability
  { id := route.method ++ " " ++ path
    method := route.method
    path
    source := route.source
    capability
    inference
    protection
    protectionReason }

@[simp]
theorem describeRoute_method (existingMappings : Mappings)
    (route : RouteCandidate) :
    (describeRoute existingMappings route).method = route.method := by
  unfold describeRoute
  dsimp only

@[simp]
theorem describeRoute_path (existingMappings : Mappings)
    (route : RouteCandidate) :
    (describeRoute existingMappings route).path = normalizePath route.path := by
  unfold describeRoute
  dsimp only

@[simp]
theorem describeRoute_source (existingMappings : Mappings)
    (route : RouteCandidate) :
    (describeRoute existingMappings route).source = route.source := by
  unfold describeRoute
  dsimp only

theorem describeRoute_capability (existingMappings : Mappings)
    (route : RouteCandidate) :
    (describeRoute existingMappings route).capability =
      route.capability.or
        existingMappings[(route.method, normalizePath route.path)]? := by
  unfold describeRoute
  dsimp only

theorem describeRoute_protection (existingMappings : Mappings)
    (route : RouteCandidate) :
    (describeRoute existingMappings route).protection =
      (classifyProtection route.method route.path
        (describeRoute existingMappings route).capability).1 := by
  unfold describeRoute
  dsimp only

end Discovery

end AuthBoundry
