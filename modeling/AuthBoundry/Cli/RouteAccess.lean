import AuthBoundry.Cli.ApplicationPolicy
import AuthBoundry.Cli.SeededPolicies
import AuthBoundry.Server.AppliedRecommendations

/-!
# The access that is saved for a route

The studio keeps the access of the discovered routes in a file of its own, one
route a line.  From the file it makes the rules of the proxy, which know a path
and a capability, and from the discovered routes the grants that say which role
has which capability.
-/

namespace AuthBoundry.Studio

open Library
open Discovery

/-! ## The file -/

structure RouteAccess where
  method : String
  path : String
  access : String
  deriving DecidableEq, Repr

def equalsIgnoringCase (left right : String) : Bool :=
  asciiLower left == asciiLower right

/-- A member of an object, as the file has them. -/
def tightMember (name value : String) : String :=
  "\"" ++ name ++ "\":\"" ++ value ++ "\""

def RouteAccess.text (self : RouteAccess) : String :=
  "    \x7b" ++ tightMember "method" (jsonEscape self.method) ++ "," ++
    tightMember "path" (jsonEscape self.path) ++ "," ++
    tightMember "access" (jsonEscape self.access) ++ "\x7d"

def accessText (entries : List RouteAccess) : String :=
  "\x7b\n  \"routes\": [\n" ++
    ",\n".intercalate (entries.map RouteAccess.text) ++ "\n  ]\n\x7d\n"

def withoutReturn (line : List Char) : List Char :=
  if line.getLast? = some '\r' then line.dropLast else line

def textLines (text : String) : List String :=
  let parts := text.toList.splitOn '\n'
  let ended := parts.dropLast.map withoutReturn
  let last := parts.getLast?.toList.filter fun part => !part.isEmpty
  (ended ++ last).map String.ofList

def jsonLineField (line field : String) : Option String := do
  let rest ← (afterEach (fieldPattern field.toList ++ ['"'])
    line.toList).head?
  let (value, _) ← splitOnce '"' (String.ofList rest)
  return value

def readEntry (line : String) : Option RouteAccess := do
  let method ← jsonLineField line "method"
  let path ← jsonLineField line "path"
  let access ← jsonLineField line "access"
  return { method, path, access }

/-- The entries of the file; there are none without a file. -/
def routeAccess (source : Option String) : List RouteAccess :=
  match source with
  | none => []
  | some source =>
      ((textLines source).filter (containsText "\"method\"")).filterMap
        readEntry

/-! ## Saving -/

/-- Entries are ordered by their paths and then by their methods. -/
def comparePlaces (left right : RouteAccess) : Ordering :=
  (compare left.path right.path).then (compare left.method right.method)

def RouteAccess.isFor (self : RouteAccess) (method path : String) : Bool :=
  equalsIgnoringCase self.method method && self.path == path

def savedEntries (entries : List RouteAccess) (method path access : String) :
    List RouteAccess :=
  let others := entries.filter fun entry => !entry.isFor method path
  let added :=
    if access != "default" then
      others ++ [{ method := asciiUpper method, path, access }]
    else
      others
  added.mergeSort fun left right => (comparePlaces left right).isLE

def accesses : List String := ["default", "authenticated", "admin", "user"]

/-- The file once an access is saved. -/
def saveRouteAccess (discovered : List RouteCandidate)
    (source : Option String) (method path access : String) :
    Except String String :=
  if !accesses.contains access then
    .error "route access must be default, authenticated, admin, or user"
  else if !discovered.any fun route =>
      equalsIgnoringCase route.method method && route.path == path then
    .error "route is not part of the discovered application"
  else
    .ok (accessText (savedEntries (routeAccess source) method path access))

def shownAccess (entries : List RouteAccess) (route : RouteCandidate) :
    String :=
  ((entries.find? (·.isFor route.method route.path)).map
    RouteAccess.access).getD "default"

/-! ## The rules of the proxy -/

def replaceDots : List Char → List Char
  | '.' :: '.' :: rest => '.' :: replaceDots rest
  | first :: rest => first :: replaceDots rest
  | [] => []

/-- Dots are replaced as long as two stand together. -/
def collapseDots : Nat → List Char → List Char
  | fuel + 1, name =>
      if containsText ".." (String.ofList name) then
        collapseDots fuel (replaceDots name)
      else
        name
  | 0, name => name

def routeCapability (method path access : String) : String :=
  let dotted := (trimChar '/' path.toList).map fun character =>
    if character.isAlphanum then character.toLower else '.'
  let name := String.ofList
    (trimChar '.' (collapseDots dotted.length dotted))
  "application.route." ++ asciiLower method ++ "." ++
    (if name.isEmpty then "root" else name) ++ "." ++ access

def isPublicEntryPath (path : String) : Bool :=
  ["", "/login", "/signin", "/sign-in", "/signup", "/sign-up",
    "/register"].contains
      (String.ofList (path.toList.reverse.dropWhile (· == '/')).reverse)

def publicBeginnings : List String :=
  ["/__authboundry_attachment_probe", "/assets/", "/@vite/", "/src/",
    "/node_modules/", "/favicon"]

/-- What `build_proxy` hands to the policy of the application. -/
def proxyOptions (discovered : List RouteCandidate)
    (source : Option String) : ServeOptions :=
  { publicPaths := publicBeginnings
    publicExact := (discovered.filter fun route =>
      isPublicEntryPath route.path).map RouteCandidate.path
    required := []
    requiredExact := ((routeAccess source).filter fun entry =>
      entry.access != "default").map fun entry =>
        (entry.path, routeCapability entry.method entry.path entry.access) }

/-! ## The grants -/

def accessRoles : List (String × String) :=
  [("authenticated", "admin"), ("authenticated", "user"), ("admin", "admin"),
    ("user", "user")]

def developmentRouteGrants (discovered : List RouteCandidate) :
    List Serve.Grant :=
  discovered.flatMap fun route =>
    accessRoles.map fun (access, role) =>
      { capability := routeCapability route.method route.path access
        claim := "role"
        value := role }

end AuthBoundry.Studio
