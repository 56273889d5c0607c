import AuthBoundry.Boundary.Runtime

/-!
# The context a client may see

A projection of an authority context into texts, and the JSON in which it is
handed out.
-/

namespace AuthBoundry

open Library

structure ClientDelegation where
  id : String
  delegatedBy : String
  capabilities : List String
  deriving DecidableEq, Repr

structure ClientAuthContext where
  authenticated : Bool
  principalId : String
  principalKind : String
  tenantId : String
  claims : List (String × String)
  capabilities : List String
  sessionExpiresAt : Int
  delegation : Option ClientDelegation
  deriving DecidableEq, Repr

def principalKindStr : PrincipalKind → String
  | .human => "human"
  | .agent => "agent"
  | .service => "service"

def claimString : ClaimValue → String
  | .enum value => value
  | .string value => value
  | .integer value => toString value
  | .boolean value => toString value

/-- What may safely be handed to a browser. -/
def AuthContext.project (self : AuthContext) : ClientAuthContext :=
  { authenticated := true
    principalId := self.principal.id.value
    principalKind := principalKindStr self.principal.kind
    tenantId := self.tenant.tenantId.value
    claims := self.runtime.claims.values.toList.map fun (name, value) =>
      (name, claimString value)
    capabilities := self.runtime.capabilities.capabilities.map
      AuthorityId.value
    sessionExpiresAt := self.session.expiresAt
    delegation := self.delegation.map fun delegation =>
      { id := delegation.id.value
        delegatedBy := delegation.delegator.value
        capabilities := delegation.capabilities.map AuthorityId.value } }

namespace ClientAuthContext

/-- A text between quotation marks; a newline stays as it is. -/
def quote (value : String) : String :=
  "\"" ++ replaceChar '"' "\\\"" (replaceChar '\\' "\\\\" value) ++ "\""

def quoteList (values : List String) : String :=
  ", ".intercalate (values.map quote)

def delegationJson (delegation : Option ClientDelegation) : String :=
  match delegation with
  | some delegation =>
      "\x7b\"id\": " ++ quote delegation.id ++ ", \"delegated_by\": " ++
        quote delegation.delegatedBy ++ ", \"capabilities\": [" ++
        quoteList delegation.capabilities ++ "]\x7d"
  | none => "null"

def toJson (self : ClientAuthContext) : String :=
  let claims := ", ".intercalate <| self.claims.map fun (name, value) =>
    quote name ++ ": " ++ quote value
  "\x7b\"authenticated\": " ++ toString self.authenticated ++
    ", \"principal\": \x7b\"id\": " ++ quote self.principalId ++
    ", \"kind\": " ++ quote self.principalKind ++
    "\x7d, \"tenant\": \x7b\"id\": " ++ quote self.tenantId ++
    "\x7d, \"claims\": \x7b" ++ claims ++ "\x7d, \"capabilities\": [" ++
    quoteList self.capabilities ++ "], \"session\": \x7b\"expires_at\": " ++
    toString self.sessionExpiresAt ++ "\x7d, \"delegation\": " ++
    delegationJson self.delegation ++ "\x7d"

/-- What an unauthenticated browser sees: no authority at all. -/
def anonymousJson : String :=
  "\x7b\"authenticated\": false, \"principal\": null, \"tenant\": null, " ++
    "\"claims\": \x7b\x7d, \"capabilities\": [], \"session\": null, " ++
    "\"delegation\": null\x7d"

end ClientAuthContext

end AuthBoundry
