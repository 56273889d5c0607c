import AuthBoundry.Library.KeyedMap

/-!
# Connectors

A connector proves an external identity.  What a connector answers depends on
state of its own, so a call's answer is part of the environment; the registry
only says which connectors there are.
-/

namespace AuthBoundry

open Library

structure AuthResponse where
  connector : String
  tenant : Option String
  state : String
  parameters : KeyedMap String String
  deriving DecidableEq

/-- Proof that an external system recognises a subject. -/
structure ExternalIdentity where
  connector : String
  subject : String
  attributes : KeyedMap String String
  deriving DecidableEq

inductive ConnectorError where
  | unknownConnector (connector : String)
  | unsupported (connector : String)
  | notDeclared (connector : String)
  | duplicateConnector (connector : String)
  | invalidRequest (connector message : String)
  | invalidCredentials (connector : String)
  | challengeMismatch (connector : String)
  | passwordReused (connector : String)
  | passwordHashingFailed (connector : String)
  deriving DecidableEq, Repr

/-- The text under which a connector failure is reported. -/
def ConnectorError.display : ConnectorError → String
  | .unknownConnector connector => s!"unknown connector `{connector}`"
  | .unsupported connector =>
      s!"connector `{connector}` is declared but not implemented"
  | .notDeclared connector =>
      s!"connector `{connector}` is not declared by `use auth`"
  | .duplicateConnector connector => s!"duplicate connector `{connector}`"
  | .invalidRequest connector message => s!"connector `{connector}`: {message}"
  | .invalidCredentials connector =>
      s!"connector `{connector}`: invalid credentials"
  | .challengeMismatch connector =>
      s!"connector `{connector}`: challenge does not match response"
  | .passwordReused connector => s!"connector `{connector}`: PASSWORD_REUSED"
  | .passwordHashingFailed connector =>
      s!"connector `{connector}`: password hashing failed"

/-- The ids of the registered connectors. -/
structure ConnectorRegistry where
  ids : List String
  deriving DecidableEq, Repr

namespace ConnectorRegistry

def contains (self : ConnectorRegistry) (id : String) : Bool :=
  self.ids.contains id

/-- Resolving a connector either finds it or names the unknown one. -/
def get (self : ConnectorRegistry) (id : String) :
    Except ConnectorError String :=
  if self.contains id then .ok id else .error (.unknownConnector id)

end ConnectorRegistry

end AuthBoundry
