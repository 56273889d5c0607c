import AuthBoundry.Dsl.Model
import AuthBoundry.Providers.Connector

/-!
# The connector contract

What the boundary asks of a connector.  A connector may keep accounts: what it
answers depends on them, and some operations write them.  Whatever a connector
does not implement it refuses.
-/

namespace AuthBoundry

open Library

/-- A parameter counts only if something is left of it after trimming. -/
def givenParameter (parameters : KeyedMap String String) (key : String) :
    Option String :=
  (parameters[key]?.map trim).filter fun value => !value.isEmpty

structure AuthRequest where
  connector : String
  tenant : Option String
  parameters : KeyedMap String String
  redirectUri : Option String
  deriving DecidableEq

namespace AuthRequest

def new (connector : String) : AuthRequest :=
  { connector, tenant := none, parameters := ∅, redirectUri := none }

def forTenant (self : AuthRequest) (tenant : String) : AuthRequest :=
  { self with tenant := some tenant }

def withParameter (self : AuthRequest) (key value : String) : AuthRequest :=
  { self with parameters := self.parameters.insert key value }

def parameter (self : AuthRequest) (key : String) : Option String :=
  givenParameter self.parameters key

end AuthRequest

inductive ChallengeKind where
  /-- The caller submits credentials directly. -/
  | credentials
  /-- The caller is sent to an external authorization endpoint. -/
  | redirect (url : String)
  /-- The caller proves control of an out-of-band channel. -/
  | outOfBand (channel : String)
  deriving DecidableEq, Repr

structure AuthChallenge where
  connector : String
  kind : ChallengeKind
  state : String
  parameters : KeyedMap String String
  deriving DecidableEq

namespace AuthResponse

def toChallenge (challenge : AuthChallenge) : AuthResponse :=
  { connector := challenge.connector
    tenant := none
    state := challenge.state
    parameters := ∅ }

def forTenant (self : AuthResponse) (tenant : String) : AuthResponse :=
  { self with tenant := some tenant }

def withParameter (self : AuthResponse) (key value : String) : AuthResponse :=
  { self with parameters := self.parameters.insert key value }

def parameter (self : AuthResponse) (key : String) : Option String :=
  givenParameter self.parameters key

end AuthResponse

/-- Programs over the accounts behind the connectors. -/
abbrev ConnectorM (Accounts : Type) := EStateM ConnectorError Accounts

/-- A connector over the accounts behind the connectors. -/
structure AuthConnector (Accounts : Type) where
  id : String
  begin : Accounts → AuthRequest → Except ConnectorError AuthChallenge
  authenticate :
    Accounts → AuthResponse → Except ConnectorError ExternalIdentity
  supportsPasswordManagement : Bool := false
  recoveryAddress : Accounts → String → Option String := fun _ _ => none
  markEmailVerified : String → ConnectorM Accounts Unit :=
    fun _ => throw (.unsupported id)
  createAccount :
      String → String → KeyedMap String String → ConnectorM Accounts Unit :=
    fun _ _ _ => throw (.unsupported id)
  changePassword :
      String → String → String → String → PasswordPolicy → Int →
        ConnectorM Accounts Unit :=
    fun _ _ _ _ _ _ => throw (.unsupported id)
  resetPassword :
      String → String → String → PasswordPolicy → Int →
        ConnectorM Accounts Unit :=
    fun _ _ _ _ _ => throw (.unsupported id)

/-- A connector that is declared but not implemented refuses every attempt. -/
def declaredConnector (Accounts : Type) (id : String) :
    AuthConnector Accounts :=
  { id
    begin := fun _ _ => .error (.unsupported id)
    authenticate := fun _ _ => .error (.unsupported id) }

/-- What binds the start of an attempt to its completion. -/
def challengeState (connector : String) (tenant : Option String)
    (subject : String) : String :=
  let tenant := tenant.getD ""
  s!"chal_" ++ hex16 (stableHash s!"{connector}|{tenant}|{subject}")

end AuthBoundry
