import AuthBoundry.Providers.AuthConnector

/-!
# The local connector

The one connector with real behaviour.  It keeps a directory of accounts, each
with the hash of its password and the hashes of earlier ones.  How a password
is hashed and how a hash is checked lie outside the program.
-/

namespace AuthBoundry

open Library
open Library.Stateful

structure PasswordHashing where
  hashPassword : String → Option String
  /-- Whether a text is the hash of a password. -/
  verifies : String → String → Bool

structure LocalAccount where
  username : String
  passwordHash : String
  passwordHistory : List String
  passwordChangedAt : Int
  attributes : KeyedMap String String
  deriving DecidableEq

/-- The accounts of the local connector, by username. -/
abbrev LocalDirectory := KeyedMap String LocalAccount

def localId : String := "local"

namespace LocalAccount

variable (hashing : PasswordHashing)

def new (username password : String) : Option LocalAccount :=
  (hashing.hashPassword password).map fun passwordHash =>
    { username
      passwordHash
      passwordHistory := []
      passwordChangedAt := 0
      attributes := ∅ }

def verifyPassword (self : LocalAccount) (password : String) : Bool :=
  hashing.verifies self.passwordHash password

def matchesCurrentOrHistory (self : LocalAccount) (password : String)
    (historyCount : Nat) : Bool :=
  (self.passwordHash :: self.passwordHistory.take historyCount).any fun hash =>
    hashing.verifies hash password

/-- The account under a new password, unless that is one it still knows. -/
def setPassword (self : LocalAccount) (password : String)
    (policy : PasswordPolicy) (now : Int) :
    Except ConnectorError LocalAccount :=
  if self.matchesCurrentOrHistory hashing password
      policy.passwordHistoryCount then
    .error (.passwordReused localId)
  else
    match hashing.hashPassword password with
    | none => .error (.passwordHashingFailed localId)
    | some passwordHash =>
        .ok
          { self with
            passwordHash
            passwordHistory :=
              (self.passwordHash :: self.passwordHistory).take
                policy.passwordHistoryCount
            passwordChangedAt := now }

end LocalAccount

namespace LocalConnector

variable (hashing : PasswordHashing)

def invalidCredentials : ConnectorError := .invalidCredentials localId

def missing (name : String) : ConnectorError :=
  .invalidRequest localId s!"missing `{name}`"

/-- A username is taken once. -/
def register (account : LocalAccount) : ConnectorM LocalDirectory Unit :=
  commit fun accounts =>
    if accounts.contains account.username then
      .error
        (.invalidRequest localId s!"account `{account.username}` already exists")
    else
      .ok ((), accounts.insert account.username account)

/-- The challenge does not reveal whether the account exists. -/
def begin (_accounts : LocalDirectory) (request : AuthRequest) :
    Except ConnectorError AuthChallenge :=
  if request.connector != localId then
    .error
      (.invalidRequest localId s!"request targets connector `{request.connector}`")
  else
    match request.parameter "username" with
    | none => .error (missing "username")
    | some username =>
        .ok
          { connector := localId
            kind := .credentials
            state := challengeState localId request.tenant username
            parameters := (∅ : KeyedMap String String).insert "username"
              username }

def identityOf (username : String) (account : LocalAccount) :
    ExternalIdentity :=
  { connector := localId
    subject := username
    attributes :=
      account.attributes.insert "password_changed_at"
        (toString account.passwordChangedAt) }

def authenticate (accounts : LocalDirectory) (response : AuthResponse) :
    Except ConnectorError ExternalIdentity :=
  if response.connector != localId then
    .error
      (.invalidRequest localId
        s!"response targets connector `{response.connector}`")
  else
    match response.parameter "username" with
    | none => .error (missing "username")
    | some username =>
    match response.parameter "password" with
    | none => .error (missing "password")
    | some password =>
      if response.state != challengeState localId response.tenant username then
        .error (.challengeMismatch localId)
      else
        match accounts[username]? with
        | none => .error invalidCredentials
        | some account =>
            if account.verifyPassword hashing password then
              .ok (identityOf username account)
            else
              .error invalidCredentials

def recoveryAddress (accounts : LocalDirectory) (username : String) :
    Option String :=
  accounts[username]?.bind fun account => account.attributes["email"]?

def changeAccount (username : String)
    (change : LocalAccount → Except ConnectorError LocalAccount) :
    ConnectorM LocalDirectory Unit :=
  commit fun accounts =>
    match accounts[username]? with
    | none => .error invalidCredentials
    | some account =>
        match change account with
        | .error err => .error err
        | .ok changed => .ok ((), accounts.insert username changed)

def markEmailVerified (username : String) : ConnectorM LocalDirectory Unit :=
  changeAccount username fun account =>
    .ok
      { account with
        attributes := account.attributes.insert "email_verified" "true" }

def createAccount (username password : String)
    (attributes : KeyedMap String String) : ConnectorM LocalDirectory Unit :=
  match LocalAccount.new hashing username password with
  -- The source panics where a password cannot be hashed, before it has looked
  -- at the directory.
  | none => throw (.passwordHashingFailed localId)
  | some account => register { account with attributes }

def changePassword (username currentPassword newPassword : String)
    (policy : PasswordPolicy) (now : Int) : ConnectorM LocalDirectory Unit :=
  changeAccount username fun account =>
    if account.verifyPassword hashing currentPassword then
      account.setPassword hashing newPassword policy now
    else
      .error invalidCredentials

def resetPassword (username newPassword : String) (policy : PasswordPolicy)
    (now : Int) : ConnectorM LocalDirectory Unit :=
  changeAccount username fun account =>
    account.setPassword hashing newPassword policy now

end LocalConnector

/-- The local connector; it knows of no tenants. -/
def localConnector (hashing : PasswordHashing) :
    AuthConnector LocalDirectory :=
  { id := localId
    begin := LocalConnector.begin
    authenticate := LocalConnector.authenticate hashing
    supportsPasswordManagement := true
    recoveryAddress := LocalConnector.recoveryAddress
    markEmailVerified := LocalConnector.markEmailVerified
    createAccount := LocalConnector.createAccount hashing
    changePassword := fun _ username currentPassword newPassword policy now =>
      LocalConnector.changePassword hashing username currentPassword
        newPassword policy now
    resetPassword := fun _ username newPassword policy now =>
      LocalConnector.resetPassword hashing username newPassword policy now }

end AuthBoundry
