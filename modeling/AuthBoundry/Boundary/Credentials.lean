import AuthBoundry.Boundary.Ceremony
import AuthBoundry.Boundary.Proposals
import AuthBoundry.Providers.Local

/-!
# Credential flows

How a caller comes to a session and keeps the password behind it: signing in
and up, changing and resetting a password, verifying an address.  A request
names the connector; the connector proves an identity, and the mesh resolves
the principal and opens the session.
-/

namespace AuthBoundry

open Library
open Library.Stateful

/-! ## Settings -/

namespace ExperienceState

def isInvokable (self : ExperienceState) : Bool := self != .disabled

end ExperienceState

def AuthExperience.enabled (self : AuthExperience)
    (capability : AuthExperienceCapability) : Bool :=
  (self.state capability).isInvokable

/-- Whether callers may register themselves, and with which claims. -/
inductive RegistrationPolicy where
  | closed
  | selfService (claims : KeyedMap String String)
  deriving DecidableEq

structure EffectivePasswordPolicy where
  policy : PasswordPolicy
  authorityRevision : Nat
  contractFingerprint : String
  policyRevision : Nat

/-- The handle a session is presented with. -/
def AuthContext.credential (self : AuthContext) : SessionCredential :=
  { tenantId := self.tenant.tenantId.value, sessionId := self.session.id }

inductive SignInOutcome where
  | authenticated (context : AuthContext) (credential : SessionCredential)
  /-- The caller has to go elsewhere first. -/
  | challenge (challenge : AuthChallenge)

/-- What a call reads that lies outside the program. -/
structure CredentialEnvironment (Accounts : Type) where
  systemTime : Option Int
  mintSessionId : Nat → String
  auditFault : Nat → Option StorageError
  /-- The connector registered under an id. -/
  connectors : String → AuthConnector Accounts
  mail : Option MailPort
  /-- The hash under which a token is stored. -/
  hash : String → TokenDigest
  randomBytes : List UInt8
  clock : Nat → Int

/-- What the mesh reads of it, at the present accounts. -/
def CredentialEnvironment.meshEnvironment {Accounts : Type}
    (environment : CredentialEnvironment Accounts) (accounts : Accounts) :
    Environment :=
  { systemTime := environment.systemTime
    authenticate := fun id response =>
      (environment.connectors id).authenticate accounts response
    mintSessionId := environment.mintSessionId
    auditFault := environment.auditFault }

/-- The boundary runtime with everything its credential flows use. -/
structure CredentialRuntime (Accounts : Type) where
  control : ProposalRuntime MemoryProposalStore
  registration : RegistrationPolicy
  challenges : ChallengeStore
  accounts : Accounts

/-- Programs over that runtime. -/
abbrev CredentialM (Accounts : Type) :=
  EStateM AuthError (CredentialRuntime Accounts)

/-! ## Errors -/

def passwordError (message : String) (denial : DenialReason) : AuthError :=
  { stage := .providerAuthentication, message, denial }

def configurationError (message : String) (denial : DenialReason) :
    AuthError :=
  { stage := .configuration, message, denial }

def toAuthError (err : ConnectorError) : AuthError :=
  passwordError err.display
    (match err with
      | .passwordReused _ => .passwordReused
      | .unknownConnector _ | .unsupported _ => .unsupportedConnector
      | .invalidCredentials _ | .challengeMismatch _ => .missingCredential
      | .notDeclared _ | .duplicateConnector _ | .invalidRequest _ _
      | .passwordHashingFailed _ => .policyDenied)

/-! ## Requests -/

def requiredField (request : BoundaryRequest) (name : String) :
    Except AuthError String :=
  match request.field name with
  | some value => .ok value
  | none =>
      .error (passwordError s!"missing `{name}`" .missingCredential)

/-- Reserved fields select the flow; everything else is the connector's. -/
def connectorParameters (request : BoundaryRequest) : KeyedMap String String :=
  ((request.body.toList ++ request.query.toList).filter fun entry =>
      entry.1 != "tenant" && entry.1 != "connector").foldl
    (fun parameters entry => parameters.insert entry.1 entry.2) ∅

def attemptOf (request : BoundaryRequest) (tenantId connector : String) :
    AuthRequest :=
  { (AuthRequest.new connector).forTenant tenantId with
    parameters := connectorParameters request }

def responseOf (request : BoundaryRequest) (tenantId : String)
    (challenge : AuthChallenge) : AuthResponse :=
  { (AuthResponse.toChallenge challenge).forTenant tenantId with
    parameters := connectorParameters request }

/-- A password against the rules of a policy. -/
def validatePasswordWith (password : String) (policy : PasswordPolicy) :
    Except AuthError Unit :=
  let characters := password.toList
  if characters.length < policy.minLength then
    .error (passwordError "PASSWORD_TOO_SHORT" .passwordTooShort)
  else if policy.maxLength < characters.length then
    .error (passwordError "PASSWORD_TOO_LONG" .passwordTooLong)
  else if policy.requireUppercase && !characters.any Char.isUpper then
    .error
      (passwordError "PASSWORD_MISSING_UPPERCASE" .passwordMissingUppercase)
  else if policy.requireLowercase && !characters.any Char.isLower then
    .error
      (passwordError "PASSWORD_MISSING_LOWERCASE" .passwordMissingLowercase)
  else if policy.requireNumber && !characters.any Char.isDigit then
    .error (passwordError "PASSWORD_MISSING_NUMBER" .passwordMissingNumber)
  else if policy.requireSpecialCharacter &&
      !characters.any fun character =>
        !character.isAlphanum && !isWhitespace character then
    .error
      (passwordError "PASSWORD_MISSING_SPECIAL_CHARACTER"
        .passwordMissingSpecialCharacter)
  else
    .ok ()

/-- A difference of two 64-bit numbers, kept within them. -/
def saturatingSub (left right : Int) : Int :=
  max (-9223372036854775808) (min 9223372036854775807 (left - right))

/-- The start of an attempt at the mesh. -/
def AuthMesh.begin {Accounts : Type}
    (environment : CredentialEnvironment Accounts) (accounts : Accounts)
    (self : AuthMesh) (tenantId : String) (request : AuthRequest) :
    Except AuthError AuthChallenge := do
  let _ ← self.tenant tenantId
  let connector ← self.connector request.connector
  ((environment.connectors connector).begin accounts request).mapError
    connectorError

namespace CredentialRuntime

variable {Accounts : Type}

/-! ## Parts -/

def mesh (self : CredentialRuntime Accounts) : AuthMesh :=
  self.control.runtime.mesh

def authority (self : CredentialRuntime Accounts) : LiveAuthorityState :=
  self.control.authority

def changeMesh (self : CredentialRuntime Accounts) (mesh : AuthMesh) :
    CredentialRuntime Accounts :=
  { self with
    control :=
      { self.control with runtime := { self.control.runtime with mesh } } }

def changeControl (self : CredentialRuntime Accounts)
    (control : ProposalRuntime MemoryProposalStore) :
    CredentialRuntime Accounts :=
  { self with control }

def changeAuthority (self : CredentialRuntime Accounts)
    (authority : LiveAuthorityState) : CredentialRuntime Accounts :=
  self.changeControl (self.control.changeAuthority authority)

def changeAccounts (self : CredentialRuntime Accounts) (accounts : Accounts) :
    CredentialRuntime Accounts :=
  { self with accounts }

def changeChallenges (self : CredentialRuntime Accounts)
    (challenges : ChallengeStore) : CredentialRuntime Accounts :=
  { self with challenges }

variable (environment : CredentialEnvironment Accounts)

def onMesh {α : Type} (program : Environment → MeshM α) :
    CredentialM Accounts α := fun self =>
  onPart mesh changeMesh (program (environment.meshEnvironment self.accounts))
    self

/-- A call of a connector. -/
def onAccounts {α : Type} (program : ConnectorM Accounts α) :
    CredentialM Accounts α :=
  onPart accounts changeAccounts (translate toAuthError program)

/-! ## Questions -/

def effectivePasswordPolicy (self : CredentialRuntime Accounts) :
    EffectivePasswordPolicy :=
  { policy :=
      self.authority.passwordPolicy.getD self.mesh.config.passwordPolicy
    authorityRevision := self.authority.revision
    contractFingerprint := self.mesh.config.fingerprint
    policyRevision := self.authority.revision }

/-- Whether a provider may be offered; one that was never set may. -/
def isProviderEnabled (self : CredentialRuntime Accounts) (provider : String) :
    Bool :=
  (self.authority.providerState[provider]?.map ProviderState.enabled).getD true

def begin (self : CredentialRuntime Accounts) (tenantId : String)
    (request : AuthRequest) : Except AuthError AuthChallenge :=
  self.mesh.begin environment self.accounts tenantId request

def connector (self : CredentialRuntime Accounts) (id : String) :
    Except AuthError String :=
  (self.mesh.registry.get id).mapError toAuthError

def verifiesEmail (self : CredentialRuntime Accounts) : Bool :=
  self.mesh.config.experience.enabled .emailVerification

def validatePassword (self : CredentialRuntime Accounts) (password : String) :
    Except AuthError Unit :=
  validatePasswordWith password self.effectivePasswordPolicy.policy

def ensurePasswordNotExpired (self : CredentialRuntime Accounts)
    (external : ExternalIdentity) (now : Int) : Except AuthError Unit :=
  match self.effectivePasswordPolicy.policy.passwordExpirationDays with
  | none => .ok ()
  | some days =>
  match external.attributes["password_changed_at"]?.bind parseI64 with
  | none => .ok ()
  | some changedAt =>
      refuseIf (decide (Int.ofNat days * 86400 < saturatingSub now changedAt))
        (passwordError "PASSWORD_EXPIRED" .passwordExpired)

def awaitsVerification (self : CredentialRuntime Accounts)
    (external : ExternalIdentity) : Bool :=
  self.verifiesEmail &&
    external.attributes["email_verification_required"]? == some "true" &&
    external.attributes["email_verified"]? != some "true"

def requireMailContract (self : CredentialRuntime Accounts)
    (template : String) : Except AuthError Unit :=
  match self.mesh.config.mail with
  | none => .ok ()
  | some mail =>
      refuseIf
        (!mail.identities.contains "auth" || !mail.templates.contains template)
        (configurationError
          s!"MailPort contract does not declare `{template}`" .policyDenied)

/-! ## Mailing a token -/

/-- What the two mails that carry a token differ in. -/
structure TokenMail where
  kind : CeremonyKind
  template : String
  lifetime : Int
  /-- The variable that leads to the second request. -/
  link : String → String × String
  keyStart : String

def passwordResetMail : TokenMail :=
  { kind := .passwordReset
    template := "password_reset"
    lifetime := 900
    link := fun token =>
      ("reset_url", s!"/auth/password/reset?token={token}")
    keyStart := "password-reset:" }

def emailVerificationMail : TokenMail :=
  { kind := .emailVerification
    template := "email_verification"
    lifetime := 3600
    link := fun token =>
      ("verification_url", s!"/auth/email/verification?token={token}")
    keyStart := "email-verification:" }

def TokenMail.message (self : TokenMail) (token username tenant : String)
    (recipient : String) (expiresAt : Int) : MailMessage :=
  { template := self.template
    identity := "auth"
    recipient
    tenant
    values :=
      [("token", token), ("user.name", username),
          ("app.name", "AuthBoundry application"),
          ("expires_at", toString expiresAt), ("support_url", ""),
          self.link token].foldl
        (fun values entry => values.insert entry.1 entry.2) ∅
    idempotencyKey := self.keyStart ++ token }

def challengeAccount (connectorId username : String) : String :=
  connectorId ++ "\x00" ++ username

/-- Store a token and mail it.  Whether the account exists is not observable:
without an address there is nothing to do. -/
def mailToken (mailed : TokenMail) (request : BoundaryRequest) (now : Int) :
    CredentialM Accounts Unit := do
  inspect fun self => self.requireMailContract mailed.template
  let tenantId ← inspect fun _ => requiredField request "tenant"
  let connectorId ← inspect fun _ => requiredField request "connector"
  let username ← inspect fun _ => requiredField request "username"
  let address ← inspect fun self => do
    let connector ← self.connector connectorId
    .ok ((environment.connectors connector).recoveryAddress self.accounts
      username)
  match address, environment.mail with
  | none, _ => pure ()
  | some _, none =>
      throw (configurationError "MailPort is not configured" .policyDenied)
  | some address, some mail => do
      let expiresAt := now + mailed.lifetime
      let token ← onPart challenges changeChallenges fun store =>
        let (token, issued) := store.issue environment.hash
          environment.randomBytes mailed.kind tenantId
          (challengeAccount connectorId username) expiresAt
        .ok token issued
      inspect fun _ =>
        (mail (mailed.message token username tenantId address
          expiresAt)).mapError fun message =>
            passwordError message .policyDenied

/-! ## Sessions -/

/-- What a caller gets with an opened session. -/
def signedIn (authenticated : AuthenticatedSession) : SignInOutcome :=
  let context := AuthContext.new authenticated.session authenticated.context
  .authenticated context context.credential

def signIn (request : BoundaryRequest) : CredentialM Accounts SignInOutcome :=
  do
  let now := environment.clock 0
  let tenantId ← inspect fun _ => requiredField request "tenant"
  let connector ← inspect fun _ => requiredField request "connector"
  let challenge ← inspect fun self =>
    self.begin environment tenantId (attemptOf request tenantId connector)
  if challenge.kind != .credentials then
    pure (.challenge challenge)
  else
    let authenticated ← onMesh environment fun outside =>
      AuthMesh.signIn outside tenantId
        (responseOf request tenantId challenge) now
    inspect fun self =>
      self.ensurePasswordNotExpired authenticated.external now
    let unverified ← inspect fun self =>
      .ok (self.awaitsVerification authenticated.external)
    if unverified then
      -- The session is open already; it is closed again, if that works.
      attempt (onMesh environment fun outside =>
        AuthMesh.logout outside tenantId authenticated.session.id now)
      throw
        (passwordError "Please verify your email address before signing in."
          .policyDenied)
    else
      pure (signedIn authenticated)

/-- The claims of a caller who registers, if the deployment lets callers. -/
def registrationClaims (self : CredentialRuntime Accounts) :
    Except AuthError (KeyedMap String String) :=
  match self.registration with
  | .closed =>
      .error
        (configurationError "registration is closed for this deployment"
          .unknownPrincipal)
  | .selfService claims => .ok claims

/-- A connector that manages passwords is only given a valid one. -/
def checkNewPassword (self : CredentialRuntime Accounts)
    (request : BoundaryRequest) (connector : String) : Except AuthError Unit :=
  if (environment.connectors connector).supportsPasswordManagement then do
    let password ← requiredField request "password"
    self.validatePassword password
  else
    .ok ()

def isAddress (text : String) : Bool := text.toList.contains '@'

/-- The attributes of an account that a caller creates. -/
def signUpAttributes (self : CredentialRuntime Accounts)
    (request : BoundaryRequest) (username : String) :
    KeyedMap String String :=
  match (request.field "email").or
      (if isAddress username then some username else none) with
  | none => ∅
  | some email =>
      let attributes := (∅ : KeyedMap String String).insert "email" email
      if self.verifiesEmail then
        attributes.insert "email_verification_required" "true"
      else
        attributes

/-- The local directory does not accept the credentials yet. -/
def lacksAccount (self : CredentialRuntime Accounts) (connector : String)
    (response : AuthResponse) : Bool :=
  connector == localId &&
    !((environment.connectors connector).authenticate self.accounts
      response).isOk

/-- An account in the local directory, where the credentials are not accepted
yet. -/
def createMissingAccount (request : BoundaryRequest) (connector : String)
    (response : AuthResponse) : CredentialM Accounts Unit := do
  let missing ← inspect fun self =>
    .ok (self.lacksAccount environment connector response)
  if missing then
    let username ← inspect fun _ => requiredField request "username"
    let password ← inspect fun _ => requiredField request "password"
    let attributes ← inspect fun self =>
      .ok (self.signUpAttributes request username)
    onAccounts
      ((environment.connectors connector).createAccount username password
        attributes)
  else
    pure ()

def startVerification (request : BoundaryRequest) (tenantId : String)
    (session : SessionId) (now : Int) : CredentialM Accounts Unit := do
  let verifies ← inspect fun self => .ok self.verifiesEmail
  if verifies then
    mailToken environment emailVerificationMail request (environment.clock 1)
    if (request.field "email").isSome ||
        ((request.field "username").map isAddress).getD false then
      attempt (onMesh environment fun outside =>
        AuthMesh.logout outside tenantId session now)
    else
      pure ()
  else
    pure ()

/-- Register a new principal.  The claims are the deployment's, never the
request's. -/
def signUp (request : BoundaryRequest) : CredentialM Accounts SignInOutcome :=
  do
  let claims ← inspect fun self => self.registrationClaims
  let now := environment.clock 0
  let tenantId ← inspect fun _ => requiredField request "tenant"
  let connector ← inspect fun _ => requiredField request "connector"
  let _ ← inspect fun self => self.connector connector
  inspect fun self => self.checkNewPassword environment request connector
  let challenge ← inspect fun self =>
    self.begin environment tenantId (attemptOf request tenantId connector)
  if challenge.kind != .credentials then
    pure (.challenge challenge)
  else
    let response := responseOf request tenantId challenge
    createMissingAccount environment request connector response
    let authenticated ← onMesh environment fun outside =>
      AuthMesh.signUp outside tenantId response { kind := .human, claims } now
    startVerification environment request tenantId authenticated.session.id now
    pure (signedIn authenticated)

/-- An account of the local directory with its principal, made by the
deployment itself. -/
def createLocalUser (tenantId username password : String)
    (email : Option String) (claims : KeyedMap String String) :
    CredentialM Accounts Unit := do
  inspect fun self => self.validatePassword password
  let connector ← inspect fun self => self.connector localId
  let attributes : KeyedMap String String :=
    match email.or (if isAddress username then some username else none) with
    | none => ∅
    | some email => (∅ : KeyedMap String String).insert "email" email
  onAccounts
    ((environment.connectors connector).createAccount username password
      attributes)
  let challenge ← inspect fun self =>
    ((environment.connectors connector).begin self.accounts
      (((AuthRequest.new localId).forTenant tenantId).withParameter "username"
        username)).mapError toAuthError
  let response :=
    (((AuthResponse.toChallenge challenge).forTenant tenantId).withParameter
      "username" username).withParameter "password" password
  let _ ← onMesh environment fun outside =>
    AuthMesh.signUp outside tenantId response { kind := .human, claims }
      (environment.clock 0)
  pure ()

/-! ## Passwords -/

def changePassword (request : BoundaryRequest) : CredentialM Accounts Unit := do
  let policy ← inspect fun self => .ok self.effectivePasswordPolicy.policy
  inspect fun _ => refuseIf (!policy.allowPasswordChange)
    (passwordError "password changes are disabled" .policyDenied)
  let tenantId ← inspect fun _ => requiredField request "tenant"
  let connectorId ← inspect fun _ => requiredField request "connector"
  let username ← inspect fun _ => requiredField request "username"
  let currentPassword ← inspect fun _ =>
    requiredField request "current_password"
  let newPassword ← inspect fun _ => requiredField request "new_password"
  inspect fun _ => validatePasswordWith newPassword policy
  let connector ← inspect fun self => self.connector connectorId
  onAccounts
    ((environment.connectors connector).changePassword tenantId username
      currentPassword newPassword policy (environment.clock 0))

def forgotPassword (request : BoundaryRequest) : CredentialM Accounts Unit := do
  let policy ← inspect fun self => .ok self.effectivePasswordPolicy.policy
  inspect fun _ => refuseIf (!policy.allowPasswordReset)
    (passwordError "password resets are disabled" .policyDenied)
  mailToken environment passwordResetMail request (environment.clock 0)

/-- The connector and the username that a challenge names. -/
def splitAccount (account unsplit : String) :
    Except String (String × String) :=
  match splitOnce '\x00' account with
  | none => .error unsplit
  | some parts => .ok parts

/-- An operation of the connector that a challenge names, on the account it
names. -/
def tokenOperation (unsplit : String)
    (operation : AuthConnector Accounts → String → String →
      ConnectorM Accounts Unit) (tenantId account : String) :
    EStateM String (CredentialRuntime Accounts) Unit := do
  let (connectorId, username) ← inspect fun _ => splitAccount account unsplit
  let connector ← inspect fun self =>
    (self.mesh.registry.get connectorId).mapError ConnectorError.display
  onPart accounts changeAccounts
    (translate ConnectorError.display
      (operation (environment.connectors connector) tenantId username))

def consumeToken (token : String) (kind : CeremonyKind) (unsplit : String)
    (operation : AuthConnector Accounts → String → String →
      ConnectorM Accounts Unit) : CredentialM Accounts Unit :=
  translate (fun message => passwordError message .missingCredential)
    (onPart (fun self => (self.challenges, self))
      (fun _ (challenges, self) => self.changeChallenges challenges)
      (ChallengeStore.consumeWith environment.hash token kind
        (environment.clock 0)
        (tokenOperation environment unsplit operation)))

def newPasswordOf (request : BoundaryRequest) : Except AuthError String :=
  match requiredField request "new_password" with
  | .ok password => .ok password
  | .error _ => requiredField request "password"

def resetPassword (request : BoundaryRequest) : CredentialM Accounts Unit := do
  let policy ← inspect fun self => .ok self.effectivePasswordPolicy.policy
  let token ← inspect fun _ => requiredField request "token"
  let newPassword ← inspect fun _ => newPasswordOf request
  inspect fun _ => validatePasswordWith newPassword policy
  consumeToken environment token .passwordReset "invalid recovery challenge"
    fun connector tenantId username =>
      connector.resetPassword tenantId username newPassword policy
        (environment.clock 1)

/-! ## Addresses -/

def requestEmailVerification (request : BoundaryRequest) :
    CredentialM Accounts Unit :=
  mailToken environment emailVerificationMail request (environment.clock 0)

def verifyEmail (request : BoundaryRequest) : CredentialM Accounts Unit := do
  let token ← inspect fun _ => requiredField request "token"
  consumeToken environment token .emailVerification
    "invalid verification challenge"
    fun connector _ username => connector.markEmailVerified username

def revokeChallenge (token : String) : CredentialM Accounts Unit :=
  onPart challenges changeChallenges fun store =>
    .ok () (store.revoke environment.hash token)

/-- End the session the request presents. -/
def signOut (request : BoundaryRequest) : CredentialM Accounts Unit := do
  let context ← inspect fun self =>
    self.control.runtime.authenticate
      (environment.meshEnvironment self.accounts) request (environment.clock 0)
  onMesh environment fun outside =>
    AuthMesh.logout outside context.tenant.tenantId.value context.session.id
      (environment.clock 1)

end CredentialRuntime

end AuthBoundry
