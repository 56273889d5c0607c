import AuthBoundry.Library.KeyedMap
import AuthBoundry.Library.Stateful
import AuthBoundry.Library.Text

/-!
# The declared contract

The declaration an application makes, its validation, its canonical form and
the fingerprint under which audit events and decisions refer to it.
-/

namespace AuthBoundry

open Library

def stableHash (text : String) : UInt64 :=
  fnv1a (utf8 text)

structure AuthConfigError where
  message : String
  deriving DecidableEq, Repr

inductive ClaimKind where
  | enum (values : List String)
  | string
  | integer
  | boolean
  deriving DecidableEq, Repr

structure ClaimDef where
  name : String
  kind : ClaimKind
  deriving DecidableEq, Repr

structure PolicyClaimCondition where
  claim : String
  values : List String
  deriving DecidableEq, Repr

structure PolicyDef where
  capability : String
  tenantCurrent : Bool
  resource : Option String
  action : Option String
  claims : List PolicyClaimCondition
  deriving DecidableEq, Repr

inductive IsolationMode where
  | strict
  | sharedStorageWithPolicy
  deriving DecidableEq, Repr

/-- The name that the canonical form carries. -/
def IsolationMode.debugName : IsolationMode → String
  | .strict => "Strict"
  | .sharedStorageWithPolicy => "SharedStorageWithPolicy"

inductive AuthUiMode where
  | default
  | custom
  deriving DecidableEq, Repr, Ord

def AuthUiMode.asStr : AuthUiMode → String
  | .default => "default"
  | .custom => "custom"

inductive ExperienceRenderer where
  | generated
  | embedded
  | headless
  | custom
  deriving DecidableEq, Repr

def ExperienceRenderer.asStr : ExperienceRenderer → String
  | .generated => "generated"
  | .embedded => "embedded"
  | .headless => "headless"
  | .custom => "custom"

inductive UiScreen where
  | login
  | signup
  | account
  | passwordForgot
  | passwordReset
  | passwordChange
  | emailVerification
  | accountLinks
  | profile
  | devices
  | sessions
  | mfa
  | passkeys
  | recovery
  | tenant
  | agents
  deriving DecidableEq, Repr, Ord

def UiScreen.asStr : UiScreen → String
  | .login => "login"
  | .signup => "signup"
  | .account => "account"
  | .passwordForgot => "password_forgot"
  | .passwordReset => "password_reset"
  | .passwordChange => "password_change"
  | .emailVerification => "email_verification"
  | .accountLinks => "account_links"
  | .profile => "profile"
  | .devices => "devices"
  | .sessions => "sessions"
  | .mfa => "mfa"
  | .passkeys => "passkeys"
  | .recovery => "recovery"
  | .tenant => "tenant"
  | .agents => "agents"

structure UiScreenOverride where
  screen : UiScreen
  mode : AuthUiMode
  deriving DecidableEq, Repr, Ord

structure UiTheme where
  name : String
  deriving DecidableEq, Repr

def UiTheme.default : UiTheme := { name := "authboundry-default" }

structure AuthUiConfig where
  renderer : ExperienceRenderer
  mode : AuthUiMode
  theme : UiTheme
  screens : List UiScreenOverride
  deriving DecidableEq, Repr

/-- Adjacent equal elements are kept once. -/
def dedupAdjacent {α : Type} [DecidableEq α] : List α → List α
  | first :: second :: rest =>
      if first = second then
        dedupAdjacent (second :: rest)
      else
        first :: dedupAdjacent (second :: rest)
  | short => short

/-- The first name that occurs a second time. -/
def firstDuplicate {α : Type} [DecidableEq α] : List α → List α → Option α
  | _, [] => none
  | seen, name :: names =>
      if name ∈ seen then some name else firstDuplicate (name :: seen) names

namespace AuthUiConfig

def default : AuthUiConfig :=
  { renderer := .generated
    mode := .default
    theme := .default
    screens := [] }

def canonical (self : AuthUiConfig) : AuthUiConfig :=
  let screens := dedupAdjacent
    (self.screens.insertionSort fun left right => (compare left right).isLE)
  { self with
    mode :=
      if screens.any fun screen => screen.mode == .custom then .custom
      else .default
    screens }

def validate (self : AuthUiConfig) : Except AuthConfigError Unit :=
  match firstDuplicate [] (self.screens.map UiScreenOverride.screen) with
  | some screen =>
      .error { message := s!"duplicate ui screen `{screen.asStr}`" }
  | none =>
      if isBlank self.theme.name then
        .error { message := "ui theme cannot be empty" }
      else
        .ok ()

def writeCanonical (self : AuthUiConfig) : String :=
  s!"ui=mode:{self.renderer.asStr};theme:{self.theme.name};screens:" ++
    String.join (self.screens.map fun screen =>
      screen.screen.asStr ++ "=" ++ screen.mode.asStr ++ ",") ++ ";"

end AuthUiConfig

inductive ExperienceState where
  | disabled
  | enabled
  | required
  | adminOnly
  deriving DecidableEq, Repr

def ExperienceState.asStr : ExperienceState → String
  | .disabled => "disabled"
  | .enabled => "enabled"
  | .required => "required"
  | .adminOnly => "admin_only"

inductive AuthExperienceCapability where
  | signIn
  | signUp
  | signOut
  | password
  | passwordReset
  | passwordChange
  | externalIdentity
  | accountLinking
  | emailVerification
  | mfa
  | passkeys
  | deviceManagement
  | sessionManagement
  | profile
  | tenantSwitching
  | recovery
  deriving DecidableEq, Repr

namespace AuthExperienceCapability

def all : List AuthExperienceCapability :=
  [.signIn, .signUp, .signOut, .password, .passwordReset, .passwordChange,
    .externalIdentity, .accountLinking, .emailVerification, .mfa, .passkeys,
    .deviceManagement, .sessionManagement, .profile, .tenantSwitching,
    .recovery]

def asStr : AuthExperienceCapability → String
  | .signIn => "sign_in"
  | .signUp => "sign_up"
  | .signOut => "sign_out"
  | .password => "password"
  | .passwordReset => "password_reset"
  | .passwordChange => "password_change"
  | .externalIdentity => "external_identity"
  | .accountLinking => "account_linking"
  | .emailVerification => "email_verification"
  | .mfa => "mfa"
  | .passkeys => "passkeys"
  | .deviceManagement => "device_management"
  | .sessionManagement => "session_management"
  | .profile => "profile"
  | .tenantSwitching => "tenant_switching"
  | .recovery => "recovery"

end AuthExperienceCapability

structure AuthExperience where
  signIn : ExperienceState
  signUp : ExperienceState
  signOut : ExperienceState
  password : ExperienceState
  passwordReset : ExperienceState
  passwordChange : ExperienceState
  externalIdentity : ExperienceState
  accountLinking : ExperienceState
  emailVerification : ExperienceState
  mfa : ExperienceState
  passkeys : ExperienceState
  deviceManagement : ExperienceState
  sessionManagement : ExperienceState
  profile : ExperienceState
  tenantSwitching : ExperienceState
  recovery : ExperienceState
  deriving DecidableEq, Repr

namespace AuthExperience

def default : AuthExperience :=
  { signIn := .enabled
    signUp := .enabled
    signOut := .enabled
    password := .enabled
    passwordReset := .enabled
    passwordChange := .enabled
    externalIdentity := .enabled
    accountLinking := .enabled
    emailVerification := .enabled
    mfa := .disabled
    passkeys := .disabled
    deviceManagement := .disabled
    sessionManagement := .enabled
    profile := .disabled
    tenantSwitching := .enabled
    recovery := .disabled }

def state (self : AuthExperience) :
    AuthExperienceCapability → ExperienceState
  | .signIn => self.signIn
  | .signUp => self.signUp
  | .signOut => self.signOut
  | .password => self.password
  | .passwordReset => self.passwordReset
  | .passwordChange => self.passwordChange
  | .externalIdentity => self.externalIdentity
  | .accountLinking => self.accountLinking
  | .emailVerification => self.emailVerification
  | .mfa => self.mfa
  | .passkeys => self.passkeys
  | .deviceManagement => self.deviceManagement
  | .sessionManagement => self.sessionManagement
  | .profile => self.profile
  | .tenantSwitching => self.tenantSwitching
  | .recovery => self.recovery

def validate (self : AuthExperience) : Except AuthConfigError Unit :=
  if self.signIn == .disabled && self.signUp == .disabled then
    .error { message := "experience must expose sign_in or sign_up" }
  else
    .ok ()

def writeCanonical (self : AuthExperience) : String :=
  "experience=" ++
    String.join (AuthExperienceCapability.all.map fun capability =>
      capability.asStr ++ ":" ++ (self.state capability).asStr ++ ",") ++ ";"

end AuthExperience

structure PasswordPolicy where
  minLength : Nat
  maxLength : Nat
  requireUppercase : Bool
  requireLowercase : Bool
  requireNumber : Bool
  requireSpecialCharacter : Bool
  passwordExpirationDays : Option Nat
  passwordHistoryCount : Nat
  allowPasswordChange : Bool
  allowPasswordReset : Bool
  deriving DecidableEq, Repr

namespace PasswordPolicy

def default : PasswordPolicy :=
  { minLength := 12
    maxLength := 128
    requireUppercase := false
    requireLowercase := false
    requireNumber := false
    requireSpecialCharacter := false
    passwordExpirationDays := none
    passwordHistoryCount := 5
    allowPasswordChange := true
    allowPasswordReset := true }

def validate (self : PasswordPolicy) : Except AuthConfigError Unit :=
  if self.minLength = 0 then
    .error { message := "password min_length must be at least 1" }
  else if self.maxLength < self.minLength then
    .error
      { message :=
          "password max_length must be greater than or equal to min_length" }
  else
    .ok ()

def writeCanonical (self : PasswordPolicy) : String :=
  let expiration :=
    (self.passwordExpirationDays.map toString).getD "null"
  s!"pwd_policy=min:{self.minLength};max:{self.maxLength};" ++
    s!"upper:{self.requireUppercase};lower:{self.requireLowercase};" ++
    s!"number:{self.requireNumber};special:{self.requireSpecialCharacter};" ++
    s!"expiration:{expiration};history:{self.passwordHistoryCount};" ++
    s!"change:{self.allowPasswordChange};reset:{self.allowPasswordReset};"

end PasswordPolicy

structure StorageConfig where
  authority : String
  audit : String
  reporting : String
  deriving DecidableEq, Repr

namespace StorageConfig

def default : StorageConfig :=
  { authority := "feltdb"
    audit := "feltdb"
    reporting := "authboundry_projection" }

/-- Whether a storage name carries more than a provider. -/
def carriesCredentials (value : String) : Bool :=
  (value.toList.tails.any fun rest => [':', '/', '/'].isPrefixOf rest) ||
    value.toList.contains '@'

def validateField (name value : String) : Except AuthConfigError Unit :=
  if isBlank value then
    .error { message := s!"storage {name} provider cannot be empty" }
  else if carriesCredentials value then
    .error
      { message :=
          s!"storage {name} declares provider capability only, not " ++
            "credentials" }
  else
    .ok ()

def validate (self : StorageConfig) : Except AuthConfigError Unit := do
  validateField "authority" self.authority
  validateField "audit" self.audit
  validateField "reporting" self.reporting

def writeCanonical (self : StorageConfig) : String :=
  s!"storage=authority:{self.authority},audit:{self.audit}," ++
    s!"reporting:{self.reporting};"

end StorageConfig

structure MailConfig where
  identities : KeyedMap String String
  templates : KeyedMap String String
  deriving DecidableEq

namespace MailConfig

def validate (self : MailConfig) : Except AuthConfigError Unit :=
  if !self.identities.contains "auth" then
    .error { message := "mail identities must declare `auth`" }
  else if !self.templates.contains "password_reset" then
    .error { message := "mail templates must declare `password_reset`" }
  else if !self.templates.contains "email_verification" then
    .error
      { message := "mail templates must declare `email_verification`" }
  else
    .ok ()

def writeCanonical (self : MailConfig) : String :=
  "mail=" ++
    String.join (self.identities.toList.map fun (name, address) =>
      s!"identity:{name}={address};") ++
    String.join (self.templates.toList.map fun (name, template) =>
      s!"template:{name}={template};")

end MailConfig

structure AuthConfig where
  multiTenant : Bool
  providers : List String
  claims : List ClaimDef
  isolation : IsolationMode
  agents : Bool
  policies : List PolicyDef
  ui : AuthUiConfig
  experience : AuthExperience
  passwordPolicy : PasswordPolicy
  storage : StorageConfig
  mail : Option MailConfig
  deriving DecidableEq

namespace AuthConfig

def default : AuthConfig :=
  { multiTenant := false
    providers := []
    claims := []
    isolation := .strict
    agents := false
    policies := []
    ui := .default
    experience := .default
    passwordPolicy := .default
    storage := .default
    mail := none }

def canonicalClaim (claim : ClaimDef) : ClaimDef :=
  match claim.kind with
  | .enum values => { claim with kind := .enum (values.insertionSort (· ≤ ·)) }
  | _ => claim

def canonical (self : AuthConfig) : AuthConfig :=
  { self with
    providers := self.providers.insertionSort (· ≤ ·)
    claims :=
      (self.claims.insertionSort fun left right => left.name ≤ right.name).map
        canonicalClaim
    policies :=
      self.policies.insertionSort fun left right =>
        left.capability ≤ right.capability
    ui := self.ui.canonical }

def writeClaim (claim : ClaimDef) : String :=
  claim.name ++ ":" ++
    (match claim.kind with
      | .enum values =>
          "enum[" ++ String.join (values.map fun value => value ++ ",") ++ "]"
      | .string => "string"
      | .integer => "integer"
      | .boolean => "boolean") ++ ";"

def writePolicy (policy : PolicyDef) : String :=
  policy.capability ++ ":" ++
    (if policy.tenantCurrent then "tenant=current;" else "") ++
    (policy.resource.map fun resource => s!"resource={resource};").getD "" ++
    (policy.action.map fun action => s!"action={action};").getD "" ++
    String.join (policy.claims.map fun condition =>
      condition.claim ++ "=" ++
        String.join (condition.values.map fun value => value ++ ",") ++ ";")

def writeCanonical (self : AuthConfig) : String :=
  s!"multi_tenant={self.multiTenant};" ++
    "providers=" ++
    String.join (self.providers.map fun provider => provider ++ ",") ++
    s!";isolation={self.isolation.debugName};claims=" ++
    String.join (self.claims.map writeClaim) ++
    s!"agents={self.agents};" ++
    "policies=" ++
    String.join (self.policies.map writePolicy) ++
    self.ui.writeCanonical ++
    self.experience.writeCanonical ++
    self.passwordPolicy.writeCanonical ++
    self.storage.writeCanonical ++
    (self.mail.map MailConfig.writeCanonical).getD ""

def fingerprint (self : AuthConfig) : String :=
  hex16 (stableHash self.canonical.writeCanonical)

def claim (self : AuthConfig) (name : String) : Option ClaimDef :=
  self.claims.find? fun claim => claim.name == name

def declaresProvider (self : AuthConfig) (name : String) : Bool :=
  self.providers.any fun provider => provider == name

def rejectDuplicates (values : List String) (message : String) :
    Except AuthConfigError Unit :=
  match firstDuplicate [] values with
  | some value => .error { message := s!"{message} `{value}`" }
  | none => .ok ()

def validateClaims : List String → List ClaimDef → Except AuthConfigError Unit
  | _, [] => .ok ()
  | seen, claim :: claims =>
      if isBlank claim.name then
        .error { message := "claim name cannot be empty" }
      else if claim.name ∈ seen then
        .error { message := s!"duplicate claim `{claim.name}`" }
      else do
        match claim.kind with
        | .enum [] =>
            .error
              { message := s!"enum claim `{claim.name}` must have values" }
        | .enum values => rejectDuplicates values "duplicate enum value"
        | _ => .ok ()
        validateClaims (claim.name :: seen) claims

def validatePolicies :
    List String → List PolicyDef → Except AuthConfigError Unit
  | _, [] => .ok ()
  | seen, policy :: policies =>
      if isBlank policy.capability then
        .error { message := "policy capability cannot be empty" }
      else if policy.capability ∈ seen then
        .error { message := s!"duplicate policy `{policy.capability}`" }
      else
        validatePolicies (policy.capability :: seen) policies

def validate (self : AuthConfig) : Except AuthConfigError Unit := do
  refuseIf self.providers.isEmpty { message := "missing providers" }
  rejectDuplicates self.providers "duplicate provider"
  refuseIf (self.providers.any isBlank)
    { message := "provider name cannot be empty" }
  validateClaims [] self.claims
  validatePolicies [] self.policies
  self.ui.validate
  self.experience.validate
  self.passwordPolicy.validate
  self.storage.validate
  match self.mail with
  | some mail => mail.validate
  | none => .ok ()

end AuthConfig

end AuthBoundry
