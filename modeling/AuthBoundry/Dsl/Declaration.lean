import AuthBoundry.Dsl.Parser
import AuthBoundry.Server.Client

/-!
# Reading a declaration

The entries of an auth block are read one after another into a contract.  A
name may stand once in a block, and each entry sets what its name stands for;
some settings have two names.
-/

namespace AuthBoundry

open Library
open Library.Stateful

/-! ## Values -/

def expectScalar (key : String) : Value → Except AuthDslError String
  | .scalar scalar => .ok scalar
  | other => .error ⟨s!"`{key}` expects a value, found {other.kind}"⟩

def expectBool (key : String) (value : Value) : Except AuthDslError Bool := do
  match ← expectScalar key value with
  | "true" => return true
  | "false" => return false
  | _ => .error ⟨s!"{key} must be true or false"⟩

def expectUsize (key : String) (value : Value) : Except AuthDslError Nat := do
  match parseU64 (← expectScalar key value) with
  | some number => return number
  | none => .error ⟨s!"{key} must be a non-negative integer"⟩

/-- An unsigned decimal that fits 32 bits; a leading plus is optional. -/
def parseU32 (text : String) : Option Nat :=
  (parseU64 text).filter (· < 2 ^ 32)

def expectOptionalU32 (key : String) (value : Value) :
    Except AuthDslError (Option Nat) := do
  let scalar ← expectScalar key value
  if scalar == "null" then return none
  match parseU32 scalar with
  | some number => return some number
  | none => .error ⟨s!"{key} must be an integer or null"⟩

def expectProviders : Value → Except AuthDslError (List String)
  | .list items =>
      let items := items.filter (!isBlank ·)
      if items.isEmpty then .error ⟨"providers cannot be empty"⟩
      else .ok items
  | _ => .error ⟨"providers must be in []"⟩

def parseIsolation (input : String) : Except AuthDslError IsolationMode :=
  match asciiLower input with
  | "strict" => .ok .strict
  | "shared_storage_with_policy" => .ok .sharedStorageWithPolicy
  | _ => .error ⟨s!"unknown isolation mode `{input}`"⟩

def parseClaimKind (name : String) : Value → Except AuthDslError ClaimKind
  | .enum variants =>
      let variants := variants.filter (!isBlank ·)
      if variants.isEmpty then .error ⟨"enum claim must have values"⟩
      else
        match firstDuplicate [] variants with
        | some variant => .error ⟨s!"duplicate enum value `{variant}`"⟩
        | none => .ok (.enum variants)
  | .scalar scalar =>
      match scalar with
      | "string" => .ok .string
      | "integer" => .ok .integer
      | "boolean" => .ok .boolean
      | _ => .error ⟨s!"unsupported claim kind `{scalar}`"⟩
  | other =>
      .error ⟨s!"claim `{name}` has an unsupported {other.kind} definition"⟩

def parseClaims : Value → Except AuthDslError (List ClaimDef)
  | .block entries =>
      entries.mapM fun (name, kind) => do
        return { name, kind := ← parseClaimKind name kind }
  | _ => .error ⟨"claims must be a `\x7b ... \x7d` block"⟩

/-- The order that is derived for conditions. -/
def PolicyClaimCondition.le (left right : PolicyClaimCondition) : Bool :=
  left.claim < right.claim ||
    (left.claim == right.claim && !(right.values < left.values))

def readPolicyField (policy : PolicyDef) (entry : String × Value) :
    Except AuthDslError PolicyDef :=
  let (key, value) := entry
  match key with
  | "tenant" => do
      if (← expectScalar key value) != "current" then
        .error ⟨"policy tenant must be `current`"⟩
      else
        return { policy with tenantCurrent := true }
  | "resource" => do
      return { policy with resource := some (← expectScalar key value) }
  | "action" => do
      return { policy with action := some (← expectScalar key value) }
  | claim => do
      let values ←
        match value with
        | .list values => .ok values
        | .enum values => .ok values
        | .scalar value => .ok [value]
        | .block _ => .error ⟨s!"policy claim `{claim}` cannot be a block"⟩
      return { policy with claims := policy.claims ++ [{ claim, values }] }

def parsePolicy (capability : String) : Value → Except AuthDslError PolicyDef
  | .block fields => do
      let policy ← fields.foldlM readPolicyField
        { capability
          tenantCurrent := false
          resource := none
          action := (splitOnce '.' capability).map Prod.snd
          claims := [] }
      return { policy with
        claims := policy.claims.insertionSort fun left right =>
          PolicyClaimCondition.le left right }
  | _ => .error ⟨s!"policy `{capability}` must be a block"⟩

def parsePolicies : Value → Except AuthDslError (List PolicyDef)
  | .block entries => entries.mapM fun (capability, value) =>
      parsePolicy capability value
  | _ => .error ⟨"policy must be a `\x7b ... \x7d` block"⟩

/-! ## Blocks of fields -/

/-- The fields of a block are read in turn; a name that was seen is refused. -/
def readFields {σ γ : Type} (block : String)
    (read : String → Value → Except AuthDslError σ)
    (put : γ → σ → Except AuthDslError γ) :
    List String → γ → Entries → Except AuthDslError γ
  | _, config, [] => .ok config
  | seen, config, (key, value) :: entries =>
      if key ∈ seen then
        .error ⟨s!"duplicate {block} field `{key}`"⟩
      else do
        let setting ← read key value
        readFields block read put (key :: seen) (← put config setting) entries

/-- Each setting of a block is put where it belongs. -/
def always {σ γ : Type} (put : γ → σ → γ) (config : γ) (setting : σ) :
    Except AuthDslError γ :=
  .ok (put config setting)

def asDslError (error : AuthConfigError) : AuthDslError := ⟨error.message⟩

def parseFields {σ γ : Type} (block : String)
    (read : String → Value → Except AuthDslError σ) (put : γ → σ → γ)
    (check : γ → Except AuthConfigError Unit) (finish : γ → γ) (config : γ) :
    Value → Except AuthDslError γ
  | .block entries => do
      let config ← readFields block read (always put) [] config entries
      (check config).mapError asDslError
      return finish config
  | _ => .error ⟨s!"{block} must be a `\x7b ... \x7d` block"⟩

inductive StorageField where
  | authority
  | audit
  | reporting
  deriving DecidableEq, Repr

structure StorageSetting where
  field : StorageField
  provider : String
  deriving DecidableEq, Repr

def StorageConfig.put (self : StorageConfig) (setting : StorageSetting) :
    StorageConfig :=
  match setting.field with
  | .authority => { self with authority := setting.provider }
  | .audit => { self with audit := setting.provider }
  | .reporting => { self with reporting := setting.provider }

def readStorage (key : String) (value : Value) :
    Except AuthDslError StorageSetting := do
  let provider ← expectScalar key value
  match key with
  | "authority" => return { field := .authority, provider }
  | "audit" => return { field := .audit, provider }
  | "reporting" => return { field := .reporting, provider }
  | _ => .error ⟨s!"unknown storage field `{key}`"⟩

def parseStorage : Value → Except AuthDslError StorageConfig :=
  parseFields "storage" readStorage StorageConfig.put StorageConfig.validate id
    .default

inductive PasswordSetting where
  | minLength (length : Nat)
  | maxLength (length : Nat)
  | requireUppercase (required : Bool)
  | requireLowercase (required : Bool)
  | requireNumber (required : Bool)
  | requireSpecialCharacter (required : Bool)
  | passwordExpirationDays (days : Option Nat)
  | passwordHistoryCount (count : Nat)
  | allowPasswordChange (allowed : Bool)
  | allowPasswordReset (allowed : Bool)
  deriving DecidableEq, Repr

def PasswordPolicy.put (self : PasswordPolicy) :
    PasswordSetting → PasswordPolicy
  | .minLength length => { self with minLength := length }
  | .maxLength length => { self with maxLength := length }
  | .requireUppercase required => { self with requireUppercase := required }
  | .requireLowercase required => { self with requireLowercase := required }
  | .requireNumber required => { self with requireNumber := required }
  | .requireSpecialCharacter required =>
      { self with requireSpecialCharacter := required }
  | .passwordExpirationDays days => { self with passwordExpirationDays := days }
  | .passwordHistoryCount count => { self with passwordHistoryCount := count }
  | .allowPasswordChange allowed => { self with allowPasswordChange := allowed }
  | .allowPasswordReset allowed => { self with allowPasswordReset := allowed }

def readPassword (key : String) (value : Value) :
    Except AuthDslError PasswordSetting :=
  match key with
  | "min_length" => return .minLength (← expectUsize key value)
  | "max_length" => return .maxLength (← expectUsize key value)
  | "require_uppercase" => return .requireUppercase (← expectBool key value)
  | "require_lowercase" => return .requireLowercase (← expectBool key value)
  | "require_number" => return .requireNumber (← expectBool key value)
  | "require_special_character" =>
      return .requireSpecialCharacter (← expectBool key value)
  | "expiration_days" | "password_expiration_days" =>
      return .passwordExpirationDays (← expectOptionalU32 key value)
  | "history_count" | "password_history_count" =>
      return .passwordHistoryCount (← expectUsize key value)
  | "allow_password_change" =>
      return .allowPasswordChange (← expectBool key value)
  | "allow_password_reset" =>
      return .allowPasswordReset (← expectBool key value)
  | _ => .error ⟨s!"unknown password field `{key}`"⟩

def parsePassword : Value → Except AuthDslError PasswordPolicy :=
  parseFields "password" readPassword PasswordPolicy.put
    PasswordPolicy.validate id .default

def AuthExperienceCapability.parse :
    String → Option AuthExperienceCapability
  | "sign_in" => some .signIn
  | "sign_up" => some .signUp
  | "sign_out" => some .signOut
  | "password" => some .password
  | "password_reset" => some .passwordReset
  | "password_change" => some .passwordChange
  | "external_identity" => some .externalIdentity
  | "account_linking" => some .accountLinking
  | "email_verification" => some .emailVerification
  | "mfa" => some .mfa
  | "passkeys" => some .passkeys
  | "devices" | "device_management" => some .deviceManagement
  | "sessions" | "session_management" => some .sessionManagement
  | "profile" => some .profile
  | "tenant_switching" | "tenant_switcher" => some .tenantSwitching
  | "recovery" => some .recovery
  | _ => none

def ExperienceState.parse : String → Option ExperienceState
  | "false" | "disabled" => some .disabled
  | "true" | "enabled" => some .enabled
  | "required" => some .required
  | "admin_only" => some .adminOnly
  | _ => none

structure ExperienceSetting where
  capability : AuthExperienceCapability
  state : ExperienceState
  deriving DecidableEq, Repr

def AuthExperience.set (self : AuthExperience) (setting : ExperienceSetting) :
    AuthExperience :=
  match setting.capability with
  | .signIn => { self with signIn := setting.state }
  | .signUp => { self with signUp := setting.state }
  | .signOut => { self with signOut := setting.state }
  | .password => { self with password := setting.state }
  | .passwordReset => { self with passwordReset := setting.state }
  | .passwordChange => { self with passwordChange := setting.state }
  | .externalIdentity => { self with externalIdentity := setting.state }
  | .accountLinking => { self with accountLinking := setting.state }
  | .emailVerification => { self with emailVerification := setting.state }
  | .mfa => { self with mfa := setting.state }
  | .passkeys => { self with passkeys := setting.state }
  | .deviceManagement => { self with deviceManagement := setting.state }
  | .sessionManagement => { self with sessionManagement := setting.state }
  | .profile => { self with profile := setting.state }
  | .tenantSwitching => { self with tenantSwitching := setting.state }
  | .recovery => { self with recovery := setting.state }

def readExperience (key : String) (value : Value) :
    Except AuthDslError ExperienceSetting :=
  match AuthExperienceCapability.parse key with
  | none => .error ⟨s!"unknown experience `{key}`"⟩
  | some capability => do
      match ExperienceState.parse (← expectScalar key value) with
      | some state => return { capability, state }
      | none =>
          .error ⟨s!"experience `{key}` must be disabled, enabled, " ++
            "required, admin_only, true, or false"⟩

def parseExperience : Value → Except AuthDslError AuthExperience :=
  parseFields "experience" readExperience AuthExperience.set
    AuthExperience.validate id .default

def ExperienceRenderer.parse : String → Option ExperienceRenderer
  | "generated" | "default" => some .generated
  | "embedded" => some .embedded
  | "headless" => some .headless
  | "custom" => some .custom
  | _ => none

def UiScreen.parse : String → Option UiScreen
  | "login" => some .login
  | "signup" => some .signup
  | "account" => some .account
  | "password_forgot" => some .passwordForgot
  | "password_reset" => some .passwordReset
  | "password_change" => some .passwordChange
  | "email_verification" => some .emailVerification
  | "account_links" => some .accountLinks
  | "profile" => some .profile
  | "devices" => some .devices
  | "sessions" => some .sessions
  | "mfa" => some .mfa
  | "passkeys" => some .passkeys
  | "recovery" => some .recovery
  | "tenant" => some .tenant
  | "agents" => some .agents
  | _ => none

inductive UiSetting where
  | theme (name : String)
  | mode (renderer : ExperienceRenderer)
  | screen (declared : UiScreenOverride)
  deriving DecidableEq, Repr

def AuthUiConfig.put (self : AuthUiConfig) : UiSetting → AuthUiConfig
  | .theme name => { self with theme := { name } }
  | .mode renderer => { self with renderer }
  | .screen declared => { self with screens := self.screens ++ [declared] }

def readScreen (key : String) (entry : Value) :
    Except AuthDslError UiSetting :=
  match UiScreen.parse key with
  | none => .error ⟨s!"unknown ui surface `{key}`"⟩
  | some screen => do
      match ← expectScalar key entry with
      | "default" => return .screen { screen, mode := .default }
      | "custom" => return .screen { screen, mode := .custom }
      | other =>
          .error ⟨s!"ui surface `{key}` must be \"default\" or \"custom\", " ++
            s!"found `{other}`"⟩

def readUi (key : String) (entry : Value) : Except AuthDslError UiSetting :=
  if key == "theme" then do
    return .theme (← expectScalar key entry)
  else if key == "mode" then do
    match ExperienceRenderer.parse (← expectScalar key entry) with
    | some renderer => return .mode renderer
    | none =>
        .error ⟨"ui mode must be generated, embedded, headless, or custom"⟩
  else
    readScreen key entry

def parseUi : Value → Except AuthDslError AuthUiConfig :=
  parseFields "ui" readUi AuthUiConfig.put AuthUiConfig.validate
    AuthUiConfig.canonical .default

/-! ## The contract -/

inductive AuthSetting where
  | tenant (declared : Bool)
  | providers (providers : List String)
  | isolation (mode : IsolationMode)
  | claims (claims : List ClaimDef)
  | policies (policies : List PolicyDef)
  | password (policy : PasswordPolicy)
  | storage (storage : StorageConfig)
  | experience (experience : AuthExperience)
  | agents (declared : Bool)
  | ui (ui : AuthUiConfig)

def AuthConfig.put (self : AuthConfig) : AuthSetting → AuthConfig
  | .tenant declared => { self with multiTenant := declared }
  | .providers providers => { self with providers }
  | .isolation mode => { self with isolation := mode }
  | .claims claims => { self with claims }
  | .policies policies => { self with policies }
  | .password policy => { self with passwordPolicy := policy }
  | .storage storage => { self with storage }
  | .experience experience => { self with experience }
  | .agents declared => { self with agents := declared }
  | .ui ui => { self with ui }

/-- `multi_tenant` is the original spelling of `tenant`, and `password_policy`
one of `password`. -/
def readAuth (key : String) (value : Value) :
    Except AuthDslError AuthSetting :=
  match key with
  | "multi_tenant" | "tenant" => return .tenant (← expectBool key value)
  | "providers" => return .providers (← expectProviders value)
  | "isolation" =>
      return .isolation (← parseIsolation (← expectScalar key value))
  | "claims" => return .claims (← parseClaims value)
  | "policy" => return .policies (← parsePolicies value)
  | "password" | "password_policy" => return .password (← parsePassword value)
  | "storage" => return .storage (← parseStorage value)
  | "experience" => return .experience (← parseExperience value)
  | "agents" => return .agents (← expectBool key value)
  | "ui" => return .ui (← parseUi value)
  | _ => .error ⟨s!"unknown auth field `{key}`"⟩

/-- The contract so far, and whether it has declared to have tenants. -/
structure Reading where
  config : AuthConfig
  tenantDeclaration : Option Bool

def Reading.start : Reading :=
  { config := .default
    tenantDeclaration := none }

def Reading.put (self : Reading) (setting : AuthSetting) :
    Except AuthDslError Reading :=
  match setting with
  | .tenant declared =>
      if self.tenantDeclaration.any (· != declared) then
        .error ⟨"conflicting tenant declaration"⟩
      else
        .ok
          { config := self.config.put setting
            tenantDeclaration := some declared }
  | _ => .ok { self with config := self.config.put setting }

/-- A contract without providers has the local one. -/
def AuthConfig.withLocal (self : AuthConfig) : AuthConfig :=
  if self.providers.isEmpty then { self with providers := ["local"] } else self

/-- The contract that the entries of an auth block and a mail block declare. -/
def declared (entries : Entries)
    (mail : Except AuthDslError (Option MailConfig)) :
    Except AuthDslError AuthConfig := do
  let reading ← readFields "auth" readAuth Reading.put [] .start entries
  let mail ← mail
  let config := { reading.config.withLocal with mail }
  config.validate.mapError asDslError
  return config

/-! ## The mail block -/

def expectStringMap (name : String) :
    Value → Except AuthDslError (KeyedMap String String)
  | .block entries => do
      let pairs ← entries.mapM fun (key, value) => do
        return (key, ← expectScalar key value)
      return pairs.foldl (fun map pair => map.insert pair.1 pair.2) ∅
  | _ => .error ⟨s!"mail `{name}` must be a block"⟩

def readMail (mail : MailConfig) (entry : String × Value) :
    Except AuthDslError MailConfig :=
  let (name, value) := entry
  match name with
  | "identities" => do
      return { mail with identities := ← expectStringMap "identities" value }
  | "templates" => do
      return { mail with templates := ← expectStringMap "templates" value }
  | _ => .error ⟨s!"unknown mail field `{name}`"⟩

/-- The texts that begin with the brace after a word `mail`. -/
def mailOpenings : Option Char → List Char → List (List Char)
  | _, [] => []
  | before, ch :: rest =>
      let later := mailOpenings (some ch) rest
      match (ch :: rest).dropPrefix? "mail".toList with
      | none => later
      | some after =>
          let bounded := before.all (!isIdentChar ·) &&
            after.head?.all (!isIdentChar ·)
          let opening := after.dropWhile isWhitespace
          if bounded && opening.head? == some '\x7b' then opening :: later
          else later

def parseMailContract (src : List Char) : Except AuthDslError MailConfig := do
  match (mailOpenings none src).getLast? with
  | none => .error ⟨"missing `mail` block"⟩
  | some opening =>
      let entries ← entriesOf (← extractBracedBody "mail" opening)
      entries.foldlM readMail { identities := ∅, templates := ∅ }

/-- Whether a text asks for mail. -/
def usesMail (src : List Char) : Bool :=
  let words := splitWhitespace (String.ofList src)
  (words.zip words.tail).any (· == ("use", "mail"))

def mailOf (src : List Char) : Except AuthDslError (Option MailConfig) :=
  if usesMail src then (parseMailContract src).map some else .ok none

/-! ## Texts -/

/-- How often a text has a mark that does not overlap itself. -/
def countMatches (mark text : List Char) : Nat :=
  text.tails.countP (mark.isPrefixOf ·)

def parseAuthBlock (src : String) : Except AuthDslError AuthConfig := do
  if trim src == "use auth" then
    return { AuthConfig.default with providers := ["local"] }
  if countMatches useAuth src.toList > 1 then
    .error ⟨"multiple auth blocks are not allowed"⟩
  let entries ← entriesOf (← extractAuthBlock src.toList)
  declared entries (mailOf src.toList)

end AuthBoundry
