import AuthBoundry.Runtime.Mesh

/-!
# Accounts and sessions

How an external identity becomes a principal, and the operations that open,
close and resolve sessions.
-/

namespace AuthBoundry

open Library
open Library.Stateful

/-! ## Claims -/

def claimError (message : String) : AuthError :=
  { stage := .claimsResolution
    message
    denial := .claimMismatch }

def parseClaimValue (kind : ClaimKind) (raw : String) :
    Except AuthError ClaimValue :=
  match kind with
  | .enum allowed =>
      if allowed.any fun value => value == raw then
        .ok (.enum raw)
      else
        .error (claimError "claim value is not allowed")
  | .string => .ok (.string raw)
  | .integer =>
      match parseI64 raw with
      | some value => .ok (.integer value)
      | none => .error (claimError "claim value is not an integer")
  | .boolean =>
      if raw = "true" then .ok (.boolean true)
      else if raw = "false" then .ok (.boolean false)
      else .error (claimError "claim value is not a boolean")

def resolveDeclared (provided : KeyedMap String String) :
    List ClaimDef → KeyedMap String ClaimValue →
      Except AuthError (KeyedMap String ClaimValue)
  | [], values => .ok values
  | claim :: claims, values =>
      match (provided[claim.name]?.map trim).filter fun raw => raw != "" with
      | none =>
          .error
            { stage := .claimsResolution
              message := s!"missing required claim `{claim.name}`"
              denial := .missingClaim }
      | some raw => do
          let value ← parseClaimValue claim.kind raw
          resolveDeclared provided claims (values.insert claim.name value)

/-- Claims are resolved against the declared schema. -/
def resolveClaims (config : AuthConfig) (provided : KeyedMap String String) :
    Except AuthError Claims := do
  let values ← resolveDeclared provided config.claims ∅
  match provided.keys.find? fun name => (config.claim name).isNone with
  | some name => .error (claimError s!"undeclared claim `{name}`")
  | none => .ok { values }

/-! ## Resolution of external identities -/

def contractVersion : ContractVersion := { major := 1, minor := 0 }

def principalIdFor (tenant : TenantId) (connector subject : String) :
    PrincipalId :=
  ⟨"prn_" ++ hex16 (stableHash s!"{tenant}|{connector}|{subject}")⟩

structure ResolvedPrincipal where
  principal : Principal
  identity : Identity
  binding : ExternalBinding
  deriving DecidableEq

namespace Resolution

def identityError (err : StorageError) : AuthError :=
  { stage := .identityResolution
    message := err.message
    denial := .unknownPrincipal }

def principalError (err : StorageError) : AuthError :=
  { stage := .principalResolution
    message := err.message
    denial := .unknownPrincipal }

def unknown (stage : AuthLifecycleStage) (message : String) : AuthError :=
  { stage, message, denial := .unknownPrincipal }

/-- Look up the principal a linked external identity belongs to. -/
def resolvePrincipal (self : AuthMesh) (tenant : TenantContext)
    (external : ExternalIdentity) :
    Except AuthError (Option ResolvedPrincipal) :=
  let connector : ProviderName := ⟨external.connector⟩
  let subject : ProviderSubject := ⟨external.subject⟩
  match self.stores.principals.resolveExternalIdentity tenant connector
      subject with
  | none => .ok none
  | some principalId =>
  match self.stores.principals.getPrincipal tenant principalId with
  | .error err => .error (principalError err)
  | .ok none =>
      .error
        (unknown .principalResolution
          "external identity is bound to an unknown principal")
  | .ok (some principal) =>
  match (self.stores.principals.bindingsFor tenant principalId).find?
      fun binding => binding.connector == connector &&
        binding.externalSubject == subject with
  | none =>
      .error
        (unknown .principalResolution
          "external identity binding could not be read back")
  | some binding =>
  match self.stores.identities.findIdentity tenant connector subject with
  | .error err => .error (identityError err)
  | .ok none =>
      .error
        (unknown .identityResolution
          "external identity has no identity record")
  | .ok (some identity) => .ok (some { principal, identity, binding })

def linkIdentityRecord (tenant : TenantContext) (connector : ProviderName)
    (subject : ProviderSubject) (claims : Claims) : MeshM Identity := do
  let identity ← AuthMesh.writeIdentities identityError fun identities =>
    identities.linkAccount tenant connector subject
  AuthMesh.writeIdentities identityError fun identities =>
    identities.updateClaims tenant identity.id claims
  pure identity

def linkMissingIdentity (known : Option Identity) (tenant : TenantContext)
    (connector : ProviderName) (subject : ProviderSubject) (claims : Claims) :
    MeshM Unit :=
  match known with
  | some _ => pure ()
  | none => do
      let _ ← linkIdentityRecord tenant connector subject claims
      pure ()

def provisionedPrincipal (tenant : TenantContext)
    (external : ExternalIdentity) (kind : PrincipalKind) (claims : Claims) :
    Principal :=
  { id := principalIdFor tenant.tenantId external.connector external.subject
    kind
    tenantId := tenant.tenantId
    claims
    version := contractVersion
    agentState := if kind == .agent then some .active else none }

def provisionPrincipal (tenant : TenantContext) (external : ExternalIdentity)
    (kind : PrincipalKind) (claims : Claims) (now : Int) :
    MeshM ResolvedPrincipal := do
  let connector : ProviderName := ⟨external.connector⟩
  let subject : ProviderSubject := ⟨external.subject⟩
  inspect fun self =>
    refuseIf
      (self.stores.principals.resolveExternalIdentity tenant connector
        subject).isSome
      (unknown .principalResolution
        "external identity is already linked to a principal")
  let identity ← linkIdentityRecord tenant connector subject claims
  let principal := provisionedPrincipal tenant external kind claims
  AuthMesh.writePrincipals principalError fun principals =>
    .ok ((), principals.putPrincipal principal)
  let binding ← AuthMesh.writePrincipals principalError fun principals =>
    principals.bindExternalIdentity tenant connector subject principal.id now
  pure { principal, identity, binding }

def linkExternalIdentity (tenant : TenantContext) (principalId : PrincipalId)
    (external : ExternalIdentity) (now : Int) : MeshM ExternalBinding := do
  let connector : ProviderName := ⟨external.connector⟩
  let subject : ProviderSubject := ⟨external.subject⟩
  let principal ← inspect fun self =>
    match self.stores.principals.getPrincipal tenant principalId with
    | .error err => .error (principalError err)
    | .ok none => .error (unknown .principalResolution "unknown principal")
    | .ok (some principal) => .ok principal
  let known ← inspect fun self =>
    (self.stores.identities.findIdentity tenant connector subject).mapError
      identityError
  linkMissingIdentity known tenant connector subject principal.claims
  AuthMesh.writePrincipals principalError fun principals =>
    principals.bindExternalIdentity tenant connector subject principalId now

end Resolution

/-! ## Signing in and up -/

structure Registration where
  kind : PrincipalKind
  claims : KeyedMap String String
  deriving DecidableEq

structure AuthenticatedSession where
  session : Session
  external : ExternalIdentity
  context : RuntimeContext
  deriving DecidableEq

def authenticationMethodForProvider (provider : String) : String :=
  if provider = "local" then "password" else "external_identity"

namespace AuthMesh

def authenticateExternal (environment : Environment) (self : AuthMesh)
    (tenant : TenantContext) (response : AuthResponse) :
    Except AuthError ExternalIdentity := do
  let connector ← self.connector response.connector
  refuseIf
    ((response.tenant.map fun declared =>
      declared != tenant.tenantId.value).getD false)
    { stage := .providerAuthentication
      message := "authentication response targets a different tenant"
      denial := .tenantMismatch }
  let external ←
    (environment.authenticate connector response).mapError connectorError
  refuseIf (external.connector != response.connector)
    { stage := .providerAuthentication
      message := "connector returned an identity for a different connector"
      denial := .unsupportedConnector }
  refuseIf (isBlank external.subject)
    { stage := .providerAuthentication
      message := "connector returned an empty subject"
      denial := .unknownPrincipal }
  .ok external

def openSession (environment : Environment) (tenant : TenantContext)
    (identityId : IdentityId) (now : Int) : MeshM Session := do
  let sessionTtl ← inspect fun self => .ok self.sessionTtl
  writeSessions sessionError fun sessions =>
    .ok (sessions.createSession environment.mintSessionId tenant identityId
      (now + sessionTtl))

/-- What follows once the principal of a session is known. -/
def establish (environment : Environment) (kind : AuditEventKind)
    (tenant : TenantContext) (external : ExternalIdentity)
    (resolved : ResolvedPrincipal) (now : Int) :
    MeshM AuthenticatedSession := do
  let session ← openSession environment tenant resolved.identity.id now
  let record := (((((((AuditRecord.new kind).principal
    resolved.principal.id).session session.id).addMeta "provider"
    external.connector).addMeta "authentication_method"
    (authenticationMethodForProvider external.connector)).addMeta
    "authentication_assurance" "basic").addMeta "authentication_result"
    "success")
  audit environment tenant record now
  let context ← inspect fun self =>
    self.contextFor environment tenant resolved.principal (some session.id) now
  pure { session, external, context }

def signIn (environment : Environment) (tenantId : String)
    (response : AuthResponse) (now : Int) : MeshM AuthenticatedSession := do
  let tenant ← inspect fun self => self.tenant tenantId
  let external ← inspect fun self =>
    self.authenticateExternal environment tenant response
  let resolved ← inspect fun self =>
    match Resolution.resolvePrincipal self tenant external with
    | .error err => .error err
    | .ok (some resolved) => .ok resolved
    | .ok none =>
        .error
          { stage := .principalResolution
            message :=
              s!"external identity `{external.connector}:" ++
                s!"{external.subject}` is not linked in this tenant"
            denial := .unknownPrincipal }
  inspect fun _ => assertPrincipalIsUsable resolved.principal
  establish environment .login tenant external resolved now

/-- The claims a registration asks for.  An agent carries none. -/
def registeredClaims (config : AuthConfig) (registration : Registration) :
    Except AuthError Claims :=
  if registration.kind == .agent then
    if !registration.claims.isEmpty then
      .error
        { stage := .agentLifecycle
          message := "agent authority comes from delegation, not from claims"
          denial := .claimMismatch }
    else
      .ok { values := ∅ }
  else
    resolveClaims config registration.claims

def signUp (environment : Environment) (tenantId : String)
    (response : AuthResponse) (registration : Registration) (now : Int) :
    MeshM AuthenticatedSession := do
  let tenant ← inspect fun self => self.tenant tenantId
  inspect fun self =>
    refuseIf (registration.kind == .agent && !self.config.agents)
      { stage := .agentLifecycle
        message := "agents are not declared by `use auth`"
        denial := .unknownPrincipal }
  let external ← inspect fun self =>
    self.authenticateExternal environment tenant response
  let claims ← inspect fun self => registeredClaims self.config registration
  let resolved ← Resolution.provisionPrincipal tenant external
    registration.kind claims now
  establish environment .accountLinked tenant external resolved now

def linkAccount (environment : Environment) (tenantId : String)
    (principalId : PrincipalId) (response : AuthResponse) (now : Int) :
    MeshM ExternalBinding := do
  let tenant ← inspect fun self => self.tenant tenantId
  let external ← inspect fun self =>
    self.authenticateExternal environment tenant response
  let binding ← Resolution.linkExternalIdentity tenant principalId external now
  audit environment tenant
    (((AuditRecord.new .accountLinked).principal principalId).addMeta
      "connector" external.connector) now
  pure binding

def logout (environment : Environment) (tenantId : String)
    (sessionId : SessionId) (now : Int) : MeshM Unit := do
  let tenant ← inspect fun self => self.tenant tenantId
  writeSessions sessionError fun sessions =>
    sessions.revokeSession tenant sessionId now
  audit environment tenant
    ((AuditRecord.new .sessionRevoked).session sessionId) now

/-- The session record together with the authority derived from it. -/
def resolveSession (environment : Environment) (self : AuthMesh)
    (tenantId : String) (sessionId : SessionId) (now : Int) :
    Except AuthError (Session × RuntimeContext) := do
  let tenant ← self.tenant tenantId
  let session ← (self.stores.sessions.validateSession tenant sessionId
    now).mapError sessionError
  match (self.stores.identities.getIdentity tenant
      session.identityId).mapError Resolution.identityError with
  | .error err => .error err
  | .ok none =>
      .error
        { stage := .identityResolution
          message := "session identity is unknown"
          denial := .invalidSession }
  | .ok (some identity) =>
  match self.stores.principals.resolveExternalIdentity tenant
      identity.provider identity.providerSubject with
  | none =>
      .error
        { stage := .principalResolution
          message := "session identity is not bound to a principal"
          denial := .unknownPrincipal }
  | some principalId => do
      let principal ← self.principal tenant principalId
      assertPrincipalIsUsable principal
      let context ← self.contextFor environment tenant principal
        (some session.id) now
      .ok (session, context)

end AuthMesh

end AuthBoundry
