import AuthBoundry.Dsl.Model
import AuthBoundry.Providers.Connector
import AuthBoundry.Runtime.Context
import AuthBoundry.Authz.Evaluator
import AuthBoundry.Storage.Memory

/-!
# The mesh

The state behind every authority question, the lookups all operations share,
and the audit trail.  An operation is a program over this state that may fail;
a failure keeps the writes made before it.

What lies outside the program is read from an `Environment`: the system clock,
the answers of the connectors, the minted session ids and the faults of the
audit log.  Every call has an environment of its own, so no run assumes
anything about how these behave from one call to the next.
-/

namespace AuthBoundry

open Library
open Library.Stateful

structure Environment where
  systemTime : Option Int
  authenticate : String → AuthResponse → Except ConnectorError ExternalIdentity
  mintSessionId : Nat → String
  /-- The failure of the audit log when the event with this sequence number is
  recorded, if it fails. -/
  auditFault : Nat → Option StorageError

structure MemoryPolicyStore where
  policies : KeyedMap PolicyId Policy

namespace MemoryPolicyStore

def new : MemoryPolicyStore := { policies := ∅ }

def put (self : MemoryPolicyStore) (policy : Policy) : MemoryPolicyStore :=
  { policies := self.policies.insert policy.id policy }

/-- Policies are looked up by the tenant's own policy id. -/
def policyFor (self : MemoryPolicyStore) (tenant : TenantContext) :
    Option Policy :=
  self.policies[tenant.policyId]?

end MemoryPolicyStore

structure MeshStores where
  tenants : MemoryTenantRoot
  identities : MemoryIdentityStore
  principals : MemoryPrincipalStore
  sessions : MemorySessionStore
  delegations : MemoryDelegationStore
  runs : MemoryRunStore
  policies : MemoryPolicyStore
  audit : MemoryAuditLog

def MeshStores.new : MeshStores :=
  { tenants := .new
    identities := .new
    principals := .new
    sessions := .new
    delegations := .new
    runs := .new
    policies := .new
    audit := .new }

structure AuthMesh where
  config : AuthConfig
  registry : ConnectorRegistry
  stores : MeshStores
  sessionTtl : Int
  auditSequence : Nat
  runSequence : Nat
  decisions : List AuthorizationEvidence

/-- Programs over the mesh. -/
abbrev MeshM := EStateM AuthError AuthMesh

/-- One entry in the authority audit trail, before it is stamped. -/
structure AuditRecord where
  kind : AuditEventKind
  principalId : Option PrincipalId
  sessionId : Option SessionId
  delegationId : Option DelegationId
  metadata : List (String × String)

namespace AuditRecord

def new (kind : AuditEventKind) : AuditRecord :=
  { kind
    principalId := none
    sessionId := none
    delegationId := none
    metadata := [] }

def principal (self : AuditRecord) (principalId : PrincipalId) : AuditRecord :=
  { self with principalId := some principalId }

def session (self : AuditRecord) (sessionId : SessionId) : AuditRecord :=
  { self with sessionId := some sessionId }

def delegation (self : AuditRecord) (delegationId : DelegationId) :
    AuditRecord :=
  { self with delegationId := some delegationId }

def addMeta (self : AuditRecord) (key value : String) : AuditRecord :=
  { self with metadata := self.metadata ++ [(key, value)] }

/-- The first value recorded under an accepted key. -/
def lookup (self : AuditRecord) (accepts : String → Bool) : Option String :=
  (self.metadata.find? fun entry => accepts entry.1).map Prod.snd

end AuditRecord

/-! ## Errors -/

def sessionError (err : StorageError) : AuthError :=
  { stage := .sessionValidation
    message := err.message
    denial :=
      if err.message = "expired session" then .expiredSession
      else if err.message = "revoked session" then .revokedSession
      else if err.message = "tenant mismatch" then .tenantMismatch
      else .invalidSession }

def principalError (err : StorageError) : AuthError :=
  { stage := .principalResolution
    message := err.message
    denial :=
      if err.message = "tenant mismatch" then .tenantMismatch
      else .unknownPrincipal }

def delegationError (message : String) : AuthError :=
  { stage := .delegationManagement
    message
    denial := .invalidDelegation }

def runError (message : String) (denial : DenialReason) : AuthError :=
  { stage := .delegationManagement, message, denial }

def connectorError (err : ConnectorError) : AuthError :=
  { stage :=
      match err with
      | .unknownConnector _ | .notDeclared _ | .duplicateConnector _ =>
          .connectorResolution
      | _ => .providerAuthentication
    message := err.display
    denial :=
      match err with
      | .unknownConnector _ | .unsupported _ | .notDeclared _
      | .duplicateConnector _ => .unsupportedConnector
      | .invalidRequest _ _ | .invalidCredentials _ | .challengeMismatch _ =>
          .unknownPrincipal
      | .passwordReused _ => .passwordReused
      | .passwordHashingFailed _ => .policyDenied }

def auditEventId (tenant : TenantContext) (sequence : Nat) : AuditEventId :=
  ⟨"evt_" ++ hex16 (stableHash s!"{tenant.tenantId}|{sequence}")⟩

namespace AuthMesh

def defaultSessionTtlSeconds : Int := 3600

def new (config : AuthConfig) (registry : ConnectorRegistry)
    (stores : MeshStores) : Except AuthError AuthMesh :=
  match config.validate with
  | .error err =>
      .error
        { stage := .configuration
          message := err.message
          denial := .unsupportedConnector }
  | .ok () =>
      match config.providers.find? fun provider =>
          !registry.contains provider with
      | some provider =>
          .error
            { stage := .configuration
              message := s!"declared provider `{provider}` has no connector"
              denial := .unsupportedConnector }
      | none =>
          .ok
            { config
              registry
              stores
              sessionTtl := defaultSessionTtlSeconds
              auditSequence := 0
              runSequence := 0
              decisions := [] }

/-! ## Lookups -/

def tenant (self : AuthMesh) (tenantId : String) :
    Except AuthError TenantContext :=
  if isBlank tenantId then
    .error
      { stage := .tenantResolution
        message := "missing tenant"
        denial := .unknownTenant }
  else
    match self.stores.tenants.getTenant ⟨tenantId⟩ with
    | some tenant => .ok tenant
    | none =>
        .error
          { stage := .tenantResolution
            message := s!"unknown tenant `{tenantId}`"
            denial := .unknownTenant }

def principal (self : AuthMesh) (tenant : TenantContext)
    (principalId : PrincipalId) : Except AuthError Principal :=
  match self.stores.principals.getPrincipal tenant principalId with
  | .error err => .error (principalError err)
  | .ok (some principal) => .ok principal
  | .ok none =>
      .error
        { stage := .principalResolution
          message := s!"unknown principal `{principalId}`"
          denial := .unknownPrincipal }

def connector (self : AuthMesh) (connectorId : String) :
    Except AuthError String :=
  if !self.config.declaresProvider connectorId then
    .error
      { stage := .connectorResolution
        message := s!"connector `{connectorId}` is not declared by `use auth`"
        denial := .unsupportedConnector }
  else
    (self.registry.get connectorId).mapError connectorError

def delegationsFor (self : AuthMesh) (tenant : TenantContext)
    (delegate : PrincipalId) : List Delegation :=
  self.stores.delegations.listDelegationsForDelegate tenant delegate

/-- The condition a declared policy places on a rule. -/
def policyCondition (policy : PolicyDef) : Condition :=
  let tenantConditions : List Condition :=
    if policy.tenantCurrent then [.tenantCurrent] else []
  let claimConditions := policy.claims.map fun claim =>
    match claim.values with
    | [value] => Condition.claimEquals claim.claim (.enum value)
    | values => .claimIn claim.claim (values.map ClaimValue.enum)
  match tenantConditions ++ claimConditions with
  | [] => .always
  | [condition] => condition
  | conditions => .all conditions

def policyFromConfig (config : AuthConfig) (tenant : TenantContext) :
    Option Policy :=
  if config.policies.isEmpty then
    none
  else
    some
      { id := tenant.policyId
        rules := config.policies.map fun policy =>
          { capability := ⟨policy.capability⟩
            condition := policyCondition policy
            resource := policy.resource.map ResourceSelector.any
            action := policy.action.map Action.mk
            effect := .allow } }

def policy (self : AuthMesh) (tenant : TenantContext) :
    Except AuthError Policy :=
  match (self.stores.policies.policyFor tenant).or
      (policyFromConfig self.config tenant) with
  | some policy => .ok policy
  | none =>
      .error
        { stage := .policyEvaluation
          message := s!"tenant `{tenant.tenantId}` has no policy"
          denial := .policyNotFound }

def assertPrincipalIsUsable (principal : Principal) : Except AuthError Unit :=
  if principal.kind != .agent then
    .ok ()
  else
    match principal.agentState with
    | some .active => .ok ()
    | some .suspended =>
        .error
          { stage := .agentLifecycle
            message := "agent is suspended"
            denial := .agentSuspended }
    | _ =>
        .error
          { stage := .agentLifecycle
            message := "agent is not active"
            denial := .agentRevoked }

/-- The context behind a principal.  An agent is never collapsed into its
delegator: the delegation of the first delegated entry stays visible. -/
def contextFor (environment : Environment) (self : AuthMesh)
    (tenant : TenantContext) (principal : Principal)
    (sessionId : Option SessionId) (now : Int) :
    Except AuthError RuntimeContext := do
  let policy ← self.policy tenant
  let delegations := self.delegationsFor tenant principal.id
  match evaluateWithDelegations environment.systemTime policy principal tenant
      delegations now with
  | .error err =>
      .error
        { stage := .policyEvaluation
          message := err.message
          denial := .tenantMismatch }
  | .ok capabilities =>
      .ok
        { principal
          tenant
          sessionId
          delegation :=
            (capabilities.grantedCapabilities.findSome?
              GrantedCapability.delegationId).bind fun id =>
                delegations.find? fun entry => entry.id == id
          run := none
          claims := principal.claims
          capabilities }

/-! ## The audit trail -/

/-- The event a record becomes when it is stamped. -/
def auditEvent (self : AuthMesh) (tenant : TenantContext)
    (record : AuditRecord) (now : Int) : AuditEvent :=
  { eventId := AuthBoundry.auditEventId tenant self.auditSequence
    tenantId := tenant.tenantId
    principalId := record.principalId
    delegatorId :=
      (record.lookup fun key => key == "delegator").map AuthorityId.mk
    sessionId := record.sessionId
    delegationId := record.delegationId
    runId := (record.lookup fun key => key == "run_id").map AuthorityId.mk
    kind := record.kind
    timestamp := now
    action := record.lookup fun key => key == "action" || key == "capability"
    resource := record.lookup fun key => key == "resource"
    decision :=
      match record.kind with
      | .authorizationGranted => some "allow"
      | .authorizationDenied => some "deny"
      | _ => none
    reason := record.lookup fun key => key == "reason"
    authorityRevision :=
      (record.lookup fun key => key == "authority_revision").bind parseU64
    contractFingerprint := some self.config.fingerprint
    durability := .required
    metadata :=
      record.metadata.foldl (fun stored entry => stored.insert entry.1 entry.2)
        ∅ }

/-- The sequence number is consumed even when the event is refused. -/
def audit (environment : Environment) (tenant : TenantContext)
    (record : AuditRecord) (now : Int) : MeshM Unit := fun self =>
  let event := self.auditEvent tenant record now
  let counted := { self with auditSequence := self.auditSequence + 1 }
  let refused (err : StorageError) : AuthError :=
    { stage := .runtimeContext
      message := err.message
      denial := .tenantMismatch }
  match environment.auditFault self.auditSequence with
  | some err => .error (refused err) counted
  | none =>
      match counted.stores.audit.recordEvent tenant event with
      | .error err => .error (refused err) counted
      | .ok ((), audit) =>
          .ok () { counted with stores := { counted.stores with audit } }

def lastAuditEventId (self : AuthMesh) (tenant : TenantContext) :
    AuditEventId :=
  AuthBoundry.auditEventId tenant (self.auditSequence - 1)

/-! ## Writes to one store -/

def changeTenants (self : AuthMesh) (tenants : MemoryTenantRoot) : AuthMesh :=
  { self with stores := { self.stores with tenants } }

def changeIdentities (self : AuthMesh) (identities : MemoryIdentityStore) :
    AuthMesh :=
  { self with stores := { self.stores with identities } }

def changePrincipals (self : AuthMesh) (principals : MemoryPrincipalStore) :
    AuthMesh :=
  { self with stores := { self.stores with principals } }

def changeSessions (self : AuthMesh) (sessions : MemorySessionStore) :
    AuthMesh :=
  { self with stores := { self.stores with sessions } }

def changeDelegations (self : AuthMesh) (delegations : MemoryDelegationStore) :
    AuthMesh :=
  { self with stores := { self.stores with delegations } }

def changeRuns (self : AuthMesh) (runs : MemoryRunStore) : AuthMesh :=
  { self with stores := { self.stores with runs } }

def changePolicies (self : AuthMesh) (policies : MemoryPolicyStore) :
    AuthMesh :=
  { self with stores := { self.stores with policies } }

/-- A store write whose failure is reported as `toError` says. -/
def writeIdentities {α : Type} (toError : StorageError → AuthError)
    (write : MemoryIdentityStore →
      Except StorageError (α × MemoryIdentityStore)) : MeshM α :=
  commitPart (fun self => self.stores.identities) changeIdentities
    fun identities => (write identities).mapError toError

def writePrincipals {α : Type} (toError : StorageError → AuthError)
    (write : MemoryPrincipalStore →
      Except StorageError (α × MemoryPrincipalStore)) : MeshM α :=
  commitPart (fun self => self.stores.principals) changePrincipals
    fun principals => (write principals).mapError toError

def writeSessions {α : Type} (toError : StorageError → AuthError)
    (write : MemorySessionStore →
      Except StorageError (α × MemorySessionStore)) : MeshM α :=
  commitPart (fun self => self.stores.sessions) changeSessions
    fun sessions => (write sessions).mapError toError

def writeDelegations {α : Type} (toError : StorageError → AuthError)
    (write : MemoryDelegationStore →
      Except StorageError (α × MemoryDelegationStore)) : MeshM α :=
  commitPart (fun self => self.stores.delegations) changeDelegations
    fun delegations => (write delegations).mapError toError

def writeRuns {α : Type} (toError : StorageError → AuthError)
    (write : MemoryRunStore → Except StorageError (α × MemoryRunStore)) :
    MeshM α :=
  commitPart (fun self => self.stores.runs) changeRuns
    fun runs => (write runs).mapError toError

end AuthMesh

end AuthBoundry
