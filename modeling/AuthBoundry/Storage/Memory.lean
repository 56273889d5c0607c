import AuthBoundry.Contract.Principal
import AuthBoundry.Library.Stateful

/-!
# The memory stores

A store is a keyed map.  Reads are tenant scoped: a record of another tenant is
refused and not merely hidden.  A write either returns the changed store or
fails and leaves it alone.
-/

namespace AuthBoundry

open Library

structure StorageError where
  message : String
  deriving DecidableEq, Repr

/-- Accounts are found by their tenant, provider and subject. -/
instance accountKeyTransOrd :
    Std.TransOrd (TenantId × ProviderName × ProviderSubject) :=
  inferInstance

section Scoped

variable {κ ν : Type} [Ord κ] [Std.TransOrd κ] [Std.LawfulEqOrd κ]

/-- The read that every tenant-scoped store offers. -/
def getScoped (tenantOf : ν → TenantId) (tenant : TenantContext)
    (records : KeyedMap κ ν) (key : κ) : Except StorageError (Option ν) :=
  match records[key]? with
  | some record =>
      if tenantOf record == tenant.tenantId then
        .ok (some record)
      else
        .error { message := "tenant mismatch" }
  | none => .ok none

/-- The in-place change that every tenant-scoped store offers. -/
def modifyScoped (tenantOf : ν → TenantId) (unknown : String)
    (tenant : TenantContext) (records : KeyedMap κ ν) (key : κ)
    (change : ν → Except StorageError ν) :
    Except StorageError (KeyedMap κ ν) :=
  match records[key]? with
  | none => .error { message := unknown }
  | some record =>
      if tenantOf record != tenant.tenantId then
        .error { message := "tenant mismatch" }
      else
        (change record).map (records.insert key)

omit [Std.LawfulEqOrd κ] in
theorem getScoped_eq_some_iff {tenantOf : ν → TenantId}
    {tenant : TenantContext} {records : KeyedMap κ ν} {key : κ} {record : ν} :
    getScoped tenantOf tenant records key = .ok (some record) ↔
      records[key]? = some record ∧ tenantOf record = tenant.tenantId := by
  unfold getScoped
  cases found : records[key]? with
  | none => simp
  | some stored =>
      by_cases inTenant : tenantOf stored = tenant.tenantId
      · simp only [inTenant, beq_self_eq_true, if_true, Except.ok.injEq,
          Option.some.injEq]
        constructor
        · intro same
          exact ⟨same, by rw [← same, inTenant]⟩
        · intro same
          exact same.1
      · simp only [beq_eq_false_iff_ne.mpr inTenant,
          Bool.false_eq_true, if_false, Option.some.injEq, reduceCtorEq,
          false_iff, not_and]
        intro same
        rwa [← same]

omit [Std.LawfulEqOrd κ] in
theorem modifyScoped_eq_ok_iff {tenantOf : ν → TenantId} {unknown : String}
    {tenant : TenantContext} {records written : KeyedMap κ ν} {key : κ}
    {change : ν → Except StorageError ν} :
    modifyScoped tenantOf unknown tenant records key change = .ok written ↔
      ∃ record changed, records[key]? = some record ∧
        tenantOf record = tenant.tenantId ∧ change record = .ok changed ∧
        written = records.insert key changed := by
  unfold modifyScoped
  cases found : records[key]? with
  | none => simp
  | some stored =>
      by_cases inTenant : tenantOf stored = tenant.tenantId
      · cases outcome : change stored with
        | error failure => simp [inTenant, outcome, Except.map]
        | ok changed => simp [inTenant, outcome, Except.map, eq_comm]
      · simp [inTenant]

end Scoped

/-! ## Identities -/

structure MemoryIdentityStore where
  identities : KeyedMap IdentityId Identity
  byProvider :
    KeyedMap (TenantId × ProviderName × ProviderSubject) IdentityId

namespace MemoryIdentityStore

def new : MemoryIdentityStore := { identities := ∅, byProvider := ∅ }

def linkAccount (self : MemoryIdentityStore) (tenant : TenantContext)
    (provider : ProviderName) (providerSubject : ProviderSubject) :
    Except StorageError (Identity × MemoryIdentityStore) :=
  let key := (tenant.tenantId, provider, providerSubject)
  if self.byProvider.contains key then
    .error { message := "duplicate identity" }
  else
    let id : IdentityId :=
      ⟨s!"{tenant.tenantId}:{provider}:{providerSubject}"⟩
    let identity : Identity :=
      { id
        provider
        providerSubject
        tenantId := tenant.tenantId
        claims := { values := ∅ }
        version := { major := 1, minor := 0 }
        offline := { maxAgeSeconds := 300, mustRevalidate := true } }
    .ok (identity,
      { identities := self.identities.insert id identity
        byProvider := self.byProvider.insert key id })

def getIdentity (self : MemoryIdentityStore) (tenant : TenantContext)
    (identityId : IdentityId) : Except StorageError (Option Identity) :=
  getScoped Identity.tenantId tenant self.identities identityId

def findIdentity (self : MemoryIdentityStore) (tenant : TenantContext)
    (provider : ProviderName) (providerSubject : ProviderSubject) :
    Except StorageError (Option Identity) :=
  match self.byProvider[(tenant.tenantId, provider, providerSubject)]? with
  | some id => self.getIdentity tenant id
  | none => .ok none

def updateClaims (self : MemoryIdentityStore) (tenant : TenantContext)
    (identityId : IdentityId) (claims : Claims) :
    Except StorageError (Unit × MemoryIdentityStore) := do
  let identities ← modifyScoped Identity.tenantId "unknown identity" tenant
    self.identities identityId fun identity => .ok { identity with claims }
  .ok ((), { self with identities })

end MemoryIdentityStore

/-! ## Sessions -/

structure Session where
  id : SessionId
  identityId : IdentityId
  tenantId : TenantId
  createdAt : Int
  expiresAt : Int
  revokedAt : Option Int
  deriving DecidableEq

structure MemorySessionStore where
  sessions : KeyedMap SessionId Session
  nextId : Nat

namespace MemorySessionStore

def new : MemorySessionStore := { sessions := ∅, nextId := 0 }

/-- The id comes from a random seed and the clock, so it is an argument:
`mintSessionId` gives the text minted for each counter. -/
def createSession (self : MemorySessionStore) (mintSessionId : Nat → String)
    (tenant : TenantContext) (identityId : IdentityId) (expiresAt : Int) :
    Session × MemorySessionStore :=
  let nextId := self.nextId + 1
  let session : Session :=
    { id := ⟨mintSessionId nextId⟩
      identityId
      tenantId := tenant.tenantId
      createdAt := 0
      expiresAt
      revokedAt := none }
  (session, { sessions := self.sessions.insert session.id session, nextId })

def revokeSession (self : MemorySessionStore) (tenant : TenantContext)
    (sessionId : SessionId) (revokedAt : Int) :
    Except StorageError (Unit × MemorySessionStore) := do
  let sessions ← modifyScoped Session.tenantId "unknown session" tenant
    self.sessions sessionId fun session =>
      .ok { session with revokedAt := some revokedAt }
  .ok ((), { self with sessions })

def validateSession (self : MemorySessionStore) (tenant : TenantContext)
    (sessionId : SessionId) (now : Int) : Except StorageError Session :=
  match self.sessions[sessionId]? with
  | none => .error { message := "unknown session" }
  | some session =>
      if session.tenantId != tenant.tenantId then
        .error { message := "tenant mismatch" }
      else if session.revokedAt.isSome then
        .error { message := "revoked session" }
      else if now ≥ session.expiresAt then
        .error { message := "expired session" }
      else
        .ok session

theorem validateSession_eq_ok_iff {self : MemorySessionStore}
    {tenant : TenantContext} {sessionId : SessionId} {now : Int}
    {session : Session} :
    self.validateSession tenant sessionId now = .ok session ↔
      self.sessions[sessionId]? = some session ∧
        session.tenantId = tenant.tenantId ∧ session.revokedAt = none ∧
        now < session.expiresAt := by
  unfold validateSession
  cases found : self.sessions[sessionId]? with
  | none => simp
  | some stored =>
      dsimp only
      constructor
      · intro valid
        split at valid
        · cases valid
        · rename_i inTenant
          split at valid
          · cases valid
          · rename_i unrevoked
            split at valid
            · cases valid
            · rename_i unexpired
              cases valid
              exact ⟨rfl, by simpa using inTenant, by simpa using unrevoked,
                by simpa using unexpired⟩
      · rintro ⟨same, inTenant, unrevoked, unexpired⟩
        cases same
        rw [if_neg (by simp [inTenant]), if_neg (by simp [unrevoked]),
          if_neg (by simpa using unexpired)]

theorem revokeSession_ok {self written : MemorySessionStore}
    {tenant : TenantContext} {sessionId : SessionId} {revokedAt : Int}
    {result : Unit}
    (outcome : self.revokeSession tenant sessionId revokedAt =
      .ok (result, written)) :
    ∃ session, self.sessions[sessionId]? = some session ∧
      session.tenantId = tenant.tenantId ∧
      written = { self with
        sessions := self.sessions.insert sessionId
          { session with revokedAt := some revokedAt } } := by
  obtain ⟨sessions, changed, finished⟩ := except_bind_eq_ok_iff.mp outcome
  obtain ⟨session, _, found, inTenant, replaced, rfl⟩ :=
    modifyScoped_eq_ok_iff.mp changed
  cases finished
  cases replaced
  exact ⟨session, found, inTenant, rfl⟩

end MemorySessionStore

/-! ## The audit log -/

inductive AuditEventKind where
  | login
  | logout
  | sessionCreated
  | sessionRevoked
  | accountLinked
  | claimsUpdated
  | authorizationGranted
  | authorizationDenied
  | delegationCreated
  | delegationRevoked
  | agentCreated
  | agentSuspended
  | agentRevoked
  | agentRunCreated
  | agentRunCancelled
  deriving DecidableEq, Repr

inductive AuditDurability where
  | required
  | bestEffort
  | optional
  deriving DecidableEq, Repr

structure AuditEvent where
  eventId : AuditEventId
  tenantId : TenantId
  principalId : Option PrincipalId
  delegatorId : Option PrincipalId
  sessionId : Option SessionId
  delegationId : Option DelegationId
  runId : Option RunId
  kind : AuditEventKind
  timestamp : Int
  action : Option String
  resource : Option String
  decision : Option String
  reason : Option String
  authorityRevision : Option Nat
  contractFingerprint : Option String
  durability : AuditDurability
  metadata : KeyedMap String String
  deriving DecidableEq

structure MemoryAuditLog where
  events : List AuditEvent

namespace MemoryAuditLog

def new : MemoryAuditLog := { events := [] }

def recordEvent (self : MemoryAuditLog) (tenant : TenantContext)
    (event : AuditEvent) : Except StorageError (Unit × MemoryAuditLog) :=
  if event.tenantId != tenant.tenantId then
    .error { message := "tenant mismatch" }
  else
    .ok ((), { events := self.events ++ [event] })

end MemoryAuditLog

/-! ## Tenants -/

structure MemoryTenantRoot where
  tenants : KeyedMap TenantId TenantContext

namespace MemoryTenantRoot

def new : MemoryTenantRoot := { tenants := ∅ }

def putTenant (self : MemoryTenantRoot) (tenant : TenantContext) :
    MemoryTenantRoot :=
  { tenants := self.tenants.insert tenant.tenantId tenant }

def getTenant (self : MemoryTenantRoot) (tenantId : TenantId) :
    Option TenantContext :=
  self.tenants[tenantId]?

end MemoryTenantRoot

/-! ## Principals -/

structure ExternalBinding where
  tenantId : TenantId
  connector : ProviderName
  externalSubject : ProviderSubject
  principalId : PrincipalId
  linkedAt : Int
  deriving DecidableEq

structure MemoryPrincipalStore where
  principals : KeyedMap PrincipalId Principal
  bindings :
    KeyedMap (TenantId × ProviderName × ProviderSubject) ExternalBinding

namespace MemoryPrincipalStore

def new : MemoryPrincipalStore := { principals := ∅, bindings := ∅ }

def putPrincipal (self : MemoryPrincipalStore) (principal : Principal) :
    MemoryPrincipalStore :=
  { self with principals := self.principals.insert principal.id principal }

def getPrincipal (self : MemoryPrincipalStore) (tenant : TenantContext)
    (principalId : PrincipalId) : Except StorageError (Option Principal) :=
  getScoped Principal.tenantId tenant self.principals principalId

def enterAgentState (state : AgentState) (principal : Principal) :
    Except StorageError Principal :=
  if principal.kind != .agent then
    .error { message := "principal is not an agent" }
  else
    .ok { principal with agentState := some state }

def setAgentState (self : MemoryPrincipalStore) (tenant : TenantContext)
    (principalId : PrincipalId) (state : AgentState) :
    Except StorageError (Unit × MemoryPrincipalStore) := do
  let principals ← modifyScoped Principal.tenantId "unknown principal" tenant
    self.principals principalId (enterAgentState state)
  .ok ((), { self with principals })

def bindExternalIdentity (self : MemoryPrincipalStore)
    (tenant : TenantContext) (connector : ProviderName)
    (externalSubject : ProviderSubject) (principalId : PrincipalId)
    (linkedAt : Int) :
    Except StorageError (ExternalBinding × MemoryPrincipalStore) := do
  match ← self.getPrincipal tenant principalId with
  | none => .error { message := "unknown principal" }
  | some _ =>
      let key := (tenant.tenantId, connector, externalSubject)
      match self.bindings[key]? with
      | some existing =>
          if existing.principalId != principalId then
            .error
              { message :=
                  "external identity is already bound to another principal" }
          else
            .ok (existing, self)
      | none =>
          let binding : ExternalBinding :=
            { tenantId := tenant.tenantId
              connector
              externalSubject
              principalId
              linkedAt }
          .ok (binding,
            { self with bindings := self.bindings.insert key binding })

def resolveExternalIdentity (self : MemoryPrincipalStore)
    (tenant : TenantContext) (connector : ProviderName)
    (externalSubject : ProviderSubject) : Option PrincipalId :=
  self.bindings[(tenant.tenantId, connector, externalSubject)]?.map
    ExternalBinding.principalId

/-- The order of the bindings of one principal. -/
def bindingPrecedes (left right : ExternalBinding) : Bool :=
  (compare (left.connector, left.externalSubject)
    (right.connector, right.externalSubject)).isLE

def bindingsFor (self : MemoryPrincipalStore) (tenant : TenantContext)
    (principalId : PrincipalId) : List ExternalBinding :=
  (self.bindings.values.filter fun binding =>
    binding.tenantId == tenant.tenantId &&
      binding.principalId == principalId).insertionSort
    fun left right => bindingPrecedes left right

theorem setAgentState_ok {self written : MemoryPrincipalStore}
    {tenant : TenantContext} {principalId : PrincipalId} {state : AgentState}
    {result : Unit}
    (outcome : self.setAgentState tenant principalId state =
      .ok (result, written)) :
    ∃ principal, self.principals[principalId]? = some principal ∧
      principal.tenantId = tenant.tenantId ∧ principal.kind = .agent ∧
      written = { self with
        principals := self.principals.insert principalId
          { principal with agentState := some state } } := by
  obtain ⟨principals, changed, finished⟩ :=
    except_bind_eq_ok_iff.mp outcome
  obtain ⟨principal, entered, found, inTenant, enters, rfl⟩ :=
    modifyScoped_eq_ok_iff.mp changed
  cases finished
  unfold enterAgentState at enters
  split at enters
  · cases enters
  · rename_i agent
    cases enters
    exact ⟨principal, found, inTenant, by simpa using agent, rfl⟩

theorem bindExternalIdentity_ok {self written : MemoryPrincipalStore}
    {tenant : TenantContext} {connector : ProviderName}
    {externalSubject : ProviderSubject} {principalId : PrincipalId}
    {linkedAt : Int} {binding : ExternalBinding}
    (outcome : self.bindExternalIdentity tenant connector externalSubject
      principalId linkedAt = .ok (binding, written)) :
    ∃ bindings, written = { self with bindings } := by
  obtain ⟨found, _, outcome⟩ := except_bind_eq_ok_iff.mp outcome
  cases found with
  | none => cases outcome
  | some principal =>
      dsimp only at outcome
      split at outcome
      · split at outcome
        · cases outcome
        · cases outcome
          exact ⟨self.bindings, rfl⟩
      · cases outcome
        exact ⟨_, rfl⟩

end MemoryPrincipalStore

/-! ## Delegations -/

structure MemoryDelegationStore where
  delegations : KeyedMap DelegationId Delegation

namespace MemoryDelegationStore

def new : MemoryDelegationStore := { delegations := ∅ }

def createDelegation (self : MemoryDelegationStore)
    (delegation : Delegation) :
    Except StorageError (Delegation × MemoryDelegationStore) :=
  if delegation.capabilities.isEmpty then
    .error { message := "delegation requires capabilities" }
  else if (delegation.expiresAt.map fun expiresAt =>
      decide (expiresAt ≤ delegation.issuedAt)).getD false then
    .error { message := "delegation expires before it is issued" }
  else if delegation.delegator == delegation.delegate then
    .error { message := "delegation requires two principals" }
  else if self.delegations.contains delegation.id then
    .error { message := "duplicate delegation" }
  else
    .ok (delegation,
      { delegations := self.delegations.insert delegation.id delegation })

def getDelegation (self : MemoryDelegationStore) (tenant : TenantContext)
    (delegationId : DelegationId) :
    Except StorageError (Option Delegation) :=
  getScoped Delegation.tenantId tenant self.delegations delegationId

def listDelegationsForDelegate (self : MemoryDelegationStore)
    (tenant : TenantContext) (delegate : PrincipalId) : List Delegation :=
  (self.delegations.values.filter fun delegation =>
    delegation.tenantId == tenant.tenantId &&
      delegation.delegate == delegate).insertionSort
    fun left right => left.id ≤ right.id

def revokeDelegation (self : MemoryDelegationStore) (tenant : TenantContext)
    (delegationId : DelegationId) (revokedAt : Int) :
    Except StorageError (Unit × MemoryDelegationStore) := do
  let delegations ← modifyScoped Delegation.tenantId "unknown delegation"
    tenant self.delegations delegationId fun delegation =>
      .ok { delegation with revokedAt := some revokedAt }
  .ok ((), { delegations })

variable {self : MemoryDelegationStore} {tenant : TenantContext}

theorem createDelegation_ok {delegation created : Delegation}
    {written : MemoryDelegationStore}
    (outcome : self.createDelegation delegation = .ok (created, written)) :
    created = delegation ∧
      self.delegations[delegation.id]? = none ∧
      delegation.delegator ≠ delegation.delegate ∧
      written =
        { delegations := self.delegations.insert delegation.id delegation } := by
  unfold createDelegation at outcome
  split at outcome
  · cases outcome
  · split at outcome
    · cases outcome
    · split at outcome
      · cases outcome
      · rename_i different
        split at outcome
        · cases outcome
        · rename_i fresh
          cases outcome
          refine ⟨rfl, ?_, by simpa using different, rfl⟩
          apply Std.ExtTreeMap.getElem?_eq_none
          simpa using fresh

theorem createDelegation_period {delegation created : Delegation}
    {written : MemoryDelegationStore}
    (outcome : self.createDelegation delegation = .ok (created, written)) :
    ∀ expiresAt, delegation.expiresAt = some expiresAt →
      delegation.issuedAt < expiresAt := by
  intro expiresAt expires
  unfold createDelegation at outcome
  split at outcome
  · cases outcome
  · split at outcome
    · cases outcome
    · rename_i period
      simpa [expires] using period

theorem mem_listDelegationsForDelegate
    (keyed : KeyedMap.KeyedBy Delegation.id self.delegations)
    {delegate : PrincipalId} {delegation : Delegation} :
    delegation ∈ self.listDelegationsForDelegate tenant delegate ↔
      self.delegations[delegation.id]? = some delegation ∧
        delegation.tenantId = tenant.tenantId ∧
        delegation.delegate = delegate := by
  unfold listDelegationsForDelegate
  rw [List.mem_insertionSort, List.mem_filter, keyed.mem_values]
  simp

theorem revokeDelegation_ok {delegationId : DelegationId}
    {revokedAt : Int} {written : MemoryDelegationStore} {result : Unit}
    (outcome : self.revokeDelegation tenant delegationId revokedAt =
      .ok (result, written)) :
    ∃ delegation, self.delegations[delegationId]? = some delegation ∧
      delegation.tenantId = tenant.tenantId ∧
      written =
        { delegations := self.delegations.insert delegationId
            { delegation with revokedAt := some revokedAt } } := by
  obtain ⟨delegations, changed, finished⟩ :=
    except_bind_eq_ok_iff.mp outcome
  obtain ⟨delegation, _, found, inTenant, replaced, rfl⟩ :=
    modifyScoped_eq_ok_iff.mp changed
  cases finished
  cases replaced
  exact ⟨delegation, found, inTenant, rfl⟩

end MemoryDelegationStore

/-! ## Runs -/

structure MemoryRunStore where
  runs : KeyedMap RunId AgentRun

namespace MemoryRunStore

def new : MemoryRunStore := { runs := ∅ }

def putRun (self : MemoryRunStore) (run : AgentRun) :
    Except StorageError (AgentRun × MemoryRunStore) :=
  if self.runs.contains run.id then
    .error { message := "duplicate run" }
  else
    .ok (run, { runs := self.runs.insert run.id run })

def getRun (self : MemoryRunStore) (tenant : TenantContext) (runId : RunId) :
    Except StorageError (Option AgentRun) :=
  getScoped AgentRun.tenantId tenant self.runs runId

def findRunByCredential (self : MemoryRunStore) (tenant : TenantContext)
    (credential : ExecutionCredentialId) : Option AgentRun :=
  self.runs.values.find? fun run =>
    run.tenantId == tenant.tenantId && run.executionCredential == credential

def updateRun (self : MemoryRunStore) (tenant : TenantContext)
    (run : AgentRun) : Except StorageError (AgentRun × MemoryRunStore) :=
  if run.tenantId != tenant.tenantId then
    .error { message := "tenant mismatch" }
  else if !self.runs.contains run.id then
    .error { message := "unknown run" }
  else
    .ok (run, { runs := self.runs.insert run.id run })

theorem updateRun_ok {self written : MemoryRunStore} {tenant : TenantContext}
    {run updated : AgentRun}
    (outcome : self.updateRun tenant run = .ok (updated, written)) :
    updated = run ∧ run.tenantId = tenant.tenantId ∧
      written = { runs := self.runs.insert run.id run } := by
  unfold updateRun at outcome
  split at outcome
  · cases outcome
  · rename_i inTenant
    split at outcome
    · cases outcome
    · cases outcome
      exact ⟨rfl, by simpa using inTenant, rfl⟩

end MemoryRunStore

end AuthBoundry
