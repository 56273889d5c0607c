import AuthBoundry.Runtime.Decisions
import AuthBoundry.Runtime.System

/-!
# The outcome of each operation

Every operation of the mesh first checks, then writes and last records.  The
equations below separate the three: what an operation is granted on is read
from the state before it, a refusal leaves that state, and what follows a
grant is an explicit new state from which only the audit trail can still fail.
-/

namespace AuthBoundry

open Library
open Library.Stateful

/-! ## Stores -/

/-- Where an external identity is filed. -/
abbrev IdentityKey := TenantId × ProviderName × ProviderSubject

def identityKey (tenant : TenantContext) (external : ExternalIdentity) :
    IdentityKey :=
  (tenant.tenantId, ⟨external.connector⟩, ⟨external.subject⟩)

/-- The id under which an identity record is stored. -/
def identityIdFor : IdentityKey → IdentityId
  | (tenant, provider, subject) => ⟨s!"{tenant}:{provider}:{subject}"⟩

/-- The identity record of a linked account. -/
def linkedIdentity (key : IdentityKey) (claims : Claims) : Identity :=
  { id := identityIdFor key
    provider := key.2.1
    providerSubject := key.2.2
    tenantId := key.1
    claims
    version := { major := 1, minor := 0 }
    offline := { maxAgeSeconds := 300, mustRevalidate := true } }

namespace MemoryIdentityStore

/-- The store with the record of one more account. -/
def recorded (self : MemoryIdentityStore) (key : IdentityKey)
    (claims : Claims) : MemoryIdentityStore :=
  { identities :=
      self.identities.insert (identityIdFor key) (linkedIdentity key claims)
    byProvider := self.byProvider.insert key (identityIdFor key) }

theorem linkAccount_eq (self : MemoryIdentityStore) (tenant : TenantContext)
    (provider : ProviderName) (subject : ProviderSubject) :
    let key : IdentityKey := (tenant.tenantId, provider, subject)
    self.linkAccount tenant provider subject =
      if self.byProvider.contains key then
        .error { message := "duplicate identity" }
      else
        .ok (linkedIdentity key { values := ∅ },
          self.recorded key { values := ∅ }) :=
  rfl

theorem updateClaims_linkAccount (self : MemoryIdentityStore)
    (tenant : TenantContext) (provider : ProviderName)
    (subject : ProviderSubject) (claims : Claims) :
    (self.recorded (tenant.tenantId, provider, subject)
        { values := ∅ }).updateClaims tenant
          (identityIdFor (tenant.tenantId, provider, subject)) claims =
      .ok ((), self.recorded (tenant.tenantId, provider, subject) claims) := by
  let key : IdentityKey := (tenant.tenantId, provider, subject)
  have replaced :
      (self.identities.insert (identityIdFor key)
          (linkedIdentity key { values := ∅ })).insert (identityIdFor key)
            (linkedIdentity key claims) =
        self.identities.insert (identityIdFor key)
          (linkedIdentity key claims) := by
    apply Std.ExtTreeMap.ext_getElem?
    intro id
    simp only [KeyedMap.getElem?_insert_eq]
    split <;> rfl
  have found :
      (self.identities.insert (identityIdFor key)
          (linkedIdentity key { values := ∅ }))[identityIdFor key]? =
        some (linkedIdentity key { values := ∅ }) :=
    Std.ExtTreeMap.getElem?_insert_self
  have changed : modifyScoped Identity.tenantId "unknown identity" tenant
      (self.identities.insert (identityIdFor key)
        (linkedIdentity key { values := ∅ })) (identityIdFor key)
      (fun identity => .ok { identity with claims }) =
        .ok (self.identities.insert (identityIdFor key)
          (linkedIdentity key claims)) := by
    rw [modifyScoped_eq_ok_iff]
    exact ⟨_, _, found, rfl, rfl, replaced.symm⟩
  apply except_bind_eq_ok_iff.mpr
  exact ⟨_, changed, rfl⟩

end MemoryIdentityStore

namespace ExternalBinding

def key (self : ExternalBinding) : IdentityKey :=
  (self.tenantId, self.connector, self.externalSubject)

end ExternalBinding

def newBinding (key : IdentityKey) (principalId : PrincipalId)
    (linkedAt : Int) : ExternalBinding :=
  { tenantId := key.1
    connector := key.2.1
    externalSubject := key.2.2
    principalId
    linkedAt }

namespace MemoryPrincipalStore

def bound (self : MemoryPrincipalStore) (binding : ExternalBinding) :
    MemoryPrincipalStore :=
  { self with bindings := self.bindings.insert binding.key binding }

def boundElsewhere : StorageError :=
  { message := "external identity is already bound to another principal" }

theorem bindExternalIdentity_eq {self : MemoryPrincipalStore}
    {tenant : TenantContext} {principalId : PrincipalId}
    {principal : Principal}
    (stored : self.getPrincipal tenant principalId = .ok (some principal))
    (connector : ProviderName) (subject : ProviderSubject) (linkedAt : Int) :
    self.bindExternalIdentity tenant connector subject principalId linkedAt =
      match self.bindings[((tenant.tenantId, connector, subject) :
          IdentityKey)]? with
      | some existing =>
          if existing.principalId != principalId then
            .error boundElsewhere
          else
            .ok (existing, self)
      | none =>
          let binding := newBinding (tenant.tenantId, connector, subject)
            principalId linkedAt
          .ok (binding, self.bound binding) := by
  unfold bindExternalIdentity
  rw [stored]
  rfl

end MemoryPrincipalStore

namespace AuthMesh

variable {environment : Environment}

/-! ## Writes -/

section Writes

variable {α β : Type} (toError : StorageError → AuthError)
  (next : α → MeshM β) (self : AuthMesh)

theorem writeIdentities_bind
    (write : MemoryIdentityStore →
      Except StorageError (α × MemoryIdentityStore)) :
    (writeIdentities toError write >>= next) self =
      match write self.stores.identities with
      | .ok (value, part) => next value (self.changeIdentities part)
      | .error err => .error (toError err) self := by
  unfold writeIdentities
  rw [commitPart_mapError_bind]
  cases write self.stores.identities <;> rfl

theorem writePrincipals_bind
    (write : MemoryPrincipalStore →
      Except StorageError (α × MemoryPrincipalStore)) :
    (writePrincipals toError write >>= next) self =
      match write self.stores.principals with
      | .ok (value, part) => next value (self.changePrincipals part)
      | .error err => .error (toError err) self := by
  unfold writePrincipals
  rw [commitPart_mapError_bind]
  cases write self.stores.principals <;> rfl

theorem writePrincipals_eq
    (write : MemoryPrincipalStore →
      Except StorageError (α × MemoryPrincipalStore)) :
    writePrincipals toError write self =
      match write self.stores.principals with
      | .ok (value, part) => .ok value (self.changePrincipals part)
      | .error err => .error (toError err) self := by
  unfold writePrincipals commitPart commit
  cases answer : write self.stores.principals <;>
    simp only [answer, except_ok_mapError, except_error_mapError]

theorem writeSessions_bind
    (write : MemorySessionStore →
      Except StorageError (α × MemorySessionStore)) :
    (writeSessions toError write >>= next) self =
      match write self.stores.sessions with
      | .ok (value, part) => next value (self.changeSessions part)
      | .error err => .error (toError err) self := by
  unfold writeSessions
  rw [commitPart_mapError_bind]
  cases write self.stores.sessions <;> rfl

theorem writeDelegations_bind
    (write : MemoryDelegationStore →
      Except StorageError (α × MemoryDelegationStore)) :
    (writeDelegations toError write >>= next) self =
      match write self.stores.delegations with
      | .ok (value, part) => next value (self.changeDelegations part)
      | .error err => .error (toError err) self := by
  unfold writeDelegations
  rw [commitPart_mapError_bind]
  cases write self.stores.delegations <;> rfl

theorem writeRuns_bind
    (write : MemoryRunStore → Except StorageError (α × MemoryRunStore)) :
    (writeRuns toError write >>= next) self =
      match write self.stores.runs with
      | .ok (value, part) => next value (self.changeRuns part)
      | .error err => .error (toError err) self := by
  unfold writeRuns
  rw [commitPart_mapError_bind]
  cases write self.stores.runs <;> rfl

end Writes

/-! ## The audit trail -/

def auditError (err : StorageError) : AuthError :=
  { stage := .runtimeContext
    message := err.message
    denial := .tenantMismatch }

/-- The sequence number is consumed whatever the log answers. -/
def counted (self : AuthMesh) : AuthMesh :=
  { self with auditSequence := self.auditSequence + 1 }

theorem audit_bind {α : Type} (tenant : TenantContext) (record : AuditRecord)
    (now : Int) (next : Unit → MeshM α) (self : AuthMesh) :
    (audit environment tenant record now >>= next) self =
      match environment.auditFault self.auditSequence with
      | some err => .error (auditError err) self.counted
      | none => next () (self.stamped tenant record now) := by
  rw [bind_apply]
  cases fault : environment.auditFault self.auditSequence with
  | none => rw [audit_ok fault]
  | some err =>
      unfold audit
      rw [fault]
      rfl

/-- How most operations end: the write is recorded and its value returned. -/
def finish {α : Type} (environment : Environment) (tenant : TenantContext)
    (record : AuditRecord) (now : Int) (value : α) : MeshM α := do
  audit environment tenant record now
  pure value

theorem finish_eq {α : Type} (tenant : TenantContext) (record : AuditRecord)
    (now : Int) (value : α) (self : AuthMesh) :
    finish environment tenant record now value self =
      match environment.auditFault self.auditSequence with
      | some err => .error (auditError err) self.counted
      | none => .ok value (self.stamped tenant record now) :=
  audit_bind tenant record now (fun _ => pure value) self

theorem audit_eq_finish (tenant : TenantContext) (record : AuditRecord)
    (now : Int) (self : AuthMesh) :
    audit environment tenant record now self =
      finish environment tenant record now () self := by
  rw [finish_eq]
  cases fault : environment.auditFault self.auditSequence with
  | none => exact audit_ok fault
  | some err =>
      unfold audit
      rw [fault]
      rfl

/-- An operation ends with a failure exactly if the log refuses its event. -/
theorem failure_finish {α : Type} (tenant : TenantContext)
    (record : AuditRecord) (now : Int) (value : α) (self : AuthMesh) :
    failure (finish environment tenant record now value self) =
      (environment.auditFault self.auditSequence).map auditError := by
  rw [finish_eq]
  cases environment.auditFault self.auditSequence <;> rfl

/-! ## Sessions -/

def openedSession (environment : Environment) (self : AuthMesh)
    (tenant : TenantContext) (identityId : IdentityId) (now : Int) : Session :=
  { id := ⟨environment.mintSessionId (self.stores.sessions.nextId + 1)⟩
    identityId
    tenantId := tenant.tenantId
    createdAt := 0
    expiresAt := now + self.sessionTtl
    revokedAt := none }

def withSession (environment : Environment) (self : AuthMesh)
    (tenant : TenantContext) (identityId : IdentityId) (now : Int) :
    AuthMesh :=
  let session := self.openedSession environment tenant identityId now
  self.changeSessions
    { sessions := self.stores.sessions.sessions.insert session.id session
      nextId := self.stores.sessions.nextId + 1 }

/-- The entry a new session leaves in the audit trail. -/
def sessionRecord (kind : AuditEventKind) (external : ExternalIdentity)
    (resolved : ResolvedPrincipal) (session : Session) : AuditRecord :=
  (((((((AuditRecord.new kind).principal resolved.principal.id).session
    session.id).addMeta "provider" external.connector).addMeta
    "authentication_method"
    (authenticationMethodForProvider external.connector)).addMeta
    "authentication_assurance" "basic").addMeta "authentication_result"
    "success")

/-- What follows once a principal is known: its session is stored, recorded
and given a context. -/
theorem establish_eq (kind : AuditEventKind) (tenant : TenantContext)
    (external : ExternalIdentity) (resolved : ResolvedPrincipal) (now : Int)
    (self : AuthMesh) :
    let session :=
      self.openedSession environment tenant resolved.identity.id now
    let opened := self.withSession environment tenant resolved.identity.id now
    establish environment kind tenant external resolved now self =
      match environment.auditFault self.auditSequence with
      | some err => .error (auditError err) opened.counted
      | none =>
          let recorded := opened.stamped tenant
            (sessionRecord kind external resolved session) now
          match self.contextFor environment tenant resolved.principal
              (some session.id) now with
          | .error err => .error err recorded
          | .ok context => .ok { session, external, context } recorded := by
  intro session opened
  have started : openSession environment tenant resolved.identity.id now self =
      .ok session opened := rfl
  unfold establish
  rw [bind_apply, started]
  dsimp only
  rw [audit_bind]
  change (match environment.auditFault self.auditSequence with
    | some err => _
    | none => _) = _
  cases environment.auditFault self.auditSequence with
  | some err => rfl
  | none =>
      have sameContext : ∀ record,
          (opened.stamped tenant record now).contextFor environment tenant
              resolved.principal (some session.id) now =
            self.contextFor environment tenant resolved.principal
              (some session.id) now :=
        fun _ => rfl
      dsimp only
      rw [inspect_bind, sameContext]
      cases self.contextFor environment tenant resolved.principal
          (some session.id) now <;> rfl

/-- What signing in is granted on. -/
def signInGrounds (environment : Environment) (self : AuthMesh)
    (tenantId : String) (response : AuthResponse) :
    Except AuthError (TenantContext × ExternalIdentity × ResolvedPrincipal) := do
  let tenant ← self.tenant tenantId
  let external ← self.authenticateExternal environment tenant response
  let resolved ←
    match Resolution.resolvePrincipal self tenant external with
    | .error err => .error err
    | .ok (some resolved) => .ok resolved
    | .ok none =>
        .error
          { stage := .principalResolution
            message :=
              s!"external identity `{external.connector}:" ++
                s!"{external.subject}` is not linked in this tenant"
            denial := .unknownPrincipal }
  assertPrincipalIsUsable resolved.principal
  .ok (tenant, external, resolved)

theorem signIn_eq (tenantId : String) (response : AuthResponse) (now : Int)
    (self : AuthMesh) :
    signIn environment tenantId response now self =
      match self.signInGrounds environment tenantId response with
      | .error err => .error err self
      | .ok (tenant, external, resolved) =>
          establish environment .login tenant external resolved now self := by
  unfold signIn signInGrounds
  rw [inspect_bind]
  cases self.tenant tenantId with
  | error err => rfl
  | ok tenant =>
  simp only [except_ok_bind, inspect_bind]
  cases self.authenticateExternal environment tenant response with
  | error err => rfl
  | ok external =>
  simp only [except_ok_bind]
  cases Resolution.resolvePrincipal self tenant external with
  | error err => rfl
  | ok found =>
  cases found with
  | none => rfl
  | some resolved =>
  dsimp only
  cases assertPrincipalIsUsable resolved.principal <;> rfl

/-! ## Registration -/

/-- What signing up is granted on: the proven identity is new to the tenant. -/
def signUpGrounds (environment : Environment) (self : AuthMesh)
    (tenantId : String) (response : AuthResponse)
    (registration : Registration) :
    Except AuthError (TenantContext × ExternalIdentity × Claims) := do
  let tenant ← self.tenant tenantId
  refuseIf (registration.kind == .agent && !self.config.agents)
    { stage := .agentLifecycle
      message := "agents are not declared by `use auth`"
      denial := .unknownPrincipal }
  let external ← self.authenticateExternal environment tenant response
  let claims ← registeredClaims self.config registration
  refuseIf (self.stores.principals.resolveExternalIdentity tenant
      ⟨external.connector⟩ ⟨external.subject⟩).isSome
    (Resolution.unknown .principalResolution
      "external identity is already linked to a principal")
  refuseIf
    (self.stores.identities.byProvider.contains (identityKey tenant external))
    (Resolution.identityError { message := "duplicate identity" })
  .ok (tenant, external, claims)

def withIdentity (self : AuthMesh) (key : IdentityKey) (claims : Claims) :
    AuthMesh :=
  self.changeIdentities (self.stores.identities.recorded key claims)

theorem withIdentity_principals (self : AuthMesh) (key : IdentityKey)
    (claims : Claims) :
    (self.withIdentity key claims).stores.principals =
      self.stores.principals := rfl

theorem changePrincipals_principals (self : AuthMesh)
    (part : MemoryPrincipalStore) :
    (self.changePrincipals part).stores.principals = part := rfl

theorem linkIdentityRecord_eq (tenant : TenantContext)
    (connector : ProviderName) (subject : ProviderSubject) (claims : Claims)
    (self : AuthMesh) :
    let key : IdentityKey := (tenant.tenantId, connector, subject)
    Resolution.linkIdentityRecord tenant connector subject claims self =
      if self.stores.identities.byProvider.contains key then
        .error (Resolution.identityError { message := "duplicate identity" })
          self
      else
        .ok (linkedIdentity key { values := ∅ })
          (self.withIdentity key claims) := by
  intro key
  unfold Resolution.linkIdentityRecord
  rw [writeIdentities_bind, MemoryIdentityStore.linkAccount_eq]
  by_cases known : self.stores.identities.byProvider.contains key = true
  · rw [if_pos known, if_pos known]
  · rw [if_neg known, if_neg known]
    dsimp only
    have updated : (self.withIdentity (tenant.tenantId, connector, subject)
        { values := ∅ }).stores.identities.updateClaims tenant
          (linkedIdentity (tenant.tenantId, connector, subject)
            { values := ∅ }).id claims = _ :=
      MemoryIdentityStore.updateClaims_linkAccount self.stores.identities
        tenant connector subject claims
    unfold withIdentity at updated
    rw [writeIdentities_bind, updated]
    rfl

def withAccount (self : AuthMesh) (tenant : TenantContext)
    (external : ExternalIdentity) (kind : PrincipalKind) (claims : Claims)
    (now : Int) : AuthMesh :=
  let principal := Resolution.provisionedPrincipal tenant external kind claims
  (self.withIdentity (identityKey tenant external) claims).changePrincipals
    ((self.stores.principals.putPrincipal principal).bound
      (newBinding (identityKey tenant external) principal.id now))

/-- What the resolution of a new account answers. -/
def registeredPrincipal (tenant : TenantContext) (external : ExternalIdentity)
    (kind : PrincipalKind) (claims : Claims) (now : Int) : ResolvedPrincipal :=
  let principal := Resolution.provisionedPrincipal tenant external kind claims
  { principal
    identity := linkedIdentity (identityKey tenant external) { values := ∅ }
    binding := newBinding (identityKey tenant external) principal.id now }

theorem getPrincipal_putPrincipal (store : MemoryPrincipalStore)
    {tenant : TenantContext} {principal : Principal}
    (inTenant : principal.tenantId = tenant.tenantId) :
    (store.putPrincipal principal).getPrincipal tenant principal.id =
      .ok (some principal) := by
  apply getScoped_eq_some_iff.mpr
  exact ⟨Std.ExtTreeMap.getElem?_insert_self, inTenant⟩

/-- Nothing fails once an identity that is neither bound nor recorded is
registered. -/
theorem provisionPrincipal_eq (tenant : TenantContext)
    (external : ExternalIdentity) (kind : PrincipalKind) (claims : Claims)
    (now : Int) (self : AuthMesh) :
    Resolution.provisionPrincipal tenant external kind claims now self =
      if (self.stores.principals.resolveExternalIdentity tenant
          ⟨external.connector⟩ ⟨external.subject⟩).isSome then
        .error
          (Resolution.unknown .principalResolution
            "external identity is already linked to a principal") self
      else if self.stores.identities.byProvider.contains
          (identityKey tenant external) then
        .error (Resolution.identityError { message := "duplicate identity" })
          self
      else
        .ok (registeredPrincipal tenant external kind claims now)
          (self.withAccount tenant external kind claims now) := by
  unfold Resolution.provisionPrincipal
  dsimp only
  rw [inspect_bind]
  cases bound : self.stores.principals.resolveExternalIdentity tenant
      ⟨external.connector⟩ ⟨external.subject⟩ with
  | some principalId => rfl
  | none =>
  rw [if_neg (by simp)]
  simp only [refuseIf, Option.isSome_none, Bool.false_eq_true, if_false]
  rw [bind_apply, linkIdentityRecord_eq]
  unfold identityKey
  by_cases known : self.stores.identities.byProvider.contains
      ((tenant.tenantId, ⟨external.connector⟩, ⟨external.subject⟩) :
        IdentityKey) = true
  · rw [if_pos known, if_pos known]
  · rw [if_neg known, if_neg known]
    dsimp only
    rw [writePrincipals_bind]
    dsimp only
    rw [writePrincipals_bind]
    have put : (self.stores.principals.putPrincipal
        (Resolution.provisionedPrincipal tenant external kind
          claims)).getPrincipal tenant _ = .ok (some _) :=
      getPrincipal_putPrincipal self.stores.principals rfl
    have unbound : (self.stores.principals.putPrincipal
        (Resolution.provisionedPrincipal tenant external kind
          claims)).bindings[((tenant.tenantId, ⟨external.connector⟩,
            ⟨external.subject⟩) : IdentityKey)]? = none :=
      Option.map_eq_none_iff.mp bound
    have bind := MemoryPrincipalStore.bindExternalIdentity_eq put
      ⟨external.connector⟩ ⟨external.subject⟩ now
    rw [unbound] at bind
    rw [changePrincipals_principals, withIdentity_principals, bind]
    rfl

theorem signUp_eq (tenantId : String) (response : AuthResponse)
    (registration : Registration) (now : Int) (self : AuthMesh) :
    signUp environment tenantId response registration now self =
      match self.signUpGrounds environment tenantId response registration with
      | .error err => .error err self
      | .ok (tenant, external, claims) =>
          establish environment .accountLinked tenant external
            (registeredPrincipal tenant external registration.kind claims now)
            now
            (self.withAccount tenant external registration.kind claims now) := by
  unfold signUp signUpGrounds
  rw [inspect_bind]
  cases self.tenant tenantId with
  | error err => rfl
  | ok tenant =>
  simp only [except_ok_bind, inspect_bind]
  cases refuseIf (registration.kind == .agent && !self.config.agents)
      ({ stage := .agentLifecycle
         message := "agents are not declared by `use auth`"
         denial := .unknownPrincipal } : AuthError) with
  | error err => rfl
  | ok _ =>
  simp only [except_ok_bind]
  cases self.authenticateExternal environment tenant response with
  | error err => rfl
  | ok external =>
  simp only [except_ok_bind]
  cases registeredClaims self.config registration with
  | error err => rfl
  | ok claims =>
  simp only [except_ok_bind]
  rw [bind_apply, provisionPrincipal_eq]
  by_cases bound : (self.stores.principals.resolveExternalIdentity tenant
      ⟨external.connector⟩ ⟨external.subject⟩).isSome = true
  · rw [if_pos bound, bound]
    rfl
  · rw [if_neg bound]
    rw [Bool.not_eq_true] at bound
    rw [bound]
    by_cases known : self.stores.identities.byProvider.contains
        (identityKey tenant external) = true
    · rw [if_pos known, known]
      rfl
    · rw [if_neg known]
      rw [Bool.not_eq_true] at known
      rw [known]
      rfl

/-! ## Linking -/

/-- What linking an account is granted on: the principal is stored, and the
proven identity is known or can be recorded. -/
def linkGrounds (environment : Environment) (self : AuthMesh)
    (tenantId : String) (principalId : PrincipalId)
    (response : AuthResponse) :
    Except AuthError
      (TenantContext × ExternalIdentity × Principal × Option Identity) := do
  let tenant ← self.tenant tenantId
  let external ← self.authenticateExternal environment tenant response
  let principal ←
    match self.stores.principals.getPrincipal tenant principalId with
    | .error err => .error (Resolution.principalError err)
    | .ok none =>
        .error (Resolution.unknown .principalResolution "unknown principal")
    | .ok (some principal) => .ok principal
  let known ← (self.stores.identities.findIdentity tenant ⟨external.connector⟩
    ⟨external.subject⟩).mapError Resolution.identityError
  refuseIf
    (known.isNone &&
      self.stores.identities.byProvider.contains (identityKey tenant external))
    (Resolution.identityError { message := "duplicate identity" })
  .ok (tenant, external, principal, known)

def withMissingIdentity (self : AuthMesh) (known : Option Identity)
    (key : IdentityKey) (claims : Claims) : AuthMesh :=
  match known with
  | some _ => self
  | none => self.withIdentity key claims

theorem withMissingIdentity_principals (self : AuthMesh)
    (known : Option Identity) (key : IdentityKey) (claims : Claims) :
    (self.withMissingIdentity known key claims).stores.principals =
      self.stores.principals := by
  cases known <;> rfl

/-- The mesh with the identity of a principal bound, unless it already is. -/
def withBinding (self : AuthMesh) (binding : ExternalBinding) : AuthMesh :=
  match self.stores.principals.bindings[binding.key]? with
  | some _ => self
  | none => self.changePrincipals (self.stores.principals.bound binding)

/-- The entry a new link leaves in the audit trail. -/
def linkRecord (principalId : PrincipalId) (external : ExternalIdentity) :
    AuditRecord :=
  ((AuditRecord.new .accountLinked).principal principalId).addMeta
    "connector" external.connector

theorem linkMissingIdentity_eq (known : Option Identity)
    (tenant : TenantContext) (external : ExternalIdentity) (claims : Claims)
    (self : AuthMesh) :
    Resolution.linkMissingIdentity known tenant ⟨external.connector⟩
        ⟨external.subject⟩ claims self =
      if known.isNone &&
          self.stores.identities.byProvider.contains
            (identityKey tenant external) then
        .error (Resolution.identityError { message := "duplicate identity" })
          self
      else
        .ok () (self.withMissingIdentity known (identityKey tenant external)
          claims) := by
  cases known with
  | some identity => rfl
  | none =>
      unfold Resolution.linkMissingIdentity identityKey
      dsimp only
      rw [bind_apply, linkIdentityRecord_eq, Option.isNone_none, Bool.true_and]
      cases self.stores.identities.byProvider.contains
        ((tenant.tenantId, ⟨external.connector⟩, ⟨external.subject⟩) :
          IdentityKey) <;> rfl

theorem linkAccount_eq (tenantId : String) (principalId : PrincipalId)
    (response : AuthResponse) (now : Int) (self : AuthMesh) :
    linkAccount environment tenantId principalId response now self =
      match self.linkGrounds environment tenantId principalId response with
      | .error err => .error err self
      | .ok (tenant, external, principal, known) =>
          let key := identityKey tenant external
          let linked := self.withMissingIdentity known key principal.claims
          let binding := newBinding key principalId now
          match self.stores.principals.bindings[key]? with
          | some existing =>
              if existing.principalId != principalId then
                .error (Resolution.principalError MemoryPrincipalStore.boundElsewhere) linked
              else
                finish environment tenant (linkRecord principalId external) now
                  existing linked
          | none =>
              finish environment tenant (linkRecord principalId external) now
                binding (linked.withBinding binding) := by
  unfold linkAccount linkGrounds
  rw [inspect_bind]
  cases self.tenant tenantId with
  | error err => rfl
  | ok tenant =>
  simp only [except_ok_bind, inspect_bind]
  cases self.authenticateExternal environment tenant response with
  | error err => rfl
  | ok external =>
  simp only [except_ok_bind]
  rw [bind_apply]
  unfold Resolution.linkExternalIdentity
  simp only [inspect_bind]
  cases stored : self.stores.principals.getPrincipal tenant principalId with
  | error err => rfl
  | ok found =>
  cases found with
  | none => rfl
  | some principal =>
  dsimp only
  cases (self.stores.identities.findIdentity tenant ⟨external.connector⟩
      ⟨external.subject⟩).mapError Resolution.identityError with
  | error err => rfl
  | ok known =>
  simp only [except_ok_bind]
  rw [bind_apply, linkMissingIdentity_eq]
  cases duplicate : known.isNone &&
      self.stores.identities.byProvider.contains
        (identityKey tenant external) with
  | true => rfl
  | false =>
  rw [if_neg (by simp)]
  have bind := MemoryPrincipalStore.bindExternalIdentity_eq stored
    ⟨external.connector⟩ ⟨external.subject⟩ now
  simp only [refuseIf, Bool.false_eq_true, if_false, except_ok_bind]
  rw [writePrincipals_eq, withMissingIdentity_principals, bind]
  unfold identityKey
  cases filed : self.stores.principals.bindings[
      ((tenant.tenantId, ⟨external.connector⟩, ⟨external.subject⟩) :
        IdentityKey)]? with
  | some existing =>
      dsimp only
      by_cases other : (existing.principalId != principalId) = true
      · rw [if_pos other, if_pos other]
      · rw [if_neg other, if_neg other]
        cases known <;> rfl
  | none =>
      have unfiled : (self.withMissingIdentity known
          (tenant.tenantId, ⟨external.connector⟩, ⟨external.subject⟩)
            principal.claims).stores.principals.bindings[
              (newBinding (tenant.tenantId, ⟨external.connector⟩,
                ⟨external.subject⟩) principalId now).key]? = none := by
        rw [withMissingIdentity_principals]
        exact filed
      unfold withBinding
      rw [unfiled, withMissingIdentity_principals]
      rfl

/-! ## Revoking and setting -/

theorem logout_eq (tenantId : String) (sessionId : SessionId) (now : Int)
    (self : AuthMesh) :
    logout environment tenantId sessionId now self =
      match self.tenant tenantId with
      | .error err => .error err self
      | .ok tenant =>
          match self.stores.sessions.revokeSession tenant sessionId now with
          | .error err => .error (sessionError err) self
          | .ok ((), sessions) =>
              finish environment tenant
                ((AuditRecord.new .sessionRevoked).session sessionId) now ()
                (self.changeSessions sessions) := by
  unfold logout
  rw [inspect_bind]
  cases self.tenant tenantId with
  | error err => rfl
  | ok tenant =>
  dsimp only
  rw [writeSessions_bind]
  cases self.stores.sessions.revokeSession tenant sessionId now with
  | error err => rfl
  | ok written => exact audit_eq_finish tenant _ now _

theorem revokeDelegation_eq (tenantId : String) (delegationId : DelegationId)
    (now : Int) (self : AuthMesh) :
    revokeDelegation environment tenantId delegationId now self =
      match self.tenant tenantId with
      | .error err => .error err self
      | .ok tenant =>
          match self.stores.delegations.revokeDelegation tenant delegationId
              now with
          | .error err => .error (delegationRefused err) self
          | .ok ((), delegations) =>
              finish environment tenant
                ((AuditRecord.new .delegationRevoked).delegation delegationId)
                now () (self.changeDelegations delegations) := by
  unfold revokeDelegation
  rw [inspect_bind]
  cases self.tenant tenantId with
  | error err => rfl
  | ok tenant =>
  dsimp only
  rw [writeDelegations_bind]
  cases self.stores.delegations.revokeDelegation tenant delegationId now with
  | error err => rfl
  | ok written => exact audit_eq_finish tenant _ now _

def agentStateError (err : StorageError) : AuthError :=
  { stage := .agentLifecycle
    message := err.message
    denial := .unknownPrincipal }

theorem setAgentState_eq (tenantId : String) (agent : PrincipalId)
    (state : AgentState) (now : Int) (self : AuthMesh) :
    setAgentState environment tenantId agent state now self =
      match self.tenant tenantId with
      | .error err => .error err self
      | .ok tenant =>
          match self.stores.principals.setAgentState tenant agent state with
          | .error err => .error (agentStateError err) self
          | .ok ((), principals) =>
              finish environment tenant
                ((AuditRecord.new (agentStateEvent state)).principal agent) now
                () (self.changePrincipals principals) := by
  unfold setAgentState
  rw [inspect_bind]
  cases self.tenant tenantId with
  | error err => rfl
  | ok tenant =>
  dsimp only
  rw [writePrincipals_bind]
  cases self.stores.principals.setAgentState tenant agent state with
  | error err => rfl
  | ok written => exact audit_eq_finish tenant _ now _

/-! ## Delegating -/

/-- What delegating is granted on: the request passes the checks and the
store takes the delegation. -/
def delegateGrounds (environment : Environment) (self : AuthMesh)
    (tenantId : String) (request : DelegationRequest) (now : Int) :
    Except AuthError (TenantContext × Delegation) := do
  let tenant ← self.tenant tenantId
  let checked ← self.checkedDelegation environment tenant request now
  let written ← (self.stores.delegations.createDelegation checked).mapError
    delegationRefused
  .ok (tenant, written.1)

def withDelegation (self : AuthMesh) (delegation : Delegation) : AuthMesh :=
  self.changeDelegations
    { delegations :=
        self.stores.delegations.delegations.insert delegation.id delegation }

theorem delegate_eq (tenantId : String) (request : DelegationRequest)
    (now : Int) (self : AuthMesh) :
    delegate environment tenantId request now self =
      match self.delegateGrounds environment tenantId request now with
      | .error err => .error err self
      | .ok (tenant, delegation) =>
          finish environment tenant
            ((((AuditRecord.new .delegationCreated).principal
              delegation.delegate).delegation delegation.id).addMeta
              "delegator" delegation.delegator.value)
            now delegation (self.withDelegation delegation) := by
  unfold delegate delegateGrounds
  rw [inspect_bind]
  cases self.tenant tenantId with
  | error err => rfl
  | ok tenant =>
  simp only [except_ok_bind, inspect_bind]
  cases self.checkedDelegation environment tenant request now with
  | error err => rfl
  | ok checked =>
  simp only [except_ok_bind]
  rw [writeDelegations_bind]
  cases written : self.stores.delegations.createDelegation checked with
  | error err => rfl
  | ok pair =>
      obtain ⟨delegation, delegations⟩ := pair
      obtain ⟨rfl, _, _, rfl⟩ :=
        MemoryDelegationStore.createDelegation_ok written
      rfl

/-! ## Runs -/

def chosenRunId (self : AuthMesh) (tenant : TenantContext) :
    Option RunId → RunId
  | some id => id
  | none =>
      ⟨"run_" ++ hex16 (stableHash s!"{tenant.tenantId}|{self.runSequence}")⟩

/-- The mesh once that id has been chosen. -/
def withRunChosen (self : AuthMesh) : Option RunId → AuthMesh
  | some _ => self
  | none => { self with runSequence := self.runSequence + 1 }

def createRunGrounds (self : AuthMesh) (tenantId : String)
    (agentId : PrincipalId) (request : RunCreationRequest) (now : Int)
    (authorityRevision : Nat) (contractFingerprint : String) :
    Except AuthError (TenantContext × AgentRun) := do
  let tenant ← self.tenant tenantId
  let delegation ← self.checkRunRequest tenant agentId request now
  let id := self.chosenRunId tenant request.id
  .ok (tenant, createdRun tenant agentId request delegation id
    (self.executionCredential tenant id) now authorityRevision
    contractFingerprint)

def runRecord (kind : AuditEventKind) (run : AgentRun) : AuditRecord :=
  ((((AuditRecord.new kind).principal run.agentPrincipal).delegation
    run.delegationId).addMeta "run_id" run.id.value).addMeta "task_id"
    run.task.id.value

def withRun (self : AuthMesh) (run : AgentRun) : AuthMesh :=
  self.changeRuns { runs := self.stores.runs.runs.insert run.id run }

theorem createAgentRun_eq (tenantId : String) (agentId : PrincipalId)
    (request : RunCreationRequest) (now : Int) (authorityRevision : Nat)
    (contractFingerprint : String) (self : AuthMesh) :
    createAgentRun environment tenantId agentId request now authorityRevision
        contractFingerprint self =
      match self.createRunGrounds tenantId agentId request now
          authorityRevision contractFingerprint with
      | .error err => .error err self
      | .ok (tenant, run) =>
          if self.stores.runs.runs.contains run.id then
            .error (runStorageError { message := "duplicate run" })
              (self.withRunChosen request.id)
          else
            finish environment tenant (runRecord .agentRunCreated run) now run
              ((self.withRunChosen request.id).withRun run) := by
  unfold createAgentRun createRunGrounds
  rw [inspect_bind]
  cases self.tenant tenantId with
  | error err => rfl
  | ok tenant =>
  simp only [except_ok_bind, inspect_bind]
  cases self.checkRunRequest tenant agentId request now with
  | error err => rfl
  | ok delegation =>
  have chosen : requestedRunId tenant request.id self =
      .ok (self.chosenRunId tenant request.id)
        (self.withRunChosen request.id) := by
    cases request.id <;> rfl
  have sameRuns : (self.withRunChosen request.id).stores = self.stores := by
    cases request.id <;> rfl
  have sameCredential : ∀ id,
      (self.withRunChosen request.id).executionCredential tenant id =
        self.executionCredential tenant id := by
    cases request.id <;> exact fun _ => rfl
  simp only [except_ok_bind]
  rw [bind_apply, chosen]
  simp only [inspect_bind, sameCredential, writeRuns_bind,
    MemoryRunStore.putRun, sameRuns]
  split
  · rename_i outcome
    split at outcome
    · cases outcome
    · rename_i fresh
      cases outcome
      rw [if_neg fresh]
      unfold finish withRun
      rw [sameRuns]
      rfl
  · rename_i outcome
    split at outcome
    · rename_i taken
      cases outcome
      rw [if_pos taken]
    · cases outcome

theorem cancelAgentRun_eq (tenantId : String) (runId : RunId) (now : Int)
    (self : AuthMesh) :
    cancelAgentRun environment tenantId runId now self =
      match self.tenant tenantId with
      | .error err => .error err self
      | .ok tenant =>
          match self.agentRun tenant runId with
          | .error err => .error err self
          | .ok none => .error (runError "run not found" .runNotFound) self
          | .ok (some run) =>
              let cancelled : AgentRun :=
                { run with status := .cancelled, cancelledAt := some now }
              match self.stores.runs.updateRun tenant cancelled with
              | .error err => .error (runStorageError err) self
              | .ok (cancelled, runs) =>
                  finish environment tenant
                    (runRecord .agentRunCancelled cancelled) now cancelled
                    (self.changeRuns runs) := by
  unfold cancelAgentRun
  rw [inspect_bind]
  cases self.tenant tenantId with
  | error err => rfl
  | ok tenant =>
  dsimp only
  rw [inspect_bind]
  cases self.agentRun tenant runId with
  | error err => rfl
  | ok found =>
  cases found with
  | none => rfl
  | some run =>
  dsimp only
  rw [writeRuns_bind]
  cases self.stores.runs.updateRun tenant
      { run with status := .cancelled, cancelledAt := some now } <;> rfl

end AuthMesh

end AuthBoundry
