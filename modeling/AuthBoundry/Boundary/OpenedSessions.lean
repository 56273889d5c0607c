import AuthBoundry.Boundary.SparingCalls

/-!
# Sessions that are opened for accounts

Signing in and up let the mesh establish a session of an account and then go
on.  The session is stored whether or not establishing it succeeds; only what
goes on can end it again.
-/

namespace AuthBoundry

open Library
open Library.Stateful

/-! ## Opening a session at the mesh -/

namespace AuthMesh

variable {environment : Environment} {self : AuthMesh}
  {tenant : TenantContext} {external : ExternalIdentity}
  {resolved : ResolvedPrincipal} {now : Int}

/-- The log takes the event of a new session, and its context can be
derived. -/
structure Establishes (environment : Environment) (mesh : AuthMesh)
    (tenant : TenantContext) (principal : Principal) (now : Int) : Prop where
  log : environment.auditFault mesh.auditSequence = none
  context : ∃ context,
    mesh.contextFor environment tenant principal none now = .ok context

/-- What establishing a session leaves, whether it fails or not. -/
structure Established (before after : AuthMesh) (session : Session) :
    Prop where
  contract : CredentialRuntime.contractView after =
    CredentialRuntime.contractView before
  tenants : after.stores.tenants = before.stores.tenants
  identities : after.stores.identities = before.stores.identities
  sessions : after.sessionMap = before.sessionMap.insert session.id session

theorem establish_cases (kind : AuditEventKind) :
    let session := self.openedSession environment tenant resolved.identity.id
      now
    ∃ after, Established self after session ∧
      ((∃ err, establish environment kind tenant external resolved now self =
          .error err after ∧
            ¬self.Establishes environment tenant resolved.principal now) ∨
        ∃ authenticated,
          establish environment kind tenant external resolved now self =
              .ok authenticated after ∧
            self.Establishes environment tenant resolved.principal now ∧
            authenticated.session = session ∧
            authenticated.external = external) := by
  intro session
  have outcome : establish environment kind tenant external resolved now self =
      _ := establish_eq kind tenant external resolved now self
  have derives := @contextFor_session_iff environment self tenant
    resolved.principal (some session.id) now
  rw [outcome]
  cases fault : environment.auditFault self.auditSequence with
  | some err =>
      let opened := self.withSession environment tenant resolved.identity.id
        now
      refine ⟨opened.counted, ⟨rfl, rfl, rfl, rfl⟩, .inl ⟨_, rfl, ?_⟩⟩
      intro establishes
      cases fault.symm.trans establishes.log
  | none =>
      let recorded := (self.withSession environment tenant
        resolved.identity.id now).stamped tenant
          (sessionRecord kind external resolved session) now
      have left : Established self recorded session := ⟨rfl, rfl, rfl, rfl⟩
      dsimp only
      cases derived : self.contextFor environment tenant resolved.principal
          (some session.id) now with
      | error err =>
          refine ⟨recorded, left, .inl ⟨err, rfl, ?_⟩⟩
          intro establishes
          obtain ⟨context, found⟩ := derives.mpr establishes.context
          cases derived.symm.trans found
      | ok context =>
          have establishes : self.Establishes environment tenant
              resolved.principal now :=
            ⟨fault, derives.mp ⟨context, derived⟩⟩
          exact ⟨recorded, left, .inr ⟨{ session, external, context }, rfl,
            establishes, rfl, rfl⟩⟩

end AuthMesh

namespace CredentialRuntime

variable {environment : CredentialEnvironment LocalDirectory}
  {hashing : PasswordHashing} {self : CredentialRuntime LocalDirectory}

theorem authenticateExternal_local {mesh : AuthMesh}
    {accounts : LocalDirectory} {tenant : TenantContext}
    {response : AuthResponse} {external : ExternalIdentity}
    (proven : mesh.authenticateExternal
      ((environment.withBuiltIn hashing).meshEnvironment accounts) tenant
        response = .ok external) :
    ∃ username account, response.parameter "username" = some username ∧
      accounts[username]? = some account ∧
        external = LocalConnector.identityOf username account := by
  obtain ⟨connector, _, proven⟩ := except_bind_eq_ok_iff.mp proven
  obtain ⟨_, _, proven⟩ := except_bind_eq_ok_iff.mp proven
  obtain ⟨identity, authenticated, proven⟩ := except_bind_eq_ok_iff.mp proven
  obtain ⟨_, _, proven⟩ := except_bind_eq_ok_iff.mp proven
  obtain ⟨_, _, proven⟩ := except_bind_eq_ok_iff.mp proven
  cases proven
  have accepted := except_mapError_eq_ok_iff.mp authenticated
  change (builtInConnectors hashing connector).authenticate accounts response =
    .ok external at accepted
  unfold builtInConnectors at accepted
  split at accepted
  · exact LocalConnector.authenticate_ok accepted
  · cases accepted

theorem awaitsVerification_iff (verifies : self.verifiesEmail = true)
    {username : String} {account : LocalAccount} :
    self.awaitsVerification (LocalConnector.identityOf username account) =
        true ↔ account.Unverified := by
  unfold awaitsVerification LocalAccount.Unverified
  rw [LocalConnector.identityOf_attribute username account (by decide),
    LocalConnector.identityOf_attribute username account (by decide)]
  simp [verifies]

/-! ## What a call leads to -/

/-- The call leads to an attributed runtime, which is verified exactly if the
condition holds. -/
structure Leads (after : CredentialRuntime LocalDirectory) (closes : Prop) :
    Prop where
  attributed : after.Attributed
  verified_iff : after.VerifiedSessions ↔ closes

namespace Leads

variable {after : CredentialRuntime LocalDirectory} {closes : Prop}

theorem congr {other : Prop} (leads : Leads after closes)
    (same : closes ↔ other) : Leads after other :=
  ⟨leads.attributed, leads.verified_iff.trans same⟩

theorem spares (attributed : self.Attributed)
    (verified : self.VerifiedSessions) (spares : Spares self after)
    (holds : closes) : Leads after closes :=
  ⟨spares.attributed attributed,
    iff_of_true (spares.verified attributed verified) holds⟩

theorem adds {session : Session} {username : String} {account : LocalAccount}
    (attributed : self.Attributed) (verified : self.VerifiedSessions)
    (adds : Adds self after session username account) :
    Leads after (account.Unverified → session.revokedAt ≠ none) :=
  ⟨adds.attributed attributed, adds.verified_iff verified⟩

/-- A question that is not answered ends the call where it is. -/
theorem inspect {α β : Type} (attributed : self.Attributed)
    (verified : self.VerifiedSessions)
    {query : CredentialRuntime LocalDirectory → Except AuthError α}
    {next : α → CredentialM LocalDirectory β} {closes : α → Prop}
    (rest : ∀ value, query self = .ok value →
      Leads (finalState (next value self)) (closes value)) :
    Leads (finalState ((Stateful.inspect query >>= next) self))
      (∀ value, query self = .ok value → closes value) := by
  rw [inspect_bind]
  cases answer : query self with
  | error err =>
      exact .spares attributed verified (.refl self) (by simp)
  | ok value =>
      exact (rest value answer).congr (by simp)

theorem requiredField {β : Type} (attributed : self.Attributed)
    (verified : self.VerifiedSessions) {request : BoundaryRequest}
    {name : String} {next : String → CredentialM LocalDirectory β}
    {closes : String → Prop}
    (rest : ∀ value, request.field name = some value →
      Leads (finalState (next value self)) (closes value)) :
    Leads
      (finalState
        ((Stateful.inspect (fun _ => AuthBoundry.requiredField request name) >>=
          next : CredentialM LocalDirectory β) self))
      (∀ value, request.field name = some value → closes value) := by
  have asked := @inspect self String β attributed verified
    (fun _ => AuthBoundry.requiredField request name) next closes
    fun value named => rest value (requiredField_eq_ok_iff.mp named)
  exact asked.congr (by simp only [requiredField_eq_ok_iff])

end Leads

theorem adds_of_established {registered mesh : AuthMesh} {session : Session}
    {username : String} {account : LocalAccount}
    (contract : contractView registered = contractView self.mesh)
    (filed : self.mesh.stores.identities.FiledAsLinked →
      registered.stores.identities.FiledAsLinked)
    (sessions : registered.sessionMap = self.mesh.sessionMap)
    (established : AuthMesh.Established registered mesh session)
    (owner : session.OfAccount localId username)
    (stored : self.accounts[username]? = some account) :
    Adds self (self.changeMesh mesh) session username account where
  verifies := by
    change mesh.config.experience.enabled .emailVerification = _
    have same := established.contract.trans contract
    rw [(Prod.mk.inj same).1]
    rfl
  filed := by
    change _ → mesh.stores.identities.FiledAsLinked
    rw [established.identities]
    exact filed
  accounts := rfl
  sessions := by
    intro sessionId
    change mesh.sessionMap[sessionId]? = _
    rw [established.sessions, sessions, KeyedMap.getElem?_insert_eq]
    rfl
  owner := owner
  stored := stored

theorem Adds.closed {after : CredentialRuntime LocalDirectory}
    {session : Session} {username tenantId : String} {account : LocalAccount}
    {tenant : TenantContext} {now : Int}
    (adds : Adds self after session username account)
    (tenantFound : after.mesh.tenant tenantId = .ok tenant)
    (inTenant : session.tenantId = tenant.tenantId) :
    Adds self
      (finalState (onMesh environment (fun outside =>
        AuthMesh.logout outside tenantId session.id now) after))
      { session with revokedAt := some now } username account := by
  have stored : after.mesh.sessionMap[session.id]? = some session := by
    change after.sessionMap[session.id]? = some session
    rw [adds.sessions, if_pos rfl]
  have revoked : after.mesh.stores.sessions.revokeSession tenant session.id
      now = .ok ((), { after.mesh.stores.sessions with
        sessions := after.mesh.stores.sessions.sessions.insert session.id
          { session with revokedAt := some now } }) := by
    apply except_bind_eq_ok_iff.mpr
    exact ⟨_, modifyScoped_eq_ok_iff.mpr
      ⟨session, _, stored, inTenant, rfl, rfl⟩, rfl⟩
  have closes : ∀ mesh : AuthMesh, mesh.config = after.mesh.config →
      mesh.stores.identities = after.mesh.stores.identities →
        mesh.sessionMap = after.mesh.sessionMap.insert session.id
          { session with revokedAt := some now } →
          Adds self (after.changeMesh mesh)
            { session with revokedAt := some now } username account := by
    intro mesh config identities sessions
    constructor
    · rw [← adds.verifies]
      change mesh.config.experience.enabled .emailVerification = _
      rw [config]
      rfl
    · change _ → mesh.stores.identities.FiledAsLinked
      rw [identities]
      exact adds.filed
    · exact adds.accounts
    · intro sessionId
      change mesh.sessionMap[sessionId]? = _
      rw [sessions, KeyedMap.getElem?_insert_eq]
      by_cases same : session.id = sessionId
      · rw [if_pos same, if_pos same]
      · rw [if_neg same, if_neg same]
        have kept := adds.sessions sessionId
        rw [if_neg same] at kept
        exact kept
    · exact adds.owner
    · exact adds.stored
  rw [finalState_onMesh, AuthMesh.logout_eq, tenantFound]
  dsimp only
  rw [revoked]
  dsimp only
  rw [AuthMesh.finish_eq]
  split <;> exact closes _ rfl rfl rfl

theorem Spares.of_refused {α β : Type} {program : Environment → MeshM α}
    {next : α → CredentialM LocalDirectory β} {err : AuthError}
    (refused : program (environment.meshEnvironment self.accounts) self.mesh =
      .error err self.mesh) :
    Spares self (finalState ((onMesh environment program >>= next) self)) := by
  have applied : onMesh environment program self =
      onPart mesh changeMesh
        (program (environment.meshEnvironment self.accounts)) self := rfl
  rw [bind_apply, applied]
  unfold onPart
  rw [refused]
  exact .refl self

/-- The mesh with a session that was opened for an account. -/
structure Opened (before : CredentialRuntime LocalDirectory) (mesh : AuthMesh)
    (session : Session) (username : String) (account : LocalAccount) :
    Prop where
  adds : Adds before (before.changeMesh mesh) session username account
  unrevoked : session.revokedAt = none
  contract : contractView mesh = contractView before.mesh
  tenants : mesh.stores.tenants = before.mesh.stores.tenants

def OpensFor (environment : CredentialEnvironment LocalDirectory)
    (self : CredentialRuntime LocalDirectory)
    (program : Environment → MeshM AuthenticatedSession) (session : Session)
    (username : String) (account : LocalAccount) (establishes : Prop) : Prop :=
  let outcome := program (environment.meshEnvironment self.accounts) self.mesh
  ∃ mesh, Opened self mesh session username account ∧
    ((∃ err, outcome = .error err mesh ∧ ¬establishes) ∨
      ∃ authenticated, outcome = .ok authenticated mesh ∧ establishes ∧
        authenticated.session = session ∧
        authenticated.external = LocalConnector.identityOf username account)

theorem OpensFor.leads (attributed : self.Attributed)
    (verified : self.VerifiedSessions)
    {program : Environment → MeshM AuthenticatedSession} {session : Session}
    {username : String} {account : LocalAccount} {establishes closes : Prop}
    (opens : self.OpensFor environment program session username account
      establishes) {α : Type}
    {next : AuthenticatedSession → CredentialM LocalDirectory α}
    (rest : ∀ authenticated mesh,
      Opened self mesh session username account →
        authenticated.session = session →
          authenticated.external =
              LocalConnector.identityOf username account →
            Leads (finalState (next authenticated (self.changeMesh mesh)))
              (account.Unverified → closes)) :
    Leads (finalState ((onMesh environment program >>= next) self))
      (account.Unverified → establishes ∧ closes) := by
  obtain ⟨mesh, opened, outcome⟩ := opens
  have applied : onMesh environment program self =
      onPart CredentialRuntime.mesh changeMesh
        (program (environment.meshEnvironment self.accounts)) self := rfl
  rw [bind_apply, applied]
  unfold onPart
  rcases outcome with ⟨err, failed, unestablished⟩ |
    ⟨authenticated, returned, established, sameSession, sameExternal⟩
  · rw [failed]
    refine (Leads.adds attributed verified opened.adds).congr ?_
    simp [opened.unrevoked, unestablished]
  · rw [returned]
    refine (rest authenticated mesh opened sameSession sameExternal).congr ?_
    simp [established]

theorem Opened.tenant_eq {mesh : AuthMesh} {session : Session}
    {username : String} {account : LocalAccount}
    (opened : Opened self mesh session username account) (tenantId : String) :
    (self.changeMesh mesh).mesh.tenant tenantId =
      self.mesh.tenant tenantId := by
  unfold AuthMesh.tenant
  rw [mesh_changeMesh, opened.tenants]

end CredentialRuntime

end AuthBoundry
