import AuthBoundry.Boundary.CredentialOutcomes
import AuthBoundry.Runtime.Failures

/-!
# What a failed registration leaves behind

A registration writes four times: the account, the identity with its principal
and binding, the session, and the token that is mailed.  None of the writes is
undone.  So a registration that fails leaves everything as it was exactly if,
once it has written, nothing can fail.
-/

namespace AuthBoundry

open Library
open Library.Stateful

/-- The connectors of a deployment: the local one, and for every other name one
that refuses every attempt. -/
def builtInConnectors (hashing : PasswordHashing) (id : String) :
    AuthConnector LocalDirectory :=
  if id = localId then localConnector hashing
  else declaredConnector LocalDirectory id

def CredentialEnvironment.withBuiltIn
    (environment : CredentialEnvironment LocalDirectory)
    (hashing : PasswordHashing) : CredentialEnvironment LocalDirectory :=
  { environment with connectors := builtInConnectors hashing }

/-! ## The local directory -/

namespace LocalConnector

variable {hashing : PasswordHashing}

/-- An account as it is created. -/
def newAccount (hashing : PasswordHashing) (username password : String)
    (attributes : KeyedMap String String) : Option LocalAccount :=
  (LocalAccount.new hashing username password).map fun account =>
    { account with attributes }

theorem createAccount_eq (username password : String)
    (attributes : KeyedMap String String) (accounts : LocalDirectory) :
    createAccount hashing username password attributes accounts =
      match newAccount hashing username password attributes with
      | none => .error (.passwordHashingFailed localId) accounts
      | some account =>
          if accounts.contains username then
            .error
              (.invalidRequest localId s!"account `{username}` already exists")
              accounts
          else
            .ok () (accounts.insert username account) := by
  unfold createAccount newAccount LocalAccount.new
  cases hashing.hashPassword password with
  | none => rfl
  | some passwordHash =>
      simp only [Option.map_some, register, commit]
      by_cases taken : accounts.contains username = true
      · simp only [if_pos taken]
      · simp only [if_neg taken]

end LocalConnector

namespace CredentialRuntime

variable {Accounts : Type} {environment : CredentialEnvironment Accounts}
  {self : CredentialRuntime Accounts} {request : BoundaryRequest}

/-! ## What follows the writes -/

/-- The mail with a token goes out, or there is no address to send it to. -/
def MailsToken (environment : CredentialEnvironment Accounts)
    (self : CredentialRuntime Accounts) (mailed : TokenMail)
    (request : BoundaryRequest) (now : Int) : Prop :=
  self.requireMailContract mailed.template = .ok () ∧
    ∃ tenantId, request.field "tenant" = some tenantId ∧
      ∃ connectorId, request.field "connector" = some connectorId ∧
        ∃ username, request.field "username" = some username ∧
          ∃ connector, self.connector connectorId = .ok connector ∧
            ∀ address,
              (environment.connectors connector).recoveryAddress self.accounts
                  username = some address →
                ∃ mail, environment.mail = some mail ∧
                  mail (mailed.message (tokenOfBytes environment.randomBytes)
                    username tenantId address (now + mailed.lifetime)) = .ok ()

theorem succeeds_requiredField_iff {β : Type} {name : String}
    {next : String → CredentialM Accounts β} :
    Succeeds (inspect (fun _ => requiredField request name) >>= next) self ↔
      ∃ value, request.field name = some value ∧
        Succeeds (next value) self := by
  rw [succeeds_inspect_bind_iff]
  simp only [requiredField_eq_ok_iff]

theorem succeeds_check_iff {β : Type}
    {check : CredentialRuntime Accounts → Except AuthError Unit}
    {next : Unit → CredentialM Accounts β} :
    Succeeds (inspect check >>= next) self ↔
      check self = .ok () ∧ Succeeds (next ()) self := by
  rw [succeeds_inspect_bind_iff]
  constructor
  · rintro ⟨⟨⟩, passed, rest⟩
    exact ⟨passed, rest⟩
  · rintro ⟨passed, rest⟩
    exact ⟨(), passed, rest⟩

theorem mailToken_succeeds_iff {mailed : TokenMail} {now : Int} :
    Succeeds (mailToken environment mailed request now) self ↔
      self.MailsToken environment mailed request now := by
  unfold mailToken MailsToken
  rw [succeeds_check_iff]
  refine and_congr_right fun _ => ?_
  rw [succeeds_requiredField_iff]
  refine exists_congr fun tenantId => and_congr_right fun _ => ?_
  rw [succeeds_requiredField_iff]
  refine exists_congr fun connectorId => and_congr_right fun _ => ?_
  rw [succeeds_requiredField_iff]
  refine exists_congr fun username => and_congr_right fun _ => ?_
  rw [succeeds_inspect_bind_iff]
  cases found : self.connector connectorId with
  | error err => simp [except_error_bind]
  | ok connector =>
      simp only [except_ok_bind, Except.ok.injEq, exists_eq_left']
      cases (environment.connectors connector).recoveryAddress self.accounts
          username with
      | none => simpa using succeeds_pure () self
      | some address =>
          simp only [Option.some.injEq, forall_eq']
          cases environment.mail with
          | none =>
              simp only [reduceCtorEq, false_and, exists_false, iff_false]
              rintro ⟨_, _, sent⟩
              cases sent
          | some mail =>
              simp only [Option.some.injEq, exists_eq_left']
              rw [succeeds_bind_iff]
              constructor
              · rintro ⟨token, middle, issued, _, _, sent⟩
                cases issued
                have answered := (inspect_eq_ok_iff.mp sent).1
                exact except_mapError_eq_ok_iff.mp answered
              · intro sent
                refine ⟨_, _, rfl, (), _, inspect_eq_ok_iff.mpr ⟨?_, rfl⟩⟩
                exact except_mapError_eq_ok_iff.mpr sent

/-- The verification of an address starts, if addresses are verified. -/
def StartsVerification (environment : CredentialEnvironment Accounts)
    (self : CredentialRuntime Accounts) (request : BoundaryRequest) : Prop :=
  self.verifiesEmail = true →
    self.MailsToken environment emailVerificationMail request
      (environment.clock 1)

theorem startVerification_succeeds_iff {tenantId : String}
    {session : SessionId} {now : Int} :
    Succeeds (startVerification environment request tenantId session now)
        self ↔
      self.StartsVerification environment request := by
  unfold startVerification StartsVerification
  rw [succeeds_inspect_bind_iff]
  simp only [Except.ok.injEq, exists_eq_left']
  by_cases verifies : self.verifiesEmail = true
  · rw [if_pos verifies]
    simp only [verifies, forall_const]
    rw [← mailToken_succeeds_iff, succeeds_bind_iff]
    constructor
    · rintro ⟨value, middle, mailed, _⟩
      exact ⟨value, middle, mailed⟩
    · rintro ⟨value, middle, mailed⟩
      refine ⟨value, middle, mailed, ?_⟩
      split
      · exact ⟨_, _, rfl⟩
      · exact succeeds_pure _ _
  · rw [if_neg verifies]
    simp only [verifies, Bool.false_eq_true, false_implies, iff_true]
    exact succeeds_pure _ _

/-- What follows the writes of a registration at the mesh goes through. -/
structure Settles (environment : CredentialEnvironment Accounts)
    (self : CredentialRuntime Accounts) (tenant : TenantContext)
    (external : ExternalIdentity) (claims : Claims) : Prop where
  log : environment.auditFault self.mesh.auditSequence = none
  context : ∃ context, self.mesh.contextFor
    (environment.meshEnvironment self.accounts) tenant
    (Resolution.provisionedPrincipal tenant external .human claims) none
    (environment.clock 0) = .ok context

/-- The view of the mesh that the mails are made from. -/
def contractView (mesh : AuthMesh) : AuthConfig × ConnectorRegistry :=
  (mesh.config, mesh.registry)

theorem contractView_ignoresAccounts :
    AuthMesh.IgnoresAccounts contractView where
  identities _ _ := rfl
  bindings _ _ := rfl
  sessions _ _ := rfl
  runs _ _ _ := rfl
  trail _ _ _ _ := rfl

end CredentialRuntime

namespace AuthMesh

variable {environment : Environment} {self : AuthMesh}

theorem contextFor_session_iff {tenant : TenantContext} {principal : Principal}
    {sessionId : Option SessionId} {now : Int} :
    (∃ context, self.contextFor environment tenant principal sessionId now =
        .ok context) ↔
      ∃ context, self.contextFor environment tenant principal none now =
        .ok context := by
  unfold contextFor
  cases self.policy tenant with
  | error err => simp [except_error_bind]
  | ok policy =>
      simp only [except_ok_bind]
      cases evaluateWithDelegations environment.systemTime policy principal
          tenant (self.delegationsFor tenant principal.id) now with
      | error err => simp
      | ok capabilities => simp

/-- A session is established exactly if the log takes its event and a context
can be derived. -/
theorem establish_succeeds_iff {kind : AuditEventKind} {tenant : TenantContext}
    {external : ExternalIdentity} {resolved : ResolvedPrincipal} {now : Int} :
    Succeeds (establish environment kind tenant external resolved now) self ↔
      environment.auditFault self.auditSequence = none ∧
        ∃ context, self.contextFor environment tenant resolved.principal none
          now = .ok context := by
  unfold Succeeds
  rw [establish_eq]
  cases environment.auditFault self.auditSequence with
  | some err => simp
  | none =>
      simp only [true_and]
      rw [← @contextFor_session_iff environment self tenant
        resolved.principal (some (self.openedSession environment tenant
          resolved.identity.id now).id) now]
      cases self.contextFor environment tenant resolved.principal
          (some (self.openedSession environment tenant resolved.identity.id
            now).id) now with
      | error err => simp
      | ok context => simp

/-- Whatever becomes of a registration that is granted, its binding stays. -/
theorem signUp_principals {tenantId : String} {response : AuthResponse}
    {registration : Registration} {now : Int} {tenant : TenantContext}
    {external : ExternalIdentity} {claims : Claims}
    (granted : self.signUpGrounds environment tenantId response registration =
      .ok (tenant, external, claims)) :
    (finalState (signUp environment tenantId response registration now
        self)).stores.principals =
      (self.withAccount tenant external registration.kind claims
        now).stores.principals := by
  rw [signUp_eq, granted]
  dsimp only
  rw [establish_eq]
  cases environment.auditFault _ with
  | some err => rfl
  | none =>
      dsimp only
      split <;> rfl

end AuthMesh

namespace CredentialRuntime

variable {Accounts : Type} {environment : CredentialEnvironment Accounts}
  {self : CredentialRuntime Accounts} {request : BoundaryRequest}
  {tenantId : String} {response : AuthResponse}
  {claims : KeyedMap String String}

def mayRegister (environment : CredentialEnvironment Accounts)
    (self : CredentialRuntime Accounts) (tenantId : String)
    (response : AuthResponse) (claims : KeyedMap String String) :
    Except AuthError (TenantContext × ExternalIdentity × Claims) :=
  self.mesh.signUpGrounds (environment.meshEnvironment self.accounts) tenantId
    response { kind := .human, claims }

theorem succeeds_onMesh_iff {α : Type} {program : Environment → MeshM α} :
    Succeeds (onMesh environment program) self ↔
      Succeeds (program (environment.meshEnvironment self.accounts))
        self.mesh := by
  change Succeeds (onPart mesh changeMesh
    (program (environment.meshEnvironment self.accounts))) self ↔ _
  exact succeeds_onPart_iff

theorem meshSignUp_succeeds_iff :
    Succeeds
        (onMesh environment fun outside =>
          AuthMesh.signUp outside tenantId response
            { kind := .human, claims } (environment.clock 0)) self ↔
      ∃ tenant external resolved,
        self.mayRegister environment tenantId response claims =
            .ok (tenant, external, resolved) ∧
          self.Settles environment tenant external resolved := by
  rw [succeeds_onMesh_iff]
  unfold Succeeds mayRegister
  rw [AuthMesh.signUp_eq]
  cases self.mesh.signUpGrounds (environment.meshEnvironment self.accounts)
      tenantId response { kind := .human, claims } with
  | error err => simp
  | ok grounds =>
      obtain ⟨tenant, external, resolved⟩ := grounds
      have established := @AuthMesh.establish_succeeds_iff
        (environment.meshEnvironment self.accounts)
        (self.mesh.withAccount tenant external .human resolved
          (environment.clock 0)) .accountLinked tenant external
        (AuthMesh.registeredPrincipal tenant external .human resolved
          (environment.clock 0)) (environment.clock 0)
      dsimp only
      refine established.trans ?_
      constructor
      · rintro ⟨log, context⟩
        exact ⟨tenant, external, resolved, rfl, log, context⟩
      · rintro ⟨_, _, _, same, log, context⟩
        cases same
        exact ⟨log, context⟩

/-! ## The registration once the account is there -/

theorem mesh_signUp_contract {outside : Environment} {mesh : AuthMesh}
    {registration : Registration} {now : Int} :
    contractView (finalState
        (AuthMesh.signUp outside tenantId response registration now mesh)) =
      contractView mesh := by
  rw [AuthMesh.signUp_eq]
  cases mesh.signUpGrounds outside tenantId response registration with
  | error err => rfl
  | ok grounds =>
      obtain ⟨tenant, external, resolved⟩ := grounds
      exact contractView_ignoresAccounts.establish _ tenant external _ now _

/-- The mails depend on the contract and the accounts alone. -/
theorem startsVerification_congr {other : CredentialRuntime Accounts}
    (contract : contractView other.mesh = contractView self.mesh)
    (accounts : other.accounts = self.accounts) :
    other.StartsVerification environment request ↔
      self.StartsVerification environment request := by
  obtain ⟨config, registry⟩ := Prod.mk.inj contract
  unfold StartsVerification MailsToken verifiesEmail requireMailContract
    connector
  rw [config, registry, accounts]

theorem finalState_meshSignUp {registration : Registration} {now : Int} :
    contractView (finalState
        (onMesh environment (fun outside =>
          AuthMesh.signUp outside tenantId response registration now)
          self)).mesh = contractView self.mesh ∧
      (finalState
        (onMesh environment (fun outside =>
          AuthMesh.signUp outside tenantId response registration now)
          self)).accounts = self.accounts := by
  rw [finalState_onMesh]
  exact ⟨mesh_signUp_contract, rfl⟩

theorem register_succeeds_iff :
    Succeeds (register environment request tenantId response claims) self ↔
      ∃ tenant external resolved,
        self.mayRegister environment tenantId response claims =
            .ok (tenant, external, resolved) ∧
          self.Settles environment tenant external resolved ∧
          self.StartsVerification environment request := by
  have continues : ∀ authenticated middle,
      onMesh environment (fun outside =>
          AuthMesh.signUp outside tenantId response { kind := .human, claims }
            (environment.clock 0)) self = .ok authenticated middle →
        (Succeeds
            (startVerification environment request tenantId
                authenticated.session.id (environment.clock 0) >>= fun _ =>
              (pure (signedIn authenticated) :
                CredentialM Accounts SignInOutcome)) middle ↔
          self.StartsVerification environment request) := by
    intro authenticated middle registered
    obtain ⟨contract, accounts⟩ := @finalState_meshSignUp Accounts environment
      self tenantId response { kind := .human, claims } (environment.clock 0)
    rw [registered] at contract accounts
    rw [← startsVerification_congr contract accounts,
      ← startVerification_succeeds_iff, succeeds_bind_iff]
    constructor
    · rintro ⟨value, final, started, _⟩
      exact ⟨value, final, started⟩
    · rintro ⟨value, final, started⟩
      exact ⟨value, final, started, succeeds_pure _ _⟩
  have granted_iff := @meshSignUp_succeeds_iff Accounts environment self
    tenantId response claims
  unfold register
  rw [succeeds_bind_iff]
  constructor
  · rintro ⟨authenticated, middle, registered, rest⟩
    obtain ⟨tenant, external, resolved, granted, settles⟩ :=
      granted_iff.mp ⟨authenticated, middle, registered⟩
    have starts := (continues authenticated middle registered).mp rest
    exact ⟨tenant, external, resolved, granted, settles, starts⟩
  · rintro ⟨tenant, external, resolved, granted, settles, starts⟩
    obtain ⟨authenticated, middle, registered⟩ :=
      granted_iff.mpr ⟨tenant, external, resolved, granted, settles⟩
    exact ⟨authenticated, middle, registered,
      (continues authenticated middle registered).mpr starts⟩

/-- The accounts, principals, bindings and live sessions are the same. -/
structure SameRegistrations (now : Int)
    (before after : CredentialRuntime Accounts) : Prop where
  accounts : after.accounts = before.accounts
  principals : after.mesh.stores.principals.principals =
    before.mesh.stores.principals.principals
  bindings : after.mesh.stores.principals.bindings =
    before.mesh.stores.principals.bindings
  sessions : ∀ (sessionId : SessionId) (session : Session),
    session.LiveFrom now →
      (after.mesh.stores.sessions.sessions[sessionId]? = some session ↔
        before.mesh.stores.sessions.sessions[sessionId]? = some session)

theorem SameRegistrations.refl (now : Int) (self : CredentialRuntime Accounts) :
    SameRegistrations now self self :=
  ⟨rfl, rfl, rfl, fun _ _ _ => Iff.rfl⟩

/-- The principals and their bindings. -/
def principalView (self : CredentialRuntime Accounts) :
    MemoryPrincipalStore :=
  self.mesh.stores.principals

theorem logout_principals {sessionId : SessionId} {now : Int} :
    Frames principalView
      (attempt (onMesh environment fun outside =>
          AuthMesh.logout outside tenantId sessionId now) :
        CredentialM Accounts Unit) := by
  intro self
  change principalView (finalState (onMesh environment _ self)) = _
  rw [finalState_onMesh, AuthMesh.logout_eq]
  cases self.mesh.tenant tenantId with
  | error err => rfl
  | ok tenant =>
      dsimp only
      cases self.mesh.stores.sessions.revokeSession tenant sessionId now with
      | error err => rfl
      | ok written =>
          dsimp only
          rw [AuthMesh.finish_eq]
          split <;> rfl

theorem mailToken_principals {mailed : TokenMail} {now : Int} :
    Frames principalView
      (mailToken environment mailed request now) := by
  unfold mailToken
  refine .bind (.inspect _) fun _ => .bind (.inspect _) fun tenantId =>
    .bind (.inspect _) fun connectorId => .bind (.inspect _) fun username =>
    .bind (.inspect _) fun address => ?_
  cases address with
  | none => exact .pure _
  | some address =>
  cases environment.mail with
  | none => exact fun _ => rfl
  | some mail => exact .bind (fun _ => rfl) fun token => .inspect _

theorem startVerification_principals {session : SessionId} {now : Int} :
    Frames principalView
      (startVerification environment request tenantId session now) := by
  unfold startVerification
  refine .bind (.inspect _) fun verifies => ?_
  split
  · refine .bind mailToken_principals fun _ => ?_
    split
    · exact logout_principals
    · exact .pure _
  · exact .pure _

/-- Whatever becomes of a registration that is granted, its binding stays. -/
theorem register_principals {tenant : TenantContext}
    {external : ExternalIdentity} {resolved : Claims}
    (granted : self.mayRegister environment tenantId response claims =
      .ok (tenant, external, resolved)) :
    principalView
        (finalState (register environment request tenantId response claims
          self)) =
      (self.mesh.withAccount tenant external .human resolved
        (environment.clock 0)).stores.principals := by
  unfold register
  have written := @AuthMesh.signUp_principals
    (environment.meshEnvironment self.accounts) self.mesh tenantId response
    { kind := .human, claims } (environment.clock 0) tenant external resolved
    granted
  have registered : principalView (finalState
      (onMesh environment (fun outside =>
        AuthMesh.signUp outside tenantId response { kind := .human, claims }
          (environment.clock 0)) self)) =
      (self.mesh.withAccount tenant external .human resolved
        (environment.clock 0)).stores.principals := by
    rw [finalState_onMesh]
    exact written
  rw [bind_apply]
  cases outcome : onMesh environment (fun outside =>
      AuthMesh.signUp outside tenantId response { kind := .human, claims }
        (environment.clock 0)) self with
  | error err middle =>
      rw [outcome] at registered
      exact registered
  | ok authenticated middle =>
      rw [outcome] at registered
      have framed : Frames principalView
          (startVerification environment request tenantId
              authenticated.session.id (environment.clock 0) >>= fun _ =>
            (pure (signedIn authenticated) :
              CredentialM Accounts SignInOutcome)) :=
        .bind startVerification_principals fun _ => .pure _
      exact (framed middle).trans registered

/-- A registration that is granted leaves its binding behind. -/
theorem register_not_same {now : Int} {tenant : TenantContext}
    {external : ExternalIdentity} {resolved : Claims}
    (granted : self.mayRegister environment tenantId response claims =
      .ok (tenant, external, resolved)) :
    ¬SameRegistrations now self (finalState
      (register environment request tenantId response claims self)) := by
  intro same
  have bindings := congrArg MemoryPrincipalStore.bindings
    (@register_principals _ _ _ request _ _ _ _ _ _ granted)
  have unbound := (AuthMesh.signUpGrounds_ok granted).unbound
  have stored : (self.mesh.withAccount tenant external .human resolved
      (environment.clock 0)).stores.principals.bindings[
        identityKey tenant external]? = some _ :=
    Std.ExtTreeMap.getElem?_insert_self
  rw [← bindings, principalView, same.bindings] at stored
  cases unbound.symm.trans stored

/-- Where the account is there already, a registration that is granted has to
go through. -/
theorem register_failsTo_iff {now : Int} :
    FailsTo (SameRegistrations now self)
        (register environment request tenantId response claims) self ↔
      ∀ tenant external resolved,
        self.mayRegister environment tenantId response claims =
            .ok (tenant, external, resolved) →
          self.Settles environment tenant external resolved ∧
            self.StartsVerification environment request := by
  cases granted : self.mayRegister environment tenantId response claims with
  | error err =>
      have refused : Refuses
          (register environment request tenantId response claims) self := by
        by_contra proceeds
        obtain ⟨grounds, found⟩ := not_refuses_register_iff.mp proceeds
        cases granted.symm.trans found
      obtain ⟨failure, refused⟩ := refused
      refine iff_of_true ?_ (by simp)
      intro _ final failed
      cases refused.symm.trans failed
      exact .refl now self
  | ok grounds =>
      obtain ⟨tenant, external, resolved⟩ := grounds
      rw [failsTo_iff_succeeds (register_not_same granted),
        register_succeeds_iff]
      constructor
      · rintro ⟨_, _, _, same, completes⟩ _ _ _ same'
        cases granted.symm.trans same
        cases same'
        exact completes
      · intro completes
        exact ⟨tenant, external, resolved, granted,
          completes tenant external resolved rfl⟩

theorem register_created_iff {now : Int} {accounts : Accounts}
    (created : accounts ≠ self.accounts) :
    FailsTo (SameRegistrations now self)
        (register environment request tenantId response claims)
        (self.changeAccounts accounts) ↔
      ∃ tenant external resolved,
        (self.changeAccounts accounts).mayRegister environment tenantId
            response claims = .ok (tenant, external, resolved) ∧
          (self.changeAccounts accounts).Settles environment tenant external
            resolved ∧
          (self.changeAccounts accounts).StartsVerification environment
            request := by
  rw [failsTo_iff_succeeds, register_succeeds_iff]
  intro same
  have kept := (@register_onward _ environment request tenantId response claims
    (self.changeAccounts accounts)).accounts
  exact created (kept.symm.trans same.accounts)

/-! ## Registering at the local directory -/

section BuiltIn

variable {environment : CredentialEnvironment LocalDirectory}
  {hashing : PasswordHashing} {self : CredentialRuntime LocalDirectory}
  {connector username password : String}

def withLocalAccount (self : CredentialRuntime LocalDirectory)
    (account : LocalAccount) (username : String) :
    CredentialRuntime LocalDirectory :=
  self.changeAccounts (self.accounts.insert username account)

/-- What a registration writes after the account goes through, once the mesh
grants it. -/
def Concludes (environment : CredentialEnvironment LocalDirectory)
    (self : CredentialRuntime LocalDirectory) (request : BoundaryRequest)
    (tenantId : String) (response : AuthResponse)
    (claims : KeyedMap String String) : Prop :=
  ∃ tenant external resolved,
    self.mayRegister environment tenantId response claims =
        .ok (tenant, external, resolved) ∧
      self.Settles environment tenant external resolved ∧
      self.StartsVerification environment request

/-- An account that a registration creates is registered; an account that is
there already is registered if the mesh grants it. -/
def CompletesRegistration (environment : CredentialEnvironment LocalDirectory)
    (hashing : PasswordHashing) (self : CredentialRuntime LocalDirectory)
    (request : BoundaryRequest) (tenantId connector : String)
    (response : AuthResponse) (claims : KeyedMap String String) : Prop :=
  if self.lacksAccount environment connector response then
    ∀ username, request.field "username" = some username →
      ∀ password, request.field "password" = some password →
        ∀ account, self.accounts[username]? = none →
          LocalConnector.newAccount hashing username password
              (self.signUpAttributes request username) = some account →
            (self.withLocalAccount account username).Concludes environment
              request tenantId response claims
  else
    ∀ tenant external resolved,
      self.mayRegister environment tenantId response claims =
          .ok (tenant, external, resolved) →
        self.Settles environment tenant external resolved ∧
          self.StartsVerification environment request

theorem createAccount_cases (attributes : KeyedMap String String) :
    (∃ err, onAccounts (LocalConnector.createAccount hashing username password
          attributes) self = .error err self ∧
        ∀ account,
          LocalConnector.newAccount hashing username password attributes =
              some account → self.accounts[username]? ≠ none) ∨
      ∃ account,
        LocalConnector.newAccount hashing username password attributes =
            some account ∧
          self.accounts[username]? = none ∧
          onAccounts (LocalConnector.createAccount hashing username password
              attributes) self = .ok () (self.withLocalAccount account
                username) := by
  unfold onAccounts onPart Stateful.translate
  have created := @LocalConnector.createAccount_eq hashing username password
    attributes self.accounts
  cases made : LocalConnector.newAccount hashing username password
      attributes with
  | none =>
      rw [made] at created
      rw [created]
      exact .inl ⟨_, rfl, by simp⟩
  | some account =>
      rw [made] at created
      cases taken : self.accounts[username]? with
      | some other =>
          have contained : self.accounts.contains username = true := by
            rw [← Std.ExtTreeMap.isSome_getElem?_eq_contains, taken]
            rfl
          dsimp only at created
          rw [if_pos contained] at created
          rw [created]
          exact .inl ⟨_, rfl, by simp⟩
      | none =>
          have absent : ¬self.accounts.contains username = true := by
            rw [← Std.ExtTreeMap.isSome_getElem?_eq_contains, taken]
            simp
          dsimp only at created
          rw [if_neg absent] at created
          rw [created]
          exact .inr ⟨account, rfl, rfl, rfl⟩

/-- What follows the creation of an account has to go through. -/
theorem create_failsTo_iff {α : Type} {now : Int}
    {attributes : KeyedMap String String}
    {next : Unit → CredentialM LocalDirectory α}
    {completes : LocalAccount → Prop}
    (rest : ∀ account, self.accounts[username]? = none →
      (FailsTo (SameRegistrations now self) (next ())
          (self.withLocalAccount account username) ↔ completes account)) :
    FailsTo (SameRegistrations now self)
        (onAccounts (LocalConnector.createAccount hashing username password
          attributes) >>= next) self ↔
      ∀ account, self.accounts[username]? = none →
        LocalConnector.newAccount hashing username password attributes =
            some account → completes account := by
  unfold FailsTo
  rw [bind_apply]
  rcases @createAccount_cases hashing self username password attributes with
    ⟨err, failed, none⟩ | ⟨account, made, absent, created⟩
  · rw [failed]
    refine iff_of_true ?_ fun account absent made =>
      absurd absent (none account made)
    rintro _ _ ⟨⟩
    exact .refl now self
  · rw [created, made]
    dsimp only
    have continues := rest account absent
    unfold FailsTo at continues
    rw [continues]
    constructor
    · rintro completed _ _ ⟨⟩
      exact completed
    · intro completed
      exact completed account absent rfl

theorem withLocalAccount_ne {account : LocalAccount}
    (absent : self.accounts[username]? = none) :
    self.accounts.insert username account ≠ self.accounts := by
  intro same
  have stored : (self.accounts.insert username account)[username]? =
      some account :=
    Std.ExtTreeMap.getElem?_insert_self
  rw [same, absent] at stored
  cases stored

theorem failsTo_requiredField_iff {α : Type}
    {accepted : CredentialRuntime LocalDirectory → Prop}
    (here : accepted self) {request : BoundaryRequest} {name : String}
    {next : String → CredentialM LocalDirectory α} :
    FailsTo accepted
        (inspect (fun _ => requiredField request name) >>= next) self ↔
      ∀ value, request.field name = some value →
        FailsTo accepted (next value) self := by
  rw [failsTo_inspect_bind_iff here]
  simp only [requiredField_eq_ok_iff]

theorem failsTo_check_iff {α : Type}
    {accepted : CredentialRuntime LocalDirectory → Prop}
    (here : accepted self)
    {check : CredentialRuntime LocalDirectory → Except AuthError Unit}
    {next : Unit → CredentialM LocalDirectory α} :
    FailsTo accepted (inspect check >>= next) self ↔
      (check self = .ok () → FailsTo accepted (next ()) self) := by
  rw [failsTo_inspect_bind_iff here]
  exact ⟨fun each => each (), fun passed _ => passed⟩

theorem withBuiltIn_local :
    (environment.withBuiltIn hashing).connectors localId =
      localConnector hashing := by
  change builtInConnectors hashing localId = _
  exact if_pos rfl

theorem registration_failsTo_iff {request : BoundaryRequest}
    {tenantId : String} {response : AuthResponse}
    {claims : KeyedMap String String} {now : Int} :
    FailsTo (SameRegistrations now self)
        (createMissingAccount (environment.withBuiltIn hashing) request
            connector response >>= fun _ =>
          register (environment.withBuiltIn hashing) request tenantId response
            claims) self ↔
      self.CompletesRegistration (environment.withBuiltIn hashing) hashing
        request tenantId connector response claims := by
  have here : SameRegistrations now self self := .refl now self
  unfold createMissingAccount CompletesRegistration
  rw [bind_assoc, failsTo_inspect_bind_iff here]
  simp only [Except.ok.injEq, forall_eq']
  by_cases lacks : self.lacksAccount (environment.withBuiltIn hashing)
      connector response = true
  · have isLocal : connector = localId := by
      unfold lacksAccount at lacks
      simp only [Bool.and_eq_true, beq_iff_eq] at lacks
      exact lacks.1
    rw [if_pos lacks, if_pos lacks, bind_assoc,
      failsTo_requiredField_iff here]
    refine forall_congr' fun username => forall_congr' fun _ => ?_
    rw [bind_assoc, failsTo_requiredField_iff here]
    refine forall_congr' fun password => forall_congr' fun _ => ?_
    rw [bind_assoc, failsTo_inspect_bind_iff here]
    simp only [Except.ok.injEq, forall_eq']
    rw [isLocal, withBuiltIn_local]
    exact create_failsTo_iff fun account absent =>
      register_created_iff (withLocalAccount_ne absent)
  · rw [if_neg lacks, if_neg lacks, pure_bind]
    exact register_failsTo_iff

/-! ## The two calls -/

/-- Where signing up is granted, everything after its first write goes
through. -/
def CompletesSignUp (environment : CredentialEnvironment LocalDirectory)
    (hashing : PasswordHashing) (self : CredentialRuntime LocalDirectory)
    (request : BoundaryRequest) : Prop :=
  ∀ claims, self.registrationClaims = .ok claims →
    ∀ tenantId, request.field "tenant" = some tenantId →
      ∀ connector, request.field "connector" = some connector →
        ∀ registered, self.connector connector = .ok registered →
          self.checkNewPassword environment request connector = .ok () →
            ∀ challenge,
              self.begin environment tenantId
                  (attemptOf request tenantId connector) = .ok challenge →
                challenge.kind = .credentials →
                  self.CompletesRegistration environment hashing request
                    tenantId connector (responseOf request tenantId challenge)
                    claims

theorem signUp_failsTo_iff {request : BoundaryRequest} {now : Int} :
    FailsTo (SameRegistrations now self)
        (signUp (environment.withBuiltIn hashing) request) self ↔
      self.CompletesSignUp (environment.withBuiltIn hashing) hashing
        request := by
  have here : SameRegistrations now self self := .refl now self
  unfold signUp CompletesSignUp
  rw [failsTo_inspect_bind_iff here]
  refine forall_congr' fun claims => forall_congr' fun _ => ?_
  rw [failsTo_requiredField_iff here]
  refine forall_congr' fun tenantId => forall_congr' fun _ => ?_
  rw [failsTo_requiredField_iff here]
  refine forall_congr' fun connector => forall_congr' fun _ => ?_
  rw [failsTo_inspect_bind_iff here]
  refine forall_congr' fun registered => forall_congr' fun _ => ?_
  rw [failsTo_check_iff here]
  refine forall_congr' fun _ => ?_
  rw [failsTo_inspect_bind_iff here]
  refine forall_congr' fun challenge => forall_congr' fun _ => ?_
  by_cases asked : challenge.kind = .credentials
  · rw [if_neg (by simp [asked])]
    simp only [asked, forall_const]
    exact registration_failsTo_iff
  · rw [if_pos (by simp [asked])]
    simp only [asked, false_implies, iff_true]
    exact failsTo_pure _

/-- The attributes of an account that the deployment creates. -/
def givenAttributes (username : String) (email : Option String) :
    KeyedMap String String :=
  match email.or (if isAddress username then some username else none) with
  | none => ∅
  | some email => (∅ : KeyedMap String String).insert "email" email

/-- The attempt that registers an account of the deployment's. -/
def localAttempt (tenantId username : String) : AuthRequest :=
  ((AuthRequest.new localId).forTenant tenantId).withParameter "username"
    username

def localResponse (challenge : AuthChallenge)
    (tenantId username password : String) : AuthResponse :=
  (((AuthResponse.toChallenge challenge).forTenant tenantId).withParameter
    "username" username).withParameter "password" password

/-- Where a user may be created, the directory starts the attempt and the mesh
grants and settles the registration. -/
def CompletesLocalUser (environment : CredentialEnvironment LocalDirectory)
    (hashing : PasswordHashing) (self : CredentialRuntime LocalDirectory)
    (tenantId username password : String) (email : Option String)
    (claims : KeyedMap String String) : Prop :=
  self.validatePassword password = .ok () →
    ∀ registered, self.connector localId = .ok registered →
      ∀ account, self.accounts[username]? = none →
        LocalConnector.newAccount hashing username password
            (givenAttributes username email) = some account →
          ∃ challenge,
            LocalConnector.begin
                (self.withLocalAccount account username).accounts
                (localAttempt tenantId username) = .ok challenge ∧
              ∃ tenant external resolved,
                (self.withLocalAccount account username).mayRegister
                    environment tenantId
                    (localResponse challenge tenantId username password)
                    claims = .ok (tenant, external, resolved) ∧
                  (self.withLocalAccount account username).Settles environment
                    tenant external resolved

theorem connector_local {registered : String}
    (found : self.connector localId = .ok registered) :
    registered = localId := by
  have got := except_mapError_eq_ok_iff.mp found
  unfold ConnectorRegistry.get at got
  split at got
  · cases got
    rfl
  · cases got

/-- The registration of an account that has just been created. -/
def registerLocal (environment : CredentialEnvironment LocalDirectory)
    (tenantId username password : String) (claims : KeyedMap String String) :
    CredentialM LocalDirectory Unit := do
  let challenge ← inspect fun self =>
    (LocalConnector.begin self.accounts
      (localAttempt tenantId username)).mapError toAuthError
  let _ ← onMesh environment fun outside =>
    AuthMesh.signUp outside tenantId
      (localResponse challenge tenantId username password)
      { kind := .human, claims } (environment.clock 0)
  pure ()

theorem registerLocal_succeeds_iff {tenantId : String}
    {claims : KeyedMap String String} :
    Succeeds (registerLocal environment tenantId username password claims)
        self ↔
      ∃ challenge,
        LocalConnector.begin self.accounts (localAttempt tenantId username) =
            .ok challenge ∧
          ∃ tenant external resolved,
            self.mayRegister environment tenantId
                (localResponse challenge tenantId username password) claims =
              .ok (tenant, external, resolved) ∧
            self.Settles environment tenant external resolved := by
  unfold registerLocal
  rw [succeeds_inspect_bind_iff]
  simp only [except_mapError_eq_ok_iff]
  refine exists_congr fun challenge => and_congr_right fun _ => ?_
  rw [← meshSignUp_succeeds_iff, succeeds_bind_iff]
  constructor
  · rintro ⟨value, middle, registered, _⟩
    exact ⟨value, middle, registered⟩
  · rintro ⟨value, middle, registered⟩
    exact ⟨value, middle, registered, succeeds_pure _ _⟩

theorem registerLocal_accounts {tenantId : String}
    {claims : KeyedMap String String} :
    Frames accounts
      (registerLocal environment tenantId username password claims) := by
  refine .bind (.inspect _) fun challenge => .bind ?_ fun _ => .pure _
  intro state
  rw [finalState_onMesh]
  rfl

theorem createLocalUser_failsTo_iff {tenantId : String}
    {email : Option String} {claims : KeyedMap String String} {now : Int} :
    FailsTo (SameRegistrations now self)
        (createLocalUser (environment.withBuiltIn hashing) tenantId username
          password email claims) self ↔
      self.CompletesLocalUser (environment.withBuiltIn hashing) hashing
        tenantId username password email claims := by
  have here : SameRegistrations now self self := .refl now self
  unfold createLocalUser CompletesLocalUser
  rw [failsTo_check_iff here]
  refine forall_congr' fun _ => ?_
  rw [failsTo_inspect_bind_iff here]
  refine forall_congr' fun registered => forall_congr' fun found => ?_
  rw [connector_local found, withBuiltIn_local]
  have begins : (localConnector hashing).begin = LocalConnector.begin := rfl
  have creates : (localConnector hashing).createAccount =
      LocalConnector.createAccount hashing :=
    rfl
  rw [begins, creates]
  refine create_failsTo_iff fun account absent => ?_
  rw [← registerLocal_succeeds_iff]
  unfold registerLocal localAttempt localResponse
  apply failsTo_iff_succeeds
  intro same
  have kept := @registerLocal_accounts (environment.withBuiltIn hashing)
    username password tenantId claims (self.withLocalAccount account username)
  unfold registerLocal localAttempt localResponse at kept
  exact withLocalAccount_ne absent (kept.symm.trans same.accounts)

end BuiltIn

end CredentialRuntime

/-- A registration by a caller, or by the deployment. -/
inductive RegistrationCall where
  | signUp (request : BoundaryRequest)
  | createLocalUser (tenantId username password : String)
      (email : Option String) (claims : KeyedMap String String)

namespace RegistrationCall

open CredentialRuntime

def perform (environment : CredentialEnvironment LocalDirectory) :
    RegistrationCall → CredentialM LocalDirectory Unit
  | .signUp request => do
      let _ ← CredentialRuntime.signUp environment request
      pure ()
  | .createLocalUser tenantId username password email claims =>
      CredentialRuntime.createLocalUser environment tenantId username password
        email claims

/-- If the call fails, no account, principal, binding or live session has
come, gone or changed. -/
def FailsClean (environment : CredentialEnvironment LocalDirectory)
    (hashing : PasswordHashing) (self : CredentialRuntime LocalDirectory)
    (call : RegistrationCall) : Prop :=
  ∀ err after,
    call.perform (environment.withBuiltIn hashing) self = .error err after →
      SameRegistrations (environment.clock 0) self after

/-- Once the call has written, nothing that follows can fail. -/
def Completes (environment : CredentialEnvironment LocalDirectory)
    (hashing : PasswordHashing) (self : CredentialRuntime LocalDirectory) :
    RegistrationCall → Prop
  | .signUp request =>
      self.CompletesSignUp (environment.withBuiltIn hashing) hashing request
  | .createLocalUser tenantId username password email claims =>
      self.CompletesLocalUser (environment.withBuiltIn hashing) hashing
        tenantId username password email claims

/-- A failed registration leaves nothing behind exactly if nothing can fail
once something is written. -/
theorem failsClean_iff {environment : CredentialEnvironment LocalDirectory}
    {hashing : PasswordHashing} {self : CredentialRuntime LocalDirectory}
    {call : RegistrationCall} :
    call.FailsClean environment hashing self ↔
      call.Completes environment hashing self := by
  cases call with
  | signUp request =>
      refine Iff.trans ?_ (@signUp_failsTo_iff environment hashing self request
        (environment.clock 0))
      change FailsTo _ (CredentialRuntime.signUp _ request >>= fun _ => pure ())
        self ↔ _
      rw [failsTo_bind_iff]
      exact and_iff_left fun _ _ _ => failsTo_pure _
  | createLocalUser tenantId username password email claims =>
      exact createLocalUser_failsTo_iff

end RegistrationCall

/-! ## Two spellings of a username -/

def mailEnvironment : CredentialEnvironment LocalDirectory :=
  { systemTime := some 0
    mintSessionId := acmeEnvironment.mintSessionId
    auditFault := fun _ => none
    connectors := declaredConnector LocalDirectory
    mail := none
    hash := fun token => utf8 token
    randomBytes := [0]
    clock := fun _ => 0 }

def plainHashing : PasswordHashing :=
  { hashPassword := some
    verifies := fun kept password => kept == password }

/-- A deployment with one tenant in which callers register themselves. -/
def openRuntime : CredentialRuntime LocalDirectory :=
  { control :=
      { runtime :=
          { mesh := emptyMesh.changeTenants
              (emptyMesh.stores.tenants.putTenant acme)
            resourceResolver := noResourceResolver
            authority := .new }
        proposals := .new }
    registration := .selfService ∅
    challenges := .default
    accounts := ∅ }

/-- The body names one user and the query another. -/
def twoNames : BoundaryRequest :=
  { BoundaryRequest.new .post "/auth/signup" with
    query := (∅ : KeyedMap String String).insert "username" "bob"
    body :=
      [("tenant", "acme"), ("connector", "local"), ("username", "alice"),
          ("password", "Correct-horse-7")].foldl
        (fun body entry => body.insert entry.1 entry.2) ∅ }

/-- The account is created for the one and proven for the other. -/
theorem twoNames_not_failsClean :
    ¬(RegistrationCall.signUp twoNames).FailsClean mailEnvironment plainHashing
      openRuntime := by
  intro clean
  have failed : ∃ err after,
      (RegistrationCall.signUp twoNames).perform
          (mailEnvironment.withBuiltIn plainHashing) openRuntime =
        .error err after ∧
      after.accounts.contains "alice" = true := by
    have outcome : (match (RegistrationCall.signUp twoNames).perform
        (mailEnvironment.withBuiltIn plainHashing) openRuntime with
      | .error _ after => after.accounts.contains "alice"
      | .ok _ _ => false) = true := by
      decide +kernel
    split at outcome
    · rename_i err after failed
      exact ⟨err, after, failed, outcome⟩
    · cases outcome
  obtain ⟨err, after, failed, created⟩ := failed
  rw [(clean err after failed).accounts] at created
  cases created

end AuthBoundry
