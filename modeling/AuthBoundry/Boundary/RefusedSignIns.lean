import AuthBoundry.Boundary.OpenedSessions

/-!
# What a refused sign-in leaves open

The mesh stores the session first; the audit trail, the context, the age of the
password and the verification of the address are looked at afterwards.  Only
the last of them closes the session again, so a sign-in that is refused leaves
a live session behind exactly if one of the others refuses it.
-/

namespace AuthBoundry

open Library
open Library.Stateful

/-! ## Programs that fail into good states -/

section Failing

variable {σ ε α β : Type} {good : σ → Prop} {state : σ}

def FailsInto (good : σ → Prop) (program : EStateM ε σ α) (state : σ) : Prop :=
  ∀ err after, program state = .error err after → good after

theorem failsInto_pure (value : α) :
    FailsInto good (pure value : EStateM ε σ α) state := by
  intro err after failed
  cases failed

theorem failsInto_throw_iff (err : ε) :
    FailsInto good (throw err : EStateM ε σ α) state ↔ good state := by
  constructor
  · intro fails
    exact fails err state rfl
  · intro holds other after failed
    cases failed
    exact holds

theorem failsInto_bind_iff {program : EStateM ε σ α}
    {next : α → EStateM ε σ β} :
    FailsInto good (program >>= next) state ↔
      match program state with
      | .ok value middle => FailsInto good (next value) middle
      | .error _ after => good after := by
  unfold FailsInto
  rw [bind_apply]
  cases program state with
  | ok value middle => exact Iff.rfl
  | error err after =>
      constructor
      · intro fails
        exact fails err after rfl
      · intro holds other final failed
        cases failed
        exact holds

theorem failsInto_inspect_bind_iff {query : σ → Except ε α}
    {next : α → EStateM ε σ β} :
    FailsInto good (inspect query >>= next) state ↔
      match query state with
      | .ok value => FailsInto good (next value) state
      | .error _ => good state := by
  rw [failsInto_bind_iff]
  unfold inspect
  cases query state <;> exact Iff.rfl

/-- In a good state a question may stay unanswered. -/
theorem failsInto_inspect_iff {query : σ → Except ε α}
    {next : α → EStateM ε σ β} (here : good state) :
    FailsInto good (inspect query >>= next) state ↔
      ∀ value, query state = .ok value → FailsInto good (next value) state := by
  rw [failsInto_inspect_bind_iff]
  cases query state with
  | error err => exact iff_of_true here (by simp)
  | ok value => simp

end Failing

/-! ## Closing a session -/

namespace AuthMesh

variable {environment : Environment} {self : AuthMesh}

/-- Ending a stored session of a known tenant revokes it, even if the event is
not recorded. -/
theorem sessionMap_logout {tenantId : String} {tenant : TenantContext}
    {session : Session} (tenantFound : self.tenant tenantId = .ok tenant)
    (stored : self.sessionMap[session.id]? = some session)
    (inTenant : session.tenantId = tenant.tenantId) (now : Int) :
    (finalState (logout environment tenantId session.id now self)).sessionMap =
      self.sessionMap.insert session.id
        { session with revokedAt := some now } := by
  have revoked : self.stores.sessions.revokeSession tenant session.id now =
      .ok ((), { self.stores.sessions with
        sessions := self.stores.sessions.sessions.insert session.id
          { session with revokedAt := some now } }) := by
    apply except_bind_eq_ok_iff.mpr
    exact ⟨_, modifyScoped_eq_ok_iff.mpr
      ⟨session, _, stored, inTenant, rfl, rfl⟩, rfl⟩
  rw [logout_eq, tenantFound]
  dsimp only
  rw [revoked]
  dsimp only
  rw [finish_eq]
  split <;> rfl

end AuthMesh

namespace CredentialRuntime

variable {Accounts : Type} {environment : CredentialEnvironment Accounts}
  {self : CredentialRuntime Accounts} {request : BoundaryRequest}

/-! ## Refused sign-ins -/

/-- No session is live in the second state that was not live in the first. -/
def NothingOpened (now : Int) (before after : CredentialRuntime Accounts) :
    Prop :=
  KeyedMap.NothingNew (fun session : Session => session.LiveFrom now)
    before.mesh.sessionMap after.mesh.sessionMap

/-- If signing in fails, every session that is live afterwards was live
before. -/
def RefusesShut (environment : CredentialEnvironment Accounts)
    (self : CredentialRuntime Accounts) (request : BoundaryRequest) : Prop :=
  ∀ err after, signIn environment request self = .error err after →
    NothingOpened (environment.clock 0) self after

def OpensNew (outside : Environment) (mesh : AuthMesh) (tenant : TenantContext)
    (resolved : ResolvedPrincipal) (now : Int) : Prop :=
  0 < mesh.sessionTtl ∧
    mesh.sessionMap[(mesh.openedSession outside tenant resolved.identity.id
        now).id]? ≠
      some (mesh.openedSession outside tenant resolved.identity.id now)

/-- Wherever the mesh opens a new session, the log takes its event, a context
can be derived for it and the password is not too old. -/
def OpensForGood (environment : CredentialEnvironment Accounts)
    (self : CredentialRuntime Accounts) (request : BoundaryRequest) : Prop :=
  ∀ tenantId, request.field "tenant" = some tenantId →
  ∀ connector, request.field "connector" = some connector →
  ∀ challenge,
    self.begin environment tenantId (attemptOf request tenantId connector) =
        .ok challenge →
    challenge.kind = .credentials →
  ∀ tenant external resolved,
    self.mesh.signInGrounds (environment.meshEnvironment self.accounts)
        tenantId (responseOf request tenantId challenge) =
      .ok (tenant, external, resolved) →
    OpensNew (environment.meshEnvironment self.accounts) self.mesh tenant
        resolved (environment.clock 0) →
      self.mesh.Establishes (environment.meshEnvironment self.accounts) tenant
          resolved.principal (environment.clock 0) ∧
        self.ensurePasswordNotExpired external (environment.clock 0) = .ok ()

theorem nothingOpened_refl (now : Int) (self : CredentialRuntime Accounts) :
    NothingOpened now self self := .refl _ _

def afterOpening (environment : CredentialEnvironment Accounts)
    (tenantId : String) (now : Int) (authenticated : AuthenticatedSession) :
    CredentialM Accounts SignInOutcome := do
  inspect fun self => self.ensurePasswordNotExpired authenticated.external now
  let unverified ← inspect fun self =>
    .ok (self.awaitsVerification authenticated.external)
  if unverified then
    attempt (onMesh environment fun outside =>
      AuthMesh.logout outside tenantId authenticated.session.id now)
    throw
      (passwordError "Please verify your email address before signing in."
        .policyDenied)
  else
    pure (signedIn authenticated)

section Opened

variable {tenant : TenantContext} {resolved : ResolvedPrincipal} {now : Int}
  {mesh : AuthMesh}

theorem nothingOpened_established_iff {outside : Environment}
    (established : AuthMesh.Established self.mesh mesh
      (self.mesh.openedSession outside tenant resolved.identity.id now)) :
    NothingOpened now self (self.changeMesh mesh) ↔
      ¬OpensNew outside self.mesh tenant resolved now := by
  have lives : (self.mesh.openedSession outside tenant resolved.identity.id
      now).LiveFrom now ↔ 0 < self.mesh.sessionTtl := by
    rw [liveFrom_iff]
    change none = none ∧ now < now + self.mesh.sessionTtl ↔ _
    simp
  unfold NothingOpened OpensNew
  rw [mesh_changeMesh, established.sessions, KeyedMap.NothingNew.insert_iff,
    lives, ne_eq, not_and_not_right]

theorem nothingOpened_closed {tenantId : String} {session : Session}
    (established : AuthMesh.Established self.mesh mesh session)
    (tenantFound : self.mesh.tenant tenantId = .ok tenant)
    (inTenant : session.tenantId = tenant.tenantId) :
    NothingOpened now self (finalState (onMesh environment (fun outside =>
      AuthMesh.logout outside tenantId session.id now)
        (self.changeMesh mesh))) := by
  have found : mesh.tenant tenantId = .ok tenant := by
    rw [← tenantFound]
    unfold AuthMesh.tenant
    rw [established.tenants]
  have stored : mesh.sessionMap[session.id]? = some session := by
    rw [established.sessions]
    exact Std.ExtTreeMap.getElem?_insert_self
  have closed : (finalState (AuthMesh.logout (environment.meshEnvironment
      self.accounts) tenantId session.id now mesh)).sessionMap = _ :=
    AuthMesh.sessionMap_logout found stored inTenant now
  unfold NothingOpened
  rw [finalState_onMesh, mesh_changeMesh]
  change KeyedMap.NothingNew _ _ (finalState (AuthMesh.logout
    (environment.meshEnvironment self.accounts) tenantId session.id now
      mesh)).sessionMap
  rw [closed, established.sessions]
  intro key value listed lives
  rw [KeyedMap.getElem?_insert_eq] at listed
  by_cases here : session.id = key
  · rw [if_pos here] at listed
    cases listed
    cases (liveFrom_iff.mp lives).1
  · rw [if_neg here, KeyedMap.getElem?_insert_eq, if_neg here] at listed
    exact listed

theorem opened_failsInto_iff {outside : Environment} {tenantId : String}
    {authenticated : AuthenticatedSession}
    (established : AuthMesh.Established self.mesh mesh
      (self.mesh.openedSession outside tenant resolved.identity.id now))
    (tenantFound : self.mesh.tenant tenantId = .ok tenant)
    (sameSession : authenticated.session =
      self.mesh.openedSession outside tenant resolved.identity.id now) :
    FailsInto (NothingOpened now self)
        (afterOpening environment tenantId now authenticated)
        (self.changeMesh mesh) ↔
      (OpensNew outside self.mesh tenant resolved now →
        self.ensurePasswordNotExpired authenticated.external now = .ok ()) := by
  unfold afterOpening
  rw [failsInto_inspect_bind_iff,
    ensurePasswordNotExpired_of_config (Prod.mk.inj established.contract).1]
  cases self.ensurePasswordNotExpired authenticated.external now with
  | error err =>
      dsimp only
      rw [nothingOpened_established_iff established]
      simp
  | ok _ =>
      apply iff_of_true ?_ (fun _ => rfl)
      dsimp only
      rw [failsInto_inspect_bind_iff]
      dsimp only
      split
      · rw [failsInto_bind_iff]
        unfold attempt
        dsimp only
        rw [failsInto_throw_iff, sameSession]
        exact nothingOpened_closed established tenantFound rfl
      · exact failsInto_pure _

end Opened

theorem answered_failsInto_iff (tenantId : String) (response : AuthResponse) :
    FailsInto (NothingOpened (environment.clock 0) self)
        (onMesh environment (fun outside =>
            AuthMesh.signIn outside tenantId response (environment.clock 0)) >>=
          afterOpening environment tenantId (environment.clock 0)) self ↔
      ∀ tenant external resolved,
        self.mesh.signInGrounds (environment.meshEnvironment self.accounts)
            tenantId response = .ok (tenant, external, resolved) →
          OpensNew (environment.meshEnvironment self.accounts) self.mesh tenant
              resolved (environment.clock 0) →
            self.mesh.Establishes (environment.meshEnvironment self.accounts)
                tenant resolved.principal (environment.clock 0) ∧
              self.ensurePasswordNotExpired external (environment.clock 0) =
                .ok () := by
  have applied : onMesh environment (fun outside =>
      AuthMesh.signIn outside tenantId response (environment.clock 0)) self =
      onPart mesh changeMesh (AuthMesh.signIn (environment.meshEnvironment
        self.accounts) tenantId response (environment.clock 0)) self := rfl
  rw [failsInto_bind_iff, applied]
  unfold onPart
  rw [AuthMesh.signIn_eq]
  cases granted : self.mesh.signInGrounds
      (environment.meshEnvironment self.accounts) tenantId response with
  | error err =>
      apply iff_of_true (nothingOpened_refl (environment.clock 0) self)
      intro tenant external resolved same
      cases same
  | ok grounds =>
      obtain ⟨tenant, external, resolved⟩ := grounds
      have tenantFound := (AuthMesh.signInGrounds_ok granted).tenantFound
      have only : ∀ property : TenantContext → ExternalIdentity →
          ResolvedPrincipal → Prop,
          (∀ other identity principal,
            (Except.ok (tenant, external, resolved) : Except AuthError _) =
                .ok (other, identity, principal) →
              property other identity principal) ↔
            property tenant external resolved := by
        intro property
        constructor
        · intro every
          exact every tenant external resolved rfl
        · intro holds other identity principal same
          cases same
          exact holds
      rw [only fun tenant external resolved =>
        OpensNew (environment.meshEnvironment self.accounts) self.mesh tenant
            resolved (environment.clock 0) →
          self.mesh.Establishes (environment.meshEnvironment self.accounts)
              tenant resolved.principal (environment.clock 0) ∧
            self.ensurePasswordNotExpired external (environment.clock 0) =
              .ok ()]
      obtain ⟨mesh, established, outcome⟩ := @AuthMesh.establish_cases
        (environment.meshEnvironment self.accounts) self.mesh tenant external
        resolved (environment.clock 0) .login
      rcases outcome with ⟨err, failed, unestablished⟩ |
        ⟨authenticated, returned, holds, sameSession, sameExternal⟩
      · dsimp only
        rw [failed]
        dsimp only
        rw [nothingOpened_established_iff established]
        simp [unestablished]
      · dsimp only
        rw [returned]
        dsimp only
        rw [opened_failsInto_iff established tenantFound sameSession,
          sameExternal]
        simp [holds]

/-- Signing in leaves no session open where it is refused exactly if nothing
refuses it once a new session is stored. -/
theorem refusesShut_iff (environment : CredentialEnvironment Accounts)
    (self : CredentialRuntime Accounts) (request : BoundaryRequest) :
    self.RefusesShut environment request ↔
      self.OpensForGood environment request := by
  have here := nothingOpened_refl (environment.clock 0) self
  change FailsInto (NothingOpened (environment.clock 0) self)
    (signIn environment request) self ↔ _
  unfold signIn OpensForGood
  rw [failsInto_inspect_iff here]
  simp only [requiredField_eq_ok_iff]
  apply forall_congr'
  intro tenantId
  apply forall_congr'
  intro _
  rw [failsInto_inspect_iff here]
  simp only [requiredField_eq_ok_iff]
  apply forall_congr'
  intro connector
  apply forall_congr'
  intro _
  rw [failsInto_inspect_iff here]
  apply forall_congr'
  intro challenge
  apply forall_congr'
  intro _
  by_cases asked : challenge.kind = .credentials
  · rw [if_neg (by simp [asked])]
    simp only [asked, forall_const]
    change FailsInto _ (onMesh environment _ >>=
      afterOpening environment tenantId (environment.clock 0)) self ↔ _
    exact answered_failsInto_iff tenantId _
  · rw [if_pos (by simp [asked])]
    apply iff_of_true (failsInto_pure _)
    intro credentials
    exact absurd credentials asked

end CredentialRuntime

/-! ## A password that is too old -/

def expiringRuntime : CredentialRuntime LocalDirectory :=
  { openRuntime with
    registration :=
      .selfService ((∅ : KeyedMap String String).insert "role" "admin")
    control :=
      { openRuntime.control with
        runtime :=
          { openRuntime.control.runtime with
            mesh := AuthMesh.system.run
              { emptyMesh with
                config :=
                  { acmeConfig with
                    passwordPolicy :=
                      { acmeConfig.passwordPolicy with
                        passwordExpirationDays := some 1 } } }
              [acmeCall 0 (.putTenant acme),
                acmeCall 0 (.putPolicy (acmePolicy []))] } } }

def laterEnvironment : CredentialEnvironment LocalDirectory :=
  { localEnvironment with clock := fun _ => 100000 }

def registeredSignIn : BoundaryRequest :=
  { BoundaryRequest.new .post "/auth/login" with
    body :=
      [("tenant", "acme"), ("connector", "local"), ("username", "alice"),
          ("password", "Correct-horse-7")].foldl
        (fun body entry => body.insert entry.1 entry.2) ∅ }

/-- Alice has registered. -/
def expiredRuntime : CredentialRuntime LocalDirectory :=
  finalState (CredentialRuntime.signUp laterEnvironment registeredSignIn
    expiringRuntime)

/-- Her sign-in is refused, and the session it has opened stays. -/
theorem expiredSignIn_not_refusesShut :
    ¬expiredRuntime.RefusesShut laterEnvironment registeredSignIn := by
  intro shut
  have refused : ∃ err after,
      CredentialRuntime.signIn laterEnvironment registeredSignIn
        expiredRuntime = .error err after ∧
      (err.message == "PASSWORD_EXPIRED" &&
        (after.mesh.sessionMap[(⟨"sess_2"⟩ : SessionId)]?.any fun session =>
          session.revokedAt.isNone && 100000 < session.expiresAt)) = true := by
    have outcome : (match CredentialRuntime.signIn laterEnvironment
        registeredSignIn expiredRuntime with
      | .error err after => err.message == "PASSWORD_EXPIRED" &&
          (after.mesh.sessionMap[(⟨"sess_2"⟩ : SessionId)]?.any fun session =>
            session.revokedAt.isNone && 100000 < session.expiresAt)
      | .ok _ _ => false) = true := by
      decide +kernel
    split at outcome
    · rename_i err after failed
      exact ⟨err, after, failed, outcome⟩
    · cases outcome
  obtain ⟨err, after, failed, opened⟩ := refused
  obtain ⟨_, lives⟩ := Bool.and_eq_true_iff.mp opened
  cases stored : after.mesh.sessionMap[(⟨"sess_2"⟩ : SessionId)]? with
  | none =>
      rw [stored] at lives
      cases lives
  | some session =>
      rw [stored] at lives
      simp only [Option.any_some, Bool.and_eq_true, Option.isNone_iff_eq_none,
        decide_eq_true_eq] at lives
      have before := shut err after failed _ session stored
        (liveFrom_iff.mpr lives)
      have absent : expiredRuntime.mesh.sessionMap[
          (⟨"sess_2"⟩ : SessionId)]? = none := by
        decide +kernel
      rw [absent] at before
      cases before

end AuthBoundry
