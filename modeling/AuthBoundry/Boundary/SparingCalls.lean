import AuthBoundry.Boundary.ProviderStates
import AuthBoundry.Boundary.Registrations
import AuthBoundry.Runtime.SessionOwners

/-!
# Calls that open no session

Where addresses are verified, an account that waits for its verification is to
have no live session.  Most calls cannot change that: they open no session and
make no account wait.  Whatever adds a session of an account keeps it exactly if
the account does not wait or the session is revoked.
-/

namespace AuthBoundry

open Library
open Library.Stateful

/-! ## Accounts -/

def LocalAccount.Unverified (self : LocalAccount) : Prop :=
  self.attributes["email_verification_required"]? = some "true" ∧
    self.attributes["email_verified"]? ≠ some "true"

/-- Accounts stay, and none becomes unverified. -/
def AccountsStay (before after : LocalDirectory) : Prop :=
  ∀ (username : String) account, before[username]? = some account →
    ∃ later, after[username]? = some later ∧
      (later.Unverified → account.Unverified)

namespace AccountsStay

theorem refl (accounts : LocalDirectory) : AccountsStay accounts accounts :=
  fun _ account stored => ⟨account, stored, id⟩

theorem trans {first second third : LocalDirectory}
    (before : AccountsStay first second) (after : AccountsStay second third) :
    AccountsStay first third := by
  intro username account stored
  obtain ⟨middle, middleStored, unverified⟩ := before username account stored
  obtain ⟨last, lastStored, still⟩ := after username middle middleStored
  exact ⟨last, lastStored, fun waits => unverified (still waits)⟩

/-- One account is put in the place of one that waits no less. -/
theorem replaced {accounts : LocalDirectory} {username : String}
    {account changed : LocalAccount}
    (stored : accounts[username]? = some account)
    (waits : changed.Unverified → account.Unverified) :
    AccountsStay accounts (accounts.insert username changed) := by
  intro other old found
  rw [KeyedMap.getElem?_insert_eq]
  by_cases same : username = other
  · subst same
    cases stored.symm.trans found
    exact ⟨changed, by rw [if_pos rfl], waits⟩
  · exact ⟨old, by rw [if_neg same]; exact found, id⟩

theorem created {accounts : LocalDirectory} {username : String}
    (absent : accounts[username]? = none) (account : LocalAccount) :
    AccountsStay accounts (accounts.insert username account) :=
  fun _ old found =>
    ⟨old, KeyedMap.getElem?_insert_of_fresh absent found, id⟩

end AccountsStay

namespace LocalConnector

variable {hashing : PasswordHashing}

theorem changeAccount_stays {username : String}
    {change : LocalAccount → Except ConnectorError LocalAccount}
    (waits : ∀ account changed, change account = .ok changed →
      changed.Unverified → account.Unverified) :
    Within AccountsStay (changeAccount username change) := by
  apply Within.commit _ AccountsStay.refl
  intro accounts value after written
  split at written
  · cases written
  · rename_i account stored
    split at written
    · cases written
    · rename_i changed outcome
      cases written
      exact AccountsStay.replaced stored (waits account changed outcome)

theorem setPassword_attributes {account changed : LocalAccount}
    {password : String} {policy : PasswordPolicy} {now : Int}
    (set : account.setPassword hashing password policy now = .ok changed) :
    changed.attributes = account.attributes := by
  unfold LocalAccount.setPassword at set
  split at set
  · cases set
  · split at set
    · cases set
    · cases set
      rfl

theorem setPassword_waits {account changed : LocalAccount}
    {password : String} {policy : PasswordPolicy} {now : Int}
    (set : account.setPassword hashing password policy now = .ok changed)
    (waits : changed.Unverified) : account.Unverified := by
  unfold LocalAccount.Unverified at waits ⊢
  rw [setPassword_attributes set] at waits
  exact waits

theorem changePassword_stays (username currentPassword newPassword : String)
    (policy : PasswordPolicy) (now : Int) :
    Within AccountsStay
      (changePassword hashing username currentPassword newPassword policy
        now) := by
  apply changeAccount_stays
  intro account changed outcome waits
  split at outcome
  · exact setPassword_waits outcome waits
  · cases outcome

theorem resetPassword_stays (username newPassword : String)
    (policy : PasswordPolicy) (now : Int) :
    Within AccountsStay
      (resetPassword hashing username newPassword policy now) :=
  changeAccount_stays fun _ _ => setPassword_waits

/-- Once its address is verified, an account does not wait any more. -/
theorem markEmailVerified_stays (username : String) :
    Within AccountsStay (markEmailVerified username) := by
  apply changeAccount_stays
  intro account changed outcome waits
  cases outcome
  exact absurd Std.ExtTreeMap.getElem?_insert_self waits.2

theorem authenticate_ok {accounts : LocalDirectory} {response : AuthResponse}
    {external : ExternalIdentity}
    (proven : authenticate hashing accounts response = .ok external) :
    ∃ username account, response.parameter "username" = some username ∧
      accounts[username]? = some account ∧
        external = identityOf username account := by
  unfold authenticate at proven
  split at proven
  · cases proven
  · split at proven
    · cases proven
    · rename_i username named
      split at proven
      · cases proven
      · split at proven
        · cases proven
        · split at proven
          · cases proven
          · rename_i account stored
            split at proven
            · cases proven
              exact ⟨username, account, named, stored, rfl⟩
            · cases proven

/-- The identity of an account carries what its verification depends on. -/
theorem identityOf_attribute (username : String) (account : LocalAccount)
    {name : String} (other : name ≠ "password_changed_at") :
    (identityOf username account).attributes[name]? =
      account.attributes[name]? := by
  unfold identityOf
  rw [KeyedMap.getElem?_insert_eq, if_neg (Ne.symm other)]

end LocalConnector

theorem builtInConnectors_stay (hashing : PasswordHashing) (id : String)
    (operation : AuthConnector LocalDirectory → ConnectorM LocalDirectory Unit)
    (locally : Within AccountsStay (operation (localConnector hashing)))
    (declared : Within AccountsStay
      (operation (declaredConnector LocalDirectory id))) :
    Within AccountsStay (operation (builtInConnectors hashing id)) := by
  unfold builtInConnectors
  split
  · exact locally
  · exact declared

/-! ## Sessions -/

namespace CredentialRuntime

def sessionMap (self : CredentialRuntime LocalDirectory) :
    KeyedMap SessionId Session :=
  self.mesh.sessionMap

/-- No account that is unverified has a session that is accepted at any
time. -/
def VerifiedSessions (self : CredentialRuntime LocalDirectory) : Prop :=
  ∀ (sessionId : SessionId) session now username account,
    self.sessionMap[sessionId]? = some session → session.LiveFrom now →
      session.OfAccount localId username →
        self.accounts[username]? = some account → ¬account.Unverified

theorem verifiedSessions_iff {self : CredentialRuntime LocalDirectory} :
    self.VerifiedSessions ↔
      ∀ (sessionId : SessionId) session username account,
        self.sessionMap[sessionId]? = some session →
          session.revokedAt = none → session.OfAccount localId username →
            self.accounts[username]? = some account →
              ¬account.Unverified := by
  constructor
  · intro verified sessionId session username account stored unrevoked
    have live : session.LiveFrom (session.expiresAt - 1) :=
      liveFrom_iff.mpr ⟨unrevoked, by omega⟩
    exact verified sessionId session _ username account stored live
  · intro verified sessionId session now username account stored live
    have unrevoked := (liveFrom_iff.mp live).1
    exact verified sessionId session username account stored unrevoked

/-- The runtime verifies addresses, and every session of an account of the
local directory leads to one that is there. -/
structure Attributed (runtime : CredentialRuntime LocalDirectory) : Prop where
  verifies : runtime.verifiesEmail = true
  filed : runtime.mesh.stores.identities.FiledAsLinked
  owned : ∀ (sessionId : SessionId) session username,
    runtime.sessionMap[sessionId]? = some session →
      session.OfAccount localId username →
        ∃ account, runtime.accounts[username]? = some account

/-- No session is opened, and no account becomes unverified. -/
structure Spares (before after : CredentialRuntime LocalDirectory) :
    Prop where
  verifies : after.verifiesEmail = before.verifiesEmail
  filed : before.mesh.stores.identities.FiledAsLinked →
    after.mesh.stores.identities.FiledAsLinked
  accounts : AccountsStay before.accounts after.accounts
  sessions : ∀ (sessionId : SessionId) session,
    after.sessionMap[sessionId]? = some session →
      ∃ earlier, before.sessionMap[sessionId]? = some earlier ∧
        earlier.identityId = session.identityId ∧
        earlier.tenantId = session.tenantId ∧
        (session.revokedAt = none → earlier.revokedAt = none)

namespace Spares

variable {before after : CredentialRuntime LocalDirectory}

/-- Neither the mesh nor the accounts change. -/
theorem of_same (mesh : after.mesh = before.mesh)
    (accounts : after.accounts = before.accounts) : Spares before after where
  verifies := by
    unfold verifiesEmail
    rw [mesh]
  filed := by
    rw [mesh]
    exact id
  accounts := by
    rw [accounts]
    exact AccountsStay.refl before.accounts
  sessions := by
    unfold sessionMap
    rw [mesh]
    exact fun _ session stored => ⟨session, stored, rfl, rfl, id⟩

theorem refl (self : CredentialRuntime LocalDirectory) : Spares self self :=
  of_same rfl rfl

theorem trans {first second third : CredentialRuntime LocalDirectory}
    (before : Spares first second) (after : Spares second third) :
    Spares first third where
  verifies := after.verifies.trans before.verifies
  filed := fun filed => after.filed (before.filed filed)
  accounts := before.accounts.trans after.accounts
  sessions := by
    intro sessionId session stored
    obtain ⟨middle, middleStored, middleIdentity, middleTenant, middleLive⟩ :=
      after.sessions sessionId session stored
    obtain ⟨earlier, found, identity, tenant, live⟩ :=
      before.sessions sessionId middle middleStored
    exact ⟨earlier, found, identity.trans middleIdentity,
      tenant.trans middleTenant, fun unrevoked => live (middleLive unrevoked)⟩

theorem attributed (spares : Spares before after)
    (attributed : before.Attributed) : after.Attributed where
  verifies := spares.verifies.trans attributed.verifies
  filed := spares.filed attributed.filed
  owned := by
    intro sessionId session username stored owner
    obtain ⟨earlier, found, identity, tenant, _⟩ :=
      spares.sessions sessionId session stored
    have owned : earlier.OfAccount localId username := by
      unfold Session.OfAccount
      rw [identity, tenant]
      exact owner
    obtain ⟨account, accountStored⟩ :=
      attributed.owned sessionId earlier username found owned
    obtain ⟨later, laterStored, _⟩ :=
      spares.accounts username account accountStored
    exact ⟨later, laterStored⟩

theorem verified (spares : Spares before after)
    (attributed : before.Attributed) (verified : before.VerifiedSessions) :
    after.VerifiedSessions := by
  rw [verifiedSessions_iff] at verified ⊢
  intro sessionId session username account stored unrevoked owner
    accountStored waits
  obtain ⟨earlier, found, identity, tenant, live⟩ :=
    spares.sessions sessionId session stored
  have owned : earlier.OfAccount localId username := by
    unfold Session.OfAccount
    rw [identity, tenant]
    exact owner
  obtain ⟨old, oldStored⟩ :=
    attributed.owned sessionId earlier username found owned
  obtain ⟨later, laterStored, unverified⟩ :=
    spares.accounts username old oldStored
  cases accountStored.symm.trans laterStored
  exact verified sessionId earlier username old found (live unrevoked) owned
    oldStored (unverified waits)

end Spares

/-- One session of an account is stored, and nothing else changes. -/
structure Adds (before after : CredentialRuntime LocalDirectory)
    (session : Session) (username : String) (account : LocalAccount) :
    Prop where
  verifies : after.verifiesEmail = before.verifiesEmail
  filed : before.mesh.stores.identities.FiledAsLinked →
    after.mesh.stores.identities.FiledAsLinked
  accounts : after.accounts = before.accounts
  sessions : ∀ sessionId : SessionId, after.sessionMap[sessionId]? =
    if session.id = sessionId then some session
    else before.sessionMap[sessionId]?
  owner : session.OfAccount localId username
  stored : before.accounts[username]? = some account

namespace Adds

variable {before after : CredentialRuntime LocalDirectory}
  {session : Session} {username : String} {account : LocalAccount}

theorem attributed (adds : Adds before after session username account)
    (attributed : before.Attributed) : after.Attributed where
  verifies := adds.verifies.trans attributed.verifies
  filed := adds.filed attributed.filed
  owned := by
    intro sessionId other otherName stored owner
    rw [adds.sessions] at stored
    rw [adds.accounts]
    split at stored
    · cases stored
      cases adds.owner.unique owner
      exact ⟨account, adds.stored⟩
    · exact attributed.owned sessionId other otherName stored owner

theorem verified_iff (adds : Adds before after session username account)
    (verified : before.VerifiedSessions) :
    after.VerifiedSessions ↔
      (account.Unverified → session.revokedAt ≠ none) := by
  rw [verifiedSessions_iff] at verified ⊢
  rw [adds.accounts]
  constructor
  · intro verified waits unrevoked
    have stored : after.sessionMap[session.id]? = some session := by
      rw [adds.sessions, if_pos rfl]
    exact verified session.id session username account stored unrevoked
      adds.owner adds.stored waits
  · intro closed sessionId other otherName otherAccount stored unrevoked owner
      accountStored waits
    rw [adds.sessions] at stored
    split at stored
    · cases stored
      cases adds.owner.unique owner
      cases adds.stored.symm.trans accountStored
      exact closed waits unrevoked
    · exact verified sessionId other otherName otherAccount stored unrevoked
        owner accountStored waits

end Adds

/-! ## Calls that open no session -/

section Sparing

variable {environment : CredentialEnvironment LocalDirectory}
  {hashing : PasswordHashing}

namespace Spares

theorem inspect {α : Type}
    (query : CredentialRuntime LocalDirectory → Except AuthError α) :
    Within Spares (Stateful.inspect query) :=
  Within.inspect Spares refl query

theorem bind {α β : Type} {program : CredentialM LocalDirectory α}
    {next : α → CredentialM LocalDirectory β} (first : Within Spares program)
    (rest : ∀ value, Within Spares (next value)) :
    Within Spares (program >>= next) :=
  Within.bind Spares (fun _ _ _ => trans) first rest

theorem of_accounts {self : CredentialRuntime LocalDirectory}
    {accounts : LocalDirectory} (stay : AccountsStay self.accounts accounts) :
    Spares self (self.changeAccounts accounts) where
  verifies := rfl
  filed := id
  accounts := stay
  sessions := fun _ session stored => ⟨session, stored, rfl, rfl, id⟩

theorem onAccounts {program : ConnectorM LocalDirectory Unit}
    (stays : Within AccountsStay program) :
    Within Spares (CredentialRuntime.onAccounts program) := by
  intro self
  unfold CredentialRuntime.onAccounts
  rw [finalState_onPart, finalState_translate]
  exact of_accounts (stays self.accounts)

/-- Ending a session opens none. -/
theorem logout (tenantId : String) (sessionId : SessionId) (now : Int) :
    Within Spares
      (onMesh environment fun outside =>
        AuthMesh.logout outside tenantId sessionId now) := by
  intro self
  rw [finalState_onMesh, AuthMesh.logout_eq]
  cases self.mesh.tenant tenantId with
  | error err => exact of_same rfl rfl
  | ok tenant =>
      dsimp only
      cases written : self.mesh.stores.sessions.revokeSession tenant sessionId
          now with
      | error err => exact of_same rfl rfl
      | ok revoked =>
          obtain ⟨session, stored, _, sessions⟩ :=
            MemorySessionStore.revokeSession_ok written
          obtain ⟨_, part⟩ := revoked
          cases sessions
          have spares : ∀ mesh : AuthMesh,
              mesh.config = self.mesh.config →
                mesh.stores.identities = self.mesh.stores.identities →
                  mesh.sessionMap = self.mesh.sessionMap.insert sessionId
                    { session with revokedAt := some now } →
                    Spares self (self.changeMesh mesh) := by
            intro mesh config identities sessions
            constructor
            · change mesh.config.experience.enabled .emailVerification = _
              rw [config]
              rfl
            · change _ → mesh.stores.identities.FiledAsLinked
              rw [identities]
              exact id
            · exact AccountsStay.refl self.accounts
            · change ∀ (id : SessionId) later,
                mesh.sessionMap[id]? = some later → _
              rw [sessions]
              apply KeyedMap.forall_insert
              · exact ⟨session, stored, rfl, rfl, by simp⟩
              · intro otherId other found
                exact ⟨other, found, rfl, rfl, id⟩
          dsimp only
          rw [AuthMesh.finish_eq]
          split <;> exact spares _ rfl rfl rfl

theorem mailToken (mailed : TokenMail) (request : BoundaryRequest)
    (now : Int) :
    Within Spares
      (CredentialRuntime.mailToken environment mailed request now) := by
  unfold CredentialRuntime.mailToken
  refine bind (inspect _) fun _ => bind (inspect _) fun tenantId =>
    bind (inspect _) fun connectorId => bind (inspect _) fun username =>
    bind (inspect _) fun address => ?_
  cases address with
  | none => exact refl
  | some address =>
  cases environment.mail with
  | none => exact refl
  | some mail =>
      exact bind (fun self => of_same rfl rfl) fun token => inspect _

theorem consumeToken {token unsplit : String} {kind : CeremonyKind}
    {operation : AuthConnector LocalDirectory → String → String →
      ConnectorM LocalDirectory Unit}
    (stays : ∀ id tenantId username, Within AccountsStay
      (operation (environment.connectors id) tenantId username)) :
    Within Spares
      (CredentialRuntime.consumeToken environment token kind unsplit
        operation) := by
  intro self
  unfold CredentialRuntime.consumeToken
  rw [finalState_translate, finalState_onPart,
    ChallengeStore.consumeWith_apply]
  cases self.challenges.open? environment.hash token kind
      (environment.clock 0) with
  | error message => exact of_same rfl rfl
  | ok entry =>
      have operated : Spares self (finalState
          (tokenOperation environment unsplit operation entry.tenant
            entry.account self)) := by
        refine Within.bind Spares (fun _ _ _ => trans)
          (Within.inspect Spares refl _) (fun parts => ?_) self
        refine Within.bind Spares (fun _ _ _ => trans)
          (Within.inspect Spares refl _) fun connector => ?_
        intro middle
        rw [finalState_onPart, finalState_translate]
        exact of_accounts (stays connector entry.tenant parts.2 _)
      dsimp only
      cases ran : tokenOperation environment unsplit operation entry.tenant
          entry.account self with
      | error message after =>
          rw [ran] at operated
          exact operated.trans (of_same rfl rfl)
      | ok value after =>
          rw [ran] at operated
          exact operated.trans (of_same rfl rfl)

end Spares

/-- The calls that open no session. -/
def OpensNone : CredentialCall → Prop
  | .signIn _ | .signUp _ | .createLocalUser .. => False
  | _ => True

theorem perform_spares {call : CredentialCall} (opensNone : OpensNone call) :
    Within Spares (perform (environment.withBuiltIn hashing) call) := by
  have mapped : ∀ {α β : Type} {convert : α → β}
      {program : CredentialM LocalDirectory α}, Within Spares program →
        Within Spares (convert <$> program) := by
    intro α β convert program spares
    exact Spares.bind spares fun _ => Spares.refl
  have throws : ∀ {α : Type} (err : ConnectorError),
      Within AccountsStay (throw err : ConnectorM LocalDirectory α) :=
    fun _ => AccountsStay.refl
  cases call with
  | signIn request => cases opensNone
  | signUp request => cases opensNone
  | createLocalUser => cases opensNone
  | changePassword request =>
      apply mapped
      unfold changePassword
      refine Spares.bind (Spares.inspect _) fun policy =>
        Spares.bind (Spares.inspect _) fun _ =>
        Spares.bind (Spares.inspect _) fun tenantId =>
        Spares.bind (Spares.inspect _) fun connectorId =>
        Spares.bind (Spares.inspect _) fun username =>
        Spares.bind (Spares.inspect _) fun currentPassword =>
        Spares.bind (Spares.inspect _) fun newPassword =>
        Spares.bind (Spares.inspect _) fun _ =>
        Spares.bind (Spares.inspect _) fun connector => ?_
      apply Spares.onAccounts
      exact builtInConnectors_stay hashing connector
        (fun found => found.changePassword tenantId username
          currentPassword newPassword policy _)
        (LocalConnector.changePassword_stays _ _ _ _ _) (throws _)
  | resetPassword request =>
      apply mapped
      unfold resetPassword
      refine Spares.bind (Spares.inspect _) fun policy =>
        Spares.bind (Spares.inspect _) fun token =>
        Spares.bind (Spares.inspect _) fun newPassword =>
        Spares.bind (Spares.inspect _) fun _ => ?_
      apply Spares.consumeToken
      intro id tenantId username
      exact builtInConnectors_stay hashing id
        (fun found => found.resetPassword tenantId username
          newPassword policy _)
        (LocalConnector.resetPassword_stays _ _ _ _) (throws _)
  | forgotPassword request =>
      apply mapped
      unfold forgotPassword
      exact Spares.bind (Spares.inspect _) fun policy =>
        Spares.bind (Spares.inspect _) fun _ => Spares.mailToken _ _ _
  | requestEmailVerification request =>
      exact mapped (Spares.mailToken _ _ _)
  | verifyEmail request =>
      apply mapped
      unfold verifyEmail
      refine Spares.bind (Spares.inspect _) fun token => ?_
      apply Spares.consumeToken
      intro id tenantId username
      exact builtInConnectors_stay hashing id
        (fun found => found.markEmailVerified username)
        (LocalConnector.markEmailVerified_stays _) (throws _)
  | revokeChallenge token =>
      exact mapped fun self => Spares.of_same rfl rfl
  | signOut request =>
      apply mapped
      unfold signOut
      exact Spares.bind (Spares.inspect _) fun context => Spares.logout _ _ _

end Sparing

end CredentialRuntime

end AuthBoundry
