import AuthBoundry.Boundary.Credentials
import AuthBoundry.Runtime.Outcomes

/-!
# What a credential flow is granted on

A flow refuses a request if one of its checks does, and then leaves the runtime
as it was.  The checks are collected here for each flow; a request that passes
them all either succeeds or leaves a trace: an event in the audit trail, or a
change of the accounts.
-/

namespace AuthBoundry

open Library
open Library.Stateful

/-! ## Events in the audit trail -/

namespace AuthMesh

variable {environment : Environment}

/-- Whatever becomes of a session that is opened, it counts one event. -/
theorem establish_auditSequence (kind : AuditEventKind)
    (tenant : TenantContext) (external : ExternalIdentity)
    (resolved : ResolvedPrincipal) (now : Int) (self : AuthMesh) :
    (finalState (establish environment kind tenant external resolved now
      self)).auditSequence = self.auditSequence + 1 := by
  have outcome : establish environment kind tenant external resolved now
      self = _ :=
    establish_eq kind tenant external resolved now self
  rw [outcome]
  cases environment.auditFault self.auditSequence with
  | some err => rfl
  | none =>
      dsimp only
      split <;> rfl

theorem signIn_auditSequence {tenantId : String} {response : AuthResponse}
    {now : Int} {self : AuthMesh}
    {grounds : TenantContext × ExternalIdentity × ResolvedPrincipal}
    (granted : self.signInGrounds environment tenantId response =
      .ok grounds) :
    (finalState (signIn environment tenantId response now
      self)).auditSequence = self.auditSequence + 1 := by
  rw [signIn_eq, granted]
  exact establish_auditSequence _ _ _ _ _ self

theorem signUp_auditSequence {tenantId : String} {response : AuthResponse}
    {registration : Registration} {now : Int} {self : AuthMesh}
    {grounds : TenantContext × ExternalIdentity × Claims}
    (granted : self.signUpGrounds environment tenantId response registration =
      .ok grounds) :
    (finalState (signUp environment tenantId response registration now
      self)).auditSequence = self.auditSequence + 1 := by
  rw [signUp_eq, granted]
  exact establish_auditSequence _ _ _ _ _ _

theorem exists_signInGrounds {tenantId : String} {response : AuthResponse}
    {now : Int} {self : AuthMesh}
    (entered : ¬Refuses (signIn environment tenantId response now) self) :
    ∃ grounds,
      self.signInGrounds environment tenantId response = .ok grounds := by
  cases granted : self.signInGrounds environment tenantId response with
  | ok grounds => exact ⟨grounds, rfl⟩
  | error err =>
      have refused : signIn environment tenantId response now self = _ :=
        signIn_eq tenantId response now self
      rw [granted] at refused
      exact absurd ⟨err, refused⟩ entered

theorem exists_signUpGrounds {tenantId : String} {response : AuthResponse}
    {registration : Registration} {now : Int} {self : AuthMesh}
    (entered :
      ¬Refuses (signUp environment tenantId response registration now) self) :
    ∃ grounds,
      self.signUpGrounds environment tenantId response registration =
        .ok grounds := by
  cases granted : self.signUpGrounds environment tenantId response
      registration with
  | ok grounds => exact ⟨grounds, rfl⟩
  | error err =>
      have refused :
          signUp environment tenantId response registration now self = _ :=
        signUp_eq tenantId response registration now self
      rw [granted] at refused
      exact absurd ⟨err, refused⟩ entered

theorem logout_auditSequence (tenantId : String) (sessionId : SessionId)
    (now : Int) (self : AuthMesh) :
    self.auditSequence ≤
      (finalState (logout environment tenantId sessionId now
        self)).auditSequence := by
  rw [logout_eq]
  cases self.tenant tenantId with
  | error err => exact Nat.le_refl _
  | ok tenant =>
      dsimp only
      cases self.stores.sessions.revokeSession tenant sessionId now with
      | error err => exact Nat.le_refl _
      | ok written =>
          dsimp only
          rw [finish_eq]
          split <;> exact Nat.le_succ _

end AuthMesh

namespace CredentialRuntime

variable {Accounts : Type} {environment : CredentialEnvironment Accounts}
  {self : CredentialRuntime Accounts} {request : BoundaryRequest}

/-! ## Parts -/

@[simp] theorem mesh_changeMesh (self : CredentialRuntime Accounts)
    (mesh : AuthMesh) : (self.changeMesh mesh).mesh = mesh := rfl

theorem ensurePasswordNotExpired_of_config {mesh : AuthMesh}
    (config : mesh.config = self.mesh.config) (external : ExternalIdentity)
    (now : Int) :
    (self.changeMesh mesh).ensurePasswordNotExpired external now =
      self.ensurePasswordNotExpired external now := by
  have policy : (self.changeMesh mesh).effectivePasswordPolicy.policy =
      self.effectivePasswordPolicy.policy := by
    change self.authority.passwordPolicy.getD mesh.config.passwordPolicy = _
    rw [config]
    rfl
  unfold ensurePasswordNotExpired
  rw [policy]

theorem changeMesh_eq_iff {mesh : AuthMesh} :
    self.changeMesh mesh = self ↔ mesh = self.mesh := by
  constructor
  · intro same
    rw [← same]
    rfl
  · rintro rfl
    rfl

theorem changeAccounts_eq_iff {accounts : Accounts} :
    self.changeAccounts accounts = self ↔ accounts = self.accounts := by
  constructor
  · intro same
    rw [← same]
    rfl
  · rintro rfl
    rfl

theorem finalState_onMesh {α : Type} (program : Environment → MeshM α) :
    finalState (onMesh environment program self) =
      self.changeMesh (finalState
        (program (environment.meshEnvironment self.accounts) self.mesh)) := by
  unfold onMesh
  exact finalState_onPart mesh changeMesh _ self

theorem refuses_onMesh_iff {α : Type} {program : Environment → MeshM α} :
    Refuses (onMesh environment program) self ↔
      Refuses (program (environment.meshEnvironment self.accounts))
        self.mesh := by
  change Refuses (onPart mesh changeMesh
    (program (environment.meshEnvironment self.accounts))) self ↔ _
  exact refuses_onPart_iff fun _ _ _ => changeMesh_eq_iff

theorem refuses_onAccounts_iff {α : Type} {program : ConnectorM Accounts α} :
    Refuses (onAccounts program) self ↔ Refuses program self.accounts := by
  unfold onAccounts
  rw [refuses_onPart_iff fun _ _ _ => changeAccounts_eq_iff, refuses_translate_iff]

theorem mailToken_within
    {relation : CredentialRuntime Accounts → CredentialRuntime Accounts → Prop}
    {mailed : TokenMail} {now : Int} (reflexive : ∀ self, relation self self)
    (transitive : ∀ first middle last, relation first middle →
      relation middle last → relation first last)
    (issued : ∀ (self : CredentialRuntime Accounts) tenantId account,
      relation self
        (self.changeChallenges
          (self.challenges.issue environment.hash environment.randomBytes
            mailed.kind tenantId account (now + mailed.lifetime)).2)) :
    Within relation (mailToken environment mailed request now) := by
  have asked : ∀ {α : Type}
      (query : CredentialRuntime Accounts → Except AuthError α),
      Within relation (inspect query) :=
    fun query => Within.inspect relation reflexive query
  unfold mailToken
  apply Within.bind relation transitive (asked _)
  intro _
  apply Within.bind relation transitive (asked _)
  intro tenantId
  apply Within.bind relation transitive (asked _)
  intro connectorId
  apply Within.bind relation transitive (asked _)
  intro username
  apply Within.bind relation transitive (asked _)
  intro address
  cases address with
  | none => exact reflexive
  | some address =>
  cases environment.mail with
  | none => exact reflexive
  | some mail =>
      apply Within.bind relation transitive ?_ fun token => asked _
      intro self
      exact issued self tenantId (challengeAccount connectorId username)

theorem mailToken_frames {γ : Type} {view : CredentialRuntime Accounts → γ}
    (unseen : ∀ self challenges,
      view (self.changeChallenges challenges) = view self)
    (mailed : TokenMail) (now : Int) :
    Frames view (mailToken environment mailed request now) := by
  apply @mailToken_within _ _ _ fun before after => view after = view before
  · intro self
    rfl
  · intro first middle last before after
    exact after.trans before
  · intro self tenantId account
    exact unseen self _

/-- The trail does not get shorter, and the accounts stay. -/
structure Onward (before after : CredentialRuntime Accounts) : Prop where
  counted : before.mesh.auditSequence ≤ after.mesh.auditSequence
  accounts : after.accounts = before.accounts

namespace Onward

theorem refl (self : CredentialRuntime Accounts) : Onward self self :=
  ⟨Nat.le_refl _, rfl⟩

theorem trans {first second third : CredentialRuntime Accounts}
    (before : Onward first second) (after : Onward second third) :
    Onward first third :=
  ⟨before.counted.trans after.counted,
    after.accounts.trans before.accounts⟩

theorem logout (tenantId : String) (sessionId : SessionId) (now : Int) :
    Within Onward
      (attempt (onMesh environment fun outside =>
          AuthMesh.logout outside tenantId sessionId now) :
        CredentialM Accounts Unit) := by
  intro self
  change Onward self (finalState (onMesh environment _ self))
  rw [finalState_onMesh]
  exact ⟨AuthMesh.logout_auditSequence tenantId sessionId now self.mesh, rfl⟩

theorem inspect {α : Type}
    (query : CredentialRuntime Accounts → Except AuthError α) :
    Within Onward (Stateful.inspect query) :=
  Within.inspect Onward refl query

theorem bind {α β : Type} {program : CredentialM Accounts α}
    {next : α → CredentialM Accounts β} (first : Within Onward program)
    (rest : ∀ value, Within Onward (next value)) :
    Within Onward (program >>= next) :=
  Within.bind Onward (fun _ _ _ => trans) first rest

theorem mailToken (mailed : TokenMail) (request : BoundaryRequest)
    (now : Int) :
    Within Onward (CredentialRuntime.mailToken environment mailed request
      now) := by
  apply mailToken_within refl fun _ _ _ => trans
  intro self tenantId account
  exact ⟨Nat.le_refl _, rfl⟩

theorem startVerification (request : BoundaryRequest) (tenantId : String)
    (session : SessionId) (now : Int) :
    Within Onward (CredentialRuntime.startVerification environment request
      tenantId session now) := by
  unfold CredentialRuntime.startVerification
  refine bind (inspect _) fun verifies => ?_
  split
  · refine bind (mailToken _ _ _) fun _ => ?_
    split
    · exact logout tenantId session now
    · exact refl
  · exact refl

end Onward

theorem not_refuses_of_counted {α β : Type} {program : CredentialM Accounts α}
    {next : α → CredentialM Accounts β}
    (counted : self.mesh.auditSequence <
      (finalState (program self)).mesh.auditSequence)
    (rest : ∀ value, Within Onward (next value)) :
    ¬Refuses (program >>= next) self := by
  apply not_refuses_of_final
  have onward : Onward (finalState (program self))
      (finalState ((program >>= next) self)) := by
    rw [bind_apply]
    cases program self with
    | ok value middle => exact rest value middle
    | error failure middle => exact Onward.refl middle
  have further := Nat.lt_of_lt_of_le counted onward.counted
  intro same
  rw [same] at further
  exact Nat.lt_irrefl _ further

/-! ## Fields -/

theorem requiredField_eq_ok_iff {name value : String} :
    requiredField request name = .ok value ↔
      request.field name = some value := by
  unfold requiredField
  cases request.field name with
  | none => simp
  | some found => simp

theorem not_refuses_requiredField_iff {β : Type} {name : String}
    {next : String → CredentialM Accounts β} :
    ¬Refuses (inspect (fun _ => requiredField request name) >>= next) self ↔
      ∃ value, request.field name = some value ∧
        ¬Refuses (next value) self := by
  rw [not_refuses_inspect_bind_iff]
  simp only [requiredField_eq_ok_iff]

theorem not_refuses_check_iff {β : Type}
    {check : CredentialRuntime Accounts → Except AuthError Unit}
    {next : Unit → CredentialM Accounts β} :
    ¬Refuses (inspect check >>= next) self ↔
      check self = .ok () ∧ ¬Refuses (next ()) self := by
  rw [not_refuses_inspect_bind_iff]
  constructor
  · rintro ⟨⟨⟩, passed, rest⟩
    exact ⟨passed, rest⟩
  · rintro ⟨passed, rest⟩
    exact ⟨(), passed, rest⟩

theorem not_refuses_ask_iff {α β : Type}
    {question : CredentialRuntime Accounts → α}
    {next : α → CredentialM Accounts β} :
    ¬Refuses (inspect (fun self => .ok (question self)) >>= next) self ↔
      ¬Refuses (next (question self)) self := by
  rw [not_refuses_inspect_bind_iff]
  constructor
  · rintro ⟨_, answered, rest⟩
    cases answered
    exact rest
  · intro rest
    exact ⟨_, rfl, rest⟩

/-! ## Signing in -/

/-- What signing in is granted on: the connector begins the attempt, and if it
asks for credentials, the mesh knows a usable principal for them. -/
def GrantsSignIn (environment : CredentialEnvironment Accounts)
    (self : CredentialRuntime Accounts) (request : BoundaryRequest) : Prop :=
  ∃ tenantId, request.field "tenant" = some tenantId ∧
    ∃ connector, request.field "connector" = some connector ∧
      ∃ challenge,
        self.begin environment tenantId
            (attemptOf request tenantId connector) = .ok challenge ∧
          (challenge.kind = .credentials →
            ∃ grounds,
              self.mesh.signInGrounds
                  (environment.meshEnvironment self.accounts) tenantId
                  (responseOf request tenantId challenge) = .ok grounds)

theorem not_refuses_signIn_iff :
    ¬Refuses (signIn environment request) self ↔
      self.GrantsSignIn environment request := by
  unfold signIn GrantsSignIn
  rw [not_refuses_requiredField_iff]
  refine exists_congr fun tenantId => and_congr_right fun _ => ?_
  rw [not_refuses_requiredField_iff]
  refine exists_congr fun connector => and_congr_right fun _ => ?_
  rw [not_refuses_inspect_bind_iff]
  refine exists_congr fun challenge => and_congr_right fun _ => ?_
  by_cases asked : challenge.kind = .credentials
  · rw [if_neg (by simp [asked])]
    simp only [asked, forall_const]
    constructor
    · intro proceeds
      have entered := (not_refuses_bind_iff.mp proceeds).1
      rw [refuses_onMesh_iff] at entered
      exact AuthMesh.exists_signInGrounds entered
    · rintro ⟨grounds, granted⟩
      apply not_refuses_of_counted
      · rw [finalState_onMesh, mesh_changeMesh,
          AuthMesh.signIn_auditSequence granted]
        exact Nat.lt_succ_self _
      · intro authenticated
        refine Onward.bind (Onward.inspect _) fun _ =>
          Onward.bind (Onward.inspect _) fun unverified => ?_
        split
        · exact Onward.bind (Onward.logout _ _ _) fun _ => Onward.refl
        · exact Onward.refl
  · rw [if_pos (by simp [asked])]
    simp only [asked, false_implies, iff_true]
    exact not_refuses_pure _ self

/-! ## Signing up -/

def creation (environment : CredentialEnvironment Accounts)
    (self : CredentialRuntime Accounts) (request : BoundaryRequest)
    (connector username password : String) :
    EStateM.Result ConnectorError Accounts Unit :=
  (environment.connectors connector).createAccount username password
    (self.signUpAttributes request username) self.accounts

/-- What a registration is granted on once the connector asks for credentials.
Where the local directory lacks the account, one is created first. -/
def GrantsRegistration (environment : CredentialEnvironment Accounts)
    (self : CredentialRuntime Accounts) (request : BoundaryRequest)
    (tenantId connector : String) (response : AuthResponse)
    (claims : KeyedMap String String) : Prop :=
  let known := ∃ grounds,
    self.mesh.signUpGrounds (environment.meshEnvironment self.accounts)
      tenantId response { kind := .human, claims } = .ok grounds
  if self.lacksAccount environment connector response then
    ∃ username, request.field "username" = some username ∧
      ∃ password, request.field "password" = some password ∧
        let created :=
          self.creation environment request connector username password
        finalState created ≠ self.accounts ∨
          created = .ok () self.accounts ∧ known
  else
    known

/-- What signing up is granted on. -/
def GrantsSignUp (environment : CredentialEnvironment Accounts)
    (self : CredentialRuntime Accounts) (request : BoundaryRequest) : Prop :=
  ∃ claims, self.registrationClaims = .ok claims ∧
    ∃ tenantId, request.field "tenant" = some tenantId ∧
      ∃ connector, request.field "connector" = some connector ∧
        (∃ registered, self.connector connector = .ok registered ∧
          self.checkNewPassword environment request connector = .ok () ∧
          ∃ challenge,
            self.begin environment tenantId
                (attemptOf request tenantId connector) = .ok challenge ∧
              (challenge.kind = .credentials →
                self.GrantsRegistration environment request tenantId connector
                  (responseOf request tenantId challenge) claims))

section Registration

variable {tenantId connector : String} {response : AuthResponse}
  {claims : KeyedMap String String}

def register (environment : CredentialEnvironment Accounts)
    (request : BoundaryRequest) (tenantId : String) (response : AuthResponse)
    (claims : KeyedMap String String) : CredentialM Accounts SignInOutcome :=
  do
  let authenticated ← onMesh environment fun outside =>
    AuthMesh.signUp outside tenantId response { kind := .human, claims }
      (environment.clock 0)
  startVerification environment request tenantId authenticated.session.id
    (environment.clock 0)
  pure (signedIn authenticated)

theorem not_refuses_register_iff :
    ¬Refuses (register environment request tenantId response claims) self ↔
      ∃ grounds,
        self.mesh.signUpGrounds (environment.meshEnvironment self.accounts)
          tenantId response { kind := .human, claims } = .ok grounds := by
  unfold register
  constructor
  · intro proceeds
    have entered := (not_refuses_bind_iff.mp proceeds).1
    rw [refuses_onMesh_iff] at entered
    exact AuthMesh.exists_signUpGrounds entered
  · rintro ⟨grounds, granted⟩
    apply not_refuses_of_counted
    · rw [finalState_onMesh, mesh_changeMesh,
        AuthMesh.signUp_auditSequence granted]
      exact Nat.lt_succ_self _
    · intro authenticated
      exact Onward.bind (Onward.startVerification _ _ _ _) fun _ => Onward.refl

theorem register_onward :
    Within Onward (register environment request tenantId response claims) := by
  unfold register
  refine Onward.bind ?_ fun authenticated =>
    Onward.bind (Onward.startVerification _ _ _ _) fun _ => Onward.refl
  intro self
  rw [finalState_onMesh]
  refine ⟨?_, rfl⟩
  rw [mesh_changeMesh]
  cases granted : self.mesh.signUpGrounds
      (environment.meshEnvironment self.accounts) tenantId response
      { kind := .human, claims } with
  | ok grounds =>
      rw [AuthMesh.signUp_auditSequence granted]
      exact Nat.le_succ _
  | error err =>
      rw [AuthMesh.signUp_eq, granted]
      exact Nat.le_refl _

theorem not_refuses_create_iff {username password : String} :
    ¬Refuses
        (onAccounts
            ((environment.connectors connector).createAccount username password
              (self.signUpAttributes request username)) >>= fun _ =>
          register environment request tenantId response claims) self ↔
      finalState (self.creation environment request connector username
          password) ≠ self.accounts ∨
        self.creation environment request connector username password =
            .ok () self.accounts ∧
          ∃ grounds,
            self.mesh.signUpGrounds (environment.meshEnvironment self.accounts)
              tenantId response { kind := .human, claims } = .ok grounds := by
  have registers :
      ¬Refuses (register environment request tenantId response claims) self ↔
        _ := not_refuses_register_iff
  rw [← registers]
  unfold Refuses
  rw [bind_apply]
  unfold onAccounts onPart Stateful.translate creation
  cases (environment.connectors connector).createAccount username password
      (self.signUpAttributes request username) self.accounts with
  | error err accounts =>
      simp only [finalState_error, EStateM.Result.error.injEq,
        changeAccounts_eq_iff, reduceCtorEq, false_and, or_false,
        exists_eq_left', ne_eq]
  | ok value accounts =>
      simp only [finalState_ok, EStateM.Result.ok.injEq, true_and, ne_eq]
      by_cases same : accounts = self.accounts
      · rw [changeAccounts_eq_iff.mpr same]
        simp [same]
      · simp only [same, not_false_eq_true, false_and, or_false, iff_true]
        rintro ⟨failure, refused⟩
        have onward : Onward (self.changeAccounts accounts) (finalState
            (register environment request tenantId response claims
              (self.changeAccounts accounts))) :=
          register_onward _
        rw [refused] at onward
        exact same onward.accounts.symm

theorem not_refuses_registration_iff :
    ¬Refuses
        (createMissingAccount environment request connector response >>=
          fun _ => register environment request tenantId response claims)
        self ↔
      self.GrantsRegistration environment request tenantId connector response
        claims := by
  unfold createMissingAccount GrantsRegistration
  rw [bind_assoc, not_refuses_ask_iff]
  by_cases lacks : self.lacksAccount environment connector response = true
  · rw [if_pos lacks, if_pos lacks, bind_assoc, not_refuses_requiredField_iff]
    refine exists_congr fun username => and_congr_right fun _ => ?_
    rw [bind_assoc, not_refuses_requiredField_iff]
    refine exists_congr fun password => and_congr_right fun _ => ?_
    rw [bind_assoc, not_refuses_ask_iff]
    exact not_refuses_create_iff
  · rw [if_neg lacks, if_neg lacks, pure_bind]
    exact not_refuses_register_iff

theorem not_refuses_signUp_iff :
    ¬Refuses (signUp environment request) self ↔
      self.GrantsSignUp environment request := by
  unfold signUp GrantsSignUp
  rw [not_refuses_inspect_bind_iff]
  refine exists_congr fun claims => and_congr_right fun _ => ?_
  rw [not_refuses_requiredField_iff]
  refine exists_congr fun tenantId => and_congr_right fun _ => ?_
  rw [not_refuses_requiredField_iff]
  refine exists_congr fun connector => and_congr_right fun _ => ?_
  rw [not_refuses_inspect_bind_iff]
  refine exists_congr fun registered => and_congr_right fun _ => ?_
  rw [not_refuses_check_iff]
  refine and_congr_right fun _ => ?_
  rw [not_refuses_inspect_bind_iff]
  refine exists_congr fun challenge => and_congr_right fun _ => ?_
  by_cases asked : challenge.kind = .credentials
  · rw [if_neg (by simp [asked])]
    simp only [asked, forall_const]
    exact not_refuses_registration_iff
  · rw [if_pos (by simp [asked])]
    simp only [asked, false_implies, iff_true]
    exact not_refuses_pure _ self

end Registration

/-! ## Passwords -/

def GrantsPasswordChange (environment : CredentialEnvironment Accounts)
    (self : CredentialRuntime Accounts) (request : BoundaryRequest) : Prop :=
  let policy := self.effectivePasswordPolicy.policy
  policy.allowPasswordChange = true ∧
    ∃ tenantId, request.field "tenant" = some tenantId ∧
      ∃ connectorId, request.field "connector" = some connectorId ∧
        ∃ username, request.field "username" = some username ∧
          ∃ currentPassword,
            request.field "current_password" = some currentPassword ∧
              ∃ newPassword,
                request.field "new_password" = some newPassword ∧
                  validatePasswordWith newPassword policy = .ok () ∧
                    ∃ connector, self.connector connectorId = .ok connector ∧
                      ¬Refuses
                        ((environment.connectors connector).changePassword
                          tenantId username currentPassword newPassword policy
                          (environment.clock 0)) self.accounts

theorem not_refuses_changePassword_iff :
    ¬Refuses (changePassword environment request) self ↔
      self.GrantsPasswordChange environment request := by
  unfold changePassword GrantsPasswordChange
  rw [not_refuses_ask_iff, not_refuses_check_iff, refuseIf_eq_ok_iff,
    Bool.not_eq_false']
  refine and_congr_right fun _ => ?_
  rw [not_refuses_requiredField_iff]
  refine exists_congr fun tenantId => and_congr_right fun _ => ?_
  rw [not_refuses_requiredField_iff]
  refine exists_congr fun connectorId => and_congr_right fun _ => ?_
  rw [not_refuses_requiredField_iff]
  refine exists_congr fun username => and_congr_right fun _ => ?_
  rw [not_refuses_requiredField_iff]
  refine exists_congr fun currentPassword => and_congr_right fun _ => ?_
  rw [not_refuses_requiredField_iff]
  refine exists_congr fun newPassword => and_congr_right fun _ => ?_
  rw [not_refuses_check_iff]
  refine and_congr_right fun _ => ?_
  rw [not_refuses_inspect_bind_iff]
  refine exists_congr fun connector => and_congr_right fun _ => ?_
  rw [refuses_onAccounts_iff]

/-- What an operation behind a token is granted on: the token opens a
challenge, and the connector that the challenge names does the operation, or
its accounts change as it fails. -/
def GrantsToken (environment : CredentialEnvironment Accounts)
    (self : CredentialRuntime Accounts) (token : String) (kind : CeremonyKind)
    (operation : AuthConnector Accounts → String → String →
      ConnectorM Accounts Unit) : Prop :=
  ∃ entry,
    self.challenges.open? environment.hash token kind (environment.clock 0) =
        .ok entry ∧
      ∃ connectorId username,
        splitOnce '\x00' entry.account = some (connectorId, username) ∧
          ∃ connector, self.mesh.registry.get connectorId = .ok connector ∧
            ¬Refuses
              (operation (environment.connectors connector) entry.tenant
                username) self.accounts

section Tokens

variable {token unsplit : String} {kind : CeremonyKind}
  {operation : AuthConnector Accounts → String → String →
    ConnectorM Accounts Unit}

theorem tokenOperation_challenges (tenantId account : String) :
    Frames challenges
      (tokenOperation environment unsplit operation tenantId account) := by
  unfold tokenOperation
  refine Frames.bind (Frames.inspect _) fun parts => ?_
  refine Frames.bind (Frames.inspect _) fun connector => ?_
  intro self
  rw [finalState_onPart]
  rfl

theorem not_refuses_tokenOperation_iff {tenantId account : String} :
    ¬Refuses (tokenOperation environment unsplit operation tenantId account)
        self ↔
      ∃ connectorId username,
        splitOnce '\x00' account = some (connectorId, username) ∧
          ∃ connector, self.mesh.registry.get connectorId = .ok connector ∧
            ¬Refuses
              (operation (environment.connectors connector) tenantId username)
              self.accounts := by
  unfold tokenOperation
  rw [not_refuses_inspect_bind_iff]
  unfold splitAccount
  cases splitOnce '\x00' account with
  | none => simp
  | some parts =>
      obtain ⟨connectorId, username⟩ := parts
      have performs : ∀ connector, Refuses
          (onPart accounts changeAccounts
            (translate ConnectorError.display
              (operation (environment.connectors connector) tenantId
                username))) self ↔
            Refuses
              (operation (environment.connectors connector) tenantId username)
              self.accounts := by
        intro connector
        rw [refuses_onPart_iff fun _ _ _ => changeAccounts_eq_iff,
          refuses_translate_iff]
      simp only [Except.ok.injEq, exists_eq_left', Option.some.injEq,
        Prod.mk.injEq, not_refuses_inspect_bind_iff, performs,
        except_mapError_eq_ok_iff]
      constructor
      · rintro ⟨connector, found, granted⟩
        exact ⟨connectorId, username, ⟨rfl, rfl⟩, connector, found, granted⟩
      · rintro ⟨_, _, ⟨rfl, rfl⟩, connector, found, granted⟩
        exact ⟨connector, found, granted⟩

theorem changeChallenges_self {after : CredentialRuntime Accounts}
    (kept : after.challenges = self.challenges) :
    after.changeChallenges self.challenges = after := by
  rw [← kept]
  rfl

theorem not_refuses_consumeToken_iff :
    ¬Refuses (consumeToken environment token kind unsplit operation) self ↔
      self.GrantsToken environment token kind operation := by
  unfold consumeToken GrantsToken
  rw [refuses_translate_iff, refuses_onPart_iff,
    ChallengeStore.not_refuses_consumeWith_iff]
  · refine exists_congr fun entry => and_congr_right fun _ => ?_
    exact not_refuses_tokenOperation_iff
  · rintro failure ⟨store, after⟩ failed
    obtain ⟨rfl, kept⟩ := ChallengeStore.consumeWith_failed
      tokenOperation_challenges failed
    change after.changeChallenges self.challenges = self ↔ _
    rw [changeChallenges_self kept]
    simp

def GrantsPasswordReset (environment : CredentialEnvironment Accounts)
    (self : CredentialRuntime Accounts) (request : BoundaryRequest) : Prop :=
  let policy := self.effectivePasswordPolicy.policy
  ∃ token, request.field "token" = some token ∧
    ∃ newPassword, newPasswordOf request = .ok newPassword ∧
      validatePasswordWith newPassword policy = .ok () ∧
        self.GrantsToken environment token .passwordReset
          fun connector tenantId username =>
            connector.resetPassword tenantId username newPassword policy
              (environment.clock 1)

theorem not_refuses_resetPassword_iff :
    ¬Refuses (resetPassword environment request) self ↔
      self.GrantsPasswordReset environment request := by
  unfold resetPassword GrantsPasswordReset
  rw [not_refuses_ask_iff, not_refuses_requiredField_iff]
  refine exists_congr fun token => and_congr_right fun _ => ?_
  rw [not_refuses_inspect_bind_iff]
  refine exists_congr fun newPassword => and_congr_right fun _ => ?_
  rw [not_refuses_check_iff]
  refine and_congr_right fun _ => ?_
  exact not_refuses_consumeToken_iff

end Tokens

end CredentialRuntime

end AuthBoundry
