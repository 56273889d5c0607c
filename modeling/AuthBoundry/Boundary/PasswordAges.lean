import AuthBoundry.Boundary.PasswordRules
import AuthBoundry.Boundary.RefusedSignIns

/-!
# How old a password is

An account carries the time its password was changed at, and signing in turns
that time into a text and back before it compares.  A change and a reset record
their time; an account that is created records none, so that its first password
counts from the beginning of time.
-/

namespace AuthBoundry

open Library
open Library.Stateful

/-- A number that fits the clock of the boundary. -/
def IsTime (time : Int) : Prop :=
  -9223372036854775808 ≤ time ∧ time ≤ 9223372036854775807

namespace CredentialRuntime

variable {environment : CredentialEnvironment LocalDirectory}
  {hashing : PasswordHashing} {self : CredentialRuntime LocalDirectory}

/-! ## Signing in -/

/-- The mesh signs the caller in; what is left is to look at the age of the
password and at the address. -/
def Admits (environment : CredentialEnvironment LocalDirectory)
    (self : CredentialRuntime LocalDirectory) (request : BoundaryRequest)
    (authenticated : AuthenticatedSession) : Prop :=
  ∃ tenantId connector challenge mesh,
    request.field "tenant" = some tenantId ∧
      request.field "connector" = some connector ∧
      self.begin environment tenantId (attemptOf request tenantId connector) =
        .ok challenge ∧
      challenge.kind = .credentials ∧
      AuthMesh.signIn (environment.meshEnvironment self.accounts) tenantId
          (responseOf request tenantId challenge) (environment.clock 0)
          self.mesh =
        .ok authenticated mesh

/-- Signing in is refused because the password is too old. -/
def RefusesExpired (environment : CredentialEnvironment LocalDirectory)
    (self : CredentialRuntime LocalDirectory) (request : BoundaryRequest) :
    Prop :=
  ∃ err after, signIn environment request self = .error err after ∧
    err.denial = .passwordExpired

/-- A password set at a time is older than the policy allows. -/
def Expired (policy : PasswordPolicy) (now time : Int) : Prop :=
  ∃ days, policy.passwordExpirationDays = some days ∧
    (days : Int) * 86400 < now - time

theorem lt_saturatingSub_iff {days : Nat} (small : days < 2 ^ 32)
    (now time : Int) :
    (days : Int) * 86400 < saturatingSub now time ↔
      (days : Int) * 86400 < now - time := by
  unfold saturatingSub
  omega

/-- The age is judged by the time that the account carries. -/
theorem ensurePasswordNotExpired_identityOf
    (small : ∀ days ∈ self.passwordPolicy.passwordExpirationDays,
      days < 2 ^ 32)
    {username : String} {account : LocalAccount} {now : Int}
    (time : IsTime account.passwordChangedAt) :
    self.ensurePasswordNotExpired (LocalConnector.identityOf username account)
        now =
      .ok () ↔ ¬Expired self.passwordPolicy now account.passwordChangedAt := by
  let attributes :=
    (LocalConnector.identityOf username account).attributes
  have read : attributes["password_changed_at"]?.bind parseI64 =
      some account.passwordChangedAt := by
    change (account.attributes.insert _ _)["password_changed_at"]?.bind _ = _
    rw [Std.ExtTreeMap.getElem?_insert_self, Option.bind_some,
      parseI64_decimal time.1 time.2]
  unfold ensurePasswordNotExpired Expired
  have policy : self.effectivePasswordPolicy.policy.passwordExpirationDays =
      self.passwordPolicy.passwordExpirationDays :=
    rfl
  rw [policy]
  cases limited : self.passwordPolicy.passwordExpirationDays with
  | none => simp
  | some days =>
      have inside := small days limited
      dsimp only
      rw [read]
      dsimp only
      rw [refuseIf_eq_ok_iff, decide_eq_false_iff_not]
      change ¬(days : Int) * 86400 < _ ↔ _
      rw [lt_saturatingSub_iff inside]
      simp

theorem denial_of_expired {external : ExternalIdentity} {now : Int}
    {err : AuthError}
    (refused : self.ensurePasswordNotExpired external now = .error err) :
    err.denial = .passwordExpired := by
  unfold ensurePasswordNotExpired refuseIf at refused
  split at refused
  · cases refused
  · split at refused
    · cases refused
    · split at refused
      · cases refused
        rfl
      · cases refused

theorem config_signIn {outside : Environment} {mesh after : AuthMesh}
    {tenantId : String} {response : AuthResponse} {now : Int}
    {authenticated : AuthenticatedSession}
    (signed : AuthMesh.signIn outside tenantId response now mesh =
      .ok authenticated after) : after.config = mesh.config := by
  rw [AuthMesh.signIn_eq] at signed
  cases granted : mesh.signInGrounds outside tenantId response with
  | error err =>
      rw [granted] at signed
      cases signed
  | ok grounds =>
      obtain ⟨tenant, external, resolved⟩ := grounds
      rw [granted] at signed
      dsimp only at signed
      obtain ⟨opened, established, outcome⟩ := @AuthMesh.establish_cases
        outside mesh tenant external resolved now .login
      rcases outcome with ⟨err, failed, _⟩ | ⟨session, returned, _⟩
      · rw [failed] at signed
        cases signed
      · rw [returned] at signed
        cases signed
        exact (Prod.mk.inj established.contract).1

theorem refusesExpired_iff {request : BoundaryRequest}
    {authenticated : AuthenticatedSession}
    (admits : self.Admits environment request authenticated) :
    self.RefusesExpired environment request ↔
      self.ensurePasswordNotExpired authenticated.external
          (environment.clock 0) ≠
        .ok () := by
  obtain ⟨tenantId, connector, challenge, mesh, tenant, named, begun, asked,
    signed⟩ := admits
  have opened : signIn environment request self =
      afterOpening environment tenantId (environment.clock 0) authenticated
        (self.changeMesh mesh) := by
    unfold signIn
    rw [inspect_bind, requiredField_eq_ok_iff.mpr tenant]
    dsimp only
    rw [inspect_bind, requiredField_eq_ok_iff.mpr named]
    dsimp only
    rw [inspect_bind, begun]
    dsimp only
    rw [if_neg (by simp [asked]), bind_apply]
    have answered : onMesh environment (fun outside =>
        AuthMesh.signIn outside tenantId
          (responseOf request tenantId challenge) (environment.clock 0)) self =
        .ok authenticated (self.changeMesh mesh) := by
      unfold onMesh onPart
      dsimp only
      rw [signed]
    rw [answered]
    rfl
  unfold RefusesExpired
  rw [opened]
  unfold afterOpening
  rw [inspect_bind, ensurePasswordNotExpired_of_config (config_signIn signed)]
  cases age : self.ensurePasswordNotExpired authenticated.external
      (environment.clock 0) with
  | error err =>
      apply iff_of_true ?_ (by simp)
      exact ⟨err, _, rfl, denial_of_expired age⟩
  | ok _ =>
      apply iff_of_false ?_ (by simp)
      rintro ⟨err, after, failed, denied⟩
      dsimp only at failed
      rw [inspect_bind] at failed
      dsimp only at failed
      split at failed
      · cases failed
        cases denied
      · cases failed

/-! ## When a password was set -/

/-- When the password of an account was set, and whether the account was
created with it. -/
structure PasswordSetting where
  time : Int
  created : Bool
  deriving DecidableEq, Repr

/-- The last setting of a password, one call later: the call sets the password
where another hash is stored after it. -/
def settingAfter (username : String) (last : Option PasswordSetting)
    (before after : LocalDirectory) (time : Int) : Option PasswordSetting :=
  if after[username]?.map LocalAccount.passwordHash =
      before[username]?.map LocalAccount.passwordHash then
    last
  else
    some { time, created := before[username]?.isNone }

def lastSetting (hashChange : AuthorityChange → UInt64) (username : String) :
    CredentialRuntime LocalDirectory → Option PasswordSetting →
      List DirectoryStep → Option PasswordSetting
  | _, last, [] => last
  | self, last, taken :: steps =>
      let next := (histories hashChange).step self taken
      let last :=
        match taken with
        | .visit visit =>
            settingAfter username last self.accounts next.accounts visit.time
        | _ => last
      lastSetting hashChange username next last steps

/-- What a call reads is a clock within its range, and a hash that is checked
is accepted for the password that was hashed. -/
structure Visit.Sound (visit : Visit) : Prop where
  clock : ∀ reading, IsTime (visit.environment.clock reading)
  accepts : ∀ password hash,
    visit.hashing.hashPassword password = some hash →
      visit.hashing.verifies hash password = true

def DirectoryStep.Sound : DirectoryStep → Prop
  | .visit taken => taken.Sound
  | _ => True

/-- The time that an account carries is that of the last setting of its
password; an account that was created with it carries none. -/
def Recorded (username : String) (last : Option PasswordSetting)
    (accounts : LocalDirectory) : Prop :=
  ∀ account, accounts[username]? = some account →
    ∃ setting, last = some setting ∧ IsTime setting.time ∧
      account.passwordChangedAt =
        if setting.created then 0 else setting.time

theorem Recorded.visited {username : String} {last : Option PasswordSetting}
    (recorded : Recorded username last self.accounts) {visit : Visit}
    (sound : visit.Sound) :
    Recorded username
      (settingAfter username last self.accounts
        (self.visited visit).accounts visit.time)
      (self.visited visit).accounts := by
  intro later found
  unfold settingAfter
  rw [found, Option.map_some]
  rcases visited_setsAt visit username later found with
    ⟨account, stored, same⟩ | ⟨given, -, takes⟩
  · rw [stored, Option.map_some, same.hash, if_pos rfl, same.changedAt]
    exact recorded account stored
  · have times := takes.time
    have time : IsTime visit.time := by
      unfold Visit.time
      split <;> exact sound.clock _
    cases stored : self.accounts[username]? with
    | none =>
        rw [stored] at times
        rw [Option.map_none, if_neg (by simp)]
        exact ⟨_, rfl, time, times⟩
    | some account =>
        rw [stored] at times
        have fresh := takes.unused account stored account.passwordHash
          List.mem_cons_self
        have different : some later.passwordHash ≠
            some account.passwordHash := by
          intro same
          have accepted := sound.accepts given _ takes.hashed
          rw [Option.some.inj same, fresh] at accepted
          cases accepted
        rw [Option.map_some, if_neg different]
        exact ⟨_, rfl, time, times⟩

theorem recorded_run {hashChange : AuthorityChange → UInt64}
    {username : String} {steps : List DirectoryStep}
    (sound : ∀ taken ∈ steps, taken.Sound)
    {last : Option PasswordSetting}
    (recorded : Recorded username last self.accounts) :
    Recorded username (lastSetting hashChange username self last steps)
      ((histories hashChange).run self steps).accounts := by
  induction steps generalizing self last with
  | nil => exact recorded
  | cons taken steps induction =>
      obtain ⟨here, rest⟩ := List.forall_mem_cons.mp sound
      apply induction rest
      cases taken with
      | visit visit => exact recorded.visited here
      | control call => exact recorded
      | apply clock call => exact recorded
      | mesh call => exact recorded

/-! ## Every history -/

/-- The account carries the time its password was set at, or counting from the
beginning of time makes no difference. -/
def CountsAlike (policy : PasswordPolicy) (now : Int)
    (setting : PasswordSetting) : Prop :=
  setting.created = true →
    (Expired policy now 0 ↔ Expired policy now setting.time)

theorem Admits.account {request : BoundaryRequest}
    {authenticated : AuthenticatedSession}
    (admits : self.Admits (environment.withBuiltIn hashing) request
      authenticated) :
    ∃ account, self.accounts[authenticated.external.subject]? = some account ∧
      authenticated.external =
        LocalConnector.identityOf authenticated.external.subject account := by
  obtain ⟨tenantId, connector, challenge, mesh, -, -, -, -, signed⟩ := admits
  rw [AuthMesh.signIn_eq] at signed
  cases granted : self.mesh.signInGrounds
      ((environment.withBuiltIn hashing).meshEnvironment self.accounts)
      tenantId (responseOf request tenantId challenge) with
  | error err =>
      rw [granted] at signed
      cases signed
  | ok grounds =>
      obtain ⟨tenant, external, resolved⟩ := grounds
      rw [granted] at signed
      dsimp only at signed
      have checked := AuthMesh.signInGrounds_ok granted
      obtain ⟨username, account, -, stored, rfl⟩ :=
        authenticateExternal_local checked.proven
      obtain ⟨opened, _, outcome⟩ := @AuthMesh.establish_cases
        ((environment.withBuiltIn hashing).meshEnvironment self.accounts)
        self.mesh tenant (LocalConnector.identityOf username account) resolved
        ((environment.withBuiltIn hashing).clock 0) .login
      rcases outcome with ⟨err, failed, _⟩ | ⟨session, returned, _, _, same⟩
      · rw [failed] at signed
        cases signed
      · rw [returned] at signed
        cases signed
        rw [same]
        exact ⟨account, stored, rfl⟩

/-- In every history that starts without accounts, signing in is refused for
the age of the password as the policy and the time of its last setting ask for,
exactly if the password was changed or reset, or if it makes no difference that
the first password of an account has no time. -/
theorem refusesExpired_run_iff (hashChange : AuthorityChange → UInt64)
    {start : CredentialRuntime LocalDirectory} (empty : start.accounts = ∅)
    {steps : List DirectoryStep} (sound : ∀ taken ∈ steps, taken.Sound)
    (reached : (histories hashChange).run start steps = self)
    (small : ∀ days ∈ self.passwordPolicy.passwordExpirationDays,
      days < 2 ^ 32)
    {request : BoundaryRequest} {authenticated : AuthenticatedSession}
    (admits : self.Admits (environment.withBuiltIn hashing) request
      authenticated) :
    ∃ setting,
      lastSetting hashChange authenticated.external.subject start none steps =
          some setting ∧
        ((self.RefusesExpired (environment.withBuiltIn hashing) request ↔
            Expired self.passwordPolicy (environment.clock 0) setting.time) ↔
          CountsAlike self.passwordPolicy (environment.clock 0) setting) := by
  have nothing : Recorded authenticated.external.subject none
      start.accounts := by
    intro account stored
    rw [empty] at stored
    cases Std.ExtTreeMap.getElem?_empty.symm.trans stored
  have recorded := @recorded_run start hashChange _ _ sound none nothing
  rw [reached] at recorded
  obtain ⟨account, stored, same⟩ := admits.account
  obtain ⟨setting, isLast, time, carries⟩ := recorded account stored
  have range : IsTime account.passwordChangedAt := by
    rw [carries]
    split
    · exact ⟨by decide, by decide⟩
    · exact time
  have refused : self.RefusesExpired (environment.withBuiltIn hashing)
      request ↔ Expired self.passwordPolicy (environment.clock 0)
        account.passwordChangedAt := by
    rw [refusesExpired_iff admits, same, ne_eq,
      ensurePasswordNotExpired_identityOf small range, not_not]
    rfl
  refine ⟨setting, isLast, ?_⟩
  rw [refused, carries]
  unfold CountsAlike
  cases setting.created <;> simp

end CredentialRuntime

/-! ## A first password -/

/-- Alice registers, more than a day after the beginning of time. -/
def aliceRegisters : CredentialRuntime.Visit :=
  { environment := laterEnvironment
    hashing := plainHashing
    call := .signUp registeredSignIn }

def registeredRuntime : CredentialRuntime LocalDirectory :=
  expiringRuntime.visited aliceRegisters

theorem aliceRegisters_sound : aliceRegisters.Sound where
  clock := fun _ => (⟨by decide, by decide⟩ : IsTime 100000)
  accepts := by
    rintro password _ ⟨⟩
    exact beq_self_eq_true password

theorem exists_admits_alice : ∃ authenticated : AuthenticatedSession,
    authenticated.external.subject = "alice" ∧
      registeredRuntime.Admits (laterEnvironment.withBuiltIn plainHashing)
        registeredSignIn authenticated := by
  let outside := (laterEnvironment.withBuiltIn plainHashing).meshEnvironment
    registeredRuntime.accounts
  let challenge : AuthChallenge :=
    { connector := localId
      kind := .credentials
      state := challengeState localId (some "acme") "alice"
      parameters := (∅ : KeyedMap String String).insert "username" "alice" }
  have signed : ((returned (AuthMesh.signIn outside "acme"
      (responseOf registeredSignIn "acme" challenge) 100000
      registeredRuntime.mesh)).map fun outcome => outcome.1.external.subject) =
        some "alice" := by
    decide +kernel
  have begun : (registeredRuntime.begin
      (laterEnvironment.withBuiltIn plainHashing) "acme"
      (attemptOf registeredSignIn "acme" localId)).toOption =
        some challenge := by
    decide +kernel
  have tenant : registeredSignIn.field "tenant" = some "acme" := by
    decide +kernel
  have connector : registeredSignIn.field "connector" = some localId := by
    decide +kernel
  obtain ⟨⟨authenticated, mesh⟩, found, named⟩ :=
    Option.map_eq_some_iff.mp signed
  exact ⟨authenticated, named, "acme", localId, challenge, mesh, tenant,
    connector, except_toOption_eq_some begun, rfl, returned_eq_some found⟩

theorem lastSetting_alice (hashChange : AuthorityChange → UInt64) :
    CredentialRuntime.lastSetting hashChange "alice" expiringRuntime none
        [.visit aliceRegisters] =
      some { time := 100000, created := true } := by
  change CredentialRuntime.settingAfter "alice" none expiringRuntime.accounts
    registeredRuntime.accounts 100000 = _
  decide +kernel

theorem registered_sound :
    ∀ taken ∈ [CredentialRuntime.DirectoryStep.visit aliceRegisters],
      taken.Sound := by
  rintro _ member
  rw [List.mem_singleton.mp member]
  exact aliceRegisters_sound

theorem registered_small :
    ∀ days ∈ registeredRuntime.passwordPolicy.passwordExpirationDays,
      days < 2 ^ 32 := by
  decide +kernel

theorem refusesExpired_alice :
    ∃ authenticated : AuthenticatedSession, ∃ setting,
      CredentialRuntime.lastSetting (fun _ => 0)
          authenticated.external.subject expiringRuntime none
          [.visit aliceRegisters] =
        some setting ∧
      ((registeredRuntime.RefusesExpired
            (laterEnvironment.withBuiltIn plainHashing) registeredSignIn ↔
          CredentialRuntime.Expired registeredRuntime.passwordPolicy 100000
            setting.time) ↔
        CredentialRuntime.CountsAlike registeredRuntime.passwordPolicy 100000
          setting) := by
  obtain ⟨authenticated, -, admits⟩ := exists_admits_alice
  obtain ⟨setting, isLast, same⟩ :=
    CredentialRuntime.refusesExpired_run_iff (fun _ => 0) rfl registered_sound
      rfl registered_small admits
  exact ⟨authenticated, setting, isLast, same⟩

/-- She is refused at the moment she registered at. -/
theorem firstPassword_expires :
    ¬∀ (hashChange : AuthorityChange → UInt64)
      (start : CredentialRuntime LocalDirectory), start.accounts = ∅ →
      ∀ steps : List CredentialRuntime.DirectoryStep,
        (∀ taken ∈ steps, taken.Sound) →
      ∀ self, (CredentialRuntime.histories hashChange).run start steps = self →
        (∀ days ∈ self.passwordPolicy.passwordExpirationDays,
          days < 2 ^ 32) →
      ∀ (environment : CredentialEnvironment LocalDirectory)
        (hashing : PasswordHashing) (request : BoundaryRequest)
        (authenticated : AuthenticatedSession),
        self.Admits (environment.withBuiltIn hashing) request authenticated →
      ∀ setting,
        CredentialRuntime.lastSetting hashChange authenticated.external.subject
            start none steps =
          some setting →
        (self.RefusesExpired (environment.withBuiltIn hashing) request ↔
          CredentialRuntime.Expired self.passwordPolicy (environment.clock 0)
            setting.time) := by
  intro expires
  obtain ⟨authenticated, named, admits⟩ := exists_admits_alice
  have isLast := lastSetting_alice fun _ => 0
  rw [← named] at isLast
  have refused : registeredRuntime.RefusesExpired
      (laterEnvironment.withBuiltIn plainHashing) registeredSignIn := by
    have outcome : (match CredentialRuntime.signIn
        (laterEnvironment.withBuiltIn plainHashing) registeredSignIn
          registeredRuntime with
      | .error err _ => err.denial == .passwordExpired
      | .ok _ _ => false) = true := by
      decide +kernel
    split at outcome
    · rename_i err after failed
      exact ⟨err, after, failed, eq_of_beq outcome⟩
    · cases outcome
  obtain ⟨days, -, old⟩ := (expires (fun _ => 0) expiringRuntime rfl _
    registered_sound registeredRuntime rfl registered_small _ _ _ _ admits _
    isLast).mp refused
  change (days : Int) * 86400 < 100000 - 100000 at old
  omega

end AuthBoundry
