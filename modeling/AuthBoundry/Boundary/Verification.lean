import AuthBoundry.Boundary.OpenedSessions

/-!
# Sessions of unverified accounts

Signing in and up open a session first and close it again if the account still
waits for its verification.  What closes it is different in the two flows, and
in both a failure on the way leaves the session open.  The runs in which no
unverified account has a live session are those in which every session of such
an account is reached by the step that closes it.
-/

namespace AuthBoundry

open Library
open Library.Stateful

namespace CredentialRuntime

variable {environment : CredentialEnvironment LocalDirectory}
  {hashing : PasswordHashing} {self : CredentialRuntime LocalDirectory}

/-! ## Signing in -/

/-- Nothing fails between the opening of the session and the look at its
account, if the account is unverified. -/
def ClosesSession (environment : CredentialEnvironment LocalDirectory)
    (self : CredentialRuntime LocalDirectory) (tenantId : String)
    (response : AuthResponse) : Prop :=
  ∀ tenant external resolved,
    self.mesh.signInGrounds (environment.meshEnvironment self.accounts)
        tenantId response = .ok (tenant, external, resolved) →
      self.awaitsVerification external = true →
        self.mesh.Establishes (environment.meshEnvironment self.accounts)
            tenant resolved.principal (environment.clock 0) ∧
          self.ensurePasswordNotExpired external (environment.clock 0) =
            .ok ()

/-- Where signing in opens the session of an unverified account, it closes
it. -/
def ClosesSignIn (environment : CredentialEnvironment LocalDirectory)
    (self : CredentialRuntime LocalDirectory) (request : BoundaryRequest) :
    Prop :=
  ∀ tenantId, request.field "tenant" = some tenantId →
    ∀ connector, request.field "connector" = some connector →
      ∀ challenge,
        self.begin environment tenantId
            (attemptOf request tenantId connector) = .ok challenge →
          challenge.kind = .credentials →
            self.ClosesSession environment tenantId
              (responseOf request tenantId challenge)

def admitted (environment : CredentialEnvironment LocalDirectory)
    (tenantId : String) (authenticated : AuthenticatedSession) :
    CredentialM LocalDirectory SignInOutcome := do
  inspect fun self =>
    self.ensurePasswordNotExpired authenticated.external (environment.clock 0)
  let unverified ← inspect fun self =>
    .ok (self.awaitsVerification authenticated.external)
  if unverified then
    attempt (onMesh environment fun outside =>
      AuthMesh.logout outside tenantId authenticated.session.id
        (environment.clock 0))
    throw
      (passwordError "Please verify your email address before signing in."
        .policyDenied)
  else
    pure (signedIn authenticated)

/-- What signing in does with the answer to a challenge. -/
def admitUser (environment : CredentialEnvironment LocalDirectory)
    (tenantId : String) (response : AuthResponse) :
    CredentialM LocalDirectory SignInOutcome :=
  onMesh environment (fun outside =>
    AuthMesh.signIn outside tenantId response (environment.clock 0)) >>=
      admitted environment tenantId

theorem signIn_opensFor (attributed : self.Attributed) {tenantId : String}
    {response : AuthResponse} {tenant : TenantContext}
    {external : ExternalIdentity} {resolved : ResolvedPrincipal} (now : Int)
    (granted : self.mesh.signInGrounds
      ((environment.withBuiltIn hashing).meshEnvironment self.accounts)
        tenantId response = .ok (tenant, external, resolved)) :
    ∃ session username account,
      external = LocalConnector.identityOf username account ∧
      session.tenantId = tenant.tenantId ∧
        self.OpensFor (environment.withBuiltIn hashing)
          (fun outside => AuthMesh.signIn outside tenantId response now)
          session username account
          (self.mesh.Establishes
            ((environment.withBuiltIn hashing).meshEnvironment self.accounts)
            tenant resolved.principal now) := by
  have checked := AuthMesh.signInGrounds_ok granted
  obtain ⟨username, account, _, stored, rfl⟩ :=
    authenticateExternal_local checked.proven
  have sameId := attributed.filed.found checked.recorded
  obtain ⟨after, established, outcome⟩ := @AuthMesh.establish_cases
    ((environment.withBuiltIn hashing).meshEnvironment self.accounts) self.mesh
    tenant (LocalConnector.identityOf username account) resolved now .login
  let session := self.mesh.openedSession
    ((environment.withBuiltIn hashing).meshEnvironment self.accounts) tenant
    resolved.identity.id now
  refine ⟨session, username, account, rfl, rfl, after, ?_, ?_⟩
  · refine
      { adds := adds_of_established rfl id rfl established ?_ stored
        unrevoked := rfl
        contract := established.contract
        tenants := established.tenants }
    change resolved.identity.id = _
    exact sameId
  · dsimp only
    rw [AuthMesh.signIn_eq, granted]
    exact outcome

variable (environment) in
/-- A session that is established is closed if its account is looked at. -/
theorem admitted_leads (attributed : self.Attributed)
    (verified : self.VerifiedSessions) {tenantId : String}
    {tenant : TenantContext}
    (tenantFound : self.mesh.tenant tenantId = .ok tenant) {session : Session}
    {username : String} {account : LocalAccount}
    (inTenant : session.tenantId = tenant.tenantId)
    (authenticated : AuthenticatedSession) (mesh : AuthMesh)
    (opened : Opened self mesh session username account)
    (sameSession : authenticated.session = session)
    (sameExternal : authenticated.external =
      LocalConnector.identityOf username account) :
    Leads (finalState
        (admitted environment tenantId authenticated (self.changeMesh mesh)))
      (account.Unverified →
        self.ensurePasswordNotExpired
          (LocalConnector.identityOf username account)
          (environment.clock 0) = .ok ()) := by
  have adds := Leads.adds attributed verified opened.adds
  unfold admitted
  rw [inspect_bind, sameExternal,
    ensurePasswordNotExpired_of_config (Prod.mk.inj opened.contract).1]
  cases expiry : self.ensurePasswordNotExpired
      (LocalConnector.identityOf username account) (environment.clock 0) with
  | error err => exact adds.congr (by simp [opened.unrevoked])
  | ok _ =>
      have waits := @awaitsVerification_iff (self.changeMesh mesh)
        (opened.adds.verifies.trans attributed.verifies) username account
      dsimp only
      rw [inspect_bind]
      dsimp only
      by_cases unverified : account.Unverified
      · rw [if_pos (waits.mpr unverified), sameSession]
        have found := (opened.tenant_eq tenantId).trans tenantFound
        have closed := @Adds.closed environment self _ session username
          tenantId account tenant (environment.clock 0) opened.adds found
          inTenant
        exact (Leads.adds attributed verified closed).congr (by simp)
      · rw [if_neg fun awaits => unverified (waits.mp awaits)]
        exact adds.congr (by simp [unverified])

theorem admitUser_leads (attributed : self.Attributed)
    (verified : self.VerifiedSessions) {tenantId : String}
    {response : AuthResponse} :
    Leads (finalState
        (admitUser (environment.withBuiltIn hashing) tenantId response self))
      (self.ClosesSession (environment.withBuiltIn hashing) tenantId
        response) := by
  unfold ClosesSession
  cases granted : self.mesh.signInGrounds
      ((environment.withBuiltIn hashing).meshEnvironment self.accounts)
      tenantId response with
  | error err =>
      refine .spares attributed verified ?_ (by simp)
      unfold admitUser
      apply Spares.of_refused
      rw [AuthMesh.signIn_eq, granted]
  | ok grounds =>
      obtain ⟨tenant, external, resolved⟩ := grounds
      obtain ⟨session, username, account, rfl, inTenant, opens⟩ :=
        signIn_opensFor attributed
          ((environment.withBuiltIn hashing).clock 0) granted
      have tenantFound := (AuthMesh.signInGrounds_ok granted).tenantFound
      have waits := @awaitsVerification_iff self attributed.verifies username
        account
      have admitted := opens.leads attributed verified
        (admitted_leads (environment.withBuiltIn hashing) attributed verified
          tenantFound inTenant)
      refine admitted.congr ⟨?_, ?_⟩
      · rintro closed _ _ _ ⟨⟩ awaits
        exact closed (waits.mp awaits)
      · intro closed unverified
        exact closed _ _ _ rfl (waits.mpr unverified)

theorem signIn_leads (attributed : self.Attributed)
    (verified : self.VerifiedSessions) {request : BoundaryRequest} :
    Leads (finalState
        (signIn (environment.withBuiltIn hashing) request self))
      (self.ClosesSignIn (environment.withBuiltIn hashing) request) := by
  unfold signIn ClosesSignIn
  refine .requiredField attributed verified fun tenantId _ => ?_
  refine .requiredField attributed verified fun connector _ => ?_
  refine .inspect attributed verified fun challenge _ => ?_
  by_cases asked : challenge.kind = .credentials
  · rw [if_neg (by simp [asked])]
    exact (admitUser_leads attributed verified).congr (by simp [asked])
  · rw [if_pos (by simp [asked])]
    exact .spares attributed verified (.refl self) (by simp [asked])

/-! ## Signing up -/

/-- The request itself gives an address, as far as signing up looks. -/
def namesAddress (request : BoundaryRequest) : Bool :=
  (request.field "email").isSome ||
    ((request.field "username").map isAddress).getD false

/-- Nothing fails between the opening of the session and its end, if the
account is unverified, and the request names an address. -/
def ClosesRegistered (environment : CredentialEnvironment LocalDirectory)
    (self : CredentialRuntime LocalDirectory) (request : BoundaryRequest)
    (tenantId : String) (response : AuthResponse)
    (claims : KeyedMap String String) : Prop :=
  ∀ tenant external resolved,
    self.mayRegister environment tenantId response claims =
        .ok (tenant, external, resolved) →
      self.awaitsVerification external = true →
        self.Settles environment tenant external resolved ∧
          self.StartsVerification environment request ∧
          namesAddress request = true

/-- The same for an account that is created first where it is missing. -/
def ClosesRegistration (environment : CredentialEnvironment LocalDirectory)
    (hashing : PasswordHashing) (self : CredentialRuntime LocalDirectory)
    (request : BoundaryRequest) (tenantId connector : String)
    (response : AuthResponse) (claims : KeyedMap String String) : Prop :=
  if self.lacksAccount environment connector response then
    ∀ username, request.field "username" = some username →
      ∀ password, request.field "password" = some password →
        ∀ account, self.accounts[username]? = none →
          LocalConnector.newAccount hashing username password
              (self.signUpAttributes request username) = some account →
            (self.withLocalAccount account username).ClosesRegistered
              environment request tenantId response claims
  else
    self.ClosesRegistered environment request tenantId response claims

/-- Where signing up opens the session of an unverified account, it closes
it. -/
def ClosesSignUp (environment : CredentialEnvironment LocalDirectory)
    (hashing : PasswordHashing) (self : CredentialRuntime LocalDirectory)
    (request : BoundaryRequest) : Prop :=
  ∀ claims, self.registrationClaims = .ok claims →
    ∀ tenantId, request.field "tenant" = some tenantId →
      ∀ connector, request.field "connector" = some connector →
        ∀ registered, self.connector connector = .ok registered →
          self.checkNewPassword environment request connector = .ok () →
            ∀ challenge,
              self.begin environment tenantId
                  (attemptOf request tenantId connector) = .ok challenge →
                challenge.kind = .credentials →
                  self.ClosesRegistration environment hashing request tenantId
                    connector (responseOf request tenantId challenge) claims

theorem signUp_opensFor {tenantId : String} {response : AuthResponse}
    {claims : KeyedMap String String} {tenant : TenantContext}
    {external : ExternalIdentity} {resolved : Claims}
    (granted : self.mayRegister (environment.withBuiltIn hashing) tenantId
      response claims = .ok (tenant, external, resolved)) :
    ∃ session username account,
      external = LocalConnector.identityOf username account ∧
      response.parameter "username" = some username ∧
      session.tenantId = tenant.tenantId ∧
        self.OpensFor (environment.withBuiltIn hashing)
          (fun outside => AuthMesh.signUp outside tenantId response
            { kind := .human, claims } (environment.clock 0))
          session username account
          (self.Settles (environment.withBuiltIn hashing) tenant external
            resolved) := by
  have checked := AuthMesh.signUpGrounds_ok granted
  obtain ⟨username, account, named, stored, rfl⟩ :=
    authenticateExternal_local checked.proven
  let external := LocalConnector.identityOf username account
  let registered := self.mesh.withAccount tenant external .human resolved
    (environment.clock 0)
  obtain ⟨after, established, outcome⟩ := @AuthMesh.establish_cases
    ((environment.withBuiltIn hashing).meshEnvironment self.accounts)
    registered tenant external
    (AuthMesh.registeredPrincipal tenant external .human resolved
      (environment.clock 0)) (environment.clock 0) .accountLinked
  let session := registered.openedSession
    ((environment.withBuiltIn hashing).meshEnvironment self.accounts) tenant
    (identityIdFor (identityKey tenant external)) (environment.clock 0)
  refine ⟨session, username, account, rfl, named, rfl, after, ?_, ?_⟩
  · have adds := @adds_of_established self registered after session username
      account rfl
      (fun filed => filed.recorded (identityKey tenant external) resolved) rfl
      established rfl stored
    exact
      { adds
        unrevoked := rfl
        contract := established.contract
        tenants := established.tenants }
  · have settles : self.Settles (environment.withBuiltIn hashing) tenant
        external resolved ↔
          registered.Establishes
            ((environment.withBuiltIn hashing).meshEnvironment self.accounts)
            tenant
            (Resolution.provisionedPrincipal tenant external .human resolved)
            (environment.clock 0) := by
      constructor
      · rintro ⟨log, context⟩
        exact ⟨log, context⟩
      · rintro ⟨log, context⟩
        exact ⟨log, context⟩
    dsimp only
    rw [settles, AuthMesh.signUp_eq]
    change self.mesh.signUpGrounds _ tenantId response _ = _ at granted
    rw [granted]
    exact outcome

theorem Adds.of_same {after later : CredentialRuntime LocalDirectory}
    {session : Session} {username : String} {account : LocalAccount}
    (adds : Adds self after session username account)
    (mesh : later.mesh = after.mesh)
    (accounts : later.accounts = after.accounts) :
    Adds self later session username account where
  verifies := by
    unfold verifiesEmail at *
    rw [mesh]
    exact adds.verifies
  filed := by
    rw [mesh]
    exact adds.filed
  accounts := accounts.trans adds.accounts
  sessions := by
    unfold sessionMap at *
    rw [mesh]
    exact adds.sessions
  owner := adds.owner
  stored := adds.stored

def registered (environment : CredentialEnvironment LocalDirectory)
    (request : BoundaryRequest) (tenantId : String)
    (authenticated : AuthenticatedSession) :
    CredentialM LocalDirectory SignInOutcome := do
  startVerification environment request tenantId authenticated.session.id
    (environment.clock 0)
  pure (signedIn authenticated)

variable (environment) in
theorem registered_leads (attributed : self.Attributed)
    (verified : self.VerifiedSessions) {request : BoundaryRequest}
    {tenantId : String} {tenant : TenantContext}
    (tenantFound : self.mesh.tenant tenantId = .ok tenant) {session : Session}
    {username : String} {account : LocalAccount}
    (inTenant : session.tenantId = tenant.tenantId)
    (authenticated : AuthenticatedSession) (mesh : AuthMesh)
    (opened : Opened self mesh session username account)
    (sameSession : authenticated.session = session) :
    Leads (finalState
        (registered environment request tenantId authenticated
          (self.changeMesh mesh)))
      (account.Unverified →
        self.StartsVerification environment request ∧
          namesAddress request = true) := by
  have verifies : (self.changeMesh mesh).verifiesEmail = true :=
    opened.adds.verifies.trans attributed.verifies
  have starts : self.StartsVerification environment request ↔
      Succeeds
        (mailToken environment emailVerificationMail request
          (environment.clock 1)) (self.changeMesh mesh) := by
    rw [mailToken_succeeds_iff, ← @startsVerification_congr _ environment self
      request (self.changeMesh mesh) opened.contract rfl]
    exact ⟨fun starts => starts verifies, fun mails _ => mails⟩
  have frames : Frames (fun self : CredentialRuntime LocalDirectory =>
      (self.mesh, self.accounts))
      (mailToken environment emailVerificationMail request
        (environment.clock 1)) :=
    mailToken_frames (fun _ _ => rfl) _ _
  have framed := frames (self.changeMesh mesh)
  have ends : finalState (registered environment request tenantId
      authenticated (self.changeMesh mesh)) =
        finalState (startVerification environment request tenantId
          authenticated.session.id (environment.clock 0)
          (self.changeMesh mesh)) := by
    unfold registered
    rw [bind_apply]
    cases startVerification environment request tenantId
      authenticated.session.id (environment.clock 0) (self.changeMesh mesh) <;>
        rfl
  rw [ends, starts]
  unfold startVerification Succeeds
  rw [inspect_bind]
  dsimp only
  rw [if_pos verifies, bind_apply, sameSession]
  cases outcome : mailToken environment emailVerificationMail request
      (environment.clock 1) (self.changeMesh mesh) with
  | error err after =>
      rw [outcome] at framed
      obtain ⟨sameMesh, sameAccounts⟩ := Prod.mk.inj framed
      have adds := opened.adds.of_same sameMesh sameAccounts
      refine (Leads.adds attributed verified adds).congr ?_
      simp [opened.unrevoked]
  | ok _ after =>
      rw [outcome] at framed
      obtain ⟨sameMesh, sameAccounts⟩ := Prod.mk.inj framed
      have adds := opened.adds.of_same sameMesh sameAccounts
      unfold namesAddress
      dsimp only
      by_cases named : ((request.field "email").isSome ||
          ((request.field "username").map isAddress).getD false) = true
      · rw [if_pos named]
        have found : after.mesh.tenant tenantId = .ok tenant := by
          have mesh : after.mesh = (self.changeMesh mesh).mesh := sameMesh
          rw [mesh, opened.tenant_eq, tenantFound]
        have closed := @Adds.closed environment self _ session username
          tenantId account tenant (environment.clock 0) adds found inTenant
        refine (Leads.adds attributed verified closed).congr ?_
        simp [named]
      · rw [if_neg named]
        refine (Leads.adds attributed verified adds).congr ?_
        simp [opened.unrevoked, named]

theorem register_leads (attributed : self.Attributed)
    (verified : self.VerifiedSessions) {request : BoundaryRequest}
    {tenantId : String} {response : AuthResponse}
    {claims : KeyedMap String String} :
    Leads (finalState
        (register (environment.withBuiltIn hashing) request tenantId response
          claims self))
      (self.ClosesRegistered (environment.withBuiltIn hashing) request tenantId
        response claims) := by
  unfold ClosesRegistered
  cases granted : self.mayRegister (environment.withBuiltIn hashing) tenantId
      response claims with
  | error err =>
      refine .spares attributed verified ?_ (by simp)
      unfold register
      apply Spares.of_refused
      rw [AuthMesh.signUp_eq]
      change self.mesh.signUpGrounds _ tenantId response _ = _ at granted
      rw [granted]
      exact rfl
  | ok grounds =>
      obtain ⟨tenant, external, resolved⟩ := grounds
      obtain ⟨session, username, account, rfl, _, inTenant, opens⟩ :=
        signUp_opensFor granted
      have tenantFound := (AuthMesh.signUpGrounds_ok granted).tenantFound
      have waits := @awaitsVerification_iff self attributed.verifies username
        account
      have leads := opens.leads attributed verified
        fun authenticated mesh opened sameSession _ =>
          @registered_leads (environment.withBuiltIn hashing) self attributed
            verified request tenantId tenant tenantFound session username
            account inTenant authenticated mesh opened sameSession
      refine leads.congr ⟨?_, ?_⟩
      · rintro closed _ _ _ ⟨⟩ awaits
        exact closed (waits.mp awaits)
      · intro closed unverified
        exact closed _ _ _ rfl (waits.mpr unverified)

theorem create_leads (attributed : self.Attributed)
    (verified : self.VerifiedSessions) {username password : String}
    {attributes : KeyedMap String String} {α : Type}
    {next : Unit → CredentialM LocalDirectory α}
    {closes : LocalAccount → Prop}
    (rest : ∀ account,
      LocalConnector.newAccount hashing username password attributes =
          some account →
        (self.withLocalAccount account username).Attributed →
          (self.withLocalAccount account username).VerifiedSessions →
            Leads
              (finalState (next () (self.withLocalAccount account username)))
              (closes account)) :
    Leads
      (finalState
        ((onAccounts (LocalConnector.createAccount hashing username password
          attributes) >>= next) self))
      (∀ account, self.accounts[username]? = none →
        LocalConnector.newAccount hashing username password attributes =
            some account → closes account) := by
  rw [bind_apply]
  rcases @createAccount_cases hashing self username password attributes with
    ⟨err, failed, none⟩ | ⟨account, made, absent, created⟩
  · rw [failed]
    exact .spares attributed verified (.refl self) fun account absent made =>
      absurd absent (none account made)
  · rw [created, made]
    have spares : Spares self (self.withLocalAccount account username) :=
      .of_accounts (.created absent account)
    refine (rest account made (spares.attributed attributed)
      (spares.verified attributed verified)).congr ?_
    simp [absent]

theorem createMissingAccount_leads (attributed : self.Attributed)
    (verified : self.VerifiedSessions) {request : BoundaryRequest}
    {tenantId connector : String} {response : AuthResponse}
    {claims : KeyedMap String String} :
    Leads (finalState
        ((createMissingAccount (environment.withBuiltIn hashing) request
            connector response >>= fun _ =>
          register (environment.withBuiltIn hashing) request tenantId response
            claims) self))
      (self.ClosesRegistration (environment.withBuiltIn hashing) hashing
        request tenantId connector response claims) := by
  unfold createMissingAccount ClosesRegistration
  rw [bind_assoc, inspect_bind]
  dsimp only
  by_cases lacks : self.lacksAccount (environment.withBuiltIn hashing)
      connector response = true
  · have isLocal : connector = localId := by
      unfold lacksAccount at lacks
      simp only [Bool.and_eq_true, beq_iff_eq] at lacks
      exact lacks.1
    rw [if_pos lacks, if_pos lacks, bind_assoc]
    refine .requiredField attributed verified fun username _ => ?_
    rw [bind_assoc]
    refine .requiredField attributed verified fun password _ => ?_
    rw [bind_assoc, inspect_bind]
    dsimp only
    rw [isLocal, withBuiltIn_local]
    exact create_leads attributed verified fun account _ attributed verified =>
      register_leads attributed verified
  · rw [if_neg lacks, if_neg lacks, pure_bind]
    exact register_leads attributed verified

theorem signUp_leads (attributed : self.Attributed)
    (verified : self.VerifiedSessions) {request : BoundaryRequest} :
    Leads (finalState
        (signUp (environment.withBuiltIn hashing) request self))
      (self.ClosesSignUp (environment.withBuiltIn hashing) hashing
        request) := by
  unfold signUp ClosesSignUp
  refine .inspect attributed verified fun claims _ => ?_
  refine .requiredField attributed verified fun tenantId _ => ?_
  refine .requiredField attributed verified fun connector _ => ?_
  refine .inspect attributed verified fun registered _ => ?_
  refine (Leads.inspect attributed verified fun _ _ => ?_).congr
    ⟨fun each => each (), fun closes _ => closes⟩
  refine .inspect attributed verified fun challenge _ => ?_
  by_cases asked : challenge.kind = .credentials
  · rw [if_neg (by simp [asked])]
    refine (createMissingAccount_leads attributed verified).congr ?_
    simp [asked]
  · rw [if_pos (by simp [asked])]
    exact .spares attributed verified (.refl self) (by simp [asked])

/-! ## Users of the deployment -/

/-- The deployment never closes a session that it opens: the account that is
proven for a new user must not be unverified. -/
def ClosesLocalUser (environment : CredentialEnvironment LocalDirectory)
    (hashing : PasswordHashing) (self : CredentialRuntime LocalDirectory)
    (tenantId username password : String) (email : Option String)
    (claims : KeyedMap String String) : Prop :=
  self.validatePassword password = .ok () →
    ∀ registered, self.connector localId = .ok registered →
      ∀ account, self.accounts[username]? = none →
        LocalConnector.newAccount hashing username password
            (givenAttributes username email) = some account →
          ∀ challenge,
            LocalConnector.begin
                (self.withLocalAccount account username).accounts
                (localAttempt tenantId username) = .ok challenge →
              ∀ tenant external resolved,
                (self.withLocalAccount account username).mayRegister
                    environment tenantId
                    (localResponse challenge tenantId username password)
                    claims = .ok (tenant, external, resolved) →
                  (self.withLocalAccount account username).awaitsVerification
                    external ≠ true

theorem registerLocal_leads (attributed : self.Attributed)
    (verified : self.VerifiedSessions) {tenantId username password : String}
    {claims : KeyedMap String String} :
    Leads (finalState
        (registerLocal (environment.withBuiltIn hashing) tenantId username
          password claims self))
      (∀ challenge,
        LocalConnector.begin self.accounts (localAttempt tenantId username) =
            .ok challenge →
          ∀ tenant external resolved,
            self.mayRegister (environment.withBuiltIn hashing) tenantId
                (localResponse challenge tenantId username password) claims =
                .ok (tenant, external, resolved) →
              self.awaitsVerification external ≠ true) := by
  unfold registerLocal
  refine (Leads.inspect attributed verified fun challenge _ => ?_).congr
    (forall_congr' fun challenge => by rw [except_mapError_eq_ok_iff])
  cases granted : self.mayRegister (environment.withBuiltIn hashing) tenantId
      (localResponse challenge tenantId username password) claims with
  | error err =>
      refine .spares attributed verified ?_ (by simp)
      apply Spares.of_refused
      rw [AuthMesh.signUp_eq]
      change self.mesh.signUpGrounds _ tenantId _ _ = _ at granted
      rw [granted]
      exact rfl
  | ok grounds =>
      obtain ⟨tenant, external, resolved⟩ := grounds
      obtain ⟨session, proven, account, rfl, _, _, opens⟩ :=
        signUp_opensFor granted
      have waits := @awaitsVerification_iff self attributed.verifies proven
        account
      have leads := @OpensFor.leads (environment.withBuiltIn hashing) self
        attributed verified _ session proven account _ False opens Unit
        (fun _ => pure ()) fun authenticated mesh opened _ _ =>
          (Leads.adds attributed verified opened.adds).congr
            (by simp [opened.unrevoked])
      refine leads.congr ⟨?_, ?_⟩
      · rintro closed _ _ _ ⟨⟩ awaits
        exact (closed (waits.mp awaits)).2
      · intro settled unverified
        exact absurd (waits.mpr unverified) (settled _ _ _ rfl)

theorem createLocalUser_leads (attributed : self.Attributed)
    (verified : self.VerifiedSessions) {tenantId username password : String}
    {email : Option String} {claims : KeyedMap String String} :
    Leads (finalState
        (createLocalUser (environment.withBuiltIn hashing) tenantId username
          password email claims self))
      (self.ClosesLocalUser (environment.withBuiltIn hashing) hashing tenantId
        username password email claims) := by
  unfold createLocalUser ClosesLocalUser
  refine (Leads.inspect attributed verified fun _ _ => ?_).congr
    ⟨fun each => each (), fun closes _ => closes⟩
  refine .inspect attributed verified fun registered found => ?_
  rw [connector_local found, withBuiltIn_local]
  have begins : (localConnector hashing).begin = LocalConnector.begin := rfl
  have creates : (localConnector hashing).createAccount =
      LocalConnector.createAccount hashing :=
    rfl
  rw [begins, creates]
  refine create_leads attributed verified
    fun account _ attributed verified => ?_
  exact registerLocal_leads attributed verified

/-! ## Every run -/

/-- A call of a credential flow with what it reads of the outside. -/
structure Visit where
  environment : CredentialEnvironment LocalDirectory
  hashing : PasswordHashing
  call : CredentialCall

/-- The deployment between two calls. -/
def visited (self : CredentialRuntime LocalDirectory) (visit : Visit) :
    CredentialRuntime LocalDirectory :=
  finalState (perform (visit.environment.withBuiltIn visit.hashing) visit.call
    self)

/-- Addresses are verified, and no session has been opened yet. -/
structure Unvisited (self : CredentialRuntime LocalDirectory) : Prop where
  verifies : self.verifiesEmail = true
  reached : ∃ mesh, AuthMesh.system.Reachable mesh ∧
    self.mesh = mesh.changeSessions { mesh.stores.sessions with sessions := ∅ }

def visits : TransitionSystem (CredentialRuntime LocalDirectory) Visit :=
  { initial := Unvisited, step := visited }

/-- A call that opens the session of an unverified account closes it. -/
def Closes (self : CredentialRuntime LocalDirectory) (visit : Visit) : Prop :=
  let environment := visit.environment.withBuiltIn visit.hashing
  match visit.call with
  | .signIn request => self.ClosesSignIn environment request
  | .signUp request => self.ClosesSignUp environment visit.hashing request
  | .createLocalUser tenantId username password email claims =>
      self.ClosesLocalUser environment visit.hashing tenantId username password
        email claims
  | _ => True

theorem visited_leads (attributed : self.Attributed)
    (verified : self.VerifiedSessions) (visit : Visit) :
    Leads (self.visited visit) (self.Closes visit) := by
  obtain ⟨environment, hashing, call⟩ := visit
  have mapped : ∀ {α β : Type} {convert : α → β}
      {program : CredentialM LocalDirectory α} {closes : Prop},
        Leads (finalState (program self)) closes →
          Leads (finalState ((convert <$> program) self)) closes := by
    intro α β convert program closes leads
    rw [finalState_map]
    exact leads
  have sparing : OpensNone call →
      Leads (self.visited { environment, hashing, call }) True :=
    fun opensNone =>
      .spares attributed verified (perform_spares opensNone self) trivial
  cases call with
  | signIn request => exact mapped (signIn_leads attributed verified)
  | signUp request => exact mapped (signUp_leads attributed verified)
  | createLocalUser =>
      exact mapped (createLocalUser_leads attributed verified)
  | _ => exact sparing trivial

theorem Unvisited.attributed (unvisited : self.Unvisited) :
    self.Attributed := by
  obtain ⟨verifies, mesh, reached, same⟩ := unvisited
  refine { verifies, filed := ?_, owned := ?_ }
  · rw [same]
    change mesh.stores.identities.FiledAsLinked
    exact AuthMesh.filedAsLinked reached
  · intro sessionId session username stored
    unfold sessionMap at stored
    rw [same] at stored
    change (∅ : KeyedMap SessionId Session)[sessionId]? = _ at stored
    simp at stored

theorem Unvisited.verified (unvisited : self.Unvisited) :
    self.VerifiedSessions := by
  obtain ⟨_, mesh, _, same⟩ := unvisited
  intro sessionId session now username account stored
  unfold sessionMap at stored
  rw [same] at stored
  change (∅ : KeyedMap SessionId Session)[sessionId]? = _ at stored
  simp at stored

/-- From a state without sessions, no unverified account has a live session
between two calls exactly if every call closes the session that it opens for
such an account. -/
theorem verifiedSessions_run_iff {start : CredentialRuntime LocalDirectory}
    (unvisited : start.Unvisited) (run : List Visit) :
    (∀ early late, run = early ++ late →
        (visits.run start early).VerifiedSessions) ↔
      visits.Follows Closes start run := by
  apply TransitionSystem.always_iff_follows _ _ unvisited.attributed
    unvisited.verified
  · intro state visit attributed verified
    exact (visited_leads attributed verified visit).attributed
  · intro state visit attributed verified
    exact (visited_leads attributed verified visit).verified_iff

end CredentialRuntime

/-! ## One account in two tenants -/

def globex : TenantContext :=
  { acme with tenantId := ⟨"globex"⟩, tenantNamespace := "globex" }

def twoTenants : AuthMesh :=
  AuthMesh.system.run emptyMesh
    [acmeCall 0 (.putTenant acme), acmeCall 0 (.putPolicy (acmePolicy [])),
      acmeCall 0 (.putTenant globex)]

/-- Callers register themselves in both tenants. -/
def registeringRuntime : CredentialRuntime LocalDirectory :=
  { openRuntime.changeMesh twoTenants with
    registration :=
      .selfService ((∅ : KeyedMap String String).insert "role" "member") }

theorem registeringRuntime_unvisited : registeringRuntime.Unvisited where
  verifies := by decide
  reached := ⟨twoTenants, .run (.start emptyMesh_fresh) _, rfl⟩

def registers (tenant : String) (address : List (String × String)) :
    CredentialRuntime.Visit :=
  { environment := { mailEnvironment with mail := some fun _ => .ok () }
    hashing := plainHashing
    call := .signUp
      { BoundaryRequest.new .post "/auth/signup" with
        body :=
          ([("tenant", tenant), ("connector", "local"), ("username", "alice"),
              ("password", "Correct-horse-7")] ++ address).foldl
            (fun body entry => body.insert entry.1 entry.2) ∅ } }

/-- She gives her address in the first tenant only. -/
def twoRegistrations : List CredentialRuntime.Visit :=
  [registers "acme" [("email", "alice@example.org")], registers "globex" []]

theorem verifiedSessions_run_iff_registering :
    (∀ early late, twoRegistrations = early ++ late →
        (CredentialRuntime.visits.run registeringRuntime
          early).VerifiedSessions) ↔
      CredentialRuntime.visits.Follows CredentialRuntime.Closes
        registeringRuntime twoRegistrations :=
  CredentialRuntime.verifiedSessions_run_iff registeringRuntime_unvisited
    twoRegistrations

/-- The second registration opens a session that nothing closes. -/
theorem twoRegistrations_unverified :
    registeringRuntime.Unvisited ∧
      ¬∀ early late, twoRegistrations = early ++ late →
        (CredentialRuntime.visits.run registeringRuntime
          early).VerifiedSessions := by
  refine ⟨registeringRuntime_unvisited, ?_⟩
  intro always
  have verified := CredentialRuntime.verifiedSessions_iff.mp
    (always twoRegistrations [] rfl)
  have opened : ((CredentialRuntime.visits.run registeringRuntime
      twoRegistrations).sessionMap[(⟨"sess_2"⟩ : SessionId)]?.map
        fun session =>
          (session.revokedAt, session.tenantId, session.identityId)) =
      some (none, ⟨"globex"⟩,
        identityIdFor (⟨"globex"⟩, ⟨"local"⟩, ⟨"alice"⟩)) := by
    decide +kernel
  have waits : ((CredentialRuntime.visits.run registeringRuntime
      twoRegistrations).accounts["alice"]?.map fun account =>
        (account.attributes["email_verification_required"]?,
          account.attributes["email_verified"]?)) =
      some (some "true", none) := by
    decide +kernel
  obtain ⟨session, stored, facts⟩ := Option.map_eq_some_iff.mp opened
  obtain ⟨account, accountStored, unverified⟩ := Option.map_eq_some_iff.mp waits
  simp only [Prod.mk.injEq] at facts unverified
  obtain ⟨unrevoked, tenant, identity⟩ := facts
  obtain ⟨required, missing⟩ := unverified
  refine verified _ session "alice" account stored unrevoked ?_ accountStored
    ⟨required, by simp [missing]⟩
  unfold Session.OfAccount
  rw [identity, tenant]
  rfl

end AuthBoundry
