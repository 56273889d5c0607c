import AuthBoundry.Boundary.Adoption
import AuthBoundry.Boundary.CredentialOutcomes

/-!
# Providers that are switched off

A provider is switched off by a change of the live authority.  No credential
flow reads that: a request through a provider is refused exactly if one of the
other checks refuses it.  A provider that is switched off stays shut where it is
only declared and where no request gets as far as asking its connector.  For the
same reason switching a provider off changes nothing for the requests through
the others.
-/

namespace AuthBoundry

open Library
open Library.Stateful
open MemoryProposalStore (port)

/-- A call of one of the credential flows. -/
inductive CredentialCall where
  | signIn (request : BoundaryRequest)
  | signUp (request : BoundaryRequest)
  | changePassword (request : BoundaryRequest)
  | resetPassword (request : BoundaryRequest)
  | forgotPassword (request : BoundaryRequest)
  | requestEmailVerification (request : BoundaryRequest)
  | verifyEmail (request : BoundaryRequest)
  | revokeChallenge (token : String)
  | signOut (request : BoundaryRequest)
  | createLocalUser (tenantId username password : String)
      (email : Option String) (claims : KeyedMap String String)

/-- What a call answers: only signing in and up have something to tell. -/
abbrev CredentialAnswer := Option SignInOutcome

namespace CredentialRuntime

variable {Accounts : Type}

section Calls

variable (environment : CredentialEnvironment Accounts)

def perform : CredentialCall → CredentialM Accounts CredentialAnswer
  | .signIn request => some <$> signIn environment request
  | .signUp request => some <$> signUp environment request
  | .changePassword request =>
      (fun _ => none) <$> changePassword environment request
  | .resetPassword request =>
      (fun _ => none) <$> resetPassword environment request
  | .forgotPassword request =>
      (fun _ => none) <$> forgotPassword environment request
  | .requestEmailVerification request =>
      (fun _ => none) <$> requestEmailVerification environment request
  | .verifyEmail request => (fun _ => none) <$> verifyEmail environment request
  | .revokeChallenge token =>
      (fun _ => none) <$> revokeChallenge environment token
  | .signOut request => (fun _ => none) <$> signOut environment request
  | .createLocalUser tenantId username password email claims =>
      (fun _ => none) <$>
        createLocalUser environment tenantId username password email claims

/-- The connector that a sign-in, a registration or a change of a password goes
through.  A reset goes through the connector of the challenge behind its
token. -/
def connectorOf (self : CredentialRuntime Accounts) :
    CredentialCall → Option String
  | .signIn request | .signUp request | .changePassword request =>
      request.field "connector"
  | .resetPassword request => do
      let token ← request.field "token"
      let entry ← self.challenges.entries[environment.hash token]?
      let parts ← splitOnce '\x00' entry.account
      some parts.1
  | _ => none

def Grants (self : CredentialRuntime Accounts) : CredentialCall → Prop
  | .signIn request => self.GrantsSignIn environment request
  | .signUp request => self.GrantsSignUp environment request
  | .changePassword request => self.GrantsPasswordChange environment request
  | .resetPassword request => self.GrantsPasswordReset environment request
  | _ => True

end Calls

variable {environment : CredentialEnvironment Accounts}
  {self : CredentialRuntime Accounts} {call : CredentialCall}

theorem refuses_perform_iff {provider : String}
    (through : self.connectorOf environment call = some provider) :
    Refuses (perform environment call) self ↔
      ¬self.Grants environment call := by
  cases call with
  | signIn request =>
      exact refuses_map_iff.trans (not_iff_comm.mp not_refuses_signIn_iff).symm
  | signUp request =>
      exact refuses_map_iff.trans (not_iff_comm.mp not_refuses_signUp_iff).symm
  | changePassword request =>
      exact refuses_map_iff.trans
        (not_iff_comm.mp not_refuses_changePassword_iff).symm
  | resetPassword request =>
      exact refuses_map_iff.trans
        (not_iff_comm.mp not_refuses_resetPassword_iff).symm
  | _ => cases through

/-! ## Up to the connector -/

/-- The request names a tenant that is known and a connector that is declared
and registered. -/
def Begins (self : CredentialRuntime Accounts) (request : BoundaryRequest) :
    Prop :=
  (∃ tenantId tenant, request.field "tenant" = some tenantId ∧
      self.mesh.tenant tenantId = .ok tenant) ∧
    ∃ connector registered, request.field "connector" = some connector ∧
      self.mesh.connector connector = .ok registered

/-- A call gets as far as asking its connector: its fields are there, its new
password is valid, and tenant, connector or token are known.  Which accounts
there are is not looked at yet. -/
def Asks (environment : CredentialEnvironment Accounts)
    (self : CredentialRuntime Accounts) : CredentialCall → Prop
  | .signIn request => self.Begins request
  | .signUp request =>
      self.Begins request ∧
        (∃ claims, self.registrationClaims = .ok claims) ∧
        ∃ connector, request.field "connector" = some connector ∧
          self.checkNewPassword environment request connector = .ok ()
  | .changePassword request =>
      let policy := self.effectivePasswordPolicy.policy
      policy.allowPasswordChange = true ∧
        (∀ name ∈ ["tenant", "username", "current_password"],
          (request.field name).isSome) ∧
        (∃ newPassword, request.field "new_password" = some newPassword ∧
          validatePasswordWith newPassword policy = .ok ()) ∧
        ∃ connector registered, request.field "connector" = some connector ∧
          self.connector connector = .ok registered
  | .resetPassword request =>
      let policy := self.effectivePasswordPolicy.policy
      (∃ newPassword, newPasswordOf request = .ok newPassword ∧
          validatePasswordWith newPassword policy = .ok ()) ∧
        ∃ token entry, request.field "token" = some token ∧
          self.challenges.open? environment.hash token .passwordReset
            (environment.clock 0) = .ok entry ∧
          ∃ parts registered, splitOnce '\x00' entry.account = some parts ∧
            self.mesh.registry.get parts.1 = .ok registered
  | _ => True

theorem begin_begins {tenantId connector : String} {request : BoundaryRequest}
    {challenge : AuthChallenge}
    (tenantNamed : request.field "tenant" = some tenantId)
    (connectorNamed : request.field "connector" = some connector)
    (begun : self.begin environment tenantId
      (attemptOf request tenantId connector) = .ok challenge) :
    self.Begins request := by
  obtain ⟨tenant, tenantKnown, begun⟩ := except_bind_eq_ok_iff.mp begun
  obtain ⟨registered, connectorKnown, _⟩ := except_bind_eq_ok_iff.mp begun
  exact ⟨⟨tenantId, tenant, tenantNamed, tenantKnown⟩,
    connector, registered, connectorNamed, connectorKnown⟩

theorem Grants.asks (granted : self.Grants environment call) :
    self.Asks environment call := by
  cases call with
  | signIn request =>
      obtain ⟨tenantId, tenantNamed, connector, connectorNamed, challenge,
        begun, _⟩ := granted
      exact begin_begins tenantNamed connectorNamed begun
  | signUp request =>
      obtain ⟨claims, open_, tenantId, tenantNamed, connector, connectorNamed,
        registered, _, checked, challenge, begun, _⟩ := granted
      exact ⟨begin_begins tenantNamed connectorNamed begun, ⟨claims, open_⟩,
        connector, connectorNamed, checked⟩
  | changePassword request =>
      obtain ⟨allowed, tenantId, tenantNamed, connector, connectorNamed,
        username, usernameNamed, current, currentNamed, newPassword,
        newNamed, valid, registered, found, _⟩ := granted
      refine ⟨allowed, ?_, ⟨newPassword, newNamed, valid⟩,
        connector, registered, connectorNamed, found⟩
      simp [tenantNamed, usernameNamed, currentNamed]
  | resetPassword request =>
      obtain ⟨token, tokenNamed, newPassword, newNamed, valid, entry, opened,
        connector, username, split, registered, found, _⟩ := granted
      exact ⟨⟨newPassword, newNamed, valid⟩, token, entry, tokenNamed, opened,
        (connector, username), registered, split, found⟩
  | _ => trivial

theorem registry_get_eq {registry : ConnectorRegistry} {id registered : String}
    (found : registry.get id = .ok registered) : registered = id := by
  unfold ConnectorRegistry.get at found
  split at found
  · exact (Except.ok.inj found).symm
  · cases found

theorem connector_eq {id registered : String}
    (found : self.connector id = .ok registered) : registered = id :=
  registry_get_eq (except_mapError_eq_ok_iff.mp found)

theorem declared_begins_nothing {provider tenantId : String}
    {request : AuthRequest} {challenge : AuthChallenge}
    (declared : environment.connectors provider =
      declaredConnector Accounts provider)
    (named : request.connector = provider) :
    self.begin environment tenantId request ≠ .ok challenge := by
  intro begun
  obtain ⟨_, _, begun⟩ := except_bind_eq_ok_iff.mp begun
  obtain ⟨registered, found, begun⟩ := except_bind_eq_ok_iff.mp begun
  have same : registered = provider := by
    unfold AuthMesh.connector at found
    split at found
    · cases found
    · rw [← named]
      exact registry_get_eq (except_mapError_eq_ok_iff.mp found)
  rw [same, declared] at begun
  cases begun

theorem not_grants_declared {provider : String}
    (through : self.connectorOf environment call = some provider)
    (declared : environment.connectors provider =
      declaredConnector Accounts provider) :
    ¬self.Grants environment call := by
  intro granted
  cases call with
  | signIn request =>
      obtain ⟨tenantId, _, connector, connectorNamed, challenge, begun, _⟩ :=
        granted
      rw [connectorOf, connectorNamed] at through
      cases through
      exact declared_begins_nothing declared rfl begun
  | signUp request =>
      obtain ⟨_, _, tenantId, _, connector, connectorNamed, _, _, _,
        challenge, begun, _⟩ := granted
      rw [connectorOf, connectorNamed] at through
      cases through
      exact declared_begins_nothing declared rfl begun
  | changePassword request =>
      obtain ⟨_, tenantId, _, connector, connectorNamed, _, _, _, _, _, _, _,
        registered, found, accepts⟩ := granted
      rw [connectorOf, connectorNamed] at through
      cases through
      apply accepts
      rw [connector_eq found, declared]
      exact ⟨_, rfl⟩
  | resetPassword request =>
      obtain ⟨token, tokenNamed, _, _, _, entry, opened, connector, username,
        split, registered, found, accepts⟩ := granted
      have stored := (ChallengeStore.open?_eq_ok_iff.mp opened).1
      simp [connectorOf, tokenNamed, stored, split] at through
      subst through
      apply accepts
      rw [registry_get_eq found, declared]
      exact ⟨_, rfl⟩
  | _ => cases through

/-! ## What the flows do not read -/

def overlaid (proposals : MemoryProposalStore)
    (providerState : KeyedMap String ProviderState) (revision : Nat)
    (self : CredentialRuntime Accounts) : CredentialRuntime Accounts :=
  self.changeControl
    { runtime :=
        { self.control.runtime with
          authority := { self.authority with providerState, revision } }
      proposals }

section Overlay

variable {proposals : MemoryProposalStore}
  {providerState : KeyedMap String ProviderState} {revision : Nat}
  {request : BoundaryRequest}

theorem onMesh_ignores {α : Type} (program : Environment → MeshM α) :
    Ignores (@overlaid Accounts proposals providerState revision)
      (onMesh environment program) := by
  intro self
  have ignores : Ignores
      (@overlaid Accounts proposals providerState revision)
      (onPart mesh changeMesh
        (program (environment.meshEnvironment self.accounts))) :=
    Ignores.onPart (fun _ => rfl) fun _ _ => rfl
  exact ignores self

theorem onAccounts_ignores {α : Type} (program : ConnectorM Accounts α) :
    Ignores (overlaid proposals providerState revision)
      (onAccounts program) :=
  Ignores.onPart (fun _ => rfl) fun _ _ => rfl

/-- A question that is answered alike. -/
theorem inspect_ignores {α β : Type}
    {query : CredentialRuntime Accounts → Except AuthError α}
    {next : α → CredentialM Accounts β}
    (unread : ∀ self,
      query (overlaid proposals providerState revision self) = query self)
    (rest : ∀ value,
      Ignores (overlaid proposals providerState revision) (next value)) :
    Ignores (overlaid proposals providerState revision)
      (inspect query >>= next) :=
  Ignores.bind (Ignores.inspect unread) rest

theorem signIn_ignores :
    Ignores (overlaid proposals providerState revision)
      (signIn environment request) := by
  unfold signIn
  refine inspect_ignores (fun _ => rfl) fun tenantId => ?_
  refine inspect_ignores (fun _ => rfl) fun connector => ?_
  refine inspect_ignores (fun _ => rfl) fun challenge => ?_
  split
  · exact Ignores.pure _
  · refine Ignores.bind (onMesh_ignores _) fun authenticated => ?_
    refine inspect_ignores (fun _ => rfl) fun _ => ?_
    refine inspect_ignores (fun _ => rfl) fun unverified => ?_
    split
    · exact Ignores.bind (Ignores.attempt (onMesh_ignores _))
        fun _ => Ignores.throw _
    · exact Ignores.pure _

theorem mailToken_ignores (mailed : TokenMail) (now : Int) :
    Ignores (overlaid proposals providerState revision)
      (mailToken environment mailed request now) := by
  unfold mailToken
  refine inspect_ignores (fun _ => rfl) fun _ => ?_
  refine inspect_ignores (fun _ => rfl) fun tenantId => ?_
  refine inspect_ignores (fun _ => rfl) fun connectorId => ?_
  refine inspect_ignores (fun _ => rfl) fun username => ?_
  refine inspect_ignores (fun _ => rfl) fun address => ?_
  cases address with
  | none => exact Ignores.pure _
  | some address =>
  cases environment.mail with
  | none => exact Ignores.throw _
  | some mail =>
      refine Ignores.bind (Ignores.onPart (fun _ => rfl) fun _ _ => rfl)
        fun token => ?_
      exact Ignores.inspect fun _ => rfl

theorem signUp_ignores :
    Ignores (overlaid proposals providerState revision)
      (signUp environment request) := by
  unfold signUp
  refine inspect_ignores (fun _ => rfl) fun claims => ?_
  refine inspect_ignores (fun _ => rfl) fun tenantId => ?_
  refine inspect_ignores (fun _ => rfl) fun connector => ?_
  refine inspect_ignores (fun _ => rfl) fun registered => ?_
  refine inspect_ignores (fun _ => rfl) fun _ => ?_
  refine inspect_ignores (fun _ => rfl) fun challenge => ?_
  split
  · exact Ignores.pure _
  · refine Ignores.bind ?_ fun _ => Ignores.bind (onMesh_ignores _)
      fun authenticated => Ignores.bind ?_ fun _ => Ignores.pure _
    · unfold createMissingAccount
      refine inspect_ignores (fun _ => rfl) fun missing => ?_
      split
      · refine inspect_ignores (fun _ => rfl) fun username => ?_
        refine inspect_ignores (fun _ => rfl) fun password => ?_
        refine inspect_ignores (fun _ => rfl) fun attributes => ?_
        exact onAccounts_ignores _
      · exact Ignores.pure _
    · unfold startVerification
      refine inspect_ignores (fun _ => rfl) fun verifies => ?_
      split
      · refine Ignores.bind (mailToken_ignores _ _) fun _ => ?_
        split
        · exact Ignores.attempt (onMesh_ignores _)
        · exact Ignores.pure _
      · exact Ignores.pure _

theorem createLocalUser_ignores {tenantId username password : String}
    {email : Option String} {claims : KeyedMap String String} :
    Ignores (overlaid proposals providerState revision)
      (createLocalUser environment tenantId username password email claims) := by
  unfold createLocalUser
  refine inspect_ignores (fun _ => rfl) fun _ => ?_
  refine inspect_ignores (fun _ => rfl) fun connector => ?_
  refine Ignores.bind (onAccounts_ignores _) fun _ => ?_
  refine inspect_ignores (fun _ => rfl) fun challenge => ?_
  exact Ignores.bind (onMesh_ignores _) fun _ => Ignores.pure _

theorem changePassword_ignores :
    Ignores (overlaid proposals providerState revision)
      (changePassword environment request) := by
  unfold changePassword
  refine inspect_ignores (fun _ => rfl) fun policy => ?_
  refine inspect_ignores (fun _ => rfl) fun _ => ?_
  refine inspect_ignores (fun _ => rfl) fun tenantId => ?_
  refine inspect_ignores (fun _ => rfl) fun connectorId => ?_
  refine inspect_ignores (fun _ => rfl) fun username => ?_
  refine inspect_ignores (fun _ => rfl) fun currentPassword => ?_
  refine inspect_ignores (fun _ => rfl) fun newPassword => ?_
  refine inspect_ignores (fun _ => rfl) fun _ => ?_
  refine inspect_ignores (fun _ => rfl) fun connector => ?_
  exact onAccounts_ignores _

theorem forgotPassword_ignores :
    Ignores (overlaid proposals providerState revision)
      (forgotPassword environment request) := by
  unfold forgotPassword
  refine inspect_ignores (fun _ => rfl) fun policy => ?_
  refine inspect_ignores (fun _ => rfl) fun _ => ?_
  exact mailToken_ignores _ _

theorem consumeToken_ignores {token unsplit : String} {kind : CeremonyKind}
    {operation : AuthConnector Accounts → String → String →
      ConnectorM Accounts Unit} :
    Ignores (overlaid proposals providerState revision)
      (consumeToken environment token kind unsplit operation) := by
  unfold consumeToken
  refine Ignores.translate ?_
  refine Ignores.onChangedPart
    (ChallengeStore.consumeWith_ignores fun tenantId account => ?_)
    (fun _ => rfl) fun _ _ => rfl
  unfold tokenOperation
  refine Ignores.bind (Ignores.inspect fun _ => rfl) fun parts => ?_
  refine Ignores.bind (Ignores.inspect fun _ => rfl) fun connector => ?_
  exact Ignores.onPart (fun _ => rfl) fun _ _ => rfl

theorem resetPassword_ignores :
    Ignores (overlaid proposals providerState revision)
      (resetPassword environment request) := by
  unfold resetPassword
  refine inspect_ignores (fun _ => rfl) fun policy => ?_
  refine inspect_ignores (fun _ => rfl) fun token => ?_
  refine inspect_ignores (fun _ => rfl) fun newPassword => ?_
  refine inspect_ignores (fun _ => rfl) fun _ => ?_
  exact consumeToken_ignores

theorem verifyEmail_ignores :
    Ignores (overlaid proposals providerState revision)
      (verifyEmail environment request) := by
  unfold verifyEmail
  refine inspect_ignores (fun _ => rfl) fun token => ?_
  exact consumeToken_ignores

theorem signOut_ignores :
    Ignores (overlaid proposals providerState revision)
      (signOut environment request) := by
  unfold signOut
  refine inspect_ignores (fun _ => rfl) fun context => ?_
  exact onMesh_ignores _

/-- No flow reads which providers are switched off. -/
theorem perform_ignores (call : CredentialCall) :
    Ignores (overlaid proposals providerState revision)
      (perform environment call) := by
  cases call with
  | signIn request => exact Ignores.map signIn_ignores
  | signUp request => exact Ignores.map signUp_ignores
  | changePassword request => exact Ignores.map changePassword_ignores
  | resetPassword request => exact Ignores.map resetPassword_ignores
  | forgotPassword request => exact Ignores.map forgotPassword_ignores
  | requestEmailVerification request =>
      exact Ignores.map (mailToken_ignores _ _)
  | verifyEmail request => exact Ignores.map verifyEmail_ignores
  | revokeChallenge token =>
      exact Ignores.map (Ignores.onPart (fun _ => rfl) fun _ _ => rfl)
  | signOut request => exact Ignores.map signOut_ignores
  | createLocalUser => exact Ignores.map createLocalUser_ignores

end Overlay

/-! ## Switched-off providers over runs -/

/-- A step of the deployment: of its control plane, of the mesh, or of one of
the credential flows. -/
inductive Step (Accounts : Type) where
  | control (call : ControlCall)
  /-- Changes are applied from the store or as the caller hands them in. -/
  | apply (clock : Nat → Nat) (call : ApplyCall)
  | mesh (call : MeshCall)
  | credential (environment : CredentialEnvironment Accounts)
      (call : CredentialCall)

def step (hashChange : AuthorityChange → UInt64)
    (self : CredentialRuntime Accounts) :
    Step Accounts → CredentialRuntime Accounts
  | .control call =>
      let history : ProposalHistory := { runtime := self.control, applied := [] }
      self.changeControl (history.perform hashChange call).runtime
  | .apply clock call =>
      self.changeControl
        (finalState (call.perform port hashChange clock self.control))
  | .mesh call => self.changeMesh (self.mesh.perform call)
  | .credential environment call =>
      finalState (perform environment call self)

/-- Runs start in any runtime. -/
def system (Accounts : Type) (hashChange : AuthorityChange → UInt64) :
    TransitionSystem (CredentialRuntime Accounts) (Step Accounts) :=
  { initial := fun _ => True, step := step hashChange }

/-- What anybody can tell of an outcome: the answer, and what the call left in
the mesh, the challenges and the accounts. -/
def seen {α : Type} :
    EStateM.Result AuthError (CredentialRuntime Accounts) α →
      Except AuthError α × AuthMesh × ChallengeStore × Accounts
  | .ok value final =>
      (.ok value, final.mesh, final.challenges, final.accounts)
  | .error err final =>
      (.error err, final.mesh, final.challenges, final.accounts)

/-- A call respects which providers are switched off: through one of them
nothing succeeds and nothing is changed, and switching one off changes nothing
for a call that does not go through it. -/
structure KeepsShut (environment : CredentialEnvironment Accounts)
    (runtime : CredentialRuntime Accounts) (call : CredentialCall) : Prop where
  shut : ∀ provider,
    runtime.connectorOf environment call = some provider →
    runtime.isProviderEnabled provider = false →
    Refuses (perform environment call) runtime
  others : ∀ provider next (control : ProposalRuntime MemoryProposalStore),
    applyChange runtime.authority (.setProviderEnabled provider false) =
      .ok next →
    control.runtime = { runtime.control.runtime with authority := next } →
    runtime.connectorOf environment call ≠ some provider →
    seen (perform environment call (runtime.changeControl control)) =
      seen (perform environment call runtime)

/-- A provider that is switched off is only declared, or the call does not get
as far as asking its connector. -/
def TurnedAway (self : CredentialRuntime Accounts) : Step Accounts → Prop
  | .credential environment call =>
      ∀ provider, self.connectorOf environment call = some provider →
        self.isProviderEnabled provider = false →
        environment.connectors provider =
            declaredConnector Accounts provider ∨
          ¬self.Asks environment call
  | _ => True

/-- A call through a provider that is switched off fails one of the checks that
are made of every call. -/
def Ungranted (self : CredentialRuntime Accounts) : Step Accounts → Prop
  | .credential environment call =>
      ∀ provider, self.connectorOf environment call = some provider →
        self.isProviderEnabled provider = false →
        ¬self.Grants environment call
  | _ => True

section Switched

variable {provider : String} {next : LiveAuthorityState}
  {control : ProposalRuntime MemoryProposalStore}

theorem changeControl_switched
    (switched : applyChange self.authority
      (.setProviderEnabled provider false) = .ok next)
    (adopted : control.runtime =
      { self.control.runtime with authority := next }) :
    self.changeControl control =
      overlaid control.proposals
        (self.authority.providerState.insert provider { enabled := false })
        (self.authority.revision + 1) self := by
  cases switched
  obtain ⟨runtime, proposals⟩ := control
  cases adopted
  rfl

/-- That changes nothing for any call. -/
theorem seen_switched
    (switched : applyChange self.authority
      (.setProviderEnabled provider false) = .ok next)
    (adopted : control.runtime =
      { self.control.runtime with authority := next }) :
    seen (perform environment call (self.changeControl control)) =
      seen (perform environment call self) := by
  rw [changeControl_switched switched adopted, perform_ignores]
  cases perform environment call self <;> rfl

end Switched

theorem keepsShut_iff :
    self.KeepsShut environment call ↔
      self.Ungranted (.credential environment call) := by
  constructor
  · intro keeps provider through off
    exact (refuses_perform_iff through).mp (keeps.shut provider through off)
  · intro ungranted
    constructor
    · intro provider through off
      exact (refuses_perform_iff through).mpr (ungranted provider through off)
    · intro provider next control switched adopted _
      exact seen_switched switched adopted

/-- In every run, from whatever runtime and through whatever changes of the
live authority, the calls respect which providers are switched off exactly if
the other checks turn away whatever goes through such a provider. -/
theorem keepsShut_run_iff (hashChange : AuthorityChange → UInt64)
    (self : CredentialRuntime Accounts) (steps : List (Step Accounts)) :
    (∀ early environment call late,
        steps = early ++ .credential environment call :: late →
        ((system Accounts hashChange).run self early).KeepsShut environment
          call) ↔
      (system Accounts hashChange).Follows Ungranted self steps := by
  rw [TransitionSystem.follows_iff]
  constructor
  · intro keeps early label late split
    cases label with
    | credential environment call =>
        exact keepsShut_iff.mp (keeps early environment call late split)
    | control call => trivial
    | apply clock call => trivial
    | mesh call => trivial
  · intro ungranted early environment call late split
    exact keepsShut_iff.mpr (ungranted early _ late split)

theorem TurnedAway.ungranted {label : Step Accounts}
    (turnedAway : self.TurnedAway label) : self.Ungranted label := by
  cases label with
  | credential environment call =>
      intro provider through off granted
      rcases turnedAway provider through off with declared | stopped
      · exact not_grants_declared through declared granted
      · exact stopped granted.asks
  | _ => trivial

/-- In every run in which a provider that is switched off is only declared or
not asked, the calls respect which providers are switched off. -/
theorem keepsShut_run (hashChange : AuthorityChange → UInt64)
    {self : CredentialRuntime Accounts} {steps : List (Step Accounts)}
    (follows : (system Accounts hashChange).Follows TurnedAway self steps) :
    ∀ early environment call late,
      steps = early ++ .credential environment call :: late →
      ((system Accounts hashChange).run self early).KeepsShut environment
        call := by
  apply (keepsShut_run_iff hashChange self steps).mpr
  rw [TransitionSystem.follows_iff] at follows ⊢
  intro early label late split
  exact (follows early label late split).ungranted

section Histories

variable {hashChange : AuthorityChange → UInt64}

/-- What has been applied before is not read. -/
theorem perform_runtime (history : ProposalHistory) (call : ControlCall)
    (applied : List String) :
    (ProposalHistory.perform hashChange
        { runtime := history.runtime, applied } call).runtime =
      (history.perform hashChange call).runtime := by
  unfold ProposalHistory.perform
  split
  · rfl
  · rfl
  · rfl
  · rename_i apply _ _
    dsimp only
    cases apply.perform port hashChange call.clock history.runtime <;> rfl

theorem run_control (revision : Nat) (self : CredentialRuntime Accounts)
    (history : ProposalHistory) (same : history.runtime = self.control)
    (calls : List ControlCall) :
    (system Accounts hashChange).run self (calls.map Step.control) =
      self.changeControl
        ((ProposalHistory.system hashChange revision).run history
          calls).runtime := by
  induction calls generalizing self history with
  | nil =>
      change self = self.changeControl history.runtime
      rw [same]
      rfl
  | cons call calls induction =>
      have stepped : step hashChange self (.control call) =
          self.changeControl (history.perform hashChange call).runtime := by
        change self.changeControl (ProposalHistory.perform hashChange
          { runtime := self.control, applied := [] } call).runtime = _
        rw [← same, perform_runtime]
      change (system Accounts hashChange).run
        (step hashChange self (.control call)) (calls.map Step.control) = _
      rw [stepped]
      exact induction _ (history.perform hashChange call) rfl

def switchOff (self : CredentialRuntime Accounts) (provider : String) :
    List (Step Accounts) :=
  (ProposalHistory.adoptCalls (fun _ => 0) self.control.nextProposalId
    (.setProviderEnabled provider false)).map .control

theorem run_switchOff {provider : String}
    (unallocated : ProposalHistory.Unallocated self.control) :
    ∃ proposals,
      (system Accounts hashChange).run self (self.switchOff provider) =
        overlaid proposals
          (self.authority.providerState.insert provider { enabled := false })
          (self.authority.revision + 1) self := by
  let history : ProposalHistory := { runtime := self.control, applied := [] }
  have previewed := @ProposalRuntime.previewAuthorityChange_disable
    self.control self.control.authority provider
  have adopts : (ProposalHistory.system hashChange 0).run history
      (ProposalHistory.adoptCalls (fun _ => 0) self.control.nextProposalId
        (.setProviderEnabled provider false)) = _ :=
    ProposalHistory.run_adoptCalls unallocated previewed
  unfold switchOff
  rw [run_control 0 self history rfl, adopts]
  exact ⟨_, changeControl_switched rfl rfl⟩

/-- Whatever was granted through a provider is still granted when the provider
is switched off, and the answer is the same. -/
theorem not_keepsShut_switched {provider : String}
    (unallocated : ProposalHistory.Unallocated self.control)
    (through : self.connectorOf environment call = some provider)
    (granted : self.Grants environment call) :
    let switched :=
      (system Accounts hashChange).run self (self.switchOff provider)
    ¬switched.KeepsShut environment call ∧
      seen (perform environment call switched) =
        seen (perform environment call self) := by
  intro switched
  have closes : ∃ proposals, switched = overlaid proposals _ _ self :=
    run_switchOff unallocated
  obtain ⟨proposals, closed⟩ := closes
  rw [closed]
  constructor
  · rw [keepsShut_iff]
    intro ungranted
    refine ungranted provider through ?_ ?_
    · change ((self.authority.providerState.insert provider
        { enabled := false })[provider]?.map ProviderState.enabled).getD
          true = _
      rw [Std.ExtTreeMap.getElem?_insert_self]
      rfl
    · cases call <;> exact granted
  · rw [perform_ignores]
    cases perform environment call self <;> rfl

end Histories

end CredentialRuntime

/-! ## A provider that stays open -/

/-- Passwords that are kept behind a mark. -/
def markedHashing : PasswordHashing :=
  { hashPassword := fun password => some ("$argon2id$" ++ password)
    verifies := fun hash password => hash == "$argon2id$" ++ password }

/-- The local connector; every other provider is only declared. -/
def localEnvironment : CredentialEnvironment LocalDirectory :=
  { systemTime := some 0
    mintSessionId := fun counter => s!"sess_{counter}"
    auditFault := fun _ => none
    connectors := fun id =>
      if id == localId then localConnector markedHashing
      else declaredConnector LocalDirectory id
    mail := none
    hash := utf8
    randomBytes := []
    clock := fun _ => 5 }

def aliceMesh : AuthMesh :=
  AuthMesh.system.run emptyMesh
    [acmeCall 0 (.putTenant acme), acmeCall 0 (.putPolicy (acmePolicy [])),
      register "alice"
        { kind := .human
          claims := (∅ : KeyedMap String String).insert "role" "admin" }]

def aliceRuntime : CredentialRuntime LocalDirectory :=
  { control :=
      { runtime :=
          { mesh := aliceMesh
            resourceResolver := noResourceResolver
            authority := .new }
        proposals := .new }
    registration := .closed
    challenges := .default
    accounts :=
      (∅ : LocalDirectory).insert "alice"
        { username := "alice"
          passwordHash := "$argon2id$correct horse"
          passwordHistory := []
          passwordChangedAt := 0
          attributes := ∅ } }

def aliceSignIn : BoundaryRequest :=
  { BoundaryRequest.new .post "/auth/login" with
    body :=
      ((((∅ : KeyedMap String String).insert "tenant" "acme").insert
        "connector" "local").insert "username" "alice").insert "password"
          "correct horse" }

theorem registration_turnedAway :
    (CredentialRuntime.system LocalDirectory fun _ => 0).Follows
      CredentialRuntime.TurnedAway aliceRuntime
      (aliceRuntime.switchOff "local" ++
        [.credential localEnvironment (.signUp aliceSignIn)]) := by
  apply TransitionSystem.follows_append_iff.mpr
  constructor
  · rw [TransitionSystem.follows_iff]
    intro early label late split
    have listed : label ∈ aliceRuntime.switchOff "local" := by
      rw [split]
      exact List.mem_append_right _ List.mem_cons_self
    obtain ⟨call, _, rfl⟩ := List.mem_map.mp listed
    trivial
  · refine ⟨?_, trivial⟩
    intro provider _ _
    right
    intro asks
    obtain ⟨_, ⟨claims, opened⟩, _⟩ := asks
    obtain ⟨proposals, closed⟩ := @CredentialRuntime.run_switchOff
      LocalDirectory aliceRuntime (fun _ => 0) "local" fun _ _ => rfl
    rw [closed] at opened
    cases opened

theorem keepsShut_run_registration :
    ((CredentialRuntime.system LocalDirectory fun _ => 0).run aliceRuntime
      (aliceRuntime.switchOff "local")).KeepsShut localEnvironment
        (.signUp aliceSignIn) :=
  CredentialRuntime.keepsShut_run (fun _ => 0) registration_turnedAway
    (aliceRuntime.switchOff "local") localEnvironment (.signUp aliceSignIn) []
    rfl

theorem aliceSignIn_granted :
    aliceRuntime.GrantsSignIn localEnvironment aliceSignIn := by
  have granted : ((aliceRuntime.begin localEnvironment "acme"
      (attemptOf aliceSignIn "acme" "local")).toOption.bind fun challenge =>
        (aliceRuntime.mesh.signInGrounds
          (localEnvironment.meshEnvironment aliceRuntime.accounts) "acme"
          (responseOf aliceSignIn "acme" challenge)).toOption).isSome =
        true := by
    decide +kernel
  refine ⟨"acme", by decide +kernel, "local", by decide +kernel, ?_⟩
  cases began : aliceRuntime.begin localEnvironment "acme"
      (attemptOf aliceSignIn "acme" "local") with
  | error err =>
      rw [began] at granted
      cases granted
  | ok challenge =>
      rw [began] at granted
      obtain ⟨grounds, found⟩ := Option.isSome_iff_exists.mp granted
      exact ⟨challenge, rfl, fun _ =>
        ⟨grounds, except_toOption_eq_some found⟩⟩

theorem aliceSignIn_returned :
    (returned (CredentialRuntime.perform localEnvironment (.signIn aliceSignIn)
      aliceRuntime)).isSome = true := by
  decide +kernel

/-- The local provider is switched off, and then Alice signs in. -/
def closingSteps : List (CredentialRuntime.Step LocalDirectory) :=
  aliceRuntime.switchOff "local" ++
    [.credential localEnvironment (.signIn aliceSignIn)]

/-- Her session is opened all the same. -/
theorem closedProvider_not_keepsShut :
    (¬∀ early environment call late,
      closingSteps = early ++ .credential environment call :: late →
        ((CredentialRuntime.system LocalDirectory fun _ => 0).run aliceRuntime
          early).KeepsShut environment call) ∧
      ∃ answer,
        (CredentialRuntime.seen
          (CredentialRuntime.perform localEnvironment (.signIn aliceSignIn)
            ((CredentialRuntime.system LocalDirectory fun _ => 0).run
              aliceRuntime (aliceRuntime.switchOff "local")))).1 =
          .ok answer := by
  have through : aliceRuntime.connectorOf localEnvironment
      (.signIn aliceSignIn) = some "local" := by
    decide +kernel
  have granted : aliceRuntime.Grants localEnvironment (.signIn aliceSignIn) :=
    aliceSignIn_granted
  obtain ⟨leaks, same⟩ := @CredentialRuntime.not_keepsShut_switched
    LocalDirectory localEnvironment aliceRuntime (.signIn aliceSignIn)
    (fun _ => 0) "local" (fun _ _ => rfl) through granted
  constructor
  · intro keeps
    exact leaks (keeps _ localEnvironment (.signIn aliceSignIn) [] rfl)
  · obtain ⟨⟨answer, final⟩, found⟩ :=
      Option.isSome_iff_exists.mp aliceSignIn_returned
    refine ⟨answer, ?_⟩
    rw [same, returned_eq_some found]
    rfl

end AuthBoundry
