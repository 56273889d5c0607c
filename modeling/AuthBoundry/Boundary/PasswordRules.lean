import AuthBoundry.Boundary.Verification

/-!
# Passwords under the effective policy

Four calls set the password of a local account.  Each reads the policy that is
effective when it starts, and the password it sets satisfies the rules of that
policy.  Whether the policy lets passwords be changed at all is asked by a
change, and for a reset only by the request that issues the token; so a reset
is in order as long as no token outlives the permission.
-/

namespace AuthBoundry

open Library
open Library.Stateful
open MemoryProposalStore (port)

/-! ## The rules -/

/-- The password has the length and the characters that the policy asks
for. -/
structure PasswordPolicy.Accepts (policy : PasswordPolicy)
    (password : String) : Prop where
  long : policy.minLength ≤ password.toList.length
  short : password.toList.length ≤ policy.maxLength
  uppercase : policy.requireUppercase = true →
    ∃ character ∈ password.toList, character.isUpper = true
  lowercase : policy.requireLowercase = true →
    ∃ character ∈ password.toList, character.isLower = true
  number : policy.requireNumber = true →
    ∃ character ∈ password.toList, character.isDigit = true
  special : policy.requireSpecialCharacter = true →
    ∃ character ∈ password.toList,
      character.isAlphanum = false ∧ isWhitespace character = false

theorem validatePasswordWith_eq_ok {password : String}
    {policy : PasswordPolicy}
    (valid : validatePasswordWith password policy = .ok ()) :
    policy.Accepts password := by
  unfold validatePasswordWith at valid
  dsimp only at valid
  split at valid
  · cases valid
  rename_i long
  split at valid
  · cases valid
  rename_i short
  split at valid
  · cases valid
  rename_i uppercase
  split at valid
  · cases valid
  rename_i lowercase
  split at valid
  · cases valid
  rename_i number
  split at valid
  · cases valid
  rename_i special
  simp only [Bool.and_eq_true, Bool.not_eq_true', not_and, Bool.not_eq_false,
    List.any_eq_true] at uppercase lowercase number special
  exact
    { long := by omega
      short := by omega
      uppercase
      lowercase
      number
      special }

/-- The account has the password that it had. -/
structure LocalAccount.SamePassword (before after : LocalAccount) : Prop where
  hash : after.passwordHash = before.passwordHash
  history : after.passwordHistory = before.passwordHistory
  changedAt : after.passwordChangedAt = before.passwordChangedAt

/-- The account gets a password that the policy accepts.  Where there was an
account before, it is none of the passwords that the account remembers, as far
back as the policy goes, and the account remembers the one it replaces. -/
structure TakesPassword (hashing : PasswordHashing) (policy : PasswordPolicy)
    (password : String) (before : Option LocalAccount)
    (after : LocalAccount) : Prop where
  hashed : hashing.hashPassword password = some after.passwordHash
  accepted : policy.Accepts password
  unused : ∀ account, before = some account →
    ∀ hash ∈ account.passwordHash ::
        account.passwordHistory.take policy.passwordHistoryCount,
      hashing.verifies hash password = false
  remembered : ∀ account, before = some account →
    after.passwordHistory =
      (account.passwordHash :: account.passwordHistory).take
        policy.passwordHistoryCount

def SetsPasswords (hashing : PasswordHashing) (policy : PasswordPolicy)
    (password : Option String) (before after : LocalDirectory) : Prop :=
  ∀ (username : String) later, after[username]? = some later →
    (∃ account, before[username]? = some account ∧
        account.SamePassword later) ∨
      ∃ given, password = some given ∧
        TakesPassword hashing policy given before[username]? later

/-- A password that replaces another has the time of the call, and the first
one of an account has none. -/
structure TakesPasswordAt (hashing : PasswordHashing) (policy : PasswordPolicy)
    (now : Int) (password : String) (before : Option LocalAccount)
    (after : LocalAccount) : Prop
    extends TakesPassword hashing policy password before after where
  time : after.passwordChangedAt = if before.isSome then now else 0

def SetsPasswordsAt (hashing : PasswordHashing) (policy : PasswordPolicy)
    (now : Int) (password : Option String) (before after : LocalDirectory) :
    Prop :=
  ∀ (username : String) later, after[username]? = some later →
    (∃ account, before[username]? = some account ∧
        account.SamePassword later) ∨
      ∃ given, password = some given ∧
        TakesPasswordAt hashing policy now given before[username]? later

theorem SetsPasswordsAt.sets {hashing : PasswordHashing}
    {policy : PasswordPolicy} {now : Int} {password : Option String}
    {before after : LocalDirectory}
    (sets : SetsPasswordsAt hashing policy now password before after) :
    SetsPasswords hashing policy password before after := by
  intro username later found
  rcases sets username later found with kept | ⟨given, named, takes⟩
  · exact .inl kept
  · exact .inr ⟨given, named, takes.toTakesPassword⟩

namespace SetsPasswordsAt

variable {hashing : PasswordHashing} {policy : PasswordPolicy} {now : Int}
  {password : Option String}

theorem refl (accounts : LocalDirectory) :
    SetsPasswordsAt hashing policy now password accounts accounts :=
  fun _ account stored => .inl ⟨account, stored, rfl, rfl, rfl⟩

theorem stored {accounts : LocalDirectory} {username : String}
    {changed : LocalAccount}
    (sets : (∃ account, accounts[username]? = some account ∧
        account.SamePassword changed) ∨
      ∃ given, password = some given ∧
        TakesPasswordAt hashing policy now given accounts[username]? changed) :
    SetsPasswordsAt hashing policy now password accounts
      (accounts.insert username changed) := by
  intro other later found
  rw [KeyedMap.getElem?_insert_eq] at found
  split at found
  · rename_i same
    cases same
    cases found
    exact sets
  · exact .inl ⟨later, found, rfl, rfl, rfl⟩

end SetsPasswordsAt

namespace LocalConnector

variable {hashing : PasswordHashing} {policy : PasswordPolicy} {now : Int}
  {password : Option String}

theorem changeAccount_sets {accounts : LocalDirectory} {username : String}
    {change : LocalAccount → Except ConnectorError LocalAccount}
    (sets : ∀ account changed, change account = .ok changed →
      account.SamePassword changed ∨
        ∃ given, password = some given ∧
          TakesPasswordAt hashing policy now given (some account) changed) :
    SetsPasswordsAt hashing policy now password accounts
      (finalState (changeAccount username change accounts)) := by
  unfold changeAccount commit
  dsimp only
  cases found : accounts[username]? with
  | none => exact .refl accounts
  | some account =>
      dsimp only
      cases outcome : change account with
      | error err => exact .refl accounts
      | ok changed =>
          apply SetsPasswordsAt.stored
          rcases sets account changed outcome with same | takes
          · exact .inl ⟨account, found, same⟩
          · exact .inr (by rwa [found])

theorem setPassword_takes {account changed : LocalAccount} {given : String}
    (accepted : policy.Accepts given)
    (set : account.setPassword hashing given policy now = .ok changed) :
    TakesPasswordAt hashing policy now given (some account) changed := by
  unfold LocalAccount.setPassword at set
  split at set
  · cases set
  · rename_i fresh
    split at set
    · cases set
    · rename_i hash hashed
      cases set
      refine { hashed, accepted, unused := ?_, remembered := ?_, time := rfl }
      · rintro _ ⟨⟩ old remembered
        unfold LocalAccount.matchesCurrentOrHistory at fresh
        rw [List.any_eq_true, not_exists] at fresh
        have different := fresh old
        rw [not_and] at different
        exact Bool.eq_false_of_not_eq_true (different remembered)
      · rintro _ ⟨⟩
        rfl

theorem changePassword_sets {accounts : LocalDirectory}
    {username currentPassword given : String}
    (accepted : policy.Accepts given) (new : password = some given) :
    SetsPasswordsAt hashing policy now password accounts
      (finalState (changePassword hashing username currentPassword given policy
        now accounts)) := by
  apply changeAccount_sets
  intro account changed outcome
  split at outcome
  · exact .inr ⟨given, new, setPassword_takes accepted outcome⟩
  · cases outcome

theorem resetPassword_sets {accounts : LocalDirectory}
    {username given : String} (accepted : policy.Accepts given)
    (new : password = some given) :
    SetsPasswordsAt hashing policy now password accounts
      (finalState (resetPassword hashing username given policy now
        accounts)) := by
  apply changeAccount_sets
  intro account changed outcome
  exact .inr ⟨given, new, setPassword_takes accepted outcome⟩

theorem markEmailVerified_sets {accounts : LocalDirectory}
    {username : String} :
    SetsPasswordsAt hashing policy now password accounts
      (finalState (markEmailVerified username accounts)) := by
  apply changeAccount_sets
  intro account changed outcome
  cases outcome
  exact .inl ⟨rfl, rfl, rfl⟩

theorem newAccount_takes {username given : String}
    {attributes : KeyedMap String String} {account : LocalAccount}
    (accepted : policy.Accepts given)
    (made : newAccount hashing username given attributes = some account) :
    TakesPasswordAt hashing policy now given none account := by
  obtain ⟨kept, new, rfl⟩ := Option.map_eq_some_iff.mp made
  obtain ⟨hash, hashed, rfl⟩ := Option.map_eq_some_iff.mp new
  exact
    { hashed
      accepted
      unused := by simp
      remembered := by simp
      time := rfl }

end LocalConnector

/-! ## The calls -/

/-- The password that a call sets, if it sets one. -/
def CredentialCall.newPassword : CredentialCall → Option String
  | .signUp request => request.field "password"
  | .createLocalUser _ _ password _ _ => some password
  | .changePassword request => request.field "new_password"
  | .resetPassword request =>
      (CredentialRuntime.newPasswordOf request).toOption
  | _ => none

namespace CredentialRuntime

variable {environment : CredentialEnvironment LocalDirectory}
  {hashing : PasswordHashing} {self : CredentialRuntime LocalDirectory}
  {policy : PasswordPolicy} {now : Int} {password : Option String}

/-- What a call leaves of the accounts sets no other password. -/
def SetsTo (hashing : PasswordHashing) (policy : PasswordPolicy)
    (password : Option String) (self after : CredentialRuntime LocalDirectory) :
    Prop :=
  SetsPasswords hashing policy password self.accounts after.accounts

/-- The same, with the time that is recorded. -/
def SetsAt (hashing : PasswordHashing) (policy : PasswordPolicy) (now : Int)
    (password : Option String) (self after : CredentialRuntime LocalDirectory) :
    Prop :=
  SetsPasswordsAt hashing policy now password self.accounts after.accounts

namespace SetsAt

theorem refl (self : CredentialRuntime LocalDirectory) :
    SetsAt hashing policy now password self self :=
  SetsPasswordsAt.refl self.accounts

theorem frames {α : Type} {program : CredentialM LocalDirectory α}
    (framed : Frames accounts program) :
    SetsAt hashing policy now password self (finalState (program self)) := by
  unfold SetsAt
  rw [framed self]
  exact .refl self.accounts

theorem inspect {α β : Type}
    {query : CredentialRuntime LocalDirectory → Except AuthError α}
    {next : α → CredentialM LocalDirectory β}
    (rest : ∀ value, query self = .ok value →
      SetsAt hashing policy now password self (finalState (next value self))) :
    SetsAt hashing policy now password self
      (finalState ((Stateful.inspect query >>= next) self)) := by
  rw [inspect_bind]
  cases answer : query self with
  | error err => exact refl self
  | ok value => exact rest value answer

/-- What follows a write to the accounts leaves them alone. -/
theorem bind {α β : Type} {program : CredentialM LocalDirectory α}
    {next : α → CredentialM LocalDirectory β}
    (first : SetsAt hashing policy now password self (finalState (program self)))
    (rest : ∀ value, Frames accounts (next value)) :
    SetsAt hashing policy now password self
      (finalState ((program >>= next) self)) := by
  unfold SetsAt at *
  rw [bind_apply]
  cases outcome : program self with
  | error err middle =>
      rw [outcome] at first
      exact first
  | ok value middle =>
      rw [outcome] at first
      dsimp only
      rw [rest value middle]
      exact first

theorem onAccounts {α : Type} {program : ConnectorM LocalDirectory α}
    (sets : SetsPasswordsAt hashing policy now password self.accounts
      (finalState (program self.accounts))) :
    SetsAt hashing policy now password self
      (finalState (CredentialRuntime.onAccounts program self)) := by
  unfold CredentialRuntime.onAccounts
  rw [finalState_onPart, finalState_translate]
  exact sets

theorem consumeToken {token unsplit : String} {kind : CeremonyKind}
    {operation : AuthConnector LocalDirectory → String → String →
      ConnectorM LocalDirectory Unit}
    (sets : ∀ id tenantId username, SetsPasswordsAt hashing policy now password
      self.accounts
      (finalState (operation (environment.connectors id) tenantId username
        self.accounts))) :
    SetsAt hashing policy now password self
      (finalState (CredentialRuntime.consumeToken environment token kind
        unsplit operation self)) := by
  unfold CredentialRuntime.consumeToken
  rw [finalState_translate, finalState_onPart,
    ChallengeStore.consumeWith_apply]
  cases self.challenges.open? environment.hash token kind
      (environment.clock 0) with
  | error message => exact refl self
  | ok entry =>
      have operated : SetsAt hashing policy now password self (finalState
          (tokenOperation environment unsplit operation entry.tenant
            entry.account self)) := by
        unfold tokenOperation
        rw [inspect_bind]
        cases splitAccount entry.account unsplit with
        | error message => exact refl self
        | ok parts =>
            dsimp only
            rw [inspect_bind]
            split
            · rw [finalState_onPart, finalState_translate]
              exact sets _ entry.tenant parts.2
            · exact refl self
      dsimp only
      cases ran : tokenOperation environment unsplit operation entry.tenant
          entry.account self with
      | error message after =>
          rw [ran] at operated
          exact operated
      | ok value after =>
          rw [ran] at operated
          exact operated

theorem builtIn (id : String)
    (operation : AuthConnector LocalDirectory → ConnectorM LocalDirectory Unit)
    {accounts : LocalDirectory}
    (locally : SetsPasswordsAt hashing policy now password accounts
      (finalState (operation (localConnector hashing) accounts)))
    (declared : finalState (operation (declaredConnector LocalDirectory id)
      accounts) = accounts) :
    SetsPasswordsAt hashing policy now password accounts
      (finalState (operation (builtInConnectors hashing id) accounts)) := by
  unfold builtInConnectors
  split
  · exact locally
  · rw [declared]
    exact .refl accounts

end SetsAt

def passwordPolicy (self : CredentialRuntime LocalDirectory) :
    PasswordPolicy :=
  self.effectivePasswordPolicy.policy

theorem mesh_frames {α : Type} (program : Environment → MeshM α) :
    Frames accounts (onMesh environment program) := by
  intro self
  rw [finalState_onMesh]
  rfl

theorem signIn_frames (request : BoundaryRequest) :
    Frames accounts (signIn environment request) := by
  unfold signIn
  refine .bind (.inspect _) fun tenantId => .bind (.inspect _) fun connector =>
    .bind (.inspect _) fun challenge => ?_
  split
  · exact .pure _
  · refine .bind (mesh_frames _) fun authenticated =>
      .bind (.inspect _) fun _ => .bind (.inspect _) fun unverified => ?_
    split
    · exact .bind (mesh_frames _) fun _ _ => rfl
    · exact .pure _

theorem changePassword_setsAt (request : BoundaryRequest) :
    SetsAt hashing self.passwordPolicy (environment.clock 0)
      (CredentialCall.changePassword request).newPassword self
      (finalState
        (changePassword (environment.withBuiltIn hashing) request self)) := by
  unfold changePassword
  refine .inspect fun policy effective => ?_
  cases effective
  refine .inspect fun _ _ => .inspect fun tenantId _ =>
    .inspect fun connectorId _ => .inspect fun username _ =>
    .inspect fun currentPassword _ => .inspect fun given new =>
    .inspect fun _ valid => .inspect fun connector _ => ?_
  apply SetsAt.onAccounts
  exact SetsAt.builtIn connector
    (fun found => found.changePassword tenantId username currentPassword given
      self.passwordPolicy _)
    (LocalConnector.changePassword_sets (validatePasswordWith_eq_ok valid)
      (requiredField_eq_ok_iff.mp new)) rfl

theorem resetPassword_setsAt (request : BoundaryRequest) :
    SetsAt hashing self.passwordPolicy (environment.clock 1)
      (CredentialCall.resetPassword request).newPassword self
      (finalState
        (resetPassword (environment.withBuiltIn hashing) request self)) := by
  unfold resetPassword
  refine .inspect fun policy effective => ?_
  cases effective
  refine .inspect fun token _ => .inspect fun given new =>
    .inspect fun _ valid => ?_
  apply SetsAt.consumeToken
  intro id tenantId username
  have named : (CredentialCall.resetPassword request).newPassword =
      some given := by
    change (newPasswordOf request).toOption = some given
    rw [new]
    rfl
  exact SetsAt.builtIn id
    (fun found =>
      found.resetPassword tenantId username given self.passwordPolicy _)
    (LocalConnector.resetPassword_sets (validatePasswordWith_eq_ok valid) named)
    rfl

theorem verifyEmail_setsAt (request : BoundaryRequest) :
    SetsAt hashing policy now password self
      (finalState
        (verifyEmail (environment.withBuiltIn hashing) request self)) := by
  unfold verifyEmail
  refine .inspect fun token _ => ?_
  apply SetsAt.consumeToken
  intro id tenantId username
  exact SetsAt.builtIn id (fun found => found.markEmailVerified username)
    LocalConnector.markEmailVerified_sets rfl

theorem createAccount_setsAt {username given : String}
    {attributes : KeyedMap String String} (accepted : policy.Accepts given)
    (new : password = some given) :
    SetsAt hashing policy now password self
      (finalState (onAccounts (LocalConnector.createAccount hashing username
        given attributes) self)) := by
  rcases @createAccount_cases hashing self username given attributes with
    ⟨err, failed, _⟩ | ⟨account, made, absent, created⟩
  · rw [failed]
    exact .refl self
  · rw [created]
    apply SetsPasswordsAt.stored
    rw [absent]
    exact .inr ⟨given, new, LocalConnector.newAccount_takes accepted made⟩

theorem signUp_setsAt (request : BoundaryRequest) :
    SetsAt hashing self.passwordPolicy now
      (CredentialCall.signUp request).newPassword self
      (finalState (signUp (environment.withBuiltIn hashing) request self)) := by
  unfold signUp
  refine .inspect fun claims _ => .inspect fun tenantId _ =>
    .inspect fun connector _ => .inspect fun registered _ =>
    .inspect fun _ checked => .inspect fun challenge _ => ?_
  split
  · exact .refl self
  · refine .bind ?_ fun _ => fun self => (register_onward self).accounts
    unfold createMissingAccount
    refine .inspect fun missing lacks => ?_
    split
    · rename_i isMissing
      cases lacks
      have isLocal : connector = localId := by
        unfold lacksAccount at isMissing
        simp only [Bool.and_eq_true, beq_iff_eq] at isMissing
        exact isMissing.1
      subst isLocal
      refine .inspect fun username _ => .inspect fun given new =>
        .inspect fun attributes _ => ?_
      have valid : self.validatePassword given = .ok () := by
        unfold checkNewPassword at checked
        rw [withBuiltIn_local] at checked
        change (requiredField request "password" >>= self.validatePassword) =
          .ok () at checked
        rw [new] at checked
        exact checked
      rw [withBuiltIn_local]
      exact createAccount_setsAt (validatePasswordWith_eq_ok valid)
        (requiredField_eq_ok_iff.mp new)
    · exact .refl self

theorem createLocalUser_setsAt (tenantId username given : String)
    (email : Option String) (claims : KeyedMap String String) :
    SetsAt hashing self.passwordPolicy now (some given) self
      (finalState
        (createLocalUser (environment.withBuiltIn hashing) tenantId username
          given email claims self)) := by
  unfold createLocalUser
  refine .inspect fun _ valid => .inspect fun registered found => ?_
  rw [connector_local found, withBuiltIn_local]
  refine .bind ?_ fun _ => ?_
  · exact createAccount_setsAt (validatePasswordWith_eq_ok valid) rfl
  · refine .bind (.inspect _) fun challenge =>
      .bind (mesh_frames _) fun _ => .pure _

/-- The time at which a call sets a password, if it sets one. -/
def Visit.time (visit : Visit) : Int :=
  match visit.call with
  -- The token is looked up at an earlier reading.
  | .resetPassword _ => visit.environment.clock 1
  | _ => visit.environment.clock 0

/-- Every call sets the password that it is given, if it satisfies the rules,
and no other. -/
theorem visited_setsAt (visit : Visit) :
    SetsAt visit.hashing self.passwordPolicy visit.time visit.call.newPassword
      self (self.visited visit) := by
  obtain ⟨environment, hashing, call⟩ := visit
  unfold visited
  unfold perform
  cases call with
  | revokeChallenge token => exact .refl self
  | signIn request =>
      rw [finalState_map]
      exact .frames (signIn_frames request)
  | signUp request =>
      rw [finalState_map]
      exact signUp_setsAt request
  | changePassword request =>
      rw [finalState_map]
      exact changePassword_setsAt request
  | resetPassword request =>
      rw [finalState_map]
      exact resetPassword_setsAt request
  | forgotPassword request =>
      rw [finalState_map]
      apply SetsAt.frames
      unfold forgotPassword
      exact .bind (.inspect _) fun policy => .bind (.inspect _) fun _ =>
        mailToken_frames (fun _ _ => rfl) _ _
  | requestEmailVerification request =>
      rw [finalState_map]
      exact .frames (mailToken_frames (fun _ _ => rfl) _ _)
  | verifyEmail request =>
      rw [finalState_map]
      exact verifyEmail_setsAt request
  | signOut request =>
      rw [finalState_map]
      apply SetsAt.frames
      unfold signOut
      exact .bind (.inspect _) fun context => mesh_frames _
  | createLocalUser tenantId username given email claims =>
      rw [finalState_map]
      exact createLocalUser_setsAt tenantId username given email claims

theorem visited_setsTo (visit : Visit) :
    SetsTo visit.hashing self.passwordPolicy visit.call.newPassword self
      (self.visited visit) :=
  (visited_setsAt visit).sets

/-! ## Permissions -/

theorem consumeToken_failsTo {token unsplit : String} {kind : CeremonyKind}
    {operation : AuthConnector LocalDirectory → String → String →
      ConnectorM LocalDirectory Unit}
    (keeps : ∀ id tenantId username, FailsTo (Eq self.accounts)
      (operation (environment.connectors id) tenantId username)
      self.accounts) :
    FailsTo (Eq self)
      (consumeToken environment token kind unsplit operation) self := by
  intro err final failed
  have operated : ∀ tenantId account, FailsTo (Eq self)
      (tokenOperation environment unsplit operation tenantId account)
      self := by
    intro tenantId account
    unfold tokenOperation
    rw [failsTo_inspect_bind_iff rfl]
    intro parts _
    rw [failsTo_inspect_bind_iff rfl]
    intro connector _ message after stopped
    unfold onPart Stateful.translate at stopped
    cases outcome : operation (environment.connectors connector) tenantId
        parts.2 self.accounts with
    | ok value accounts =>
        rw [outcome] at stopped
        cases stopped
    | error refusal accounts =>
        have same := keeps connector tenantId parts.2 refusal accounts outcome
        rw [outcome] at stopped
        cases stopped
        rw [← same]
        rfl
  unfold consumeToken Stateful.translate onPart at failed
  rw [ChallengeStore.consumeWith_apply] at failed
  cases opened : self.challenges.open? environment.hash token kind
      (environment.clock 0) with
  | error message =>
      rw [opened] at failed
      cases failed
      rfl
  | ok entry =>
      rw [opened] at failed
      dsimp only at failed
      cases ran : tokenOperation environment unsplit operation entry.tenant
          entry.account self with
      | ok value after =>
          rw [ran] at failed
          cases failed
      | error message after =>
          have same := operated entry.tenant entry.account message after ran
          rw [ran] at failed
          cases failed
          rw [← same]
          rfl

theorem resetPassword_failsTo (request : BoundaryRequest) :
    FailsTo (Eq self)
      (resetPassword (environment.withBuiltIn hashing) request) self := by
  unfold resetPassword
  rw [failsTo_inspect_bind_iff rfl]
  intro policy _
  rw [failsTo_inspect_bind_iff rfl]
  intro token _
  rw [failsTo_inspect_bind_iff rfl]
  intro given _
  rw [failsTo_inspect_bind_iff rfl]
  intro _ _
  apply consumeToken_failsTo
  intro id tenantId username
  change FailsTo _ ((builtInConnectors hashing id).resetPassword tenantId
    username given policy _) _
  unfold builtInConnectors
  split
  · exact failsTo_commit
  · intro err after failed
    cases failed
    rfl

theorem resetPassword_succeeds_iff {request : BoundaryRequest} :
    Succeeds (resetPassword (environment.withBuiltIn hashing) request) self ↔
      self.GrantsPasswordReset (environment.withBuiltIn hashing) request := by
  rw [← not_refuses_resetPassword_iff]
  constructor
  · rintro ⟨value, after, returned⟩
    exact not_refuses_of_ok returned
  · intro proceeds
    cases outcome : resetPassword (environment.withBuiltIn hashing) request
        self with
    | ok value after => exact ⟨value, after, outcome⟩
    | error err after =>
        have same := resetPassword_failsTo request err after outcome
        rw [← same] at outcome
        exact absurd ⟨err, outcome⟩ proceeds

/-- What a call does to passwords is in order under the policy. -/
structure FollowsPolicy (runtime : CredentialRuntime LocalDirectory)
    (visit : Visit) : Prop where
  sets : SetsPasswords visit.hashing runtime.passwordPolicy
    visit.call.newPassword runtime.accounts (runtime.visited visit).accounts
  changes : ∀ request, visit.call = .changePassword request →
    Succeeds
        (changePassword (visit.environment.withBuiltIn visit.hashing) request)
        runtime →
      runtime.passwordPolicy.allowPasswordChange = true
  resets : ∀ request, visit.call = .resetPassword request →
    Succeeds
        (resetPassword (visit.environment.withBuiltIn visit.hashing) request)
        runtime →
      runtime.passwordPolicy.allowPasswordReset = true

def ResetsInTime (self : CredentialRuntime LocalDirectory) (visit : Visit) :
    Prop :=
  ∀ request, visit.call = .resetPassword request →
    self.GrantsPasswordReset (visit.environment.withBuiltIn visit.hashing)
        request →
      self.passwordPolicy.allowPasswordReset = true

theorem followsPolicy_iff {visit : Visit} :
    self.FollowsPolicy visit ↔ self.ResetsInTime visit := by
  constructor
  · intro follows request isReset granted
    exact follows.resets request isReset
      (resetPassword_succeeds_iff.mpr granted)
  · intro inTime
    refine
      { sets := visited_setsTo visit
        changes := ?_
        resets := ?_ }
    · rintro request - ⟨value, after, returned⟩
      exact (not_refuses_changePassword_iff.mp
        (not_refuses_of_ok returned)).1
    · intro request isReset succeeded
      exact inTime request isReset (resetPassword_succeeds_iff.mp succeeded)

/-! ## Every history -/

/-- A step of a deployment with the local directory. -/
inductive DirectoryStep where
  | control (call : ControlCall)
  | apply (clock : Nat → Nat) (call : ApplyCall)
  | mesh (call : MeshCall)
  | visit (visit : Visit)

def DirectoryStep.step : DirectoryStep → Step LocalDirectory
  | .control call => .control call
  | .apply clock call => .apply clock call
  | .mesh call => .mesh call
  | .visit taken =>
      .credential (taken.environment.withBuiltIn taken.hashing) taken.call

def histories (hashChange : AuthorityChange → UInt64) :
    TransitionSystem (CredentialRuntime LocalDirectory) DirectoryStep :=
  { initial := fun _ => True
    step := fun self taken => step hashChange self taken.step }

theorem run_histories {hashChange : AuthorityChange → UInt64}
    (self : CredentialRuntime LocalDirectory) (steps : List DirectoryStep) :
    (histories hashChange).run self steps =
      (system LocalDirectory hashChange).run self
        (steps.map DirectoryStep.step) := by
  unfold TransitionSystem.run
  rw [List.foldl_map]
  rfl

theorem histories_visit {hashChange : AuthorityChange → UInt64}
    (self : CredentialRuntime LocalDirectory) (visit : Visit)
    (steps : List DirectoryStep) :
    (histories hashChange).run self (.visit visit :: steps) =
      (histories hashChange).run (self.visited visit) steps :=
  rfl

end CredentialRuntime

/-! ## Outstanding tokens -/

/-- A recovery token that can still be used at the time: neither consumed nor
revoked nor expired. -/
structure Challenge.Recovers (challenge : Challenge) (time : Int) : Prop where
  kind : challenge.kind = .passwordReset
  unrevoked : challenge.revoked = false
  unconsumed : challenge.consumed = false
  unexpired : time < challenge.expiresAt

namespace ChallengeStore

variable {self : ChallengeStore} {hash : String → TokenDigest} {time : Int}

def Outstanding (self : ChallengeStore) (time : Int) : Prop :=
  ∃ (digest : TokenDigest) (challenge : Challenge),
    self.entries[digest]? = some challenge ∧ challenge.Recovers time

theorem Outstanding.earlier {later : Int}
    (outstanding : self.Outstanding later) (early : time ≤ later) :
    self.Outstanding time := by
  obtain ⟨digest, challenge, stored, recovers⟩ := outstanding
  have unexpired : time < challenge.expiresAt :=
    lt_of_le_of_lt early recovers.unexpired
  exact ⟨digest, challenge, stored, { recovers with unexpired }⟩

theorem outstanding_of_insert {digest : TokenDigest} {challenge : Challenge}
    (useless : ¬challenge.Recovers time)
    (outstanding : ChallengeStore.Outstanding
      { entries := self.entries.insert digest challenge } time) :
    self.Outstanding time := by
  obtain ⟨other, found, stored, recovers⟩ := outstanding
  rw [KeyedMap.getElem?_insert_eq] at stored
  split at stored
  · cases stored
    exact absurd recovers useless
  · exact ⟨other, found, stored, recovers⟩

theorem outstanding_of_issue {bytes : List UInt8} {kind : CeremonyKind}
    {tenant account : String} {expiresAt : Int}
    (other : kind ≠ .passwordReset)
    (outstanding : (self.issue hash bytes kind tenant account
      expiresAt).2.Outstanding time) : self.Outstanding time := by
  apply outstanding_of_insert ?_ outstanding
  intro recovers
  exact other recovers.kind

theorem outstanding_of_markConsumed {token : String} {entry : Challenge}
    (outstanding : (self.markConsumed hash token entry).Outstanding time) :
    self.Outstanding time := by
  apply outstanding_of_insert ?_ outstanding
  intro recovers
  cases recovers.unconsumed

theorem outstanding_of_revoke {token : String}
    (outstanding : (self.revoke hash token).Outstanding time) :
    self.Outstanding time := by
  unfold revoke at outstanding
  split at outstanding
  · exact outstanding
  · apply outstanding_of_insert ?_ outstanding
    intro recovers
    cases recovers.unrevoked

theorem outstanding_of_open? {token : String} {entry : Challenge}
    (opened : self.open? hash token .passwordReset time = .ok entry) :
    self.Outstanding time := by
  obtain ⟨stored, kind, unrevoked, unconsumed, unexpired⟩ :=
    open?_eq_ok_iff.mp opened
  exact ⟨hash token, entry, stored,
    { kind, unrevoked, unconsumed, unexpired }⟩

end ChallengeStore

namespace CredentialRuntime

variable {environment : CredentialEnvironment LocalDirectory}
  {hashing : PasswordHashing} {self : CredentialRuntime LocalDirectory}
  {hashChange : AuthorityChange → UInt64} {time : Int}

theorem passwordPolicy_of_control {after : CredentialRuntime LocalDirectory}
    (kept : after.control = self.control) :
    after.passwordPolicy = self.passwordPolicy := by
  change after.control.authority.passwordPolicy.getD
    after.control.runtime.mesh.config.passwordPolicy = _
  rw [kept]
  rfl

/-- The policy is the same, and if it does not allow resets, no further
recovery token is outstanding. -/
structure AddsNoRecovery (before after : CredentialRuntime LocalDirectory) :
    Prop where
  policy : after.passwordPolicy = before.passwordPolicy
  challenges : before.passwordPolicy.allowPasswordReset = false →
    ∀ time, after.challenges.Outstanding time →
      before.challenges.Outstanding time

namespace AddsNoRecovery

theorem refl (self : CredentialRuntime LocalDirectory) :
    AddsNoRecovery self self :=
  ⟨rfl, fun _ _ outstanding => outstanding⟩

theorem trans (first middle last : CredentialRuntime LocalDirectory)
    (before : AddsNoRecovery first middle)
    (after : AddsNoRecovery middle last) : AddsNoRecovery first last where
  policy := after.policy.trans before.policy
  challenges := by
    intro off time outstanding
    have offBetween : middle.passwordPolicy.allowPasswordReset = false := by
      rw [before.policy]
      exact off
    apply before.challenges off
    exact after.challenges offBetween time outstanding

theorem inspect {α : Type}
    (query : CredentialRuntime LocalDirectory → Except AuthError α) :
    Within AddsNoRecovery (Stateful.inspect query) :=
  Within.inspect AddsNoRecovery refl query

theorem pure {α : Type} (value : α) :
    Within AddsNoRecovery (Pure.pure value : CredentialM LocalDirectory α) :=
  refl

theorem bind {α β : Type} {program : CredentialM LocalDirectory α}
    {next : α → CredentialM LocalDirectory β}
    (first : Within AddsNoRecovery program)
    (rest : ∀ value, Within AddsNoRecovery (next value)) :
    Within AddsNoRecovery (program >>= next) :=
  Within.bind AddsNoRecovery trans first rest

theorem onMesh {α : Type} {program : Environment → MeshM α}
    (framed : ∀ outside, Frames contractView (program outside)) :
    Within AddsNoRecovery (CredentialRuntime.onMesh environment program) := by
  intro self
  rw [finalState_onMesh]
  have contract := framed (environment.meshEnvironment self.accounts) self.mesh
  have config := (Prod.mk.inj contract).1
  constructor
  · change self.authority.passwordPolicy.getD _ = _
    rw [mesh_changeMesh, config]
    rfl
  · intro off time outstanding
    exact outstanding

theorem logout (tenantId : String) (session : SessionId) (now : Int) :
    Within AddsNoRecovery
      (attempt (CredentialRuntime.onMesh environment fun outside =>
          AuthMesh.logout outside tenantId session now) :
        CredentialM LocalDirectory Unit) :=
  fun self => onMesh (fun _ =>
    contractView_ignoresAccounts.logout tenantId session now) self

theorem onAccounts {α : Type} (program : ConnectorM LocalDirectory α) :
    Within AddsNoRecovery (CredentialRuntime.onAccounts program) := by
  intro self
  unfold CredentialRuntime.onAccounts
  rw [finalState_onPart]
  exact ⟨rfl, fun _ _ outstanding => outstanding⟩

theorem mailToken {mailed : TokenMail} (other : mailed.kind ≠ .passwordReset)
    (request : BoundaryRequest) (now : Int) :
    Within AddsNoRecovery
      (CredentialRuntime.mailToken environment mailed request now) := by
  apply mailToken_within refl trans
  intro self tenantId account
  refine ⟨rfl, fun _ time outstanding => ?_⟩
  exact ChallengeStore.outstanding_of_issue other outstanding

theorem consumeToken (token unsplit : String) (kind : CeremonyKind)
    (operation : AuthConnector LocalDirectory → String → String →
      ConnectorM LocalDirectory Unit) :
    Within AddsNoRecovery
      (CredentialRuntime.consumeToken environment token kind unsplit
        operation) := by
  intro self
  unfold CredentialRuntime.consumeToken
  rw [finalState_translate, finalState_onPart,
    ChallengeStore.consumeWith_apply]
  cases self.challenges.open? environment.hash token kind
      (environment.clock 0) with
  | error message => exact refl self
  | ok entry =>
      have framed : Frames control
          (tokenOperation environment unsplit operation entry.tenant
            entry.account) := by
        unfold tokenOperation
        refine Frames.bind (.inspect _) fun parts =>
          Frames.bind (.inspect _) fun connector => ?_
        intro self
        rw [finalState_onPart]
        rfl
      have kept := framed self
      dsimp only
      cases outcome : tokenOperation environment unsplit operation entry.tenant
          entry.account self with
      | error message after =>
          rw [outcome] at kept
          refine ⟨?_, fun _ time outstanding => outstanding⟩
          exact passwordPolicy_of_control kept
      | ok value after =>
          rw [outcome] at kept
          refine ⟨?_, fun _ time => ChallengeStore.outstanding_of_markConsumed⟩
          exact passwordPolicy_of_control kept

theorem signIn (request : BoundaryRequest) :
    Within AddsNoRecovery (CredentialRuntime.signIn environment request) := by
  unfold CredentialRuntime.signIn
  refine bind (inspect _) fun tenantId => bind (inspect _) fun connector =>
    bind (inspect _) fun challenge => ?_
  split
  · exact pure _
  · refine bind (onMesh fun _ => contractView_ignoresAccounts.signIn _ _ _)
      fun authenticated => bind (inspect _) fun _ =>
        bind (inspect _) fun unverified => ?_
    split
    · exact bind (logout _ _ _) fun _ _ => refl _
    · exact pure _

/-- What is mailed after a registration recovers no password. -/
theorem startVerification (request : BoundaryRequest) (tenantId : String)
    (session : SessionId) (now : Int) :
    Within AddsNoRecovery
      (CredentialRuntime.startVerification environment request tenantId session
        now) := by
  unfold CredentialRuntime.startVerification
  refine bind (inspect _) fun verifies => ?_
  split
  · refine bind (mailToken (by decide) _ _) fun _ => ?_
    split
    · exact logout tenantId session now
    · exact pure _
  · exact pure _

theorem onSignUp (tenantId : String) (response : AuthResponse)
    (registration : Registration) (now : Int) :
    Within AddsNoRecovery
      (CredentialRuntime.onMesh environment fun outside =>
        AuthMesh.signUp outside tenantId response registration now) :=
  onMesh fun _ => AuthMesh.signUp_frames contractView_ignoresAccounts
    (fun _ _ => rfl) tenantId response registration now

theorem signUp (request : BoundaryRequest) :
    Within AddsNoRecovery (CredentialRuntime.signUp environment request) := by
  unfold CredentialRuntime.signUp
  refine bind (inspect _) fun claims => bind (inspect _) fun tenantId =>
    bind (inspect _) fun connector => bind (inspect _) fun registered =>
    bind (inspect _) fun _ => bind (inspect _) fun challenge => ?_
  split
  · exact pure _
  · refine bind ?_ fun _ => bind (onSignUp _ _ _ _) fun authenticated =>
      bind (startVerification _ _ _ _) fun _ => pure _
    unfold createMissingAccount
    refine bind (inspect _) fun missing => ?_
    split
    · exact bind (inspect _) fun username => bind (inspect _) fun password =>
        bind (inspect _) fun attributes => onAccounts _
    · exact pure _

theorem createLocalUser (tenantId username password : String)
    (email : Option String) (claims : KeyedMap String String) :
    Within AddsNoRecovery
      (CredentialRuntime.createLocalUser environment tenantId username password
        email claims) := by
  unfold CredentialRuntime.createLocalUser
  exact bind (inspect _) fun _ => bind (inspect _) fun connector =>
    bind (onAccounts _) fun _ => bind (inspect _) fun challenge =>
    bind (onSignUp _ _ _ _) fun _ => pure _

theorem changePassword (request : BoundaryRequest) :
    Within AddsNoRecovery
      (CredentialRuntime.changePassword environment request) := by
  unfold CredentialRuntime.changePassword
  exact bind (inspect _) fun policy => bind (inspect _) fun _ =>
    bind (inspect _) fun tenantId => bind (inspect _) fun connectorId =>
    bind (inspect _) fun username => bind (inspect _) fun currentPassword =>
    bind (inspect _) fun newPassword => bind (inspect _) fun _ =>
    bind (inspect _) fun connector => onAccounts _

theorem resetPassword (request : BoundaryRequest) :
    Within AddsNoRecovery
      (CredentialRuntime.resetPassword environment request) := by
  unfold CredentialRuntime.resetPassword
  exact bind (inspect _) fun policy => bind (inspect _) fun token =>
    bind (inspect _) fun newPassword => bind (inspect _) fun _ =>
    consumeToken _ _ _ _

theorem verifyEmail (request : BoundaryRequest) :
    Within AddsNoRecovery
      (CredentialRuntime.verifyEmail environment request) := by
  unfold CredentialRuntime.verifyEmail
  exact bind (inspect _) fun token => consumeToken _ _ _ _

theorem signOut (request : BoundaryRequest) :
    Within AddsNoRecovery (CredentialRuntime.signOut environment request) := by
  unfold CredentialRuntime.signOut
  exact bind (inspect _) fun context => onMesh fun _ =>
    contractView_ignoresAccounts.logout _ _ _

/-- A request for a recovery token is refused while resets are off. -/
theorem forgotPassword (request : BoundaryRequest) :
    Within AddsNoRecovery
      (CredentialRuntime.forgotPassword environment request) := by
  intro self
  constructor
  · have framed : Frames control
        (CredentialRuntime.forgotPassword environment request) :=
      .bind (.inspect _) fun policy => .bind (.inspect _) fun _ =>
        mailToken_frames (fun _ _ => rfl) _ _
    exact passwordPolicy_of_control (framed self)
  · intro off time outstanding
    have refused : CredentialRuntime.forgotPassword environment request self =
        .error (passwordError "password resets are disabled" .policyDenied)
          self := by
      unfold CredentialRuntime.forgotPassword
      rw [inspect_bind]
      dsimp only
      rw [inspect_bind]
      change self.effectivePasswordPolicy.policy.allowPasswordReset = false
        at off
      rw [off]
      rfl
    rw [refused] at outstanding
    exact outstanding

end AddsNoRecovery

/-- No call changes the policy, and while it does not allow resets, no call
hands out a recovery token. -/
theorem visited_addsNoRecovery (visit : Visit) :
    AddsNoRecovery self (self.visited visit) := by
  obtain ⟨environment, hashing, call⟩ := visit
  unfold visited
  unfold perform
  cases call with
  | signIn request =>
      rw [finalState_map]
      exact AddsNoRecovery.signIn request self
  | signUp request =>
      rw [finalState_map]
      exact AddsNoRecovery.signUp request self
  | changePassword request =>
      rw [finalState_map]
      exact AddsNoRecovery.changePassword request self
  | resetPassword request =>
      rw [finalState_map]
      exact AddsNoRecovery.resetPassword request self
  | forgotPassword request =>
      rw [finalState_map]
      exact AddsNoRecovery.forgotPassword request self
  | requestEmailVerification request =>
      rw [finalState_map]
      exact AddsNoRecovery.mailToken (by decide) request _ self
  | verifyEmail request =>
      rw [finalState_map]
      exact AddsNoRecovery.verifyEmail request self
  | revokeChallenge token =>
      refine ⟨rfl, fun _ time outstanding => ?_⟩
      exact ChallengeStore.outstanding_of_revoke outstanding
  | signOut request =>
      rw [finalState_map]
      exact AddsNoRecovery.signOut request self
  | createLocalUser tenantId username password email claims =>
      rw [finalState_map]
      exact AddsNoRecovery.createLocalUser _ _ _ _ _ self

/-! ## Histories with a clock -/

/-- Histories in which every step has its time; the time of the last one is
kept beside the runtime. -/
def timedHistories (hashChange : AuthorityChange → UInt64) :
    TransitionSystem (Int × CredentialRuntime LocalDirectory)
      (Int × DirectoryStep) :=
  { initial := fun _ => True
    step := fun earlier taken =>
      (taken.1, step hashChange earlier.2 taken.2.step) }

theorem run_timedHistories (earlier : Int × CredentialRuntime LocalDirectory)
    (steps : List (Int × DirectoryStep)) :
    ((timedHistories hashChange).run earlier steps).2 =
      (histories hashChange).run earlier.2 (steps.map Prod.snd) := by
  induction steps generalizing earlier with
  | nil => rfl
  | cons taken steps induction => exact induction _

def SwitchesResetsOff (hashChange : AuthorityChange → UInt64)
    (self : CredentialRuntime LocalDirectory) (taken : DirectoryStep) : Prop :=
  self.passwordPolicy.allowPasswordReset = true ∧
    (step hashChange self taken.step).passwordPolicy.allowPasswordReset = false

/-- The clock does not go back, and resets are switched off only while no
recovery token is outstanding. -/
structure SwitchesInTime (hashChange : AuthorityChange → UInt64)
    (earlier : Int × CredentialRuntime LocalDirectory)
    (taken : Int × DirectoryStep) : Prop where
  onward : earlier.1 ≤ taken.1
  reads : ∀ visit, taken.2 = .visit visit →
    taken.1 ≤ visit.environment.clock 0
  settled : SwitchesResetsOff hashChange earlier.2 taken.2 →
    ¬earlier.2.challenges.Outstanding taken.1

/-- While resets are switched off, no recovery token is outstanding. -/
def Settled (earlier : Int × CredentialRuntime LocalDirectory) : Prop :=
  earlier.2.passwordPolicy.allowPasswordReset = false →
    ¬earlier.2.challenges.Outstanding earlier.1

theorem Settled.step {earlier : Int × CredentialRuntime LocalDirectory}
    {taken : Int × DirectoryStep} (settled : Settled earlier)
    (inTime : SwitchesInTime hashChange earlier taken) :
    Settled ((timedHistories hashChange).step earlier taken) := by
  obtain ⟨time, self⟩ := earlier
  obtain ⟨now, taken⟩ := taken
  have switched : ∀ {after : CredentialRuntime LocalDirectory},
      after = CredentialRuntime.step hashChange self taken.step →
      after.challenges = self.challenges → Settled (now, after) := by
    rintro after rfl kept off outstanding
    rw [kept] at outstanding
    cases allows : self.passwordPolicy.allowPasswordReset with
    | true => exact inTime.settled ⟨allows, off⟩ outstanding
    | false => exact settled allows (outstanding.earlier inTime.onward)
  cases taken with
  | control call => exact switched rfl rfl
  | apply clock call => exact switched rfl rfl
  | mesh call => exact switched rfl rfl
  | visit visit =>
      intro off outstanding
      have adds := self.visited_addsNoRecovery visit
      have offBefore : self.passwordPolicy.allowPasswordReset = false := by
        rw [← adds.policy]
        exact off
      have before := adds.challenges offBefore now outstanding
      exact settled offBefore (before.earlier inTime.onward)

theorem Settled.run {earlier : Int × CredentialRuntime LocalDirectory}
    {steps : List (Int × DirectoryStep)} (settled : Settled earlier)
    (inTime : (timedHistories hashChange).Follows (SwitchesInTime hashChange)
      earlier steps) :
    Settled ((timedHistories hashChange).run earlier steps) := by
  induction steps generalizing earlier with
  | nil => exact settled
  | cons taken steps induction =>
      obtain ⟨first, rest⟩ := inTime
      exact induction (settled.step first) rest

/-- A reset that is granted opens a token that is outstanding. -/
theorem Settled.resetsInTime {visit : Visit} (settled : Settled (time, self))
    (early : time ≤ visit.environment.clock 0) : self.ResetsInTime visit := by
  rintro request - ⟨token, _, given, _, _, entry, opened, _⟩
  have outstanding : self.challenges.Outstanding time :=
    (ChallengeStore.outstanding_of_open? opened).earlier early
  cases allows : self.passwordPolicy.allowPasswordReset with
  | true => rfl
  | false => exact absurd outstanding (settled allows)

/-- In every history that starts with no recovery token outstanding while
resets are off, whose clock does not go back, and in which resets are switched
off only while no recovery token is outstanding, every call follows the
policy. -/
theorem followsPolicy_run (hashChange : AuthorityChange → UInt64)
    (self : CredentialRuntime LocalDirectory) (time : Int)
    (settled : Settled (time, self)) (steps : List (Int × DirectoryStep))
    (inTime : (timedHistories hashChange).Follows (SwitchesInTime hashChange)
      (time, self) steps) :
    ∀ early visit late, steps.map Prod.snd = early ++ .visit visit :: late →
      ((histories hashChange).run self early).FollowsPolicy visit := by
  intro early visit late split
  obtain ⟨before, after, rfl, rfl, rest⟩ := List.map_eq_append_iff.mp split
  obtain ⟨⟨now, taken⟩, later, rfl, isVisit, rfl⟩ :=
    List.map_eq_cons_iff.mp rest
  cases isVisit
  obtain ⟨first, here, _⟩ := TransitionSystem.follows_append_iff.mp inTime
  have settledHere := settled.run first
  have early := here.onward.trans (here.reads visit rfl)
  rw [← run_timedHistories (time, self)]
  exact followsPolicy_iff.mpr (settledHere.resetsInTime early)

end CredentialRuntime

/-! ## A token that outlives the permission -/

def addressedRuntime : CredentialRuntime LocalDirectory :=
  { openRuntime with
    accounts :=
      (∅ : LocalDirectory).insert "alice"
        { username := "alice"
          passwordHash := "Correct-horse-7"
          passwordHistory := []
          passwordChangedAt := 0
          attributes :=
            (∅ : KeyedMap String String).insert "email" "alice@example.org" } }

def aliceVisit (call : BoundaryRequest → CredentialCall)
    (fields : List (String × String)) : CredentialRuntime.Visit :=
  { environment := { mailEnvironment with mail := some fun _ => .ok () }
    hashing := plainHashing
    call := call
      { BoundaryRequest.new .post "/auth/password" with
        body := fields.foldl (fun body entry => body.insert entry.1 entry.2)
          ∅ } }

def aliceForgets : CredentialRuntime.Visit :=
  aliceVisit .forgotPassword
    [("tenant", "acme"), ("connector", "local"), ("username", "alice")]

def aliceResets : CredentialRuntime.Visit :=
  aliceVisit .resetPassword
    [("token", tokenOfBytes [0]), ("new_password", "Wrong-battery-8")]

def withoutResets : PasswordPolicy :=
  { PasswordPolicy.default with allowPasswordReset := false }

/-- The runtime once Alice has her token. -/
def mailedRuntime : CredentialRuntime LocalDirectory :=
  addressedRuntime.visited aliceForgets

def switchesOff : List CredentialRuntime.DirectoryStep :=
  (ProposalHistory.adoptCalls (fun _ => 0) mailedRuntime.control.nextProposalId
    (.setPasswordPolicy withoutResets)).map .control

/-- Alice asks for a token, resets are switched off, and she uses it. -/
def lateReset : List CredentialRuntime.DirectoryStep :=
  (.visit aliceForgets :: switchesOff) ++ [.visit aliceResets]

def closedRuntime : CredentialRuntime LocalDirectory :=
  mailedRuntime.changeControl
    (ProposalHistory.adopted mailedRuntime.control (fun _ => 0)
      (.setPasswordPolicy withoutResets)
      { mailedRuntime.control.authority with
        revision := mailedRuntime.control.authority.revision + 1
        passwordPolicy := some withoutResets })

theorem run_switchesOff :
    (CredentialRuntime.histories fun _ => 0).run mailedRuntime switchesOff =
      closedRuntime := by
  have previewed : mailedRuntime.control.previewAuthorityChange port
      mailedRuntime.control.authority (.setPasswordPolicy withoutResets) =
        .ok _ :=
    rfl
  unfold switchesOff
  rw [CredentialRuntime.run_histories, List.map_map]
  refine (CredentialRuntime.run_control 0 mailedRuntime
    { runtime := mailedRuntime.control, applied := [] } rfl _).trans ?_
  rw [ProposalHistory.run_adoptCalls (fun _ _ => rfl) previewed]
  rfl

theorem closedRuntime_resets :
    (returned (CredentialRuntime.perform
      (aliceResets.environment.withBuiltIn aliceResets.hashing)
      aliceResets.call closedRuntime)).isSome = true := by
  decide +kernel

/-- Her password is reset all the same. -/
theorem lateReset_not_followsPolicy :
    ¬∀ early visit late, lateReset = early ++ .visit visit :: late →
      ((CredentialRuntime.histories fun _ => 0).run addressedRuntime
        early).FollowsPolicy visit := by
  intro follows
  have last := follows (.visit aliceForgets :: switchesOff) aliceResets [] rfl
  rw [CredentialRuntime.histories_visit] at last
  have closed : (CredentialRuntime.histories fun _ => 0).run
      (addressedRuntime.visited aliceForgets) switchesOff = closedRuntime :=
    run_switchesOff
  rw [closed] at last
  obtain ⟨⟨answer, after⟩, found⟩ :=
    Option.isSome_iff_exists.mp closedRuntime_resets
  have allowed := last.resets _ rfl
    (succeeds_map_iff.mp ⟨answer, after, returned_eq_some found⟩)
  cases allowed

/-- She tries to use the token when it has run out. -/
def aliceResetsLate : CredentialRuntime.Visit :=
  { aliceResets with
    environment := { aliceResets.environment with clock := fun _ => 1000 } }

/-- The token runs out before resets are switched off. -/
def expiredReset : List (Int × CredentialRuntime.DirectoryStep) :=
  (0, .visit aliceForgets) ::
    (switchesOff.map fun taken => (1000, taken)) ++
      [(1000, .visit aliceResetsLate)]

theorem mailedRuntime_not_outstanding :
    ¬mailedRuntime.challenges.Outstanding 1000 := by
  intro outstanding
  have issued : mailedRuntime.challenges =
      (ChallengeStore.default.issue (fun token => utf8 token) [0]
        .passwordReset "acme"
        (CredentialRuntime.challengeAccount "local" "alice") 900).2 :=
    rfl
  rw [issued] at outstanding
  have before := ChallengeStore.outstanding_of_insert
    (fun recovers => absurd recovers.unexpired (by decide)) outstanding
  obtain ⟨digest, challenge, stored, -⟩ := before
  simp [ChallengeStore.default] at stored

theorem expiredReset_inTime :
    (CredentialRuntime.timedHistories fun _ => 0).Follows
      (CredentialRuntime.SwitchesInTime fun _ => 0) (0, addressedRuntime)
      expiredReset := by
  have switches : ∀ {self : CredentialRuntime LocalDirectory}
      {taken : CredentialRuntime.DirectoryStep},
      self.challenges = mailedRuntime.challenges →
      (∀ visit, taken = .visit visit →
        1000 ≤ visit.environment.clock 0) →
      ∀ time ≤ 1000, CredentialRuntime.SwitchesInTime (fun _ => 0) (time, self)
        (1000, taken) := by
    intro self taken same reads time onward
    refine { onward, reads, settled := fun _ => ?_ }
    change ¬self.challenges.Outstanding 1000
    rw [same]
    exact mailedRuntime_not_outstanding
  have asks : CredentialRuntime.SwitchesInTime (fun _ => 0)
      (0, addressedRuntime) (0, .visit aliceForgets) := by
    refine { onward := le_refl 0, reads := ?_, settled := ?_ }
    · rintro visit ⟨⟩
      exact le_refl 0
    · rintro - ⟨digest, challenge, stored, -⟩
      simp [addressedRuntime, openRuntime, ChallengeStore.default] at stored
  refine ⟨asks, switches ?_ ?_ 0 (by decide), switches ?_ ?_ 1000 le_rfl,
    switches ?_ ?_ 1000 le_rfl, switches ?_ ?_ 1000 le_rfl, trivial⟩
  · rfl
  · rintro visit ⟨⟩
  · rfl
  · rintro visit ⟨⟩
  · rfl
  · rintro visit ⟨⟩
  · rfl
  · rintro visit ⟨⟩
    exact le_refl 1000

theorem expiredReset_followsPolicy :
    ((CredentialRuntime.histories fun _ => 0).run addressedRuntime
      (.visit aliceForgets :: switchesOff)).FollowsPolicy aliceResetsLate := by
  have settled : CredentialRuntime.Settled (0, addressedRuntime) := by
    intro off
    cases off
  exact CredentialRuntime.followsPolicy_run (fun _ => 0) addressedRuntime 0
    settled expiredReset expiredReset_inTime (.visit aliceForgets :: switchesOff)
    aliceResetsLate [] rfl

end AuthBoundry
