import AuthBoundry.Library.BoundedMemory
import AuthBoundry.Library.Reachability
import AuthBoundry.Providers.Local

/-!
# The passwords an account remembers

An account keeps the hashes of earlier passwords, as many as the policy of the
moment asks for.  A hash says nothing of its password but whether it is the
one; so the hashes stand for the passwords that were set, and a password is
taken for a used one as long as no policy in between has let it go.
-/

namespace AuthBoundry

open Library
open Library.Stateful

/-! ## Hashes -/

def HashOf (verifies : String → String → Bool) (hash password : String) :
    Prop :=
  ∀ given, verifies hash given = true ↔ given = password

/-- A way to hash passwords, with new salt at every call, that is checked by
the given verification. -/
structure FaithfulHashing (verifies : String → String → Bool) where
  hashPassword : String → Option String
  faithful : ∀ password hash, hashPassword password = some hash →
    HashOf verifies hash password

def FaithfulHashing.hashing {verifies : String → String → Bool}
    (self : FaithfulHashing verifies) : PasswordHashing :=
  { hashPassword := self.hashPassword, verifies }

/-! ## Calls -/

/-- How the caller shows that the account is theirs. -/
inductive PasswordProof where
  | currentPassword (password : String)
  /-- A recovery token, which was checked before. -/
  | recovered
  deriving DecidableEq

structure PasswordCall (verifies : String → String → Bool) where
  hashing : FaithfulHashing verifies
  tenantId : String
  username : String
  proof : PasswordProof
  newPassword : String
  policy : PasswordPolicy
  now : Int

variable {verifies : String → String → Bool}

namespace PasswordCall

def perform (self : PasswordCall verifies) : ConnectorM LocalDirectory Unit :=
  let connector := localConnector self.hashing.hashing
  match self.proof with
  | .currentPassword password =>
      connector.changePassword self.tenantId self.username password
        self.newPassword self.policy self.now
  | .recovered =>
      connector.resetPassword self.tenantId self.username self.newPassword
        self.policy self.now

def change (self : PasswordCall verifies) (account : LocalAccount) :
    Except ConnectorError LocalAccount :=
  let set := account.setPassword self.hashing.hashing self.newPassword
    self.policy self.now
  match self.proof with
  | .currentPassword password =>
      if account.verifyPassword self.hashing.hashing password then set
      else .error LocalConnector.invalidCredentials
  | .recovered => set

def ProvedBy (self : PasswordCall verifies) (current : Option String) : Prop :=
  ∀ given, self.proof = .currentPassword given → current = some given

theorem perform_eq (self : PasswordCall verifies) :
    self.perform = LocalConnector.changeAccount self.username self.change := by
  obtain ⟨hashing, tenantId, username, proof, newPassword, policy, now⟩ := self
  cases proof <;> rfl

theorem perform_error {self : PasswordCall verifies}
    {accounts after : LocalDirectory} {err : ConnectorError}
    (refused : self.perform accounts = .error err after) :
    after = accounts := by
  rw [perform_eq] at refused
  unfold LocalConnector.changeAccount commit at refused
  split at refused
  · cases refused
  · cases refused
    rfl

theorem perform_ok {self : PasswordCall verifies}
    {accounts after : LocalDirectory}
    (done : self.perform accounts = .ok () after) :
    ∃ account changed, accounts[self.username]? = some account ∧
      self.change account = .ok changed ∧
      after = accounts.insert self.username changed := by
  rw [perform_eq] at done
  have written := commit_eq_ok_iff.mp done
  cases stored : accounts[self.username]? with
  | none =>
      rw [stored] at written
      cases written
  | some account =>
      rw [stored] at written
      dsimp only at written
      cases outcome : self.change account with
      | error err =>
          rw [outcome] at written
          cases written
      | ok changed =>
          rw [outcome] at written
          cases written
          exact ⟨account, changed, rfl, outcome, rfl⟩

theorem set_of_change (self : PasswordCall verifies)
    {account changed : LocalAccount}
    (changes : self.change account = .ok changed) :
    account.setPassword self.hashing.hashing self.newPassword self.policy
      self.now = .ok changed := by
  unfold change at changes
  dsimp only at changes
  split at changes
  · split at changes
    · exact changes
    · cases changes
  · exact changes

theorem perform_error_iff {self : PasswordCall verifies}
    {accounts : LocalDirectory} {account : LocalAccount}
    (stored : accounts[self.username]? = some account)
    {err : ConnectorError} :
    self.perform accounts = .error err accounts ↔
      self.change account = .error err := by
  rw [perform_eq]
  unfold LocalConnector.changeAccount commit
  dsimp only
  rw [stored]
  dsimp only
  cases self.change account <;> simp

end PasswordCall

/-! ## What the hashes stand for -/

theorem any_verifies_iff {hashes passwords : List String}
    (each : List.Forall₂ (HashOf verifies) hashes passwords)
    (password : String) :
    (hashes.any fun hash => verifies hash password) = true ↔
      password ∈ passwords := by
  induction each with
  | nil => simp
  | cons hashed _ induction =>
      rw [List.any_cons, Bool.or_eq_true, induction, hashed, List.mem_cons]

/-- The hashes of an account are those of the passwords that were set. -/
structure Remembers (verifies : String → String → Bool)
    (settings : List (String × Nat)) (account : LocalAccount) : Prop where
  current : ∃ password, settings.head?.map Prod.fst = some password ∧
    HashOf verifies account.passwordHash password
  earlier : List.Forall₂ (HashOf verifies) account.passwordHistory
    (remembered settings)

namespace Remembers

variable {settings : List (String × Nat)} {account changed : LocalAccount}
  {hashing : FaithfulHashing verifies}

theorem matches_iff (remembers : Remembers verifies settings account)
    (password : String) (count : Nat) :
    account.matchesCurrentOrHistory hashing.hashing password count = true ↔
      RecallsWithin settings password count := by
  obtain ⟨current, newest, hashed⟩ := remembers.current
  have found := any_verifies_iff
    (List.forall₂_take count remembers.earlier) password
  unfold LocalAccount.matchesCurrentOrHistory
  rw [List.any_cons, Bool.or_eq_true, recallsWithin_iff, newest,
    Option.some.injEq]
  change verifies account.passwordHash password = true ∨ _ ↔ _
  rw [hashed, eq_comm]
  exact or_congr_right found

theorem set (remembers : Remembers verifies settings account)
    {password : String} {policy : PasswordPolicy} {now : Int}
    (changes : account.setPassword hashing.hashing password policy now =
      .ok changed) :
    ¬RecallsWithin settings password policy.passwordHistoryCount ∧
      Remembers verifies ((password, policy.passwordHistoryCount) :: settings)
        changed := by
  unfold LocalAccount.setPassword at changes
  split at changes
  · cases changes
  · rename_i fresh
    split at changes
    · cases changes
    · rename_i hash made
      cases changes
      refine ⟨fun recalls =>
        fresh ((remembers.matches_iff _ _).mpr recalls), ?_, ?_⟩
      · exact ⟨password, rfl, hashing.faithful password hash made⟩
      · obtain ⟨current, newest, hashed⟩ := remembers.current
        rw [remembered, newest]
        exact List.forall₂_take _ (.cons hashed remembers.earlier)

theorem refused_iff (remembers : Remembers verifies settings account)
    {password : String} {policy : PasswordPolicy} {now : Int} :
    account.setPassword hashing.hashing password policy now =
        .error (.passwordReused localId) ↔
      RecallsWithin settings password policy.passwordHistoryCount := by
  rw [← @matches_iff _ _ _ hashing remembers]
  unfold LocalAccount.setPassword
  split
  · rename_i known
    simp [known]
  · rename_i fresh
    split <;> simp [fresh]

theorem change_reused_iff (remembers : Remembers verifies settings account)
    (call : PasswordCall verifies) :
    call.change account = .error (.passwordReused localId) ↔
      call.ProvedBy (settings.head?.map Prod.fst) ∧
        RecallsWithin settings call.newPassword
          call.policy.passwordHistoryCount := by
  obtain ⟨current, newest, hashed⟩ := remembers.current
  rw [← @refused_iff _ _ _ call.hashing remembers _ _ call.now, newest]
  unfold PasswordCall.change PasswordCall.ProvedBy
  cases call.proof with
  | recovered => simp
  | currentPassword given =>
      dsimp only
      have verified : account.verifyPassword call.hashing.hashing given =
          true ↔ given = current := hashed given
      by_cases right : given = current
      · rw [if_pos (verified.mpr right)]
        simp [right]
      · rw [if_neg fun accepted => right (verified.mp accepted)]
        simp [Ne.symm right, LocalConnector.invalidCredentials]

end Remembers

/-! ## Histories -/

/-- The directory, and the passwords that were set for one account. -/
structure PasswordRecord where
  accounts : LocalDirectory
  settings : List (String × Nat)

/-- The account was just created, with its first password. -/
def PasswordRecord.Created (verifies : String → String → Bool)
    (username : String) (record : PasswordRecord) : Prop :=
  ∃ (hashing : FaithfulHashing verifies) (password : String)
      (account : LocalAccount) (attributes : KeyedMap String String),
    LocalAccount.new hashing.hashing username password = some account ∧
      record.accounts[username]? = some { account with attributes } ∧
      record.settings = [(password, 0)]

def passwordHistories (verifies : String → String → Bool) (username : String) :
    TransitionSystem PasswordRecord (PasswordCall verifies) :=
  { initial := PasswordRecord.Created verifies username
    step := fun record call =>
      match call.perform record.accounts with
      | .error _ accounts => { record with accounts }
      | .ok _ accounts =>
          { accounts
            settings :=
              if call.username = username then
                (call.newPassword, call.policy.passwordHistoryCount) ::
                  record.settings
              else record.settings } }

/-- The account stands for the passwords that were set, and none was set while
it was recalled. -/
structure PasswordRecord.Kept (verifies : String → String → Bool)
    (username : String) (record : PasswordRecord) : Prop where
  stored : ∃ account, record.accounts[username]? = some account ∧
    Remembers verifies record.settings account
  spaced : Spaced record.settings

theorem PasswordRecord.Created.kept {username : String}
    {record : PasswordRecord} (created : record.Created verifies username) :
    record.Kept verifies username := by
  obtain ⟨hashing, password, account, attributes, new, stored, settings⟩ :=
    created
  obtain ⟨hash, made, rfl⟩ := Option.map_eq_some_iff.mp new
  have hashed := hashing.faithful password hash made
  refine { stored := ⟨_, stored, ?_⟩, spaced := ?_ }
  · rw [settings]
    exact { current := ⟨password, rfl, hashed⟩, earlier := .nil }
  · rw [settings]
    refine ⟨?_, trivial⟩
    rw [recallsWithin_iff]
    simp [remembered]

theorem PasswordRecord.Kept.step {username : String} {record : PasswordRecord}
    (kept : record.Kept verifies username) (call : PasswordCall verifies) :
    ((passwordHistories verifies username).step record call).Kept verifies
      username := by
  obtain ⟨account, stored, remembers⟩ := kept.stored
  unfold passwordHistories
  dsimp only
  cases outcome : call.perform record.accounts with
  | error err after =>
      cases PasswordCall.perform_error outcome
      exact kept
  | ok _ after =>
      obtain ⟨before, changed, found, changes, rfl⟩ :=
        PasswordCall.perform_ok outcome
      dsimp only
      by_cases same : call.username = username
      · subst same
        rw [stored] at found
        cases found
        obtain ⟨fresh, remembers⟩ := remembers.set (call.set_of_change changes)
        rw [if_pos rfl]
        exact
          { stored := ⟨changed, Std.ExtTreeMap.getElem?_insert_self,
              remembers⟩
            spaced := ⟨fresh, kept.spaced⟩ }
      · rw [if_neg same]
        refine { stored := ⟨account, ?_, remembers⟩, spaced := kept.spaced }
        rw [KeyedMap.getElem?_insert_of_ne _ _ same]
        exact stored

theorem kept_of_reachable {username : String} {record : PasswordRecord}
    (reached : (passwordHistories verifies username).Reachable record) :
    record.Kept verifies username :=
  reached.invariant (fun _ => PasswordRecord.Created.kept)
    fun _ call _ _ kept => kept.step call

/-- What a call for the account is answered. -/
structure PasswordRecord.Answers (record : PasswordRecord)
    (call : PasswordCall verifies) : Prop where
  reused :
    call.perform record.accounts =
        .error (.passwordReused localId) record.accounts ↔
      call.ProvedBy (record.settings.head?.map Prod.fst) ∧
        RecallsWithin record.settings call.newPassword
          call.policy.passwordHistoryCount
  refused : ∀ err after, call.perform record.accounts = .error err after →
    after = record.accounts
  accepted : ∀ after, call.perform record.accounts = .ok () after →
    ∃ account, after[call.username]? = some account ∧
      HashOf verifies account.passwordHash call.newPassword

/-- After every history, a password is refused as used exactly if a caller who
may change it asks for the current one or for one that was retained since. -/
theorem passwordHistories_answers {username : String} {record : PasswordRecord}
    (reached : (passwordHistories verifies username).Reachable record)
    {call : PasswordCall verifies} (addressed : call.username = username) :
    record.Answers call ∧
      ∀ count, (∀ setting ∈ record.settings.dropLast, setting.2 = count) →
        ∀ first, (((record.settings.map Prod.fst).drop first).take
          (count + 2)).Nodup := by
  have kept := kept_of_reachable reached
  obtain ⟨account, stored, remembers⟩ := kept.stored
  subst addressed
  refine ⟨⟨?_, fun _ _ => PasswordCall.perform_error, ?_⟩,
    fun count constant => kept.spaced.nodup_window constant⟩
  · rw [PasswordCall.perform_error_iff stored]
    exact remembers.change_reused_iff call
  · intro after done
    obtain ⟨before, changed, found, changes, rfl⟩ :=
      PasswordCall.perform_ok done
    rw [stored] at found
    cases found
    obtain ⟨-, later⟩ := remembers.set (call.set_of_change changes)
    obtain ⟨password, newest, hashed⟩ := later.current
    cases newest
    exact ⟨changed, Std.ExtTreeMap.getElem?_insert_self, hashed⟩

/-! ## A change by somebody else -/

def sameText (hash given : String) : Bool := hash == given

def openHashing : FaithfulHashing sameText :=
  { hashPassword := some
    faithful := by
      rintro password _ ⟨⟩ given
      unfold sameText
      rw [beq_iff_eq, eq_comm] }

/-- Alice has just been given her first password. -/
def firstRecord : PasswordRecord :=
  { accounts :=
      (∅ : LocalDirectory).insert "alice"
        { username := "alice"
          passwordHash := "Correct-horse-7"
          passwordHistory := []
          passwordChangedAt := 0
          attributes := ∅ }
    settings := [("Correct-horse-7", 0)] }

/-- Alice asks for a password under a policy that remembers two. -/
def aliceCall (proof : PasswordProof) (newPassword : String) :
    PasswordCall sameText :=
  { hashing := openHashing
    tenantId := "acme"
    username := "alice"
    proof
    newPassword
    policy := { PasswordPolicy.default with passwordHistoryCount := 2 }
    now := 0 }

theorem firstRecord_reachable :
    (passwordHistories sameText "alice").Reachable firstRecord := by
  refine .start ⟨openHashing, "Correct-horse-7", _, ∅, rfl, ?_, rfl⟩
  exact Std.ExtTreeMap.getElem?_insert_self

/-- She changes her password, and recovers the account with another one. -/
def changedRecord : PasswordRecord :=
  (passwordHistories sameText "alice").run firstRecord
    [aliceCall (.currentPassword "Correct-horse-7") "Blue-whale-42",
      aliceCall .recovered "Red-panda-99"]

theorem changedRecord_settings : changedRecord.settings =
    [("Red-panda-99", 2), ("Blue-whale-42", 2), ("Correct-horse-7", 0)] := by
  decide +kernel

/-- The first of the three passwords is refused. -/
theorem changedRecord_answers :
    changedRecord.Answers (aliceCall .recovered "Correct-horse-7") ∧
      (aliceCall .recovered "Correct-horse-7").perform changedRecord.accounts =
        .error (.passwordReused localId) changedRecord.accounts ∧
      ∀ first, (((changedRecord.settings.map Prod.fst).drop first).take
        4).Nodup := by
  obtain ⟨answers, spaced⟩ := @passwordHistories_answers sameText "alice"
    changedRecord (firstRecord_reachable.run _)
    (aliceCall .recovered "Correct-horse-7") rfl
  refine ⟨answers, answers.reused.mpr ⟨?_, ?_⟩, spaced 2 ?_⟩
  · rintro given ⟨⟩
  · rw [changedRecord_settings, recallsWithin_iff]
    decide
  · rw [changedRecord_settings]
    decide

/-- Who does not know the current password is told just that, also when asking
for that password. -/
theorem wrongProof_not_reused :
    ¬∀ (verifies : String → String → Bool) (username : String)
      (record : PasswordRecord),
      (passwordHistories verifies username).Reachable record →
        ∀ call : PasswordCall verifies, call.username = username →
          (call.perform record.accounts =
              .error (.passwordReused localId) record.accounts ↔
            RecallsWithin record.settings call.newPassword
              call.policy.passwordHistoryCount) := by
  intro answers
  have reused := (answers sameText "alice" firstRecord firstRecord_reachable
    (aliceCall (.currentPassword "guess") "Correct-horse-7") rfl).mpr (.inl rfl)
  have stored : firstRecord.accounts["alice"]? = some _ :=
    Std.ExtTreeMap.getElem?_insert_self
  rw [PasswordCall.perform_error_iff stored] at reused
  cases reused

end AuthBoundry
