import AuthBoundry.Boundary.Registrations

/-!
# Fields and connector parameters

A credential flow reads a request in two ways: by its fields, where the body
takes precedence over the query, and through the parameters it hands to the
connector, where the query overwrites the body.  The two agree exactly when no
name is given twice with different values.
-/

namespace AuthBoundry

open Library
open Library.Stateful

/-- The names that select a flow and are no connector's. -/
def isReserved (name : String) : Bool :=
  name == "tenant" || name == "connector"

/-- Where a name that is not reserved stands in both maps, the two values are
the same, or both are blank. -/
def BoundaryRequest.SaysOnce (self : BoundaryRequest) : Prop :=
  ∀ name, isReserved name = false →
    ∀ first, self.body[name]? = some first →
      ∀ second, self.query[name]? = some second →
        BoundaryRequest.given (some first) = BoundaryRequest.given (some second)

theorem find?_unreserved {entries : List (String × String)} {name : String}
    (unreserved : isReserved name = false) :
    (entries.filter fun entry =>
        entry.1 != "tenant" && entry.1 != "connector").find?
          (·.1 == name) = entries.find? (·.1 == name) := by
  rw [List.find?_filter]
  congr 1
  funext entry
  by_cases here : entry.1 = name
  · subst here
    unfold isReserved at unreserved
    simp only [Bool.or_eq_false_iff] at unreserved
    simp [bne, unreserved]
  · simp [here]

theorem getElem?_connectorParameters (request : BoundaryRequest)
    {name : String} (unreserved : isReserved name = false) :
    (connectorParameters request)[name]? =
      request.query[name]?.or request.body[name]? := by
  unfold connectorParameters
  rw [KeyedMap.getElem?_foldl_insert Prod.fst Prod.snd, ← List.filter_reverse,
    find?_unreserved unreserved, List.reverse_append, List.find?_append,
    Option.map_or, KeyedMap.find?_perm_toList _ (List.reverse_perm _),
    KeyedMap.find?_perm_toList _ (List.reverse_perm _)]
  simp

/-- What a connector reads of a request in either step. -/
def BoundaryRequest.told (self : BoundaryRequest) (name : String) :
    Option String :=
  givenParameter (connectorParameters self) name

theorem told_eq (request : BoundaryRequest) {name : String}
    (unreserved : isReserved name = false) :
    request.told name =
      BoundaryRequest.given (request.query[name]?.or request.body[name]?) := by
  unfold BoundaryRequest.told givenParameter
  rw [getElem?_connectorParameters request unreserved]
  rfl

/-- The two readings of every name agree exactly if nothing is said twice. -/
theorem told_eq_field_iff (request : BoundaryRequest) :
    (∀ name, isReserved name = false →
        request.told name = request.field name) ↔ request.SaysOnce := by
  constructor
  · intro agree name unreserved first inBody second inQuery
    have same := agree name unreserved
    rw [told_eq request unreserved] at same
    unfold BoundaryRequest.field at same
    rw [inBody, inQuery] at same
    exact same.symm
  · intro once name unreserved
    rw [told_eq request unreserved]
    unfold BoundaryRequest.field
    cases inBody : request.body[name]? with
    | none => rw [Option.or_none, Option.none_or]
    | some first =>
        cases inQuery : request.query[name]? with
        | none => rfl
        | some second =>
            exact (once name unreserved first inBody second inQuery).symm

theorem LocalConnector.authenticate_reads {hashing : PasswordHashing}
    {accounts : LocalDirectory} {response : AuthResponse}
    {identity : ExternalIdentity}
    (proved : authenticate hashing accounts response = .ok identity) :
    ∃ username ∈ response.parameter "username",
      ∃ password ∈ response.parameter "password",
        ∃ account ∈ accounts[username]?,
          account.verifyPassword hashing password = true ∧
            identity = identityOf username account := by
  unfold authenticate at proved
  split at proved
  · cases proved
  cases named : response.parameter "username" with
  | none =>
      rw [named] at proved
      cases proved
  | some username =>
  cases given : response.parameter "password" with
  | none =>
      rw [named, given] at proved
      cases proved
  | some password =>
  rw [named, given] at proved
  dsimp only at proved
  split at proved
  · cases proved
  cases stored : accounts[username]? with
  | none =>
      rw [stored] at proved
      cases proved
  | some account =>
  rw [stored] at proved
  dsimp only at proved
  split at proved
  · rename_i verified
    cases proved
    exact ⟨username, rfl, password, rfl, account, stored, verified, rfl⟩
  · cases proved

namespace CredentialRuntime

variable {Accounts : Type} (environment : CredentialEnvironment Accounts)

/-- The password that the policy is asked about, the account that is created,
the identity that is authenticated and the account that a mail is for come from
the parameters that the connector reads. -/
structure OneSource (request : BoundaryRequest) : Prop where
  attempt : ∀ tenantId connector name, isReserved name = false →
    (attemptOf request tenantId connector).parameter name =
      request.field name
  response : ∀ tenantId challenge name, isReserved name = false →
    (responseOf request tenantId challenge).parameter name =
      request.field name
  checked : ∀ (self : CredentialRuntime Accounts) tenantId connector challenge,
    (environment.connectors connector).supportsPasswordManagement = true →
    self.checkNewPassword environment request connector = .ok () →
    ∃ password ∈
        (responseOf request tenantId challenge).parameter "password",
      self.validatePassword password = .ok ()
  created : ∀ (self after : CredentialRuntime Accounts) tenantId connector
      challenge,
    let response := responseOf request tenantId challenge
    self.lacksAccount environment connector response = true →
    createMissingAccount environment request connector response self =
      .ok () after →
    ∃ username ∈ response.parameter "username",
      ∃ password ∈ response.parameter "password",
        onAccounts ((environment.connectors connector).createAccount username
          password (self.signUpAttributes request username)) self =
          .ok () after
  identified : ∀ hashing accounts tenantId challenge identity,
    LocalConnector.authenticate hashing accounts
      (responseOf request tenantId challenge) = .ok identity →
    ∃ username ∈ request.field "username",
      ∃ password ∈ request.field "password", ∃ account ∈ accounts[username]?,
        account.verifyPassword hashing password = true ∧
          identity = LocalConnector.identityOf username account
  mailed : ∀ (self : CredentialRuntime Accounts) mailed now tenantId challenge,
    let after := finalState (mailToken environment mailed request now self)
    after.challenges = self.challenges ∨
      ∃ username ∈
          (responseOf request tenantId challenge).parameter "username",
        ∃ tenant connectorId expiresAt,
          after.challenges = (self.challenges.issue environment.hash
            environment.randomBytes mailed.kind tenant
            (challengeAccount connectorId username) expiresAt).2

variable {environment} {self : CredentialRuntime Accounts}
  {request : BoundaryRequest}

theorem checkNewPassword_field {connector : String}
    (manages : (environment.connectors connector).supportsPasswordManagement =
      true)
    (passes : self.checkNewPassword environment request connector = .ok ()) :
    ∃ password ∈ request.field "password",
      self.validatePassword password = .ok () := by
  unfold checkNewPassword at passes
  rw [if_pos manages] at passes
  obtain ⟨password, given, valid⟩ := except_bind_eq_ok_iff.mp passes
  exact ⟨password, requiredField_eq_ok_iff.mp given, valid⟩

theorem createMissingAccount_field {after : CredentialRuntime Accounts}
    {connector : String} {response : AuthResponse}
    (lacks : self.lacksAccount environment connector response = true)
    (creates : createMissingAccount environment request connector response
      self = .ok () after) :
    ∃ username ∈ request.field "username",
      ∃ password ∈ request.field "password",
        onAccounts ((environment.connectors connector).createAccount username
          password (self.signUpAttributes request username)) self =
          .ok () after := by
  unfold createMissingAccount at creates
  obtain ⟨missing, same, created⟩ := inspect_bind_eq_ok_iff.mp creates
  cases same
  rw [if_pos lacks] at created
  obtain ⟨username, named, secured⟩ := inspect_bind_eq_ok_iff.mp created
  obtain ⟨password, given, attributed⟩ := inspect_bind_eq_ok_iff.mp secured
  obtain ⟨attributes, same, called⟩ := inspect_bind_eq_ok_iff.mp attributed
  cases same
  exact ⟨username, requiredField_eq_ok_iff.mp named, password,
    requiredField_eq_ok_iff.mp given, called⟩

/-- What is asked after a token is issued leaves the challenges as they
are. -/
theorem challenges_onPart_inspect {α β : Type}
    (program : EStateM AuthError ChallengeStore α)
    (query : α → CredentialRuntime Accounts → Except AuthError β)
    (self : CredentialRuntime Accounts) :
    (finalState ((onPart challenges changeChallenges program >>= fun value =>
      inspect (query value)) self)).challenges =
        finalState (program self.challenges) := by
  rw [onPart_bind]
  cases program self.challenges with
  | error err rest => rfl
  | ok value rest =>
      dsimp only
      unfold inspect
      split <;> rfl

theorem mailToken_field (mailed : TokenMail) (now : Int) :
    let after := finalState (mailToken environment mailed request now self)
    after.challenges = self.challenges ∨
      ∃ username ∈ request.field "username",
        ∃ tenant connectorId expiresAt,
          after.challenges = (self.challenges.issue environment.hash
            environment.randomBytes mailed.kind tenant
            (challengeAccount connectorId username) expiresAt).2 := by
  intro after
  simp only [after]
  unfold mailToken
  rw [finalState_inspect_bind]
  cases self.requireMailContract mailed.template with
  | error err => exact .inl rfl
  | ok _ =>
  dsimp only
  rw [finalState_inspect_bind]
  cases requiredField request "tenant" with
  | error err => exact .inl rfl
  | ok tenant =>
  dsimp only
  rw [finalState_inspect_bind]
  cases requiredField request "connector" with
  | error err => exact .inl rfl
  | ok connectorId =>
  dsimp only
  rw [finalState_inspect_bind]
  cases named : requiredField request "username" with
  | error err => exact .inl rfl
  | ok username =>
  dsimp only
  rw [finalState_inspect_bind]
  split
  · rename_i address found
    cases address with
    | none => exact .inl rfl
    | some address =>
    cases environment.mail with
    | none => exact .inl rfl
    | some mail =>
        refine .inr ⟨username, requiredField_eq_ok_iff.mp named, tenant,
          connectorId, now + mailed.lifetime, ?_⟩
        apply challenges_onPart_inspect
  · exact .inl rfl

/-- Both readings of a request agree in every flow exactly if no name is given
twice with different values. -/
theorem oneSource_iff (environment : CredentialEnvironment Accounts)
    (request : BoundaryRequest) :
    OneSource environment request ↔ request.SaysOnce := by
  constructor
  · intro source
    apply (told_eq_field_iff request).mp
    intro name unreserved
    exact source.attempt "" "" name unreserved
  · intro once
    have agree := (told_eq_field_iff request).mpr once
    have read : ∀ tenantId challenge name, isReserved name = false →
        (responseOf request tenantId challenge).parameter name =
          request.field name := by
      intro tenantId challenge name unreserved
      exact agree name unreserved
    refine ⟨?_, read, ?_, ?_, ?_, ?_⟩
    · intro tenantId connector name unreserved
      exact agree name unreserved
    · intro self tenantId connector challenge manages passes
      rw [read tenantId challenge "password" (by decide)]
      exact checkNewPassword_field manages passes
    · intro self after tenantId connector challenge response lacks creates
      rw [read tenantId challenge "username" (by decide),
        read tenantId challenge "password" (by decide)]
      exact createMissingAccount_field lacks creates
    · intro hashing accounts tenantId challenge identity proved
      rw [← read tenantId challenge "username" (by decide),
        ← read tenantId challenge "password" (by decide)]
      exact LocalConnector.authenticate_reads proved
    · intro self mailed now tenantId challenge
      rw [read tenantId challenge "username" (by decide)]
      exact mailToken_field mailed now

/-- The body gives one password and the query another. -/
def twoPasswords : BoundaryRequest :=
  { BoundaryRequest.new .post "/auth/signup" with
    query := (∅ : KeyedMap String String).insert "password" "x"
    body :=
      [("tenant", "acme"), ("connector", "local"), ("username", "alice"),
          ("password", "Correct-horse-7")].foldl
        (fun body entry => body.insert entry.1 entry.2) ∅ }

/-- The password that is checked is accepted, and the one that the connector is
given would not be. -/
theorem twoPasswords_differ :
    twoPasswords.field "password" = some "Correct-horse-7" ∧
      (openRuntime.validatePassword "Correct-horse-7").isOk = true ∧
      (responseOf twoPasswords "acme"
        { connector := "local", kind := .credentials, state := "",
          parameters := ∅ }).parameter "password" = some "x" ∧
      (openRuntime.validatePassword "x").isOk = false ∧
      ¬ OneSource (mailEnvironment.withBuiltIn plainHashing) twoPasswords := by
  refine ⟨by decide +kernel, by decide +kernel, by decide +kernel,
    by decide +kernel, ?_⟩
  intro source
  have same := source.attempt "acme" "local" "password" (by decide)
  revert same
  decide +kernel

end CredentialRuntime

end AuthBoundry
