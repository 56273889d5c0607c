import AuthBoundry.Server.SessionRoutes

/-!
# Accounts that a mail ceremony must not show

Asking for a new password and asking for a verification mail both lead to a
mail only where there is an account with an address.  This module compares the
answers of two servers that differ in nothing but their accounts.
-/

namespace AuthBoundry

open Library
open Library.Stateful

namespace Frontend

open CredentialRuntime (TokenMail emailVerificationMail)

variable {Accounts : Type}

def withAccounts (self : Frontend Accounts) (accounts : Accounts) :
    Frontend Accounts :=
  { self with runtime := self.runtime.changeAccounts accounts }

def forgotPath : String := "/auth/password/forgot"

def verificationPath : String := "/auth/email/verification"

section Statement

variable (environment : CredentialEnvironment Accounts) (script : List UInt8)
  (server : Frontend Accounts) (first second : Accounts) (http : HttpRequest)

/-- Both accounts behind the connectors give the same response. -/
def AnswersAlike : Prop :=
  ((server.withAccounts first).handle environment script http).1 =
    ((server.withAccounts second).handle environment script http).1

/-- Neither ceremony tells the accounts apart. -/
structure ConcealsAccounts : Prop where
  forgot : http.method = .post → http.path = forgotPath →
    AnswersAlike environment script server first second http
  verification : http.path = verificationPath →
    http.toBoundary.field "token" = none →
      AnswersAlike environment script server first second http

/-- Why no mail reaches an address, if there is one. -/
def deliveryFailure (mailed : TokenMail) (tenant username : String)
    (expiresAt : Int) (address : Option String) : Option String :=
  match address, environment.mail with
  | none, _ => none
  | some _, none => some "MailPort is not configured"
  | some address, some mail =>
      match mail (mailed.message (tokenOfBytes environment.randomBytes)
          username tenant address expiresAt) with
      | .ok _ => none
      | .error message => some message

/-- What is checked before the accounts are asked, and what the request names:
a tenant, a connector, the connector registered under it, and a user. -/
structure AsksFor (mailed : TokenMail)
    (tenant connectorId connector username : String) : Prop where
  contract : server.runtime.requireMailContract mailed.template = .ok ()
  namesTenant : http.toBoundary.field "tenant" = some tenant
  namesConnector : http.toBoundary.field "connector" = some connectorId
  namesUser : http.toBoundary.field "username" = some username
  registered : server.runtime.connector connectorId = .ok connector

/-- The surface takes a request to verify an address. -/
structure TakesVerification : Prop where
  path : http.path = verificationPath
  exposed : (server.runtime.mesh.config.route verificationPath).isSome = true
  method : http.method = .get ∨ http.method = .post
  tokenless : http.toBoundary.field "token" = none

def DeliversAlike : Prop :=
  TakesVerification server http →
    ∀ tenant connectorId connector username,
      AsksFor server http emailVerificationMail tenant connectorId connector
          username →
        let failure (accounts : Accounts) :=
          deliveryFailure environment emailVerificationMail tenant username
            (environment.clock 0 + emailVerificationMail.lifetime)
            ((environment.connectors connector).recoveryAddress accounts
              username)
        failure first = failure second

end Statement

end Frontend

/-! ## Mailing a token -/

namespace CredentialRuntime

variable {Accounts : Type}

/-- The checks of `mailToken` that do not ask the accounts. -/
def mailChecks (mailed : TokenMail) (request : BoundaryRequest)
    (self : CredentialRuntime Accounts) :
    Except AuthError (String × String × String) := do
  self.requireMailContract mailed.template
  let tenantId ← requiredField request "tenant"
  let connectorId ← requiredField request "connector"
  let username ← requiredField request "username"
  let connector ← self.connector connectorId
  .ok (tenantId, username, connector)

variable {environment : CredentialEnvironment Accounts} {mailed : TokenMail}
  {request : BoundaryRequest} {now : Int} {self : CredentialRuntime Accounts}

theorem mailChecks_eq_ok_iff {tenant username connector : String} :
    mailChecks mailed request self = .ok (tenant, username, connector) ↔
      self.requireMailContract mailed.template = .ok () ∧
        request.field "tenant" = some tenant ∧
        request.field "username" = some username ∧
        ∃ connectorId, request.field "connector" = some connectorId ∧
          self.connector connectorId = .ok connector := by
  unfold mailChecks requiredField
  cases self.requireMailContract mailed.template with
  | error err => simp [except_error_bind]
  | ok value =>
      simp only [except_ok_bind]
      cases request.field "tenant" with
      | none => simp [except_error_bind]
      | some foundTenant =>
          cases request.field "connector" with
          | none => simp [except_error_bind, except_ok_bind]
          | some connectorId =>
              cases request.field "username" with
              | none => simp [except_error_bind, except_ok_bind]
              | some foundUser =>
                  cases found : self.connector connectorId with
                  | error err =>
                      simp [except_error_bind, except_ok_bind, found]
                  | ok foundConnector =>
                      simp [except_ok_bind, found]

/-- What the caller of `mailToken` is told: a check that failed, or a delivery
that did. -/
theorem failure_mailToken :
    (failure (mailToken environment mailed request now self)).map denial =
      match mailChecks mailed request self with
      | .error err => some (denial err)
      | .ok (tenant, username, connector) =>
          (Frontend.deliveryFailure environment mailed tenant username
            (now + mailed.lifetime)
            ((environment.connectors connector).recoveryAddress self.accounts
              username)).map
                (HttpResponse.denied 403 DenialReason.policyDenied.asStr) := by
  unfold mailToken mailChecks
  rw [inspect_bind]
  cases self.requireMailContract mailed.template with
  | error err => rfl
  | ok value =>
  dsimp only
  rw [inspect_bind, except_ok_bind]
  cases requiredField request "tenant" with
  | error err => rfl
  | ok tenant =>
  dsimp only
  rw [inspect_bind, except_ok_bind]
  cases requiredField request "connector" with
  | error err => rfl
  | ok connectorId =>
  dsimp only
  rw [inspect_bind, except_ok_bind]
  cases requiredField request "username" with
  | error err => rfl
  | ok username =>
  dsimp only
  rw [inspect_bind, except_ok_bind]
  cases self.connector connectorId with
  | error err => rfl
  | ok connector =>
  rw [except_ok_bind, except_ok_bind]
  dsimp only
  unfold Frontend.deliveryFailure
  cases (environment.connectors connector).recoveryAddress self.accounts
      username with
  | none => rfl
  | some address =>
      cases environment.mail with
      | none => rfl
      | some mail =>
          -- The token is stored before the mail is sent.
          change (failure (inspect (fun _ => (mail (mailed.message
            (tokenOfBytes environment.randomBytes) username tenant address
            (now + mailed.lifetime))).mapError _) (changeChallenges _ _))).map
              denial = _
          unfold inspect
          dsimp only
          cases mail (mailed.message (tokenOfBytes environment.randomBytes)
              username tenant address (now + mailed.lifetime)) with
          | error message => rfl
          | ok sent => rfl

end CredentialRuntime

namespace Frontend

open CredentialRuntime (TokenMail emailVerificationMail mailChecks)

variable {Accounts : Type} {environment : CredentialEnvironment Accounts}
  {script : List UInt8} {server : Frontend Accounts} {first second : Accounts}
  {http : HttpRequest}

theorem answer_response (self : Frontend Accounts)
    (program : CredentialM Accounts Unit) (response : HttpResponse) :
    (self.answer program fun _ => response).1 =
      ((failure (program self.runtime)).map denial).getD response := by
  unfold answer
  cases program self.runtime <;> rfl

/-! ## Asking for a new password -/

def forgotRoute : AuthRoute :=
  (AuthRoute.new forgotPath [.get, .post] .passwordForgot false).withAlias
    "/forgot-password"

def verificationRoute : AuthRoute :=
  (AuthRoute.new verificationPath [.get, .post] .emailVerification
    false).withAlias "/verify-email"

theorem forgotRoute_listed : forgotRoute ∈ AuthRoute.all := by decide

theorem verificationRoute_listed : verificationRoute ∈ AuthRoute.all := by
  decide

theorem controlHandles_auth {request : BoundaryRequest}
    (path : request.path = forgotPath ∨ request.path = verificationPath) :
    controlHandles request = none := by
  unfold controlHandles
  rcases path with path | path <;> rw [path] <;> rfl

/-- The one route that goes by a path is the one that the contract exposes
there, if it exposes any. -/
theorem config_route_eq {config : AuthConfig} {path : String}
    {route known : AuthRoute} (found : config.route path = some route)
    (listed : known ∈ AuthRoute.all) (isAt : known.isAt path = true) :
    route = known := by
  obtain ⟨member, routeAt⟩ := AuthConfig.route_isAt found
  exact AuthRoute.eq_of_isAt (AuthRoute.mem_all member) listed routeAt isAt

/-- Whoever asks for a new password is told that the request was accepted. -/
theorem handle_forgot (post : http.method = .post)
    (path : http.path = forgotPath) :
    (server.handle environment script http).1 =
      if (server.runtime.mesh.config.route forgotPath).isSome then accepted
      else
        .denied 404 "unsupported_experience"
          "auth experience is not exposed by this contract" := by
  have isAt : forgotRoute.isAt http.path = true := by
    rw [path]
    decide
  rw [handle_surface forgotRoute_listed isAt (controlHandles_auth (.inl path))]
  unfold handleRoute
  rw [HttpRequest.toBoundary_path, HttpRequest.toBoundary_method, path, post]
  cases found : server.runtime.mesh.config.route forgotPath with
  | none => rfl
  | some route =>
      rw [config_route_eq found forgotRoute_listed (by decide)]
      have allowed : ((AuthMethod.parse Method.post.asStr).map
          forgotRoute.allows).getD false = true := by
        decide
      dsimp only
      rw [if_pos allowed]
      unfold handleAuthRoute
      simp [forgotRoute, AuthRoute.withAlias, AuthRoute.new, post]

/-! ## Asking for a verification mail -/

/-- The answer where the surface takes the request. -/
def verificationAnswer (environment : CredentialEnvironment Accounts)
    (server : Frontend Accounts) (request : BoundaryRequest) : HttpResponse :=
  ((failure (CredentialRuntime.requestEmailVerification environment request
    server.runtime)).map denial).getD accepted

theorem handle_verification (takes : TakesVerification server http) :
    (server.handle environment script http).1 =
      verificationAnswer environment server http.toBoundary := by
  obtain ⟨path, exposed, method, tokenless⟩ := takes
  have isAt : verificationRoute.isAt http.path = true := by
    rw [path]
    decide
  rw [handle_surface verificationRoute_listed isAt
    (controlHandles_auth (.inr path))]
  obtain ⟨route, found⟩ := Option.isSome_iff_exists.mp exposed
  have same := config_route_eq found verificationRoute_listed (by decide)
  have allowed : ((AuthMethod.parse http.method.asStr).map
      verificationRoute.allows).getD false = true := by
    rcases method with method | method <;> rw [method] <;> decide
  unfold handleRoute
  rw [HttpRequest.toBoundary_path, HttpRequest.toBoundary_method, path, found,
    same]
  dsimp only
  rw [if_pos allowed]
  have program : emailProgram environment http.toBoundary =
      CredentialRuntime.requestEmailVerification environment
        http.toBoundary := by
    simp [emailProgram, tokenless]
  exact (answer_response _ _ _).trans (by rw [program]; rfl)

/-- A request that the surface does not take never asks the accounts. -/
theorem answersAlike_untaken (path : http.path = verificationPath)
    (tokenless : http.toBoundary.field "token" = none)
    (untaken : ¬TakesVerification server http) :
    AnswersAlike environment script server first second http := by
  have isAt : verificationRoute.isAt http.path = true := by
    rw [path]
    decide
  unfold AnswersAlike
  rw [handle_surface verificationRoute_listed isAt
      (controlHandles_auth (.inr path)),
    handle_surface verificationRoute_listed isAt
      (controlHandles_auth (.inr path))]
  unfold handleRoute
  rw [HttpRequest.toBoundary_path, HttpRequest.toBoundary_method, path]
  rw [show (server.withAccounts first).runtime.mesh.config =
      server.runtime.mesh.config from rfl,
    show (server.withAccounts second).runtime.mesh.config =
      server.runtime.mesh.config from rfl]
  cases found : server.runtime.mesh.config.route verificationPath with
  | none => rfl
  | some route =>
      have same := config_route_eq found verificationRoute_listed (by decide)
      have refused : ((AuthMethod.parse http.method.asStr).map
          route.allows).getD false = false := by
        rw [same]
        cases method : http.method with
        | get =>
            exact absurd ⟨path, by simp [found], .inl method, tokenless⟩
              untaken
        | post =>
            exact absurd ⟨path, by simp [found], .inr method, tokenless⟩
              untaken
        | put | patch | delete | head | options => decide
      simp [refused]

/-- Two deliveries are answered alike exactly when both arrive or both fail
for the same reason. -/
theorem deliveryAnswer_inj {left right : Option String} :
    ((left.map (HttpResponse.denied 403 DenialReason.policyDenied.asStr)).getD
        accepted =
      (right.map (HttpResponse.denied 403
        DenialReason.policyDenied.asStr)).getD accepted) ↔ left = right := by
  constructor
  · intro same
    cases left with
    | none =>
        cases right with
        | none => rfl
        | some message =>
            have statuses : 202 = 403 := congrArg HttpResponse.status same
            exact absurd statuses (by decide)
    | some message =>
        cases right with
        | none =>
            have statuses : 403 = 202 := congrArg HttpResponse.status same
            exact absurd statuses (by decide)
        | some other => rw [HttpResponse.denied_inj same]
  · intro same
    rw [same]

theorem answersAlike_taken_iff (takes : TakesVerification server http) :
    AnswersAlike environment script server first second http ↔
      ∀ tenant connectorId connector username,
        AsksFor server http emailVerificationMail tenant connectorId connector
            username →
          let failure (accounts : Accounts) :=
            deliveryFailure environment emailVerificationMail tenant username
              (environment.clock 0 + emailVerificationMail.lifetime)
              ((environment.connectors connector).recoveryAddress accounts
                username)
          failure first = failure second := by
  have answered : ∀ accounts,
      ((server.withAccounts accounts).handle environment script http).1 =
        verificationAnswer environment (server.withAccounts accounts)
          http.toBoundary := fun accounts =>
    handle_verification ⟨takes.path, takes.exposed, takes.method,
      takes.tokenless⟩
  have checked : ∀ accounts,
      mailChecks emailVerificationMail http.toBoundary
          (server.withAccounts accounts).runtime =
        mailChecks emailVerificationMail http.toBoundary server.runtime :=
    fun _ => rfl
  unfold AnswersAlike
  rw [answered, answered]
  unfold verificationAnswer CredentialRuntime.requestEmailVerification
  rw [CredentialRuntime.failure_mailToken, CredentialRuntime.failure_mailToken,
    checked, checked]
  cases checks : mailChecks emailVerificationMail http.toBoundary
      server.runtime with
  | error err =>
      refine iff_of_true rfl ?_
      intro tenant connectorId connector username asks
      have passed := CredentialRuntime.mailChecks_eq_ok_iff.mpr
        ⟨asks.contract, asks.namesTenant, asks.namesUser, connectorId,
          asks.namesConnector, asks.registered⟩
      rw [checks] at passed
      cases passed
  | ok named =>
      obtain ⟨tenant, username, connector⟩ := named
      obtain ⟨contract, namesTenant, namesUser, connectorId, namesConnector,
        registered⟩ := CredentialRuntime.mailChecks_eq_ok_iff.mp checks
      dsimp only
      rw [deliveryAnswer_inj]
      constructor
      · intro same otherTenant otherId otherConnector otherUser asks
        have passed := CredentialRuntime.mailChecks_eq_ok_iff.mpr
          ⟨asks.contract, asks.namesTenant, asks.namesUser, otherId,
            asks.namesConnector, asks.registered⟩
        rw [checks] at passed
        cases passed
        exact same
      · intro alike
        exact alike tenant connectorId connector username
          ⟨contract, namesTenant, namesConnector, namesUser, registered⟩

/-- The two ceremonies conceal the accounts exactly when the delivery of a
verification mail ends alike for both. -/
theorem concealsAccounts_iff :
    ConcealsAccounts environment script server first second http ↔
      DeliversAlike environment server first second http := by
  constructor
  · intro conceals takes
    exact (answersAlike_taken_iff takes).mp
      (conceals.verification takes.path takes.tokenless)
  · intro delivers
    refine ⟨?_, ?_⟩
    · intro post path
      unfold AnswersAlike
      rw [handle_forgot post path, handle_forgot post path]
      rfl
    · intro path tokenless
      by_cases takes : TakesVerification server http
      · exact (answersAlike_taken_iff takes).mpr (delivers takes)
      · exact answersAlike_untaken path tokenless takes

end Frontend

/-! ## A server without a mail port -/

/-- Alice asks for a verification mail. -/
def aliceVerifies : HttpRequest :=
  { method := .post
    path := Frontend.verificationPath
    query :=
      (((∅ : KeyedMap String String).insert "tenant" "acme").insert
        "connector" "local").insert "username" "alice"
    headers := ∅
    cookies := ∅
    body := "" }

/-- Without a mail port only an account with an address is refused. -/
theorem concealsAccounts_fails :
    ¬∀ (environment : CredentialEnvironment LocalDirectory)
        (script : List UInt8) (server : Frontend LocalDirectory)
        (first second : LocalDirectory) (http : HttpRequest),
      Frontend.ConcealsAccounts environment script server first second
        http := by
  intro conceals
  have alike := (conceals (mailEnvironment.withBuiltIn plainHashing) []
    bareFrontend ∅ addressedRuntime.accounts aliceVerifies).verification rfl
      rfl
  have statuses := congrArg HttpResponse.status alike
  revert statuses
  decide +kernel

end AuthBoundry
