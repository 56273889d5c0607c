import AuthBoundry.Boundary.Credentials
import Mathlib.Data.List.Pairwise

/-!
# The routes of the surface

Which authentication routes a declaration exposes, and which of them ask for a
session.  The table is a function of the declaration alone.
-/

namespace AuthBoundry

open Library

inductive AuthMethod where
  | get
  | post
  | delete
  deriving DecidableEq, Repr

def AuthMethod.parse (value : String) : Option AuthMethod :=
  match asciiUpper value with
  | "GET" => some .get
  | "POST" => some .post
  | "DELETE" => some .delete
  | _ => none

inductive AuthOperation where
  | login
  | signup
  | passwordChange
  | passwordForgot
  | passwordReset
  | passwordPolicy
  | logout
  | session
  | sessions
  | profile
  | devices
  | emailVerification
  | mfa
  | passkeys
  | recovery
  | providers
  | authorize
  | policies
  | authorizationDecisions
  | authorizationExplain
  | currentTenant
  | tenants
  | agents
  | delegations
  | accountLinks
  deriving DecidableEq, Repr

structure AuthRoute where
  path : String
  /-- Alternate spellings of the same operation. -/
  aliases : List String
  methods : List AuthMethod
  operation : AuthOperation
  requiresSession : Bool
  deriving DecidableEq, Repr

/-- The features on which routes depend. -/
structure AuthFeatures where
  tenants : Bool
  accountLinking : Bool
  agents : Bool
  delegation : Bool
  deriving DecidableEq, Repr

def AuthFeatures.derive (config : AuthConfig) : AuthFeatures :=
  { tenants := config.multiTenant
    accountLinking := decide (1 < config.providers.length)
    agents := config.agents
    delegation := config.agents }

namespace AuthRoute

def spellings (self : AuthRoute) : List String := self.path :: self.aliases

def isAt (self : AuthRoute) (path : String) : Bool :=
  self.path == path || self.aliases.any (· == path)

def allows (self : AuthRoute) (method : AuthMethod) : Bool :=
  self.methods.contains method

def new (path : String) (methods : List AuthMethod)
    (operation : AuthOperation) (requiresSession : Bool) : AuthRoute :=
  { path, aliases := [], methods, operation, requiresSession }

def withAlias (self : AuthRoute) (spelling : String) : AuthRoute :=
  { self with aliases := self.aliases ++ [spelling] }

/-- When a group of routes is exposed. -/
abbrev Gate := AuthConfig → AuthFeatures → Bool

def offers (capability : AuthExperienceCapability) : Gate :=
  fun config _ => config.experience.enabled capability

/-- The routes in the order of the table, each group behind its gate. -/
def groups : List (Gate × List AuthRoute) :=
  [(offers .signIn,
      [((new "/auth/login" [.get, .post] .login false).withAlias
        "/auth/sign-in").withAlias "/login"]),
    (offers .signUp,
      [(new "/auth/signup" [.get, .post] .signup false).withAlias "/signup"]),
    (offers .passwordChange,
      [new "/auth/password/change" [.post] .passwordChange false]),
    (offers .passwordReset,
      [(new "/auth/password/forgot" [.get, .post] .passwordForgot
          false).withAlias "/forgot-password",
        (new "/auth/password/reset" [.get, .post] .passwordReset
          false).withAlias "/reset-password"]),
    (fun _ _ => true,
      [new "/_authboundry/password-policy" [.get] .passwordPolicy false]),
    (offers .signOut,
      [(new "/auth/logout" [.post] .logout true).withAlias "/auth/sign-out"]),
    (offers .sessionManagement,
      [new "/auth/session" [.get, .delete] .session true,
        new "/auth/sessions" [.get] .sessions true]),
    (offers .profile, [new "/auth/profile" [.get] .profile true]),
    (offers .deviceManagement, [new "/auth/devices" [.get] .devices true]),
    (offers .emailVerification,
      [(new "/auth/email/verification" [.get, .post] .emailVerification
        false).withAlias "/verify-email"]),
    (offers .mfa, [new "/auth/mfa" [.get, .post] .mfa true]),
    (offers .passkeys, [new "/auth/passkeys" [.get, .post] .passkeys true]),
    (offers .recovery, [new "/auth/recovery" [.post] .recovery false]),
    (offers .signIn, [new "/auth/providers" [.get] .providers false]),
    (fun _ _ => true,
      [new "/auth/authorize" [.post] .authorize true,
        new "/_authboundry/policies" [.get] .policies true,
        new "/_authboundry/authorization/decisions" [.get]
          .authorizationDecisions true,
        new "/_authboundry/authorization/explain" [.get]
          .authorizationExplain true]),
    (fun config features =>
        features.accountLinking && offers .accountLinking config features,
      [new "/auth/account/links" [.get, .post, .delete] .accountLinks true]),
    (fun config features =>
        features.tenants && offers .tenantSwitching config features,
      [new "/auth/tenant" [.get] .currentTenant true,
        new "/auth/tenants" [.get] .tenants true]),
    (fun _ features => features.agents,
      [new "/auth/agents" [.get, .post, .delete] .agents true]),
    (fun _ features => features.delegation,
      [new "/auth/delegations" [.get, .post, .delete] .delegations true])]

def derive (config : AuthConfig) (features : AuthFeatures) : List AuthRoute :=
  groups.flatMap fun (shown, routes) =>
    if shown config features then routes else []

def all : List AuthRoute := groups.flatMap Prod.snd

theorem isAt_iff {self : AuthRoute} {path : String} :
    self.isAt path = true ↔ path ∈ self.spellings := by
  rw [isAt, Bool.or_eq_true, beq_iff_eq, List.any_eq_true, spellings,
    List.mem_cons]
  apply or_congr eq_comm
  simp

theorem mem_all {config : AuthConfig} {features : AuthFeatures}
    {route : AuthRoute} (member : route ∈ derive config features) :
    route ∈ all := by
  obtain ⟨group, listed, within⟩ := List.mem_flatMap.mp member
  dsimp only at within
  split at within
  · exact List.mem_flatMap.mpr ⟨group, listed, within⟩
  · cases within

/-- No path leads to two routes. -/
theorem spellings_nodup : (all.flatMap spellings).Nodup := by
  decide +kernel

theorem eq_of_isAt {left right : AuthRoute} {path : String}
    (leftListed : left ∈ all) (rightListed : right ∈ all)
    (leftAt : left.isAt path = true) (rightAt : right.isAt path = true) :
    left = right := by
  by_contra different
  have symmetric : Std.Symm (Function.onFun List.Disjoint spellings) :=
    ⟨fun _ _ disjoint => List.disjoint_symm disjoint⟩
  have disjoint := (List.nodup_flatMap.mp spellings_nodup).2.forall leftListed
    rightListed different
  exact disjoint (isAt_iff.mp leftAt) (isAt_iff.mp rightAt)

end AuthRoute

/-- The routes of the surface of a declaration. -/
def AuthConfig.routes (self : AuthConfig) : List AuthRoute :=
  AuthRoute.derive self.canonical (.derive self.canonical)

/-- Canonical paths and their aliases both lead to the same route. -/
def AuthConfig.route (self : AuthConfig) (path : String) : Option AuthRoute :=
  self.routes.find? fun route => route.isAt path

theorem AuthConfig.route_isAt {config : AuthConfig} {path : String}
    {route : AuthRoute} (found : config.route path = some route) :
    route ∈ config.routes ∧ route.isAt path = true := by
  unfold AuthConfig.route at found
  have isAt := List.find?_some found
  exact ⟨List.mem_of_find?_eq_some found, isAt⟩

theorem AuthConfig.route_eq_some_iff {config : AuthConfig} {path : String}
    {route : AuthRoute} :
    config.route path = some route ↔
      route ∈ config.routes ∧ route.isAt path = true := by
  constructor
  · exact AuthConfig.route_isAt
  · intro listed
    obtain ⟨member, isAt⟩ := listed
    cases found : config.route path with
    | none =>
        have absent := List.find?_eq_none.mp found route member
        exact absurd isAt absent
    | some other =>
        obtain ⟨otherMember, otherAt⟩ := AuthConfig.route_isAt found
        rw [AuthRoute.eq_of_isAt (AuthRoute.mem_all otherMember)
          (AuthRoute.mem_all member) otherAt isAt]

end AuthBoundry
