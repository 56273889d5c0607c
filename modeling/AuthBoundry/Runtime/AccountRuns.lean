import AuthBoundry.Runtime.Records
import Mathlib.Data.Set.Function

/-!
# Accounts over runs

Principal ids and session ids are texts made by a hash and by a random source,
so that a run is orderly when no two identities that ever sign up share a
principal id and no minted session id is in use.  In orderly runs a principal
is never replaced: all that happens to it is that an agent is stopped.
Bindings never change in any run.
-/

namespace AuthBoundry

open Library
open Library.Stateful

def principalIdOf (key : IdentityKey) : PrincipalId :=
  principalIdFor key.1 key.2.1.value key.2.2.value

namespace AuthMesh

section Grounds

variable {self : AuthMesh} {environment : Environment} {tenantId : String}
  {response : AuthResponse} {tenant : TenantContext}
  {external : ExternalIdentity}

/-- What a registration was checked for. -/
structure SignUpGrounds (mesh : AuthMesh) (environment : Environment)
    (tenantId : String) (response : AuthResponse)
    (tenant : TenantContext) (external : ExternalIdentity) : Prop where
  tenantFound : mesh.tenant tenantId = .ok tenant
  proven : mesh.authenticateExternal environment tenant response =
    .ok external
  unbound : mesh.bindingMap[identityKey tenant external]? = none
  unrecorded :
    mesh.stores.identities.byProvider[identityKey tenant external]? = none

theorem signUpGrounds_ok {registration : Registration} {claims : Claims}
    (granted : self.signUpGrounds environment tenantId response registration =
      .ok (tenant, external, claims)) :
    SignUpGrounds self environment tenantId response tenant external := by
  obtain ⟨found, tenantFound, granted⟩ := except_bind_eq_ok_iff.mp granted
  obtain ⟨_, _, granted⟩ := except_bind_eq_ok_iff.mp granted
  obtain ⟨proof, proven, granted⟩ := except_bind_eq_ok_iff.mp granted
  obtain ⟨_, _, granted⟩ := except_bind_eq_ok_iff.mp granted
  obtain ⟨_, unbound, granted⟩ := except_bind_eq_ok_iff.mp granted
  obtain ⟨_, unrecorded, granted⟩ := except_bind_eq_ok_iff.mp granted
  cases granted
  rw [refuseIf_eq_ok_iff] at unbound unrecorded
  refine
    { tenantFound
      proven
      unbound := ?_
      unrecorded := ?_ }
  · exact Option.map_eq_none_iff.mp (Option.isSome_eq_false_iff.mp unbound
      |> Option.isNone_iff_eq_none.mp)
  · exact Std.ExtTreeMap.getElem?_eq_none_of_contains_eq_false unrecorded

/-- What linking an account was checked for. -/
structure LinkGrounds (mesh : AuthMesh) (environment : Environment)
    (tenantId : String) (principalId : PrincipalId) (response : AuthResponse)
    (tenant : TenantContext) (external : ExternalIdentity)
    (principal : Principal) (known : Option Identity) : Prop where
  tenantFound : mesh.tenant tenantId = .ok tenant
  proven : mesh.authenticateExternal environment tenant response =
    .ok external
  stored : mesh.principalMap[principalId]? = some principal
  inTenant : principal.tenantId = tenant.tenantId
  found : mesh.stores.identities.findIdentity tenant ⟨external.connector⟩
    ⟨external.subject⟩ = .ok known
  unrecorded : known = none →
    mesh.stores.identities.byProvider[identityKey tenant external]? = none

theorem linkGrounds_ok {principalId : PrincipalId} {principal : Principal}
    {known : Option Identity}
    (granted : self.linkGrounds environment tenantId principalId response =
      .ok (tenant, external, principal, known)) :
    LinkGrounds self environment tenantId principalId response tenant external
      principal known := by
  obtain ⟨_, tenantFound, granted⟩ := except_bind_eq_ok_iff.mp granted
  obtain ⟨_, proven, granted⟩ := except_bind_eq_ok_iff.mp granted
  dsimp only at granted
  split at granted
  · cases granted
  · cases granted
  · rename_i stored
    rw [except_ok_bind] at granted
    obtain ⟨_, found, granted⟩ := except_bind_eq_ok_iff.mp granted
    obtain ⟨_, unrecorded, granted⟩ := except_bind_eq_ok_iff.mp granted
    cases granted
    rw [refuseIf_eq_ok_iff] at unrecorded
    have record := getScoped_eq_some_iff.mp stored
    refine
      { tenantFound
        proven
        stored := record.1
        inTenant := record.2
        found := except_mapError_eq_ok_iff.mp found
        unrecorded := ?_ }
    intro missing
    subst missing
    exact Std.ExtTreeMap.getElem?_eq_none_of_contains_eq_false unrecorded

/-- What an external identity resolves to. -/
structure Resolves (mesh : AuthMesh) (tenant : TenantContext)
    (external : ExternalIdentity) (resolved : ResolvedPrincipal) : Prop where
  bound : ∃ binding, mesh.bindingMap[identityKey tenant external]? =
    some binding ∧
      mesh.principalMap[binding.principalId]? = some resolved.principal
  inTenant : resolved.principal.tenantId = tenant.tenantId
  recorded : mesh.stores.identities.findIdentity tenant ⟨external.connector⟩
    ⟨external.subject⟩ = .ok (some resolved.identity)

theorem resolvePrincipal_ok {resolved : ResolvedPrincipal}
    (found : Resolution.resolvePrincipal self tenant external =
      .ok (some resolved)) :
    Resolves self tenant external resolved := by
  unfold Resolution.resolvePrincipal at found
  dsimp only at found
  split at found
  · cases found
  · rename_i principalId bound
    split at found
    · cases found
    · cases found
    · rename_i principal stored
      split at found
      · cases found
      · split at found
        · cases found
        · cases found
        · rename_i recorded
          cases found
          obtain ⟨binding, filed, rfl⟩ := Option.map_eq_some_iff.mp bound
          have record := getScoped_eq_some_iff.mp stored
          exact
            { bound := ⟨binding, filed, record.1⟩
              inTenant := record.2
              recorded }

structure SignInGrounds (mesh : AuthMesh) (environment : Environment)
    (tenantId : String) (response : AuthResponse) (tenant : TenantContext)
    (external : ExternalIdentity) (resolved : ResolvedPrincipal) : Prop
    extends Resolves mesh tenant external resolved where
  tenantFound : mesh.tenant tenantId = .ok tenant
  proven : mesh.authenticateExternal environment tenant response =
    .ok external
  usable : assertPrincipalIsUsable resolved.principal = .ok ()

theorem signInGrounds_ok {resolved : ResolvedPrincipal}
    (granted : self.signInGrounds environment tenantId response =
      .ok (tenant, external, resolved)) :
    SignInGrounds self environment tenantId response tenant external
      resolved := by
  obtain ⟨_, tenantFound, granted⟩ := except_bind_eq_ok_iff.mp granted
  obtain ⟨_, proven, granted⟩ := except_bind_eq_ok_iff.mp granted
  dsimp only at granted
  split at granted
  · cases granted
  · rename_i resolves
    rw [except_ok_bind] at granted
    obtain ⟨_, usable, granted⟩ := except_bind_eq_ok_iff.mp granted
    cases granted
    exact { resolvePrincipal_ok resolves with tenantFound, proven, usable }
  · cases granted

end Grounds

/-! ## Orderly runs -/

section Orderly

/-- The id that the next session would get is not in use. -/
def MintsFresh (self : AuthMesh) (call : MeshCall) : Prop :=
  self.sessionMap[(⟨call.environment.mintSessionId
    (self.stores.sessions.nextId + 1)⟩ : SessionId)]? = none

/-- A registration concerns one of the identities in use, and a session that
is opened gets a fresh id. -/
def Orderly (used : Set IdentityKey) (self : AuthMesh) (call : MeshCall) :
    Prop :=
  match call.operation with
  | .signIn tenantId response =>
      (self.signInGrounds call.environment tenantId response).toOption.isSome →
        self.MintsFresh call
  | .signUp tenantId response registration =>
      ∀ found ∈ (self.signUpGrounds call.environment tenantId response
          registration).toOption,
        identityKey found.1 found.2.1 ∈ used ∧ self.MintsFresh call
  | _ => True

instance (self : AuthMesh) (call : MeshCall) :
    Decidable (self.MintsFresh call) :=
  inferInstanceAs (Decidable (_ = none))

instance (used : Set IdentityKey) [DecidablePred (· ∈ used)] (self : AuthMesh)
    (call : MeshCall) : Decidable (self.Orderly used call) := by
  unfold Orderly
  split <;> infer_instance

variable {used : Set IdentityKey} {self : AuthMesh} {call : MeshCall}

theorem Orderly.registers (orderly : self.Orderly used call)
    {tenantId : String} {response : AuthResponse}
    {registration : Registration} {tenant : TenantContext}
    {external : ExternalIdentity} {claims : Claims}
    (operation : call.operation = .signUp tenantId response registration)
    (grounds : self.signUpGrounds call.environment tenantId response
      registration = .ok (tenant, external, claims)) :
    identityKey tenant external ∈ used ∧ self.MintsFresh call := by
  unfold Orderly at orderly
  rw [operation] at orderly
  apply orderly (tenant, external, claims)
  rw [grounds]
  rfl

theorem Orderly.mintsFresh (orderly : self.Orderly used call)
    {tenant : TenantContext} {external : ExternalIdentity}
    {identityId : IdentityId}
    (opens : OpensSession self call tenant external identityId) :
    self.MintsFresh call := by
  cases opens with
  | signIn tenantId response resolved operation grounds =>
      unfold Orderly at orderly
      rw [operation] at orderly
      apply orderly
      rw [grounds]
      rfl
  | signUp tenantId response registration claims operation grounds =>
      exact (orderly.registers operation grounds).2

end Orderly

/-! ## What persists -/

/-- Nothing about a principal changes but that an agent is stopped. -/
def SamePrincipal (old new : Principal) : Prop :=
  ∃ agentState, new = { old with agentState } ∧
    (agentState = old.agentState ∨
      ∃ state : AgentState, agentState = some state ∧ state.stops = true)

/-- Nothing about a session changes but that it is revoked. -/
def SameSession (old new : Session) : Prop :=
  ∃ revokedAt, new = { old with revokedAt } ∧
    (revokedAt = old.revokedAt ∨ revokedAt.isSome = true)

theorem samePrincipal_refl (principal : Principal) :
    SamePrincipal principal principal :=
  ⟨principal.agentState, rfl, Or.inl rfl⟩

theorem samePrincipal_trans (first second third : Principal)
    (early : SamePrincipal first second) (late : SamePrincipal second third) :
    SamePrincipal first third := by
  obtain ⟨_, rfl, before⟩ := early
  obtain ⟨_, rfl, after⟩ := late
  refine ⟨_, rfl, ?_⟩
  rcases after with same | stopped
  · rw [same]
    exact before
  · exact Or.inr stopped

theorem sameSession_refl (session : Session) : SameSession session session :=
  ⟨session.revokedAt, rfl, Or.inl rfl⟩

theorem sameSession_trans (first second third : Session)
    (early : SameSession first second) (late : SameSession second third) :
    SameSession first third := by
  obtain ⟨_, rfl, before⟩ := early
  obtain ⟨_, rfl, after⟩ := late
  refine ⟨_, rfl, ?_⟩
  rcases after with same | revoked
  · rw [same]
    exact before
  · exact Or.inr revoked

/-- Linking binds an identity only if it is not bound yet. -/
theorem withBinding_bindings (self : AuthMesh) (binding : ExternalBinding) :
    (self.withBinding binding).bindingMap =
      match self.bindingMap[binding.key]? with
      | some _ => self.bindingMap
      | none => self.bindingMap.insert binding.key binding := by
  unfold withBinding bindingMap
  cases self.stores.principals.bindings[binding.key]? <;> rfl

variable {self : AuthMesh} {call : MeshCall}

theorem bindings_persist (self : AuthMesh) (call : MeshCall) :
    KeyedMap.Persists Eq self.bindingMap (self.perform call).bindingMap := by
  have change := (perform_records self call).accounts
  change KeyedMap.Persists Eq self.bindingMap
    (self.perform call).records.principals.bindings
  generalize (self.perform call).records.principals = principals at change
  generalize (self.perform call).records.identities = identities at change
  cases change with
  | unchanged => exact KeyedMap.Persists.refl (fun _ => rfl) self.bindingMap
  | signedUp _ _ registration tenant external claims _ grounds =>
      have unbound := (signUpGrounds_ok grounds).unbound
      apply KeyedMap.Persists.insert fun _ => rfl
      intro old stored
      cases unbound.symm.trans stored
  | linked _ principalId _ tenant external principal known =>
      have framed := withMissingIdentity_principals self known
        (identityKey tenant external) principal.claims
      have bound := withBinding_bindings (self.withMissingIdentity known
        (identityKey tenant external) principal.claims)
        (newBinding (identityKey tenant external) principalId call.now)
      unfold bindingMap at bound
      rw [bound, framed]
      split
      · exact KeyedMap.Persists.refl (fun _ => rfl) self.bindingMap
      · rename_i unbound
        apply KeyedMap.Persists.insert fun _ => rfl
        intro old stored
        cases unbound.symm.trans stored
  | stopped => exact KeyedMap.Persists.refl (fun _ => rfl) self.bindingMap

/-! ## Principals in orderly runs -/

section Principals

variable {used : Set IdentityKey}

/-- Every stored principal was registered for an identity that is in use,
belongs to its tenant and is bound. -/
def Registered (used : Set IdentityKey) (self : AuthMesh) : Prop :=
  ∀ (id : PrincipalId) principal, self.principalMap[id]? = some principal →
    ∃ key ∈ used, principalIdOf key = id ∧ principal.tenantId = key.1 ∧
      ∃ binding, self.bindingMap[key]? = some binding

theorem Registered.fresh (registered : self.Registered used)
    (distinct : Set.InjOn principalIdOf used) {key : IdentityKey}
    (inUse : key ∈ used) (unbound : self.bindingMap[key]? = none) :
    self.principalMap[principalIdOf key]? = none := by
  cases stored : self.principalMap[principalIdOf key]? with
  | none => rfl
  | some principal =>
      obtain ⟨other, otherUsed, sameId, _, binding, bound⟩ :=
        registered _ principal stored
      have same : other = key := distinct otherUsed inUse sameId
      rw [same, unbound] at bound
      cases bound

theorem Registered.persist (registered : self.Registered used)
    (distinct : Set.InjOn principalIdOf used)
    (orderly : self.Orderly used call) :
    KeyedMap.Persists SamePrincipal self.principalMap
      (self.perform call).principalMap := by
  have change := (perform_records self call).accounts
  change KeyedMap.Persists SamePrincipal self.principalMap
    (self.perform call).records.principals.principals
  generalize (self.perform call).records.principals = principals at change
  generalize (self.perform call).records.identities = identities at change
  have unchanged :=
    KeyedMap.Persists.refl samePrincipal_refl self.principalMap
  cases change with
  | unchanged => exact unchanged
  | signedUp _ _ registration tenant external claims operation grounds =>
      have fresh := registered.fresh distinct
        (orderly.registers operation grounds).1
        (signUpGrounds_ok grounds).unbound
      apply KeyedMap.Persists.insert samePrincipal_refl
      intro old stored
      cases fresh.symm.trans stored
  | linked _ principalId _ tenant external principal known =>
      have framed := (linked_records self known (identityKey tenant external)
        principal.claims
        (newBinding (identityKey tenant external) principalId call.now)).1
      rw [framed]
      exact unchanged
  | stopped _ agent state _ principal operation _ stored =>
      apply KeyedMap.Persists.insert samePrincipal_refl
      intro old oldStored
      cases stored.symm.trans oldStored
      exact ⟨some state, rfl,
        Or.inr ⟨state, rfl, MeshOperation.stops_stops operation⟩⟩

theorem Registered.perform (holds : self.Registered used)
    (orderly : self.Orderly used call) :
    (self.perform call).Registered used := by
  have kept : ∀ {key : IdentityKey},
      (∃ binding, self.bindingMap[key]? = some binding) →
        ∃ binding, (self.perform call).bindingMap[key]? = some binding := by
    rintro key ⟨binding, bound⟩
    obtain ⟨same, stored, _⟩ := bindings_persist self call key binding bound
    exact ⟨same, stored⟩
  have old : ∀ (id : PrincipalId) principal,
      self.principalMap[id]? = some principal →
        ∃ key ∈ used, principalIdOf key = id ∧ principal.tenantId = key.1 ∧
          ∃ binding, (self.perform call).bindingMap[key]? = some binding := by
    intro id principal stored
    obtain ⟨key, inUse, sameId, inTenant, bound⟩ := holds id principal stored
    exact ⟨key, inUse, sameId, inTenant, kept bound⟩
  have change := (perform_records self call).accounts
  intro id principal stored
  change (self.perform call).records.principals.principals[id]? =
    some principal at stored
  have bindings : (self.perform call).bindingMap =
    (self.perform call).records.principals.bindings := rfl
  rw [bindings] at old ⊢
  generalize (self.perform call).records.principals = principals
    at change stored old ⊢
  generalize (self.perform call).records.identities = identities at change
  cases change with
  | unchanged => exact old id principal stored
  | signedUp _ _ registration tenant external claims operation grounds =>
      let key := identityKey tenant external
      let registered := Resolution.provisionedPrincipal tenant external
        registration.kind claims
      change (self.principalMap.insert (principalIdOf key) registered)[id]? =
        some principal at stored
      rw [KeyedMap.getElem?_insert_eq] at stored
      split at stored
      · rename_i sameId
        obtain rfl := Option.some.inj stored
        exact ⟨key, (orderly.registers operation grounds).1, sameId, rfl,
          newBinding key registered.id call.now,
          Std.ExtTreeMap.getElem?_insert_self⟩
      · exact old id principal stored
  | linked _ principalId _ tenant external linkedTo known =>
      have framed := (linked_records self known (identityKey tenant external)
        linkedTo.claims
        (newBinding (identityKey tenant external) principalId call.now)).1
      rw [framed] at stored
      exact old id principal stored
  | stopped _ agent state _ stopped _ _ found =>
      rw [KeyedMap.getElem?_insert_eq] at stored
      split at stored
      · rename_i sameId
        cases stored
        subst sameId
        exact old agent stopped found
      · exact old id principal stored

theorem registered (run : system.ReachableUnder (Orderly used) self) :
    self.Registered used := by
  refine run.invariant (motive := fun state : AuthMesh =>
    state.Registered used) ?_ ?_
  · intro state fresh id principal stored
    rw [Fresh.principalMap_eq fresh] at stored
    simp at stored
  · intro state call _ orderly holds
    exact holds.perform orderly

/-! ## Sessions in orderly runs -/

theorem sessions_persist (orderly : self.Orderly used call) :
    KeyedMap.Persists SameSession self.sessionMap
      (self.perform call).sessionMap := by
  have change := (perform_records self call).sessions
  change KeyedMap.Persists SameSession self.sessionMap
    (self.perform call).records.sessions.sessions
  generalize (self.perform call).records.sessions.sessions = after at change
  cases change with
  | unchanged => exact KeyedMap.Persists.refl sameSession_refl self.sessionMap
  | opened tenant external identityId opens =>
      have fresh := orderly.mintsFresh opens
      apply KeyedMap.Persists.insert sameSession_refl
      intro old stored
      cases fresh.symm.trans stored
  | revoked _ sessionId _ session _ _ stored =>
      apply KeyedMap.Persists.insert sameSession_refl
      intro old oldStored
      cases stored.symm.trans oldStored
      exact ⟨some call.now, rfl, Or.inr rfl⟩

/-- What an orderly run keeps of the accounts of a mesh. -/
structure AccountsPersist (before after : AuthMesh) : Prop where
  principals : KeyedMap.Persists SamePrincipal before.principalMap
    after.principalMap
  sessions : KeyedMap.Persists SameSession before.sessionMap after.sessionMap
  bindings : KeyedMap.Persists Eq before.bindingMap after.bindingMap

theorem accounts_persist (distinct : Set.InjOn principalIdOf used)
    (reached : system.ReachableUnder (Orderly used) self)
    {calls : List MeshCall} (orderly : system.Follows (Orderly used) self calls) :
    AccountsPersist self (system.run self calls) := by
  refine reached.related ?_ ?_ ?_ orderly
  · intro state
    exact
      { principals := KeyedMap.Persists.refl samePrincipal_refl _
        sessions := KeyedMap.Persists.refl sameSession_refl _
        bindings := KeyedMap.Persists.refl (fun _ => rfl) _ }
  · intro first middle last early late
    exact
      { principals := early.principals.trans samePrincipal_trans
          late.principals
        sessions := early.sessions.trans sameSession_trans late.sessions
        bindings := early.bindings.trans (fun _ _ _ => Eq.trans)
          late.bindings }
  · intro state call before orderly
    exact
      { principals := (registered before).persist distinct orderly
        sessions := sessions_persist orderly
        bindings := bindings_persist state call }

end Principals

end AuthMesh

end AuthBoundry
