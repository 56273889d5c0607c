import AuthBoundry.Runtime.Lifecycles

/-!
# What a tenant can read of another tenant's calls

All stores are single maps over the records of all tenants, and what keeps the
tenants apart is the ids: those of sessions are minted, those of principals are
hashes, and those of identities are texts joined by colons.  A call addressed
to one tenant is invisible to another exactly if no id that it writes is that
of a record of the other.
-/

namespace AuthBoundry

open Library
open Library.Stateful

def MeshOperation.addressee : MeshOperation → Option String
  | .signIn tenantId _ => some tenantId
  | .signUp tenantId _ _ => some tenantId
  | .linkAccount tenantId _ _ => some tenantId
  | .logout tenantId _ => some tenantId
  | .delegate tenantId _ => some tenantId
  | .revokeDelegation tenantId _ => some tenantId
  | .suspendAgent tenantId _ => some tenantId
  | .revokeAgent tenantId _ => some tenantId
  | .retireAgent tenantId _ => some tenantId
  | .createAgentRun tenantId _ _ _ _ => some tenantId
  | .cancelAgentRun tenantId _ => some tenantId
  | .putTenant _ | .putPolicy _ | .authorize _ _ _ | .authorizeRequest _ _ _ _
  | .authorizeRunRequest _ _ _ _ _ => none

/-- Everything a tenant can read is the same in both records. -/
structure KeepsTenant (tenantId : TenantId) (before after : Records) :
    Prop where
  identities : KeyedMap.AgreeOn (fun identity => identity.tenantId = tenantId)
    before.identities.identities after.identities.identities
  found : ∀ provider subject,
    before.identities.byProvider[((tenantId, provider, subject) :
        IdentityKey)]? =
      after.identities.byProvider[((tenantId, provider, subject) :
        IdentityKey)]?
  principals : KeyedMap.AgreeOn
    (fun principal => principal.tenantId = tenantId)
    before.principals.principals after.principals.principals
  bindings : KeyedMap.AgreeOn (fun binding => binding.tenantId = tenantId)
    before.principals.bindings after.principals.bindings
  resolved : ∀ provider subject,
    before.principals.bindings[((tenantId, provider, subject) :
        IdentityKey)]? =
      after.principals.bindings[((tenantId, provider, subject) :
        IdentityKey)]?
  sessions : KeyedMap.AgreeOn (fun session => session.tenantId = tenantId)
    before.sessions.sessions after.sessions.sessions
  delegations : KeyedMap.AgreeOn
    (fun delegation => delegation.tenantId = tenantId)
    before.delegations.delegations after.delegations.delegations
  runs : KeyedMap.AgreeOn (fun run => run.tenantId = tenantId)
    before.runs.runs after.runs.runs

theorem keepsTenant_refl (tenantId : TenantId) (records : Records) :
    KeepsTenant tenantId records records where
  identities := .refl _ _
  found _ _ := rfl
  principals := .refl _ _
  bindings := .refl _ _
  resolved _ _ := rfl
  sessions := .refl _ _
  delegations := .refl _ _
  runs := .refl _ _

namespace AuthMesh

def identityMap (self : AuthMesh) : KeyedMap IdentityId Identity :=
  self.stores.identities.identities

/-- No record of the tenant is stored under an id that the call writes. -/
structure Spares (tenantId : TenantId) (mesh : AuthMesh) (call : MeshCall) :
    Prop where
  session : ∀ tenant external identityId,
    OpensSession mesh call tenant external identityId →
      ∀ old, mesh.sessionMap[(mesh.openedSession call.environment tenant
          identityId call.now).id]? = some old →
        old.tenantId ≠ tenantId
  principal : ∀ addressed response registration tenant external claims,
    call.operation = .signUp addressed response registration →
      mesh.signUpGrounds call.environment addressed response registration =
          .ok (tenant, external, claims) →
        ∀ old, mesh.principalMap[principalIdOf
            (identityKey tenant external)]? = some old →
          old.tenantId ≠ tenantId
  registered : ∀ addressed response registration tenant external claims,
    call.operation = .signUp addressed response registration →
      mesh.signUpGrounds call.environment addressed response registration =
          .ok (tenant, external, claims) →
        ∀ old, mesh.identityMap[identityIdFor
            (identityKey tenant external)]? = some old →
          old.tenantId ≠ tenantId
  linked : ∀ addressed principalId response tenant external principal,
    call.operation = .linkAccount addressed principalId response →
      mesh.linkGrounds call.environment addressed principalId response =
          .ok (tenant, external, principal, none) →
        ∀ old, mesh.identityMap[identityIdFor
            (identityKey tenant external)]? = some old →
          old.tenantId ≠ tenantId

variable {tenantId : TenantId} {self : AuthMesh} {call : MeshCall}

/-! ## One written state at a time -/

/-- What is filed under the key of one tenant is not found by another. -/
theorem getElem?_insert_other {ν : Type} (map : KeyedMap IdentityKey ν)
    {key : IdentityKey} (value : ν) (other : key.1 ≠ tenantId)
    (provider : ProviderName) (subject : ProviderSubject) :
    map[((tenantId, provider, subject) : IdentityKey)]? =
      (map.insert key value)[((tenantId, provider, subject) :
        IdentityKey)]? := by
  rw [KeyedMap.getElem?_insert_of_ne]
  intro same
  exact other (congrArg Prod.fst same)

/-- Storing a record of one tenant is seen by another exactly if it replaces
one of the other's. -/
theorem agree_insert_iff {κ ν : Type} [Ord κ] [Std.TransOrd κ]
    [Std.LawfulEqOrd κ] (tenantOf : ν → TenantId) (map : KeyedMap κ ν)
    (key : κ) {value : ν} (other : tenantOf value ≠ tenantId) :
    KeyedMap.AgreeOn (fun record => tenantOf record = tenantId) map
        (map.insert key value) ↔
      ∀ old, map[key]? = some old → tenantOf old ≠ tenantId :=
  KeyedMap.AgreeOn.insert_iff other

theorem agree_insert_fresh {κ ν : Type} [Ord κ] [Std.TransOrd κ]
    [Std.LawfulEqOrd κ] (tenantOf : ν → TenantId) {map : KeyedMap κ ν}
    {key : κ} {value : ν} (fresh : map[key]? = none)
    (other : tenantOf value ≠ tenantId) :
    KeyedMap.AgreeOn (fun record => tenantOf record = tenantId) map
      (map.insert key value) := by
  apply (agree_insert_iff tenantOf map key other).mpr
  intro old stored
  cases fresh.symm.trans stored

/-- Nor if what it replaces belonged to the same tenant. -/
theorem agree_insert_same {κ ν : Type} [Ord κ] [Std.TransOrd κ]
    [Std.LawfulEqOrd κ] (tenantOf : ν → TenantId) {map : KeyedMap κ ν}
    {key : κ} {old value : ν} (stored : map[key]? = some old)
    (oldOther : tenantOf old ≠ tenantId) (other : tenantOf value ≠ tenantId) :
    KeyedMap.AgreeOn (fun record => tenantOf record = tenantId) map
      (map.insert key value) := by
  apply (agree_insert_iff tenantOf map key other).mpr
  intro found foundAt
  cases stored.symm.trans foundAt
  exact oldOther

/-- A new session is seen by another tenant exactly if it replaces one of
that tenant's. -/
theorem keepsTenant_withSession_iff (call : MeshCall)
    {tenant : TenantContext} (identityId : IdentityId)
    (other : tenant.tenantId ≠ tenantId) :
    KeepsTenant tenantId self.records
        (self.withSession call.environment tenant identityId
          call.now).records ↔
      ∀ old, self.sessionMap[(self.openedSession call.environment tenant
          identityId call.now).id]? = some old →
        old.tenantId ≠ tenantId := by
  let opened := self.openedSession call.environment tenant identityId call.now
  have session := agree_insert_iff Session.tenantId self.sessionMap opened.id
    (show opened.tenantId ≠ tenantId from other)
  constructor
  · intro keeps
    exact session.mp keeps.sessions
  · intro spared
    exact { keepsTenant_refl tenantId self.records with
      sessions := session.mpr spared }

/-- A new account is seen exactly if its session, its principal or its
identity replaces a record of the other tenant. -/
theorem keepsTenant_withAccount_iff (call : MeshCall)
    {tenant : TenantContext} {external : ExternalIdentity}
    (kind : PrincipalKind) (claims : Claims)
    (unbound : self.bindingMap[identityKey tenant external]? = none)
    (other : tenant.tenantId ≠ tenantId) :
    let key := identityKey tenant external
    KeepsTenant tenantId self.records
        ((self.withAccount tenant external kind claims
          call.now).withSession call.environment tenant (identityIdFor key)
            call.now).records ↔
      (∀ old, self.sessionMap[(self.openedSession call.environment tenant
            (identityIdFor key) call.now).id]? = some old →
          old.tenantId ≠ tenantId) ∧
        (∀ old, self.principalMap[principalIdOf key]? = some old →
          old.tenantId ≠ tenantId) ∧
        ∀ old, self.identityMap[identityIdFor key]? = some old →
          old.tenantId ≠ tenantId := by
  intro key
  let opened := self.openedSession call.environment tenant (identityIdFor key)
    call.now
  let principal := Resolution.provisionedPrincipal tenant external kind claims
  let binding := newBinding key principal.id call.now
  have sessions := agree_insert_iff Session.tenantId self.sessionMap opened.id
    (show opened.tenantId ≠ tenantId from other)
  have principals := agree_insert_iff Principal.tenantId self.principalMap
    principal.id (show principal.tenantId ≠ tenantId from other)
  have identities := agree_insert_iff Identity.tenantId self.identityMap
    (identityIdFor key)
    (show (linkedIdentity key claims).tenantId ≠ tenantId from other)
  have bindings := agree_insert_fresh ExternalBinding.tenantId
    (show self.bindingMap[binding.key]? = none from unbound)
    (show binding.tenantId ≠ tenantId from other)
  constructor
  · intro keeps
    exact ⟨sessions.mp keeps.sessions, principals.mp keeps.principals,
      identities.mp keeps.identities⟩
  · rintro ⟨session, principalSpared, identity⟩
    exact
      { keepsTenant_refl tenantId self.records with
        identities := identities.mpr identity
        found := getElem?_insert_other _ _ other
        principals := principals.mpr principalSpared
        bindings
        resolved := getElem?_insert_other _ _ other
        sessions := sessions.mpr session }

/-- Binding an identity of one tenant shows nothing to another. -/
theorem keepsTenant_withBinding (before : Records) (self : AuthMesh)
    {binding : ExternalBinding} (other : binding.tenantId ≠ tenantId)
    (keeps : KeepsTenant tenantId before self.records) :
    KeepsTenant tenantId before (self.withBinding binding).records := by
  unfold withBinding
  cases unbound : self.stores.principals.bindings[binding.key]? with
  | some existing => exact keeps
  | none =>
      have bindings := agree_insert_fresh ExternalBinding.tenantId
        (show self.bindingMap[binding.key]? = none from unbound) other
      exact
        { keeps with
          bindings := fun key value selected =>
            (keeps.bindings key value selected).trans
              (bindings key value selected)
          resolved := fun provider subject =>
            (keeps.resolved provider subject).trans
              (getElem?_insert_other _ _ other provider subject) }

theorem keepsTenant_linked_iff (known : Option Identity) {key : IdentityKey}
    (claims : Claims) (principalId : PrincipalId) (now : Int)
    (other : key.1 ≠ tenantId) :
    KeepsTenant tenantId self.records
        ((self.withMissingIdentity known key claims).withBinding
          (newBinding key principalId now)).records ↔
      (known = none →
        ∀ old, self.identityMap[identityIdFor key]? = some old →
          old.tenantId ≠ tenantId) := by
  have identities := agree_insert_iff Identity.tenantId self.identityMap
    (identityIdFor key)
    (show (linkedIdentity key claims).tenantId ≠ tenantId from other)
  constructor
  · rintro keeps rfl
    have kept := keeps.identities
    have same : ((self.withMissingIdentity none key claims).withBinding
        (newBinding key principalId now)).records.identities =
          self.stores.identities.recorded key claims := by
      unfold withBinding
      split <;> rfl
    rw [same] at kept
    exact identities.mp kept
  · intro spared
    apply keepsTenant_withBinding self.records _ other
    cases known with
    | some identity => exact keepsTenant_refl tenantId self.records
    | none =>
        exact
          { keepsTenant_refl tenantId self.records with
            identities := identities.mpr (spared rfl)
            found := getElem?_insert_other _ _ other }

/-! ## Every call -/

section Calls

variable (reached : system.Reachable self)

include reached

theorem addressee_other {addressed named : String} {tenant : TenantContext}
    (addressee : call.operation.addressee = some addressed)
    (other : tenantId ≠ ⟨addressed⟩)
    (names : call.operation.addressee = some named)
    (found : self.tenant named = .ok tenant) : tenant.tenantId ≠ tenantId := by
  intro same
  have sameName := addressee.symm.trans names
  cases sameName
  rw [tenant_eq_ok reached found] at same
  exact other same.symm

/-- What logging out, delegating, revoking, stopping an agent and starting or
cancelling a run write is never a record of another tenant. -/
theorem keepsTenant_of_spares {addressed : String}
    (addressee : call.operation.addressee = some addressed)
    (other : tenantId ≠ ⟨addressed⟩) (spares : Spares tenantId self call) :
    KeepsTenant tenantId self.records (self.perform call).records := by
  have elsewhere : ∀ {named : String} {tenant : TenantContext},
      call.operation.addressee = some named →
        self.tenant named = .ok tenant → tenant.tenantId ≠ tenantId :=
    fun names => addressee_other reached addressee other names
  have change := perform_records self call
  generalize (self.perform call).records = after at change ⊢
  cases change with
  | unchanged => exact keepsTenant_refl tenantId self.records
  | signedIn named response tenant external resolved operation grounds =>
      apply (keepsTenant_withSession_iff call _ ?_).mpr
      · exact spares.session tenant external _
          (.signIn named response resolved operation grounds)
      · exact elsewhere (by rw [operation]; rfl)
          (signInGrounds_ok grounds).tenantFound
  | signedUp named response registration tenant external claims operation
      grounds =>
      have checked := signUpGrounds_ok grounds
      apply (keepsTenant_withAccount_iff call _ _ checked.unbound ?_).mpr
      · exact ⟨spares.session tenant external _
            (.signUp named response registration claims operation grounds),
          spares.principal named response registration tenant external claims
            operation grounds,
          spares.registered named response registration tenant external claims
            operation grounds⟩
      · exact elsewhere (by rw [operation]; rfl) checked.tenantFound
  | linked named principalId response tenant external principal known operation
      grounds =>
      have checked := linkGrounds_ok grounds
      apply (keepsTenant_linked_iff known _ principalId call.now ?_).mpr
      · rintro rfl
        exact spares.linked named principalId response tenant external
          principal operation grounds
      · exact elsewhere (by rw [operation]; rfl) checked.tenantFound
  | loggedOut named sessionId tenant session operation tenantFound stored
      inTenant =>
      have away := elsewhere (by rw [operation]; rfl) tenantFound
      rw [← inTenant] at away
      exact
        { keepsTenant_refl tenantId self.records with
          sessions := agree_insert_same Session.tenantId stored away away }
  | delegated named request tenant delegation operation grounds =>
      obtain ⟨tenantFound, prepared, fresh⟩ := delegateGrounds_ok grounds
      obtain ⟨_, _, _, _, _, _, rfl⟩ := checkedDelegation_ok prepared
      have away := elsewhere (by rw [operation]; rfl) tenantFound
      exact
        { keepsTenant_refl tenantId self.records with
          delegations := agree_insert_fresh Delegation.tenantId fresh away }
  | delegationRevoked named delegationId tenant delegation operation
      tenantFound stored inTenant =>
      have away := elsewhere (by rw [operation]; rfl) tenantFound
      rw [← inTenant] at away
      exact
        { keepsTenant_refl tenantId self.records with
          delegations := agree_insert_same Delegation.tenantId stored away
            away }
  | agentStopped named agent state tenant principal operation tenantFound
      stored inTenant =>
      have away := elsewhere (by
        rcases operation with ⟨operation, _⟩ | ⟨operation, _⟩ | ⟨operation, _⟩
        all_goals rw [operation]; rfl) tenantFound
      rw [← inTenant] at away
      exact
        { keepsTenant_refl tenantId self.records with
          principals := agree_insert_same Principal.tenantId stored away away }
  | runCreated named agentId request _ _ tenant run operation grounds fresh =>
      obtain ⟨_, _, checked⟩ := createRunGrounds_ok grounds
      obtain ⟨_, _, _, rfl⟩ := checked.created
      have away := elsewhere (by rw [operation]; rfl) checked.tenantFound
      exact
        { keepsTenant_refl tenantId self.records with
          runs := agree_insert_fresh AgentRun.tenantId fresh away }
  | runCancelled named runId tenant run operation tenantFound stored
      inTenant =>
      have away := elsewhere (by rw [operation]; rfl) tenantFound
      rw [← inTenant] at away
      have sameId : run.id = runId := (runsSound reached).keyed runId run stored
      rw [← sameId] at stored
      exact
        { keepsTenant_refl tenantId self.records with
          runs := agree_insert_same AgentRun.tenantId stored away away }

theorem spares_of_keepsTenant {addressed : String}
    (addressee : call.operation.addressee = some addressed)
    (other : tenantId ≠ ⟨addressed⟩)
    (keeps : KeepsTenant tenantId self.records (self.perform call).records) :
    Spares tenantId self call := by
  have elsewhere : ∀ {named : String} {tenant : TenantContext},
      call.operation.addressee = some named →
        self.tenant named = .ok tenant → tenant.tenantId ≠ tenantId :=
    fun names => addressee_other reached addressee other names
  refine
    { session := ?_
      principal := ?_
      registered := ?_
      linked := ?_ }
  · intro tenant external identityId opens
    cases opens with
    | signIn named response resolved operation grounds =>
        have away := elsewhere (by rw [operation]; rfl)
          (signInGrounds_ok grounds).tenantFound
        rw [perform_signIn operation grounds] at keeps
        exact (keepsTenant_withSession_iff call _ away).mp keeps
    | signUp named response registration claims operation grounds =>
        have checked := signUpGrounds_ok grounds
        have away := elsewhere (by rw [operation]; rfl) checked.tenantFound
        rw [perform_signUp operation grounds] at keeps
        exact ((keepsTenant_withAccount_iff call _ _ checked.unbound away).mp
          keeps).1
  · intro named response registration tenant external claims operation grounds
    have checked := signUpGrounds_ok grounds
    have away := elsewhere (by rw [operation]; rfl) checked.tenantFound
    rw [perform_signUp operation grounds] at keeps
    exact ((keepsTenant_withAccount_iff call _ _ checked.unbound away).mp
      keeps).2.1
  · intro named response registration tenant external claims operation grounds
    have checked := signUpGrounds_ok grounds
    have away := elsewhere (by rw [operation]; rfl) checked.tenantFound
    rw [perform_signUp operation grounds] at keeps
    exact ((keepsTenant_withAccount_iff call _ _ checked.unbound away).mp
      keeps).2.2
  · intro named principalId response tenant external principal operation
      grounds
    have away := elsewhere (by rw [operation]; rfl)
      (linkGrounds_ok grounds).tenantFound
    rw [perform_linkAccount operation grounds] at keeps
    exact (keepsTenant_linked_iff none _ principalId call.now away).mp keeps rfl

/-- A call addressed to one tenant leaves everything that another can read as
it is exactly if it spares the ids of the other's records. -/
theorem keepsTenant_iff {addressed : String}
    (addressee : call.operation.addressee = some addressed)
    (other : tenantId ≠ ⟨addressed⟩) :
    KeepsTenant tenantId self.records (self.perform call).records ↔
      Spares tenantId self call :=
  ⟨spares_of_keepsTenant reached addressee other,
    keepsTenant_of_spares reached addressee other⟩

end Calls

end AuthMesh

/-! ## Two tenants whose names end in a connector -/

/-- A tenant whose id continues the first one's by a colon and a connector. -/
def acmeLocal : TenantContext :=
  { acme with tenantId := ⟨"acme:local"⟩ }

def registerIn (tenantId name : String) : MeshCall :=
  acmeCall 1
    (.signUp tenantId
      { connector := "local"
        tenant := none
        state := ""
        parameters := (∅ : KeyedMap String String).insert "username" name }
      { kind := .human
        claims := (∅ : KeyedMap String String).insert "role" "admin" })

/-- The first tenant has a user whose name begins with the connector's. -/
def homonymMesh : AuthMesh :=
  AuthMesh.system.run emptyMesh
    [acmeCall 0 (.putTenant acme), acmeCall 0 (.putTenant acmeLocal),
      acmeCall 0 (.putPolicy (acmePolicy [readRule])),
      registerIn "acme" "local:dana"]

theorem homonymMesh_reachable : AuthMesh.system.Reachable homonymMesh :=
  .run (.start emptyMesh_fresh) _

theorem keepsTenant_iff_homonym :
    KeepsTenant ⟨"acme"⟩ homonymMesh.records
        (homonymMesh.perform (registerIn "acme:local" "dana")).records ↔
      AuthMesh.Spares ⟨"acme"⟩ homonymMesh (registerIn "acme:local" "dana") :=
  AuthMesh.keepsTenant_iff homonymMesh_reachable rfl (by decide)

/-- The registration of the second tenant's user replaces the identity of the
first tenant's. -/
theorem homonymMesh_not_keepsTenant :
    AuthMesh.system.Reachable homonymMesh ∧
      (registerIn "acme:local" "dana").operation.addressee =
        some "acme:local" ∧
      ¬KeepsTenant ⟨"acme"⟩ homonymMesh.records
        (homonymMesh.perform (registerIn "acme:local" "dana")).records := by
  have before : ∃ identity : Identity,
      homonymMesh.identityMap[(⟨"acme:local:local:dana"⟩ : IdentityId)]? =
          some identity ∧
        identity.tenantId = ⟨"acme"⟩ :=
    Option.map_eq_some_iff.mp (by decide +kernel)
  have after : ∃ identity : Identity,
      (homonymMesh.perform (registerIn "acme:local" "dana")).identityMap[
          (⟨"acme:local:local:dana"⟩ : IdentityId)]? = some identity ∧
        identity.tenantId = ⟨"acme:local"⟩ :=
    Option.map_eq_some_iff.mp (by decide +kernel)
  obtain ⟨identity, stored, owned⟩ := before
  obtain ⟨replaced, replacedStored, replacedOwner⟩ := after
  refine ⟨homonymMesh_reachable, rfl, ?_⟩
  intro keeps
  have kept : (homonymMesh.perform
      (registerIn "acme:local" "dana")).identityMap[
        (⟨"acme:local:local:dana"⟩ : IdentityId)]? = some identity :=
    (keeps.identities _ identity owned).mp stored
  rw [replacedStored] at kept
  cases kept
  rw [replacedOwner] at owned
  simp at owned

end AuthBoundry
