import AuthBoundry.Library.Encoding
import AuthBoundry.Runtime.TenantFrames

/-!
# Identities, bindings and sessions agree

An external identity is kept in five maps: its record and the index of the
records, its binding, the principal it is bound to, and the sessions opened for
it.  When names and hashes keep the ids apart, the five agree in every state.
-/

namespace AuthBoundry

open Library
open Library.Stateful

/-! ## Ids -/

/-- The text holds none of the characters that ids are joined by. -/
def Plain (text : String) : Prop :=
  ':' ∉ text.toList ∧ '|' ∉ text.toList

instance (text : String) : Decidable (Plain text) :=
  inferInstanceAs (Decidable (_ ∧ _))

/-- What the id of a principal is the hash of. -/
def principalMaterial (key : IdentityKey) : String :=
  s!"{key.1}|{key.2.1}|{key.2.2}"

/-- The identities in use keep their ids apart: tenants and connectors have
plain names, and no two materials of principal ids have the same hash. -/
structure Distinguished (used : Set IdentityKey) : Prop where
  tenants : ∀ key ∈ used, Plain key.1.value
  connectors : ∀ key ∈ used, Plain key.2.1.value
  hashes : Set.InjOn stableHash (principalMaterial '' used)

theorem identityKey_ext {left right : IdentityKey}
    (tenants : left.1.value = right.1.value)
    (connectors : left.2.1.value = right.2.1.value)
    (subjects : left.2.2.value = right.2.2.value) : left = right := by
  obtain ⟨⟨tenant⟩, ⟨connector⟩, ⟨subject⟩⟩ := left
  obtain ⟨⟨tenant'⟩, ⟨connector'⟩, ⟨subject'⟩⟩ := right
  cases tenants
  cases connectors
  cases subjects
  rfl

namespace Distinguished

variable {used : Set IdentityKey} (distinguished : Distinguished used)

include distinguished

theorem identityIds : Set.InjOn identityIdFor used := by
  intro left leftUsed right rightUsed same
  obtain ⟨tenants, connectors, subjects⟩ := joined_inj ":" rfl
    (distinguished.tenants left leftUsed).1
    (distinguished.tenants right rightUsed).1
    (distinguished.connectors left leftUsed).1
    (distinguished.connectors right rightUsed).1
    (congrArg AuthorityId.value same)
  exact identityKey_ext tenants connectors subjects

theorem principalIds : Set.InjOn principalIdOf used := by
  intro left leftUsed right rightUsed same
  have hashes : hex16 (stableHash (principalMaterial left)) =
      hex16 (stableHash (principalMaterial right)) :=
    (String.append_right_inj "prn_").mp (congrArg AuthorityId.value same)
  have materials := distinguished.hashes (Set.mem_image_of_mem _ leftUsed)
    (Set.mem_image_of_mem _ rightUsed) (hex16_inj hashes)
  obtain ⟨tenants, connectors, subjects⟩ := joined_inj "|" rfl
    (distinguished.tenants left leftUsed).2
    (distinguished.tenants right rightUsed).2
    (distinguished.connectors left leftUsed).2
    (distinguished.connectors right rightUsed).2 materials
  exact identityKey_ext tenants connectors subjects

end Distinguished

/-- Where an identity record is filed. -/
def Identity.key (self : Identity) : IdentityKey :=
  (self.tenantId, self.provider, self.providerSubject)

namespace AuthMesh

def Identified (used : Set IdentityKey) (self : AuthMesh) (call : MeshCall) :
    Prop :=
  self.Orderly used call ∧
    match call.operation with
    | .linkAccount tenantId principalId response =>
        ∀ found ∈ (self.linkGrounds call.environment tenantId principalId
            response).toOption,
          identityKey found.1 found.2.1 ∈ used
    | _ => True

instance (used : Set IdentityKey) [DecidablePred (· ∈ used)] (self : AuthMesh)
    (call : MeshCall) : Decidable (self.Identified used call) := by
  obtain ⟨environment, now, operation⟩ := call
  cases operation with
  | linkAccount => exact inferInstanceAs (Decidable (_ ∧ ∀ found ∈ _, _))
  | _ => exact inferInstanceAs (Decidable (_ ∧ True))

variable {used : Set IdentityKey} {self : AuthMesh} {call : MeshCall}

theorem Identified.links (identified : self.Identified used call)
    {tenantId : String} {principalId : PrincipalId} {response : AuthResponse}
    {tenant : TenantContext} {external : ExternalIdentity}
    {principal : Principal} {known : Option Identity}
    (operation : call.operation = .linkAccount tenantId principalId response)
    (grounds : self.linkGrounds call.environment tenantId principalId
      response = .ok (tenant, external, principal, known)) :
    identityKey tenant external ∈ used := by
  have linked := identified.2
  rw [operation] at linked
  apply linked (tenant, external, principal, known)
  rw [grounds]
  rfl

def providerIndex (self : AuthMesh) : KeyedMap IdentityKey IdentityId :=
  self.stores.identities.byProvider

/-! ## The agreement -/

/-- The index, the records, the bindings and the principals agree. -/
structure IdentitiesAgree (used : Set IdentityKey)
    (identities : MemoryIdentityStore) (principals : MemoryPrincipalStore) :
    Prop where
  indexed : ∀ (key : IdentityKey) id, identities.byProvider[key]? = some id →
    key ∈ used ∧ id = identityIdFor key ∧
      ∃ identity, identities.identities[id]? = some identity ∧
        identity.key = key ∧ identity.id = id
  filed : ∀ (id : IdentityId) identity,
    identities.identities[id]? = some identity →
      identities.byProvider[identity.key]? = some id
  bound : ∀ key : IdentityKey,
    identities.byProvider[key]? = none ↔ principals.bindings[key]? = none
  principal : ∀ (key : IdentityKey) binding,
    principals.bindings[key]? = some binding →
      ∃ principal, principals.principals[binding.principalId]? =
        some principal ∧ principal.tenantId = key.1

namespace IdentitiesAgree

variable {identities : MemoryIdentityStore} {principals : MemoryPrincipalStore}

theorem fresh (agree : IdentitiesAgree used identities principals)
    (distinct : Set.InjOn identityIdFor used) {key : IdentityKey}
    (inUse : key ∈ used) (unindexed : identities.byProvider[key]? = none) :
    identities.identities[identityIdFor key]? = none := by
  cases stored : identities.identities[identityIdFor key]? with
  | none => rfl
  | some identity =>
      have filed := agree.filed _ identity stored
      obtain ⟨otherUsed, sameId, _⟩ := agree.indexed _ _ filed
      have same : key = identity.key := distinct inUse otherUsed sameId
      rw [← same, unindexed] at filed
      cases filed

theorem recorded (agree : IdentitiesAgree used identities principals)
    (distinct : Set.InjOn identityIdFor used) {key : IdentityKey}
    (inUse : key ∈ used) (unindexed : identities.byProvider[key]? = none)
    (claims : Claims) {principalId : PrincipalId} {principal : Principal}
    (stored : principals.principals[principalId]? = some principal)
    (inTenant : principal.tenantId = key.1) (linkedAt : Int) :
    IdentitiesAgree used (identities.recorded key claims)
      (principals.bound (newBinding key principalId linkedAt)) := by
  have absent := agree.fresh distinct inUse unindexed
  refine
    { indexed := ?_
      filed := ?_
      bound := ?_
      principal := ?_ }
  · apply KeyedMap.forall_insert
    · exact ⟨inUse, rfl, linkedIdentity key claims,
        Std.ExtTreeMap.getElem?_insert_self, rfl, rfl⟩
    · intro other id found
      obtain ⟨otherUsed, sameId, identity, identityStored, sameKey, ownId⟩ :=
        agree.indexed other id found
      exact ⟨otherUsed, sameId, identity,
        KeyedMap.getElem?_insert_of_fresh absent identityStored, sameKey,
        ownId⟩
  · apply KeyedMap.forall_insert
    · exact Std.ExtTreeMap.getElem?_insert_self
    · intro id identity found
      exact KeyedMap.getElem?_insert_of_fresh unindexed
        (agree.filed id identity found)
  · intro other
    change (identities.byProvider.insert key (identityIdFor key))[other]? =
        none ↔
      (principals.bindings.insert key _)[other]? = none
    rw [KeyedMap.getElem?_insert_eq, KeyedMap.getElem?_insert_eq]
    by_cases here : key = other
    · simp [here]
    · rw [if_neg here, if_neg here]
      exact agree.bound other
  · apply KeyedMap.forall_insert
    · exact ⟨principal, stored, inTenant⟩
    · exact agree.principal

theorem persist (agree : IdentitiesAgree used identities principals)
    {newPrincipals : KeyedMap PrincipalId Principal}
    (persists : KeyedMap.Persists SamePrincipal principals.principals
      newPrincipals) :
    IdentitiesAgree used identities
      { principals with principals := newPrincipals } := by
  refine
    { indexed := agree.indexed
      filed := agree.filed
      bound := agree.bound
      principal := ?_ }
  intro key binding found
  obtain ⟨principal, stored, inTenant⟩ := agree.principal key binding found
  obtain ⟨newer, newerStored, _, rfl, _⟩ := persists _ principal stored
  exact ⟨_, newerStored, inTenant⟩

end IdentitiesAgree

theorem findIdentity_ok {tenant : TenantContext} {external : ExternalIdentity}
    {known : Option Identity}
    (agree : IdentitiesAgree used self.stores.identities
      self.stores.principals)
    (found : self.stores.identities.findIdentity tenant ⟨external.connector⟩
      ⟨external.subject⟩ = .ok known) :
    match known with
    | none => self.providerIndex[identityKey tenant external]? = none
    | some identity =>
        identityKey tenant external ∈ used ∧
          self.providerIndex[identityKey tenant external]? =
            some (identityIdFor (identityKey tenant external)) ∧
          identity.id = identityIdFor (identityKey tenant external) := by
  unfold MemoryIdentityStore.findIdentity at found
  cases indexed : self.stores.identities.byProvider[
      identityKey tenant external]? with
  | none =>
      rw [show self.stores.identities.byProvider[
        ((tenant.tenantId, ⟨external.connector⟩, ⟨external.subject⟩) :
          IdentityKey)]? = none from indexed] at found
      cases found
      exact indexed
  | some id =>
      rw [show self.stores.identities.byProvider[
        ((tenant.tenantId, ⟨external.connector⟩, ⟨external.subject⟩) :
          IdentityKey)]? = some id from indexed] at found
      obtain ⟨inUse, rfl, identity, stored, sameKey, ownId⟩ :=
        agree.indexed _ id indexed
      have sameTenant : identity.tenantId = tenant.tenantId :=
        congrArg Prod.fst sameKey
      have read : self.stores.identities.getIdentity tenant
          (identityIdFor (identityKey tenant external)) =
            .ok (some identity) :=
        getScoped_eq_some_iff.mpr ⟨stored, sameTenant⟩
      dsimp only at found
      rw [read] at found
      cases found
      exact ⟨inUse, indexed, ownId⟩

def Agrees (used : Set IdentityKey) (self : AuthMesh) : Prop :=
  IdentitiesAgree used self.stores.identities self.stores.principals

/-- A link either finds everything in place or files a new identity. -/
theorem linked_cases (agree : self.Agrees used) {environment : Environment}
    {tenantId : String} {principalId : PrincipalId} {response : AuthResponse}
    {tenant : TenantContext} {external : ExternalIdentity}
    {principal : Principal} {known : Option Identity}
    (grounds : LinkGrounds self environment tenantId principalId response
      tenant external principal known) (now : Int) :
    let key := identityKey tenant external
    let binding := newBinding key principalId now
    let linked := (self.withMissingIdentity known key
      principal.claims).withBinding binding
    (∃ existing, self.bindingMap[key]? = some existing ∧ linked = self ∧
        self.withMissingIdentity known key principal.claims = self) ∨
      (self.providerIndex[key]? = none ∧
        linked.stores.identities =
          self.stores.identities.recorded key principal.claims ∧
        linked.stores.principals = self.stores.principals.bound binding) := by
  intro key binding linked
  have found := findIdentity_ok agree grounds.found
  cases known with
  | some identity =>
      obtain ⟨_, indexed, _⟩ := found
      have bound : self.bindingMap[key]? ≠ none := by
        intro unbound
        have unindexed := (agree.bound key).mpr unbound
        cases indexed.symm.trans unindexed
      obtain ⟨existing, filed⟩ := Option.ne_none_iff_exists'.mp bound
      refine Or.inl ⟨existing, filed, ?_, rfl⟩
      change self.withBinding binding = self
      unfold withBinding
      rw [show self.stores.principals.bindings[binding.key]? = some existing
        from filed]
  | none =>
      have unbound : self.stores.principals.bindings[binding.key]? = none :=
        (agree.bound key).mp found
      have filed : linked =
          (self.withIdentity key principal.claims).changePrincipals
            (self.stores.principals.bound binding) := by
        change (self.withIdentity key principal.claims).withBinding binding = _
        unfold withBinding
        rw [withIdentity_principals, unbound]
      refine Or.inr ⟨found, ?_, ?_⟩
      · rw [filed]
        rfl
      · rw [filed]
        rfl

theorem Agrees.perform (agree : self.Agrees used)
    (distinguished : Distinguished used) (registered : self.Registered used)
    (identified : self.Identified used call) :
    (self.perform call).Agrees used := by
  have change := (perform_records self call).accounts
  change IdentitiesAgree used (self.perform call).records.identities
    (self.perform call).records.principals
  generalize (self.perform call).records.principals = principals at change ⊢
  generalize (self.perform call).records.identities = identities at change ⊢
  cases change with
  | unchanged => exact agree
  | signedUp _ _ registration tenant external claims operation grounds =>
      have checked := signUpGrounds_ok grounds
      have inUse := (identified.1.registers operation grounds).1
      have fresh := registered.fresh distinguished.principalIds inUse
        checked.unbound
      let principal := Resolution.provisionedPrincipal tenant external
        registration.kind claims
      have persists : KeyedMap.Persists SamePrincipal self.principalMap
          (self.principalMap.insert principal.id principal) := by
        apply KeyedMap.Persists.insert samePrincipal_refl
        intro old stored
        cases fresh.symm.trans stored
      have stored : (self.principalMap.insert principal.id
          principal)[principal.id]? = some principal :=
        Std.ExtTreeMap.getElem?_insert_self
      exact (IdentitiesAgree.persist agree persists).recorded
        distinguished.identityIds inUse checked.unrecorded claims stored rfl
        call.now
  | linked _ principalId _ tenant external principal known operation grounds =>
      have checked := linkGrounds_ok grounds
      have inUse := identified.links operation grounds
      rcases linked_cases agree checked call.now with
        ⟨_, _, same, _⟩ | ⟨unindexed, identities, principals⟩
      · rw [same]
        exact agree
      · rw [identities, principals]
        exact IdentitiesAgree.recorded agree distinguished.identityIds inUse
          unindexed principal.claims checked.stored checked.inTenant call.now
  | stopped _ agent state _ principal operation _ stored =>
      apply IdentitiesAgree.persist agree
      apply KeyedMap.Persists.insert samePrincipal_refl
      intro old oldStored
      cases stored.symm.trans oldStored
      exact ⟨some state, rfl,
        Or.inr ⟨state, rfl, MeshOperation.stops_stops operation⟩⟩

theorem agrees (distinguished : Distinguished used)
    (run : system.ReachableUnder (Identified used) self) :
    self.Agrees used := by
  refine run.invariant (motive := fun state : AuthMesh =>
    state.Agrees used) ?_ ?_
  · intro state fresh
    unfold Agrees
    rw [fresh.stores_eq]
    refine
      { indexed := ?_
        filed := ?_
        bound := ?_
        principal := ?_ }
    · intro key id found
      simp [MeshStores.new, MemoryIdentityStore.new] at found
    · intro id identity found
      simp [MeshStores.new, MemoryIdentityStore.new] at found
    · intro key
      simp [MeshStores.new, MemoryIdentityStore.new, MemoryPrincipalStore.new]
    · intro key binding found
      simp [MeshStores.new, MemoryPrincipalStore.new] at found
  · intro state call before identified agree
    have orderly := before.mono fun _ _ identified => identified.1
    exact agree.perform distinguished (registered orderly) identified

/-! ## Refusals -/

theorem signUp_refused {environment : Environment} {tenantId : String}
    {response : AuthResponse} (registration : Registration) (now : Int)
    {tenant : TenantContext} {external : ExternalIdentity}
    {binding : ExternalBinding} (tenantFound : self.tenant tenantId = .ok tenant)
    (proven : self.authenticateExternal environment tenant response =
      .ok external)
    (bound : self.bindingMap[identityKey tenant external]? = some binding) :
    ∃ err, signUp environment tenantId response registration now self =
      .error err self := by
  rw [signUp_eq]
  cases grounds : self.signUpGrounds environment tenantId response
      registration with
  | error err => exact ⟨err, rfl⟩
  | ok found =>
      obtain ⟨sameTenant, sameExternal, claims⟩ := found
      have checked := signUpGrounds_ok grounds
      cases tenantFound.symm.trans checked.tenantFound
      cases proven.symm.trans checked.proven
      cases bound.symm.trans checked.unbound

theorem linkAccount_refused (agree : self.Agrees used)
    {environment : Environment} {tenantId : String} {response : AuthResponse}
    {principalId : PrincipalId} (now : Int) {tenant : TenantContext}
    {external : ExternalIdentity} {binding : ExternalBinding}
    (tenantFound : self.tenant tenantId = .ok tenant)
    (proven : self.authenticateExternal environment tenant response =
      .ok external)
    (bound : self.bindingMap[identityKey tenant external]? = some binding)
    (other : binding.principalId ≠ principalId) :
    ∃ err, linkAccount environment tenantId principalId response now self =
      .error err self := by
  rw [linkAccount_eq]
  cases grounds : self.linkGrounds environment tenantId principalId
      response with
  | error err => exact ⟨err, rfl⟩
  | ok found =>
      obtain ⟨sameTenant, sameExternal, principal, known⟩ := found
      have checked := linkGrounds_ok grounds
      cases tenantFound.symm.trans checked.tenantFound
      cases proven.symm.trans checked.proven
      dsimp only
      rw [show self.stores.principals.bindings[identityKey tenant external]? =
        some binding from bound]
      dsimp only
      rw [if_pos (by simpa using other)]
      rcases linked_cases agree checked now with
        ⟨_, _, _, unlinked⟩ | ⟨unindexed, _⟩
      · rw [unlinked]
        exact ⟨_, rfl⟩
      · cases bound.symm.trans ((agree.bound _).mp unindexed)

/-! ## The sessions of an identity -/

def OpenedFor (initial : AuthMesh) (calls : List MeshCall)
    (sessionId : SessionId) (tenant : TenantContext)
    (external : ExternalIdentity) : Prop :=
  ∃ before call after identityId, calls = before ++ call :: after ∧
    OpensSession (system.run initial before) call tenant external identityId ∧
    ((system.run initial before).openedSession call.environment tenant
      identityId call.now).id = sessionId

theorem session_opened {initial : AuthMesh} (fresh : initial.Fresh)
    (calls : List MeshCall) {sessionId : SessionId} {session : Session}
    (stored : (system.run initial calls).sessionMap[sessionId]? =
      some session) :
    ∃ tenant external, OpenedFor initial calls sessionId tenant external := by
  induction calls using List.reverseRecOn generalizing session with
  | nil =>
      change initial.sessionMap[sessionId]? = some session at stored
      unfold sessionMap at stored
      rw [fresh.stores_eq] at stored
      simp [MeshStores.new, MemorySessionStore.new] at stored
  | append_singleton calls call induction =>
      have older : ∀ {old}, (system.run initial calls).sessionMap[sessionId]? =
          some old → ∃ tenant external,
            OpenedFor initial (calls ++ [call]) sessionId tenant external := by
        intro old oldStored
        obtain ⟨tenant, external, before, opening, after, identityId, rfl,
          opens, sameId⟩ := induction oldStored
        exact ⟨tenant, external, before, opening, after ++ [call], identityId,
          by simp, opens, sameId⟩
      rw [TransitionSystem.run_concat] at stored
      have change := (perform_records (system.run initial calls) call).sessions
      change ((system.run initial calls).perform
        call).records.sessions.sessions[sessionId]? = some session at stored
      generalize ((system.run initial calls).perform
        call).records.sessions.sessions = after at change stored
      cases change with
      | unchanged => exact older stored
      | opened tenant external identityId opens =>
          rw [KeyedMap.getElem?_insert_eq] at stored
          split at stored
          · rename_i sameId
            exact ⟨tenant, external, calls, call, [], identityId, rfl, opens,
              sameId⟩
          · exact older stored
      | revoked _ revokedId _ revoked _ _ found =>
          rw [KeyedMap.getElem?_insert_eq] at stored
          split at stored
          · rename_i sameId
            rw [sameId] at found
            exact older found
          · exact older stored

theorem OpensSession.stored {tenant : TenantContext}
    {external : ExternalIdentity} {identityId : IdentityId}
    (opens : OpensSession self call tenant external identityId) :
    let opened := self.openedSession call.environment tenant identityId call.now
    (self.perform call).sessionMap[opened.id]? = some opened := by
  intro opened
  have sessions : (self.perform call).sessionMap =
      self.sessionMap.insert opened.id opened := by
    cases opens with
    | signIn tenantId response resolved operation grounds =>
        exact congrArg (fun records => records.sessions.sessions)
          (perform_signIn operation grounds)
    | signUp tenantId response registration claims operation grounds =>
        exact congrArg (fun records => records.sessions.sessions)
          (perform_signUp operation grounds)
  rw [sessions]
  exact Std.ExtTreeMap.getElem?_insert_self

theorem OpensSession.identity (agree : self.Agrees used)
    (identified : self.Identified used call) {tenant : TenantContext}
    {external : ExternalIdentity} {identityId : IdentityId}
    (opens : OpensSession self call tenant external identityId) :
    identityKey tenant external ∈ used ∧
      identityId = identityIdFor (identityKey tenant external) := by
  cases opens with
  | signIn tenantId response resolved operation grounds =>
      have recorded := (signInGrounds_ok grounds).recorded
      obtain ⟨inUse, _, sameId⟩ := findIdentity_ok agree recorded
      exact ⟨inUse, sameId⟩
  | signUp tenantId response registration claims operation grounds =>
      exact ⟨(identified.1.registers operation grounds).1, rfl⟩

/-- In an agreeing mesh a session leads to the principal that its identity is
bound to. -/
theorem SessionHeld.principal_eq (agree : self.Agrees used)
    (distinct : Set.InjOn identityIdFor used)
    (keyed : KeyedMap.KeyedBy Principal.id self.principalMap)
    {tenantId : String} {sessionId : SessionId} {now : Int} {session : Session}
    {context : RuntimeContext} {tenant : TenantContext} {identity : Identity}
    {binding : ExternalBinding}
    (held : SessionHeld self tenantId sessionId now session context tenant
      identity binding) {key : IdentityKey} (inUse : key ∈ used)
    (sameId : session.identityId = identityIdFor key) :
    self.bindingMap[key]? = some binding ∧
      context.principal.id = binding.principalId := by
  have filed := agree.filed _ identity held.recorded
  obtain ⟨filedUsed, filedId, _⟩ := agree.indexed _ _ filed
  have sameKey : identity.key = key :=
    distinct filedUsed inUse (filedId.symm.trans sameId)
  have bound := held.bound
  rw [← held.identityTenant] at bound
  rw [← sameKey]
  exact ⟨bound, keyed _ _ held.principal⟩

/-! ## Every orderly run -/

/-- What holds of the accounts after an orderly run of calls. -/
structure AccountsAgree (initial : AuthMesh) (calls : List MeshCall) :
    Prop where
  recorded : ∀ key : IdentityKey,
    (∃ binding, (system.run initial calls).bindingMap[key]? = some binding) ↔
      ∃ id identity, (system.run initial calls).providerIndex[key]? = some id ∧
        (system.run initial calls).identityMap[id]? = some identity ∧
        identity.key = key
  filed : ∀ (id : IdentityId) identity,
    (system.run initial calls).identityMap[id]? = some identity →
      ∃ binding, (system.run initial calls).bindingMap[identity.key]? =
        some binding
  principal : ∀ (key : IdentityKey) binding,
    (system.run initial calls).bindingMap[key]? = some binding →
      ∃ principal, (system.run initial calls).principalMap[
          binding.principalId]? = some principal ∧
        principal.tenantId = key.1
  unmoved : ∀ later, KeyedMap.Persists Eq (system.run initial calls).bindingMap
    (system.run initial (calls ++ later)).bindingMap
  signUpRefused : ∀ environment tenantId response registration now tenant
    external binding,
    (system.run initial calls).tenant tenantId = .ok tenant →
      (system.run initial calls).authenticateExternal environment tenant
          response = .ok external →
        (system.run initial calls).bindingMap[
            identityKey tenant external]? = some binding →
          ∃ err, signUp environment tenantId response registration now
              (system.run initial calls) =
            .error err (system.run initial calls)
  linkRefused : ∀ environment tenantId principalId response now tenant external
    binding,
    (system.run initial calls).tenant tenantId = .ok tenant →
      (system.run initial calls).authenticateExternal environment tenant
          response = .ok external →
        (system.run initial calls).bindingMap[
            identityKey tenant external]? = some binding →
          binding.principalId ≠ principalId →
            ∃ err, linkAccount environment tenantId principalId response now
                (system.run initial calls) =
              .error err (system.run initial calls)
  sessions : ∀ environment tenantId sessionId now session context,
    (system.run initial calls).resolveSession environment tenantId sessionId
        now = .ok (session, context) →
      (∃ tenant external, OpenedFor initial calls sessionId tenant external) ∧
        ∀ tenant external,
          OpenedFor initial calls sessionId tenant external →
            ∃ binding, (system.run initial calls).bindingMap[
                identityKey tenant external]? = some binding ∧
              context.principal.id = binding.principalId

theorem bindings_unmoved (self : AuthMesh) (calls : List MeshCall) :
    KeyedMap.Persists Eq self.bindingMap
      (system.run self calls).bindingMap := by
  induction calls generalizing self with
  | nil => exact KeyedMap.Persists.refl (fun _ => rfl) self.bindingMap
  | cons call calls induction =>
      exact (bindings_persist self call).trans (fun _ _ _ => Eq.trans)
        (induction (self.perform call))

theorem sessions_lead {initial : AuthMesh} (fresh : initial.Fresh)
    (distinguished : Distinguished used) {calls : List MeshCall}
    (identified : system.Follows (Identified used) initial calls)
    {tenantId : String} {sessionId : SessionId} {now : Int} {session : Session}
    {context : RuntimeContext} {foundTenant : TenantContext}
    {identity : Identity} {binding : ExternalBinding}
    (held : SessionHeld (system.run initial calls) tenantId sessionId now
      session context foundTenant identity binding)
    {tenant : TenantContext} {external : ExternalIdentity}
    (opened : OpenedFor initial calls sessionId tenant external) :
    (system.run initial calls).bindingMap[identityKey tenant external]? =
        some binding ∧
      context.principal.id = binding.principalId := by
  have reached := TransitionSystem.ReachableUnder.run
    (TransitionSystem.ReachableUnder.start fresh) identified
  obtain ⟨before, call, after, identityId, rfl, opens, sameSession⟩ := opened
  obtain ⟨early, allowed, late⟩ :=
    TransitionSystem.follows_append_iff.mp identified
  have opening := TransitionSystem.ReachableUnder.run
    (TransitionSystem.ReachableUnder.start fresh) early
  obtain ⟨inUse, sameIdentity⟩ :=
    opens.identity (agrees distinguished opening) allowed
  -- The session that was stored then is the one that is resolved now.
  have weakens : ∀ state label, Identified used state label →
      Orderly used state label := fun _ _ identified => identified.1
  have persists := accounts_persist distinguished.principalIds
    ((opening.next call allowed).mono weakens) (late.mono weakens)
  obtain ⟨final, finalStored, _, rfl, _⟩ :=
    persists.sessions _ _ opens.stored
  have ends : system.run initial (before ++ call :: after) =
      system.run (system.step (system.run initial before) call) after :=
    TransitionSystem.run_append system initial before (call :: after)
  have stored := held.stored
  rw [ends, ← sameSession] at stored
  cases finalStored.symm.trans stored
  exact held.principal_eq (agrees distinguished reached)
    distinguished.identityIds (principalMap_keyed reached.reachable) inUse
    sameIdentity

/-- The accounts agree after every orderly run. -/
theorem accounts_agree (distinguished : Distinguished used)
    {initial : AuthMesh} (fresh : initial.Fresh) {calls : List MeshCall}
    (identified : system.Follows (Identified used) initial calls) :
    AccountsAgree initial calls := by
  have reached := TransitionSystem.ReachableUnder.run
    (TransitionSystem.ReachableUnder.start fresh) identified
  have agree := agrees distinguished reached
  have boundOfIndexed : ∀ {key : IdentityKey} {id : IdentityId},
      (system.run initial calls).providerIndex[key]? = some id →
        ∃ binding, (system.run initial calls).bindingMap[key]? =
          some binding := by
    intro key id indexed
    apply Option.ne_none_iff_exists'.mp
    intro unbound
    cases indexed.symm.trans ((agree.bound key).mpr unbound)
  refine
    { recorded := ?_
      filed := ?_
      principal := agree.principal
      unmoved := ?_
      signUpRefused := ?_
      linkRefused := ?_
      sessions := ?_ }
  · intro key
    constructor
    · rintro ⟨binding, bound⟩
      have indexed : (system.run initial calls).providerIndex[key]? ≠ none := by
        intro unindexed
        cases bound.symm.trans ((agree.bound key).mp unindexed)
      obtain ⟨id, found⟩ := Option.ne_none_iff_exists'.mp indexed
      obtain ⟨_, _, identity, stored, sameKey, _⟩ := agree.indexed key id found
      exact ⟨id, identity, found, stored, sameKey⟩
    · rintro ⟨id, _, indexed, _⟩
      exact boundOfIndexed indexed
  · intro id identity stored
    exact boundOfIndexed (agree.filed id identity stored)
  · intro later
    rw [TransitionSystem.run_append]
    exact bindings_unmoved _ later
  · intro environment tenantId response registration now tenant external
      binding tenantFound proven bound
    exact signUp_refused registration now tenantFound proven bound
  · intro environment tenantId principalId response now tenant external binding
      tenantFound proven bound other
    exact linkAccount_refused agree now tenantFound proven bound other
  · intro environment tenantId sessionId now session context resolved
    obtain ⟨foundTenant, identity, binding, held⟩ := resolveSession_ok resolved
    refine ⟨session_opened fresh calls held.stored, ?_⟩
    intro tenant external opened
    exact ⟨binding, sessions_lead fresh distinguished identified held opened⟩

end AuthMesh

theorem acmeUsers_distinguished :
    Distinguished {key : IdentityKey | key ∈ acmeUsers} := by
  have tenants : ∀ key ∈ acmeUsers, Plain key.1.value := by decide +kernel
  have connectors : ∀ key ∈ acmeUsers, Plain key.2.1.value := by
    decide +kernel
  have hashes : ∀ left ∈ acmeUsers, ∀ right ∈ acmeUsers,
      stableHash (principalMaterial left) =
          stableHash (principalMaterial right) →
        principalMaterial left = principalMaterial right := by
    decide +kernel
  refine { tenants, connectors, hashes := ?_ }
  rintro _ ⟨left, leftUsed, rfl⟩ _ ⟨right, rightUsed, rfl⟩ same
  exact hashes left leftUsed right rightUsed same

theorem accounts_agree_acme : AuthMesh.AccountsAgree emptyMesh runCalls :=
  AuthMesh.accounts_agree acmeUsers_distinguished emptyMesh_fresh
    (by decide +kernel)

end AuthBoundry
