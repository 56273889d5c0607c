import AuthBoundry.Runtime.Identities

/-!
# What a failed operation leaves behind

Every operation writes first and records last, and a refusal of the record does
not undo the write.  An operation that fails therefore leaves new authority
behind exactly if its checks passed, it had something new to store, and what
comes after the write failed: the audit log refused the event, or the tenant
has no policy to derive a context from.
-/

namespace AuthBoundry

open Library
open Library.Stateful

/-! ## Authority -/

/-- The session is accepted at some time from now on. -/
def Session.LiveFrom (session : Session) (now : Int) : Prop :=
  ∃ time, now ≤ time ∧ session.revokedAt = none ∧ time < session.expiresAt

def Delegation.ValidFrom (delegation : Delegation) (now : Int) : Prop :=
  ∃ time, now ≤ time ∧ delegation.isValidAt time = true

def AgentRun.ActiveFrom (run : AgentRun) (now : Int) : Prop :=
  ∃ time, now ≤ time ∧ run.status = .active ∧ time < run.expiresAt

/-- No principal, binding, live session, valid delegation or active run is
there that was not there before. -/
structure NoNewAuthority (now : Int) (before after : Records) : Prop where
  principals : KeyedMap.NothingNew (fun _ => True)
    before.principals.principals after.principals.principals
  bindings : KeyedMap.NothingNew (fun _ => True)
    before.principals.bindings after.principals.bindings
  sessions : KeyedMap.NothingNew (fun session => session.LiveFrom now)
    before.sessions.sessions after.sessions.sessions
  delegations : KeyedMap.NothingNew (fun delegation => delegation.ValidFrom now)
    before.delegations.delegations after.delegations.delegations
  runs : KeyedMap.NothingNew (fun run => run.ActiveFrom now)
    before.runs.runs after.runs.runs

theorem noNewAuthority_refl (now : Int) (records : Records) :
    NoNewAuthority now records records where
  principals := .refl _ _
  bindings := .refl _ _
  sessions := .refl _ _
  delegations := .refl _ _
  runs := .refl _ _

theorem liveFrom_iff {session : Session} {now : Int} :
    session.LiveFrom now ↔
      session.revokedAt = none ∧ now < session.expiresAt := by
  constructor
  · rintro ⟨time, later, unrevoked, unexpired⟩
    exact ⟨unrevoked, lt_of_le_of_lt later unexpired⟩
  · rintro ⟨unrevoked, unexpired⟩
    exact ⟨now, le_refl now, unrevoked, unexpired⟩

theorem validFrom_of_period {delegation : Delegation} {now : Int}
    (unrevoked : delegation.revokedAt = none)
    (unexpired : ∀ expiresAt, delegation.expiresAt = some expiresAt →
      now < expiresAt ∧ delegation.issuedAt < expiresAt) :
    delegation.ValidFrom now := by
  refine ⟨max now delegation.issuedAt, le_max_left .., ?_⟩
  rw [Delegation.isValidAt_iff]
  refine ⟨unrevoked, le_max_right .., ?_⟩
  intro expiresAt expires
  exact max_lt (unexpired expiresAt expires).1 (unexpired expiresAt expires).2

namespace AuthMesh

/-- The failure of one of the operations that grant or withdraw authority. -/
def refusal (self : AuthMesh) (call : MeshCall) : Option AuthError :=
  let environment := call.environment
  let now := call.now
  match call.operation with
  | .signIn tenantId response =>
      failure (signIn environment tenantId response now self)
  | .signUp tenantId response registration =>
      failure (signUp environment tenantId response registration now self)
  | .linkAccount tenantId principalId response =>
      failure (linkAccount environment tenantId principalId response now self)
  | .delegate tenantId request =>
      failure (delegate environment tenantId request now self)
  | .revokeDelegation tenantId delegationId =>
      failure (revokeDelegation environment tenantId delegationId now self)
  | .createAgentRun tenantId agentId request revision fingerprint =>
      failure
        (createAgentRun environment tenantId agentId request now revision
          fingerprint self)
  | .cancelAgentRun tenantId runId =>
      failure (cancelAgentRun environment tenantId runId now self)
  | _ => none

/-- If the call fails, it has granted nothing. -/
def FailsSafely (self : AuthMesh) (call : MeshCall) : Prop :=
  (∃ err, self.refusal call = some err) →
    NoNewAuthority call.now self.records (self.perform call).records

/-- The audit log takes the event of the call. -/
def LogAccepts (self : AuthMesh) (call : MeshCall) : Prop :=
  call.environment.auditFault self.auditSequence = none

/-- What follows the write cannot fail wherever the checks pass and there is
something new to store. -/
def GrantsLast (self : AuthMesh) (call : MeshCall) : Prop :=
  match call.operation with
  | .signIn tenantId response =>
      ∀ tenant external resolved,
        self.signInGrounds call.environment tenantId response =
            .ok (tenant, external, resolved) →
          0 < self.sessionTtl →
          self.sessionMap[(self.openedSession call.environment tenant
              resolved.identity.id call.now).id]? ≠
            some (self.openedSession call.environment tenant
              resolved.identity.id call.now) →
          self.LogAccepts call ∧ ∃ policy, self.policy tenant = .ok policy
  | .signUp tenantId response registration =>
      ∀ tenant external claims,
        self.signUpGrounds call.environment tenantId response registration =
            .ok (tenant, external, claims) →
          self.LogAccepts call ∧ ∃ policy, self.policy tenant = .ok policy
  | .linkAccount tenantId principalId response =>
      ∀ tenant external principal known,
        self.linkGrounds call.environment tenantId principalId response =
            .ok (tenant, external, principal, known) →
          self.bindingMap[identityKey tenant external]? = none →
          self.LogAccepts call
  | .delegate tenantId request =>
      ∀ tenant delegation,
        self.delegateGrounds call.environment tenantId request call.now =
            .ok (tenant, delegation) →
          self.LogAccepts call
  | .createAgentRun tenantId agentId request revision fingerprint =>
      ∀ tenant run,
        self.createRunGrounds tenantId agentId request call.now revision
            fingerprint = .ok (tenant, run) →
          self.runMap[run.id]? = none →
          self.LogAccepts call
  | _ => True

variable {self : AuthMesh} {call : MeshCall}

/-! ## Contexts -/

theorem policy_id (reached : system.Reachable self) {tenant : TenantContext}
    {policy : Policy} (found : self.policy tenant = .ok policy) :
    policy.id = tenant.policyId := by
  unfold AuthMesh.policy at found
  split at found
  · rename_i named
    cases found
    rcases Option.or_eq_some_iff.mp named with stored | ⟨_, configured⟩
    · exact (registries_keyed reached).2 tenant.policyId policy stored
    · unfold policyFromConfig at configured
      split at configured
      · cases configured
      · cases configured
        rfl
  · cases found

theorem contextFor_isOk_iff (reached : system.Reachable self)
    {environment : Environment} {tenant : TenantContext}
    {principal : Principal} (inTenant : principal.tenantId = tenant.tenantId)
    (sessionId : Option SessionId) (now : Int) :
    (∃ context, self.contextFor environment tenant principal sessionId now =
        .ok context) ↔
      ∃ policy, self.policy tenant = .ok policy := by
  constructor
  · rintro ⟨context, derived⟩
    obtain ⟨policy, found, _⟩ := except_bind_eq_ok_iff.mp derived
    exact ⟨policy, found⟩
  · rintro ⟨policy, found⟩
    have evaluated : evaluateWithDelegations environment.systemTime policy
        principal tenant (self.delegationsFor tenant principal.id) now =
          .ok _ :=
      evaluateWithDelegations_eq_ok_iff.mpr
        ⟨inTenant, policy_id reached found, rfl⟩
    unfold contextFor
    rw [found]
    simp only [except_ok_bind, evaluated]
    exact ⟨_, rfl⟩

/-! ## When an operation fails after its write -/

section Fails

variable {environment : Environment}

theorem establish_fails_iff {kind : AuditEventKind} {tenant : TenantContext}
    {external : ExternalIdentity} {resolved : ResolvedPrincipal} {now : Int} :
    (∃ err, failure
        (establish environment kind tenant external resolved now self) =
          some err) ↔
      ¬(environment.auditFault self.auditSequence = none ∧
        ∃ context, self.contextFor environment tenant resolved.principal
          (some (self.openedSession environment tenant resolved.identity.id
            now).id) now = .ok context) := by
  rw [establish_eq]
  cases environment.auditFault self.auditSequence with
  | some err => simp
  | none =>
      dsimp only
      cases self.contextFor environment tenant resolved.principal
          (some (self.openedSession environment tenant resolved.identity.id
            now).id) now with
      | error err => simp
      | ok context => simp

theorem finish_fails_iff {α : Type} {tenant : TenantContext}
    {record : AuditRecord} {now : Int} {value : α} :
    (∃ err, failure (finish environment tenant record now value self) =
        some err) ↔
      ¬environment.auditFault self.auditSequence = none := by
  rw [failure_finish]
  cases environment.auditFault self.auditSequence <;> simp

end Fails

/-- A call that leaves the records as they are has granted nothing. -/
theorem failsSafely_of_unchanged
    (unchanged : (self.perform call).records = self.records) :
    self.FailsSafely call := by
  intro _
  rw [unchanged]
  exact noNewAuthority_refl call.now self.records

/-- A call that fails unless `lasts` and grants if `grants`. -/
theorem failsSafely_iff_of {lasts grants : Prop}
    (fails : (∃ err, self.refusal call = some err) ↔ ¬lasts)
    (granted : NoNewAuthority call.now self.records
      (self.perform call).records ↔ ¬grants) :
    self.FailsSafely call ↔ (grants → lasts) := by
  unfold FailsSafely
  rw [fails, granted]
  exact not_imp_not

/-! ## One written state at a time -/

theorem noNewAuthority_withSession_iff {tenant : TenantContext}
    {identityId : IdentityId} :
    NoNewAuthority call.now self.records
        (self.withSession call.environment tenant identityId
          call.now).records ↔
      ¬(0 < self.sessionTtl ∧
        self.sessionMap[(self.openedSession call.environment tenant identityId
            call.now).id]? ≠
          some (self.openedSession call.environment tenant identityId
            call.now)) := by
  let opened := self.openedSession call.environment tenant identityId call.now
  have live : opened.LiveFrom call.now ↔ 0 < self.sessionTtl := by
    rw [liveFrom_iff]
    change none = none ∧ call.now < call.now + self.sessionTtl ↔ _
    simp
  have sessions : KeyedMap.NothingNew
      (fun session : Session => session.LiveFrom call.now) self.sessionMap
        (self.sessionMap.insert opened.id opened) ↔ _ :=
    KeyedMap.NothingNew.insert_iff
  rw [live, ← not_and_not_right] at sessions
  constructor
  · intro nothing
    exact sessions.mp nothing.sessions
  · intro condition
    exact { noNewAuthority_refl call.now self.records with
      sessions := sessions.mpr condition }

theorem delegateGrounds_valid {environment : Environment} {tenantId : String}
    {request : DelegationRequest} {now : Int} {tenant : TenantContext}
    {delegation : Delegation}
    (granted : self.delegateGrounds environment tenantId request now =
      .ok (tenant, delegation)) : delegation.ValidFrom now := by
  obtain ⟨_, _, granted⟩ := except_bind_eq_ok_iff.mp granted
  obtain ⟨checked, prepared, granted⟩ := except_bind_eq_ok_iff.mp granted
  obtain ⟨pair, written, granted⟩ := except_bind_eq_ok_iff.mp granted
  cases granted
  obtain ⟨created, delegations⟩ := pair
  have creation := except_mapError_eq_ok_iff.mp written
  obtain ⟨rfl, _⟩ := MemoryDelegationStore.createDelegation_ok creation
  have period := MemoryDelegationStore.createDelegation_period creation
  obtain ⟨_, _, _, _, _, grounds, rfl⟩ := checkedDelegation_ok prepared
  apply validFrom_of_period rfl
  intro expiresAt expires
  exact ⟨grounds.unexpired expiresAt expires, period expiresAt expires⟩

theorem newAuthority_withAccount {tenant : TenantContext}
    {external : ExternalIdentity} {kind : PrincipalKind} {claims : Claims}
    (unbound : self.bindingMap[identityKey tenant external]? = none) :
    ¬NoNewAuthority call.now self.records
      ((self.withAccount tenant external kind claims
        call.now).withSession call.environment tenant
          (identityIdFor (identityKey tenant external)) call.now).records := by
  intro nothing
  have there := nothing.bindings (identityKey tenant external) _
    Std.ExtTreeMap.getElem?_insert_self trivial
  cases unbound.symm.trans there

theorem newAuthority_withBinding {before : Records} {binding : ExternalBinding}
    (unbound : before.principals.bindings[binding.key]? = none)
    (unboundHere : self.bindingMap[binding.key]? = none) :
    ¬NoNewAuthority call.now before (self.withBinding binding).records := by
  intro nothing
  have stored : (self.withBinding binding).bindingMap[binding.key]? =
      some binding := by
    rw [withBinding_bindings, unboundHere]
    exact Std.ExtTreeMap.getElem?_insert_self
  have there := nothing.bindings binding.key binding stored trivial
  cases unbound.symm.trans there

theorem newAuthority_withDelegation {delegation : Delegation}
    (fresh : self.delegationMap[delegation.id]? = none)
    (valid : delegation.ValidFrom call.now) :
    ¬NoNewAuthority call.now self.records
      (self.withDelegation delegation).records := by
  intro nothing
  have there := nothing.delegations delegation.id delegation
    Std.ExtTreeMap.getElem?_insert_self valid
  cases fresh.symm.trans there

theorem newAuthority_withRun {run : AgentRun}
    (fresh : self.runMap[run.id]? = none) (active : run.ActiveFrom call.now) :
    ¬NoNewAuthority call.now self.records (self.withRun run).records := by
  intro nothing
  have there := nothing.runs run.id run Std.ExtTreeMap.getElem?_insert_self
    active
  cases fresh.symm.trans there

/-! ## One operation at a time -/

section Operations

theorem signIn_failsSafely_iff (reached : system.Reachable self)
    {tenantId : String} {response : AuthResponse}
    (operation : call.operation = .signIn tenantId response) :
    self.FailsSafely call ↔
      ∀ tenant external resolved,
        self.signInGrounds call.environment tenantId response =
            .ok (tenant, external, resolved) →
          0 < self.sessionTtl →
          self.sessionMap[(self.openedSession call.environment tenant
              resolved.identity.id call.now).id]? ≠
            some (self.openedSession call.environment tenant
              resolved.identity.id call.now) →
          self.LogAccepts call ∧ ∃ policy, self.policy tenant = .ok policy := by
  cases grounds : self.signInGrounds call.environment tenantId response with
  | error err =>
      have unchanged : (self.perform call).records = self.records := by
        unfold perform
        rw [operation]
        dsimp only
        rw [signIn_records, grounds]
      exact iff_of_true (failsSafely_of_unchanged unchanged) (by simp)
  | ok found =>
      obtain ⟨tenant, external, resolved⟩ := found
      have checked := signInGrounds_ok grounds
      have fails : (∃ err, self.refusal call = some err) ↔
          ¬(self.LogAccepts call ∧ ∃ policy, self.policy tenant =
            .ok policy) := by
        unfold refusal
        rw [operation]
        dsimp only
        rw [signIn_eq, grounds]
        dsimp only
        rw [establish_fails_iff, contextFor_isOk_iff reached checked.inTenant]
        exact Iff.rfl
      have granted : NoNewAuthority call.now self.records
          (self.withSession call.environment tenant resolved.identity.id
            call.now).records ↔ _ :=
        noNewAuthority_withSession_iff
      rw [← perform_signIn operation grounds] at granted
      rw [failsSafely_iff_of fails granted]
      constructor
      · intro lasts _ _ _ same positive absent
        cases same
        exact lasts ⟨positive, absent⟩
      · intro lasts grants
        exact lasts tenant external resolved rfl grants.1 grants.2

theorem signUp_failsSafely_iff (reached : system.Reachable self)
    {tenantId : String} {response : AuthResponse}
    {registration : Registration}
    (operation : call.operation = .signUp tenantId response registration) :
    self.FailsSafely call ↔
      ∀ tenant external claims,
        self.signUpGrounds call.environment tenantId response registration =
            .ok (tenant, external, claims) →
          self.LogAccepts call ∧ ∃ policy, self.policy tenant = .ok policy := by
  cases grounds : self.signUpGrounds call.environment tenantId response
      registration with
  | error err =>
      have unchanged : (self.perform call).records = self.records := by
        unfold perform
        rw [operation]
        dsimp only
        rw [signUp_records, grounds]
      exact iff_of_true (failsSafely_of_unchanged unchanged) (by simp)
  | ok found =>
      obtain ⟨tenant, external, claims⟩ := found
      have fails : (∃ err, self.refusal call = some err) ↔
          ¬(self.LogAccepts call ∧ ∃ policy, self.policy tenant =
            .ok policy) := by
        unfold refusal
        rw [operation]
        dsimp only
        rw [signUp_eq, grounds]
        dsimp only
        rw [establish_fails_iff]
        -- A new account changes nothing that a context is derived from.
        have derived : ∀ sessionId, (∃ context, self.contextFor
            call.environment tenant
            (Resolution.provisionedPrincipal tenant external registration.kind
              claims) sessionId call.now = .ok context) ↔ _ :=
          fun sessionId => contextFor_isOk_iff reached rfl sessionId call.now
        exact not_congr (and_congr_right fun _ => derived _)
      have granted : NoNewAuthority call.now self.records
          (self.perform call).records ↔ ¬True := by
        rw [perform_signUp operation grounds]
        simp only [not_true_eq_false, iff_false]
        exact newAuthority_withAccount (signUpGrounds_ok grounds).unbound
      rw [failsSafely_iff_of fails granted]
      constructor
      · intro lasts _ _ _ same
        cases same
        exact lasts trivial
      · intro lasts _
        exact lasts tenant external claims rfl

theorem linkAccount_failsSafely_iff {tenantId : String}
    {principalId : PrincipalId} {response : AuthResponse}
    (operation : call.operation = .linkAccount tenantId principalId response) :
    self.FailsSafely call ↔
      ∀ tenant external principal known,
        self.linkGrounds call.environment tenantId principalId response =
            .ok (tenant, external, principal, known) →
          self.bindingMap[identityKey tenant external]? = none →
          self.LogAccepts call := by
  cases grounds : self.linkGrounds call.environment tenantId principalId
      response with
  | error err =>
      have unchanged : (self.perform call).records = self.records := by
        unfold perform
        rw [operation]
        dsimp only
        rw [linkAccount_records, grounds]
      exact iff_of_true (failsSafely_of_unchanged unchanged) (by simp)
  | ok found =>
      obtain ⟨tenant, external, principal, known⟩ := found
      let key := identityKey tenant external
      let binding := newBinding key principalId call.now
      let linked := self.withMissingIdentity known key principal.claims
      have linkedRecords := perform_linkAccount operation grounds
      have principals : linked.stores.principals = self.stores.principals :=
        withMissingIdentity_principals self known key principal.claims
      cases bound : self.bindingMap[key]? with
      | some existing =>
          -- Only an identity record can be new, and it grants nothing.
          have kept : linked.withBinding binding = linked := by
            unfold withBinding
            rw [principals, show self.stores.principals.bindings[
              binding.key]? = some existing from bound]
          have nothing : NoNewAuthority call.now self.records
              (self.perform call).records := by
            rw [linkedRecords, kept]
            cases known <;>
              exact
                { noNewAuthority_refl call.now self.records with }
          refine iff_of_true (fun _ => nothing) ?_
          intro _ _ _ _ same unbound
          cases same
          cases bound.symm.trans unbound
      | none =>
          have fails : (∃ err, self.refusal call = some err) ↔
              ¬self.LogAccepts call := by
            unfold refusal
            rw [operation]
            dsimp only
            rw [linkAccount_eq, grounds]
            dsimp only
            rw [show self.stores.principals.bindings[
              identityKey tenant external]? = none from bound]
            dsimp only
            rw [finish_fails_iff]
            have sameSequence :
                (linked.withBinding binding).auditSequence =
                  self.auditSequence := by
              unfold withBinding
              cases known <;> dsimp only [linked, withMissingIdentity] <;>
                split <;> rfl
            rw [sameSequence]
            exact Iff.rfl
          have granted : NoNewAuthority call.now self.records
              (self.perform call).records ↔ ¬True := by
            rw [linkedRecords]
            simp only [not_true_eq_false, iff_false]
            refine newAuthority_withBinding bound ?_
            unfold bindingMap
            rw [principals]
            exact bound
          rw [failsSafely_iff_of fails granted]
          constructor
          · intro lasts _ _ _ _ same _
            cases same
            exact lasts trivial
          · intro lasts _
            exact lasts tenant external principal known rfl bound

theorem delegate_failsSafely_iff {tenantId : String}
    {request : DelegationRequest}
    (operation : call.operation = .delegate tenantId request) :
    self.FailsSafely call ↔
      ∀ tenant delegation,
        self.delegateGrounds call.environment tenantId request call.now =
            .ok (tenant, delegation) →
          self.LogAccepts call := by
  have performed : self.perform call = finalState
      (delegate call.environment tenantId request call.now self) := by
    unfold perform
    rw [operation]
  cases grounds : self.delegateGrounds call.environment tenantId request
      call.now with
  | error err =>
      have unchanged : (self.perform call).records = self.records := by
        rw [performed, delegate_eq, grounds]
        rfl
      exact iff_of_true (failsSafely_of_unchanged unchanged) (by simp)
  | ok found =>
      obtain ⟨tenant, delegation⟩ := found
      have fails : (∃ err, self.refusal call = some err) ↔
          ¬self.LogAccepts call := by
        unfold refusal
        rw [operation]
        dsimp only
        rw [delegate_eq, grounds]
        exact finish_fails_iff
      have granted : NoNewAuthority call.now self.records
          (self.perform call).records ↔ ¬True := by
        rw [performed, delegate_eq, grounds]
        dsimp only
        rw [finish_records]
        simp only [not_true_eq_false, iff_false]
        exact newAuthority_withDelegation (delegateGrounds_ok grounds).2.2
          (delegateGrounds_valid grounds)
      rw [failsSafely_iff_of fails granted]
      constructor
      · intro lasts _ _ same
        cases same
        exact lasts trivial
      · intro lasts _
        exact lasts tenant delegation rfl

theorem createAgentRun_failsSafely_iff {tenantId : String}
    {agentId : PrincipalId} {request : RunCreationRequest}
    {authorityRevision : Nat} {contractFingerprint : String}
    (operation : call.operation = .createAgentRun tenantId agentId request
      authorityRevision contractFingerprint) :
    self.FailsSafely call ↔
      ∀ tenant run,
        self.createRunGrounds tenantId agentId request call.now
            authorityRevision contractFingerprint = .ok (tenant, run) →
          self.runMap[run.id]? = none →
          self.LogAccepts call := by
  have performed : self.perform call = finalState
      (createAgentRun call.environment tenantId agentId request call.now
        authorityRevision contractFingerprint self) := by
    unfold perform
    rw [operation]
  have chosen : ∀ id, (self.withRunChosen id).stores = self.stores ∧
      (self.withRunChosen id).auditSequence = self.auditSequence := by
    intro id
    cases id <;> exact ⟨rfl, rfl⟩
  cases grounds : self.createRunGrounds tenantId agentId request call.now
      authorityRevision contractFingerprint with
  | error err =>
      have unchanged : (self.perform call).records = self.records := by
        rw [performed, createAgentRun_eq, grounds]
        rfl
      exact iff_of_true (failsSafely_of_unchanged unchanged) (by simp)
  | ok found =>
      obtain ⟨tenant, run⟩ := found
      by_cases taken : self.stores.runs.runs.contains run.id = true
      · have unchanged : (self.perform call).records = self.records := by
          rw [performed, createAgentRun_eq, grounds]
          dsimp only
          rw [if_pos taken, finalState_error]
          unfold records
          rw [(chosen request.id).1]
        refine iff_of_true (failsSafely_of_unchanged unchanged) ?_
        intro _ _ same fresh
        cases same
        have stored := Std.ExtTreeMap.contains_eq_isSome_getElem?.symm.trans
          taken
        rw [show self.stores.runs.runs[run.id]? = none from fresh] at stored
        cases stored
      · have fresh : self.runMap[run.id]? = none :=
          Std.ExtTreeMap.getElem?_eq_none_of_contains_eq_false
            (Bool.not_eq_true _ ▸ taken)
        obtain ⟨_, _, checked⟩ := createRunGrounds_ok grounds
        have active : run.ActiveFrom call.now := by
          obtain ⟨_, _, _, rfl⟩ := checked.created
          exact ⟨call.now, le_refl call.now, rfl, checked.unexpired⟩
        have fails : (∃ err, self.refusal call = some err) ↔
            ¬self.LogAccepts call := by
          unfold refusal
          rw [operation]
          dsimp only
          rw [createAgentRun_eq, grounds]
          dsimp only
          rw [if_neg taken, finish_fails_iff]
          change ¬call.environment.auditFault
            (self.withRunChosen request.id).auditSequence = none ↔ _
          rw [(chosen request.id).2]
          exact Iff.rfl
        have granted : NoNewAuthority call.now self.records
            (self.perform call).records ↔ ¬True := by
          rw [performed, createAgentRun_eq, grounds]
          dsimp only
          rw [if_neg taken, finish_records]
          have written :
              ((self.withRunChosen request.id).withRun run).records =
                (self.withRun run).records := by
            unfold records withRun changeRuns
            rw [(chosen request.id).1]
          rw [written]
          simp only [not_true_eq_false, iff_false]
          exact newAuthority_withRun fresh active
        rw [failsSafely_iff_of fails granted]
        constructor
        · intro lasts _ _ same _
          cases same
          exact lasts trivial
        · intro lasts _
          exact lasts tenant run rfl fresh

/-- Withdrawing authority adds none, whether or not it is recorded. -/
theorem revokeDelegation_failsSafely {tenantId : String}
    {delegationId : DelegationId}
    (operation : call.operation = .revokeDelegation tenantId delegationId) :
    self.FailsSafely call := by
  intro _
  unfold perform
  rw [operation]
  dsimp only
  rw [revokeDelegation_eq]
  cases self.tenant tenantId with
  | error err => exact noNewAuthority_refl call.now self.records
  | ok tenant =>
      dsimp only
      cases written : self.stores.delegations.revokeDelegation tenant
          delegationId call.now with
      | error err => exact noNewAuthority_refl call.now self.records
      | ok pair =>
          obtain ⟨_, part⟩ := pair
          obtain ⟨delegation, _, _, rfl⟩ :=
            MemoryDelegationStore.revokeDelegation_ok written
          dsimp only
          rw [finish_records]
          refine
            { noNewAuthority_refl call.now self.records with
              delegations := ?_ }
          apply KeyedMap.NothingNew.insert_iff.mpr
          rintro ⟨time, _, valid⟩
          have unrevoked := (Delegation.isValidAt_iff.mp valid).1
          cases unrevoked

theorem cancelAgentRun_failsSafely {tenantId : String} {runId : RunId}
    (operation : call.operation = .cancelAgentRun tenantId runId) :
    self.FailsSafely call := by
  intro _
  unfold perform
  rw [operation]
  dsimp only
  rw [cancelAgentRun_eq]
  cases self.tenant tenantId with
  | error err => exact noNewAuthority_refl call.now self.records
  | ok tenant =>
      dsimp only
      cases self.agentRun tenant runId with
      | error err => exact noNewAuthority_refl call.now self.records
      | ok found =>
          cases found with
          | none => exact noNewAuthority_refl call.now self.records
          | some run =>
              dsimp only
              cases written : self.stores.runs.updateRun tenant
                  { run with
                    status := .cancelled
                    cancelledAt := some call.now } with
              | error err => exact noNewAuthority_refl call.now self.records
              | ok pair =>
                  obtain ⟨cancelled, runs⟩ := pair
                  obtain ⟨rfl, _, rfl⟩ := MemoryRunStore.updateRun_ok written
                  dsimp only
                  rw [finish_records]
                  refine
                    { noNewAuthority_refl call.now self.records with
                      runs := ?_ }
                  apply KeyedMap.NothingNew.insert_iff.mpr
                  rintro ⟨time, _, active, _⟩
                  cases active

/-- A failed call grants nothing exactly if nothing can fail after the write
that grants. -/
theorem failsSafely_iff (reached : system.Reachable self) (call : MeshCall) :
    self.FailsSafely call ↔ self.GrantsLast call := by
  have silent : self.refusal call = none → self.FailsSafely call := by
    rintro none ⟨err, refused⟩
    rw [none] at refused
    cases refused
  unfold GrantsLast
  cases operation : call.operation with
  | signIn => exact signIn_failsSafely_iff reached operation
  | signUp => exact signUp_failsSafely_iff reached operation
  | linkAccount => exact linkAccount_failsSafely_iff operation
  | delegate => exact delegate_failsSafely_iff operation
  | createAgentRun => exact createAgentRun_failsSafely_iff operation
  | revokeDelegation =>
      exact iff_of_true (revokeDelegation_failsSafely operation) trivial
  | cancelAgentRun =>
      exact iff_of_true (cancelAgentRun_failsSafely operation) trivial
  | _ =>
      refine iff_of_true (silent ?_) trivial
      unfold refusal
      rw [operation]

end Operations

end AuthMesh

/-! ## A refused event -/

/-- The same tenant while the audit log refuses every event. -/
def deafEnvironment : Environment :=
  { acmeEnvironment with
    auditFault := fun _ => some { message := "audit log unavailable" } }

/-- A delegation that the audit log refuses. -/
def unrecordedDelegation : MeshCall :=
  { handOver "dlg_a" "alice" "worker" [⟨"invoice.read"⟩] .any with
    environment := deafEnvironment }

def registeredMesh : AuthMesh :=
  AuthMesh.system.run emptyMesh (acmeCalls [readRule])

theorem failsSafely_iff_unrecorded :
    registeredMesh.FailsSafely unrecordedDelegation ↔
      registeredMesh.GrantsLast unrecordedDelegation :=
  AuthMesh.failsSafely_iff (.run (.start emptyMesh_fresh) _)
    unrecordedDelegation

/-- The call fails, and the delegation is there and valid. -/
theorem unrecordedDelegation_not_failsSafely :
    AuthMesh.system.Reachable registeredMesh ∧
      (∃ err, registeredMesh.refusal unrecordedDelegation = some err) ∧
      ¬registeredMesh.FailsSafely unrecordedDelegation := by
  have reached : AuthMesh.system.Reachable registeredMesh :=
    .run (.start emptyMesh_fresh) _
  have refused : ∃ err,
      registeredMesh.refusal unrecordedDelegation = some err :=
    Option.isSome_iff_exists.mp (by decide +kernel)
  have absent : registeredMesh.delegationMap[(⟨"dlg_a"⟩ : DelegationId)]? =
      none := by
    decide +kernel
  have granted : ∃ delegation,
      (registeredMesh.perform unrecordedDelegation).delegationMap[
          (⟨"dlg_a"⟩ : DelegationId)]? = some delegation ∧
        delegation.isValidAt 2 = true :=
    Option.map_eq_some_iff.mp (by decide +kernel)
  obtain ⟨delegation, stored, valid⟩ := granted
  refine ⟨reached, refused, ?_⟩
  intro safely
  have nothing := safely refused
  have there := nothing.delegations ⟨"dlg_a"⟩ delegation stored
    ⟨2, le_refl 2, valid⟩
  cases absent.symm.trans there

end AuthBoundry
