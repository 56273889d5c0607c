import AuthBoundry.Runtime.Outcomes

/-!
# What a call does to the records

The records are all stores that hold authority: identities, principals and
their bindings, sessions, delegations and runs.  A call leaves them alone or
changes them in one of nine ways; each carries what the call was granted on,
and every invariant about the records is proved from this one list.
-/

namespace AuthBoundry

open Library
open Library.Stateful

structure Records where
  identities : MemoryIdentityStore
  principals : MemoryPrincipalStore
  sessions : MemorySessionStore
  delegations : MemoryDelegationStore
  runs : MemoryRunStore

def AgentState.stops (state : AgentState) : Bool :=
  state == .suspended || state == .revoked || state == .retired

def MeshOperation.stops (operation : MeshOperation) (tenantId : String)
    (agent : PrincipalId) (state : AgentState) : Prop :=
  operation = .suspendAgent tenantId agent ∧ state = .suspended ∨
    operation = .revokeAgent tenantId agent ∧ state = .revoked ∨
    operation = .retireAgent tenantId agent ∧ state = .retired

theorem MeshOperation.stops_stops {operation : MeshOperation}
    {tenantId : String} {agent : PrincipalId} {state : AgentState}
    (stopped : operation.stops tenantId agent state) : state.stops = true := by
  rcases stopped with ⟨_, rfl⟩ | ⟨_, rfl⟩ | ⟨_, rfl⟩ <;> rfl

namespace AuthMesh

variable {environment : Environment}

def records (self : AuthMesh) : Records :=
  { identities := self.stores.identities
    principals := self.stores.principals
    sessions := self.stores.sessions
    delegations := self.stores.delegations
    runs := self.stores.runs }

def withPrincipal (self : AuthMesh) (principalId : PrincipalId)
    (principal : Principal) : AuthMesh :=
  self.changePrincipals
    { self.stores.principals with
      principals :=
        self.stores.principals.principals.insert principalId principal }

def withSessionAt (self : AuthMesh) (sessionId : SessionId)
    (session : Session) : AuthMesh :=
  self.changeSessions
    { self.stores.sessions with
      sessions := self.stores.sessions.sessions.insert sessionId session }

def withDelegationAt (self : AuthMesh) (delegationId : DelegationId)
    (delegation : Delegation) : AuthMesh :=
  self.changeDelegations
    { delegations :=
        self.stores.delegations.delegations.insert delegationId delegation }

/-- What a call can do to the records. -/
inductive RecordsChange (self : AuthMesh) (call : MeshCall) :
    Records → Prop where
  | unchanged : RecordsChange self call self.records
  | signedIn (tenantId : String) (response : AuthResponse)
      (tenant : TenantContext) (external : ExternalIdentity)
      (resolved : ResolvedPrincipal)
      (operation : call.operation = .signIn tenantId response)
      (grounds : self.signInGrounds call.environment tenantId response =
        .ok (tenant, external, resolved)) :
      RecordsChange self call
        (self.withSession call.environment tenant resolved.identity.id
          call.now).records
  | signedUp (tenantId : String) (response : AuthResponse)
      (registration : Registration) (tenant : TenantContext)
      (external : ExternalIdentity) (claims : Claims)
      (operation : call.operation = .signUp tenantId response registration)
      (grounds : self.signUpGrounds call.environment tenantId response
        registration = .ok (tenant, external, claims)) :
      RecordsChange self call
        ((self.withAccount tenant external registration.kind claims
          call.now).withSession call.environment tenant
            (identityIdFor (identityKey tenant external)) call.now).records
  | linked (tenantId : String) (principalId : PrincipalId)
      (response : AuthResponse) (tenant : TenantContext)
      (external : ExternalIdentity) (principal : Principal)
      (known : Option Identity)
      (operation : call.operation = .linkAccount tenantId principalId response)
      (grounds : self.linkGrounds call.environment tenantId principalId
        response = .ok (tenant, external, principal, known)) :
      RecordsChange self call
        ((self.withMissingIdentity known (identityKey tenant external)
          principal.claims).withBinding
            (newBinding (identityKey tenant external) principalId
              call.now)).records
  | loggedOut (tenantId : String) (sessionId : SessionId)
      (tenant : TenantContext) (session : Session)
      (operation : call.operation = .logout tenantId sessionId)
      (tenantFound : self.tenant tenantId = .ok tenant)
      (stored : self.stores.sessions.sessions[sessionId]? = some session)
      (inTenant : session.tenantId = tenant.tenantId) :
      RecordsChange self call
        (self.withSessionAt sessionId
          { session with revokedAt := some call.now }).records
  | delegated (tenantId : String) (request : DelegationRequest)
      (tenant : TenantContext) (delegation : Delegation)
      (operation : call.operation = .delegate tenantId request)
      (grounds : self.delegateGrounds call.environment tenantId request
        call.now = .ok (tenant, delegation)) :
      RecordsChange self call (self.withDelegation delegation).records
  | delegationRevoked (tenantId : String) (delegationId : DelegationId)
      (tenant : TenantContext) (delegation : Delegation)
      (operation : call.operation = .revokeDelegation tenantId delegationId)
      (tenantFound : self.tenant tenantId = .ok tenant)
      (stored : self.stores.delegations.delegations[delegationId]? =
        some delegation)
      (inTenant : delegation.tenantId = tenant.tenantId) :
      RecordsChange self call
        (self.withDelegationAt delegationId
          { delegation with revokedAt := some call.now }).records
  | agentStopped (tenantId : String) (agent : PrincipalId)
      (state : AgentState) (tenant : TenantContext) (principal : Principal)
      (operation : call.operation.stops tenantId agent state)
      (tenantFound : self.tenant tenantId = .ok tenant)
      (stored : self.stores.principals.principals[agent]? = some principal)
      (inTenant : principal.tenantId = tenant.tenantId)
      (isAgent : principal.kind = .agent) :
      RecordsChange self call
        (self.withPrincipal agent
          { principal with agentState := some state }).records
  | runCreated (tenantId : String) (agentId : PrincipalId)
      (request : RunCreationRequest) (authorityRevision : Nat)
      (contractFingerprint : String) (tenant : TenantContext) (run : AgentRun)
      (operation : call.operation = .createAgentRun tenantId agentId request
        authorityRevision contractFingerprint)
      (grounds : self.createRunGrounds tenantId agentId request call.now
        authorityRevision contractFingerprint = .ok (tenant, run))
      (fresh : self.stores.runs.runs[run.id]? = none) :
      RecordsChange self call (self.withRun run).records
  | runCancelled (tenantId : String) (runId : RunId) (tenant : TenantContext)
      (run : AgentRun)
      (operation : call.operation = .cancelAgentRun tenantId runId)
      (tenantFound : self.tenant tenantId = .ok tenant)
      (stored : self.stores.runs.runs[runId]? = some run)
      (inTenant : run.tenantId = tenant.tenantId) :
      RecordsChange self call
        (self.withRun
          { run with
            status := .cancelled, cancelledAt := some call.now }).records

/-! ## The audit trail is no record -/

theorem finish_records {α : Type} (tenant : TenantContext)
    (record : AuditRecord) (now : Int) (value : α) (self : AuthMesh) :
    (finalState (finish environment tenant record now value self)).records =
      self.records := by
  rw [finish_eq]
  cases environment.auditFault self.auditSequence <;> rfl

theorem finish_ok {α : Type} {tenant : TenantContext} {record : AuditRecord}
    {now : Int} {value result : α} {self after : AuthMesh}
    (succeeded : finish environment tenant record now value self =
      .ok result after) :
    result = value ∧ after.records = self.records := by
  rw [finish_eq] at succeeded
  split at succeeded
  · cases succeeded
  · cases succeeded
    exact ⟨rfl, rfl⟩

/-- Establishing a session stores it and nothing else. -/
theorem establish_records (kind : AuditEventKind) (tenant : TenantContext)
    (external : ExternalIdentity) (resolved : ResolvedPrincipal) (now : Int)
    (self : AuthMesh) :
    (finalState
        (establish environment kind tenant external resolved now
          self)).records =
      (self.withSession environment tenant resolved.identity.id
        now).records := by
  rw [establish_eq]
  cases environment.auditFault self.auditSequence with
  | some err => rfl
  | none =>
      dsimp only
      cases self.contextFor environment tenant resolved.principal _ now <;> rfl

theorem settleDecision_records (self : AuthMesh) (context : RuntimeContext)
    (capability : Capability) (decision : AuthorizationDecision) (now : Int)
    (authorityRevision : Nat) :
    (self.settleDecision environment context capability decision now
      authorityRevision).2.records = self.records := by
  unfold settleDecision
  cases fault : environment.auditFault self.auditSequence with
  | none =>
      rw [recordDecision_ok fault]
      rfl
  | some failure =>
      obtain ⟨_, refused⟩ :=
        recordDecision_error context capability decision now fault
      rw [refused]
      rfl

theorem authorizeRequest_records (self : AuthMesh) (context : RuntimeContext)
    (request : AuthorizationRequest)
    (resourceAttributes : Option ResourceAttributes) (now : Int)
    (authorityRevision : Nat) :
    (self.authorizeRequestWithAuthorityRevision environment context request
      resourceAttributes now authorityRevision).2.records = self.records := by
  unfold authorizeRequestWithAuthorityRevision
  cases self.policy context.tenant with
  | error err => rfl
  | ok policy => exact settleDecision_records self context _ _ now _

theorem linked_records (self : AuthMesh) (known : Option Identity)
    (key : IdentityKey) (claims : Claims) (binding : ExternalBinding) :
    let linked := (self.withMissingIdentity known key claims).withBinding
      binding
    linked.stores.principals.principals = self.stores.principals.principals ∧
      linked.stores.sessions = self.stores.sessions ∧
      linked.stores.delegations = self.stores.delegations ∧
      linked.stores.runs = self.stores.runs := by
  unfold withBinding
  cases known with
  | some identity =>
      dsimp only [withMissingIdentity]
      split <;> exact ⟨rfl, rfl, rfl, rfl⟩
  | none =>
      dsimp only [withMissingIdentity]
      split <;> exact ⟨rfl, rfl, rfl, rfl⟩

/-! ## One operation at a time -/

variable {self : AuthMesh} {call : MeshCall}

theorem stopped_change {tenantId : String} {agent : PrincipalId}
    {state : AgentState}
    (operation : call.operation.stops tenantId agent state) :
    RecordsChange self call
      (finalState
        (setAgentState call.environment tenantId agent state call.now
          self)).records := by
  rw [setAgentState_eq]
  cases tenantFound : self.tenant tenantId with
  | error err => exact .unchanged
  | ok tenant =>
      dsimp only
      cases written : self.stores.principals.setAgentState tenant agent
          state with
      | error err => exact .unchanged
      | ok pair =>
          obtain ⟨principal, stored, inTenant, isAgent, principals⟩ :=
            MemoryPrincipalStore.setAgentState_ok written
          obtain ⟨_, part⟩ := pair
          cases principals
          dsimp only
          rw [finish_records]
          exact .agentStopped tenantId agent state tenant principal operation
            tenantFound stored inTenant isAgent

theorem signIn_records (tenantId : String) (response : AuthResponse)
    (now : Int) (self : AuthMesh) :
    (finalState (signIn environment tenantId response now self)).records =
      match self.signInGrounds environment tenantId response with
      | .error _ => self.records
      | .ok (tenant, _, resolved) =>
          (self.withSession environment tenant resolved.identity.id
            now).records := by
  rw [signIn_eq]
  cases self.signInGrounds environment tenantId response with
  | error err => rfl
  | ok found => exact establish_records .login _ _ _ now self

theorem signUp_records (tenantId : String) (response : AuthResponse)
    (registration : Registration) (now : Int) (self : AuthMesh) :
    (finalState
        (signUp environment tenantId response registration now
          self)).records =
      match self.signUpGrounds environment tenantId response registration with
      | .error _ => self.records
      | .ok (tenant, external, claims) =>
          ((self.withAccount tenant external registration.kind claims
            now).withSession environment tenant
              (identityIdFor (identityKey tenant external)) now).records := by
  rw [signUp_eq]
  cases self.signUpGrounds environment tenantId response registration with
  | error err => rfl
  | ok found => exact establish_records .accountLinked _ _ _ now _

/-- A link is made whether or not the binding is refused in the end. -/
theorem linkAccount_records (tenantId : String) (principalId : PrincipalId)
    (response : AuthResponse) (now : Int) (self : AuthMesh) :
    (finalState
        (linkAccount environment tenantId principalId response now
          self)).records =
      match self.linkGrounds environment tenantId principalId response with
      | .error _ => self.records
      | .ok (tenant, external, principal, known) =>
          ((self.withMissingIdentity known (identityKey tenant external)
            principal.claims).withBinding
              (newBinding (identityKey tenant external) principalId
                now)).records := by
  rw [linkAccount_eq]
  cases self.linkGrounds environment tenantId principalId response with
  | error err => rfl
  | ok found =>
      obtain ⟨tenant, external, principal, known⟩ := found
      have sameBindings := withMissingIdentity_principals self known
        (identityKey tenant external) principal.claims
      dsimp only
      cases filed : self.stores.principals.bindings[
          identityKey tenant external]? with
      | none =>
          dsimp only
          rw [finish_records]
      | some existing =>
          -- Nothing is bound anew: the linked state is the final one.
          have kept : (self.withMissingIdentity known
              (identityKey tenant external) principal.claims).withBinding
                (newBinding (identityKey tenant external) principalId now) =
              self.withMissingIdentity known (identityKey tenant external)
                principal.claims := by
            unfold withBinding
            rw [sameBindings,
              show self.stores.principals.bindings[(newBinding
                (identityKey tenant external) principalId now).key]? =
                  some existing from filed]
          rw [kept]
          dsimp only
          split
          · rfl
          · rw [finish_records]

theorem signIn_change {tenantId : String} {response : AuthResponse}
    (operation : call.operation = .signIn tenantId response) :
    RecordsChange self call
      (finalState
        (signIn call.environment tenantId response call.now self)).records := by
  rw [signIn_records]
  cases grounds : self.signInGrounds call.environment tenantId response with
  | error err => exact .unchanged
  | ok found =>
      obtain ⟨tenant, external, resolved⟩ := found
      exact .signedIn tenantId response tenant external resolved operation
        grounds

theorem signUp_records_change {tenantId : String} {response : AuthResponse}
    {registration : Registration}
    (operation : call.operation = .signUp tenantId response registration) :
    RecordsChange self call
      (finalState
        (signUp call.environment tenantId response registration call.now
          self)).records := by
  rw [signUp_records]
  cases grounds : self.signUpGrounds call.environment tenantId response
      registration with
  | error err => exact .unchanged
  | ok found =>
      obtain ⟨tenant, external, claims⟩ := found
      exact .signedUp tenantId response registration tenant external claims
        operation grounds

theorem linkAccount_change {tenantId : String} {principalId : PrincipalId}
    {response : AuthResponse}
    (operation : call.operation = .linkAccount tenantId principalId response) :
    RecordsChange self call
      (finalState
        (linkAccount call.environment tenantId principalId response call.now
          self)).records := by
  rw [linkAccount_records]
  cases grounds : self.linkGrounds call.environment tenantId principalId
      response with
  | error err => exact .unchanged
  | ok found =>
      obtain ⟨tenant, external, principal, known⟩ := found
      exact .linked tenantId principalId response tenant external principal
        known operation grounds

theorem logout_change {tenantId : String} {sessionId : SessionId}
    (operation : call.operation = .logout tenantId sessionId) :
    RecordsChange self call
      (finalState
        (logout call.environment tenantId sessionId call.now
          self)).records := by
  rw [logout_eq]
  cases tenantFound : self.tenant tenantId with
  | error err => exact .unchanged
  | ok tenant =>
      dsimp only
      cases written : self.stores.sessions.revokeSession tenant sessionId
          call.now with
      | error err => exact .unchanged
      | ok pair =>
          obtain ⟨session, stored, inTenant, sessions⟩ :=
            MemorySessionStore.revokeSession_ok written
          obtain ⟨_, part⟩ := pair
          cases sessions
          dsimp only
          rw [finish_records]
          exact .loggedOut tenantId sessionId tenant session operation
            tenantFound stored inTenant

theorem delegate_records_change {tenantId : String}
    {request : DelegationRequest}
    (operation : call.operation = .delegate tenantId request) :
    RecordsChange self call
      (finalState
        (delegate call.environment tenantId request call.now
          self)).records := by
  rw [delegate_eq]
  cases grounds : self.delegateGrounds call.environment tenantId request
      call.now with
  | error err => exact .unchanged
  | ok found =>
      obtain ⟨tenant, delegation⟩ := found
      dsimp only
      rw [finish_records]
      exact .delegated tenantId request tenant delegation operation grounds

theorem revokeDelegation_records_change {tenantId : String}
    {delegationId : DelegationId}
    (operation : call.operation = .revokeDelegation tenantId delegationId) :
    RecordsChange self call
      (finalState
        (revokeDelegation call.environment tenantId delegationId call.now
          self)).records := by
  rw [revokeDelegation_eq]
  cases tenantFound : self.tenant tenantId with
  | error err => exact .unchanged
  | ok tenant =>
      dsimp only
      cases written : self.stores.delegations.revokeDelegation tenant
          delegationId call.now with
      | error err => exact .unchanged
      | ok pair =>
          obtain ⟨delegation, stored, inTenant, delegations⟩ :=
            MemoryDelegationStore.revokeDelegation_ok written
          obtain ⟨_, part⟩ := pair
          cases delegations
          dsimp only
          rw [finish_records]
          exact .delegationRevoked tenantId delegationId tenant delegation
            operation tenantFound stored inTenant

theorem createAgentRun_change {tenantId : String} {agentId : PrincipalId}
    {request : RunCreationRequest} {authorityRevision : Nat}
    {contractFingerprint : String}
    (operation : call.operation = .createAgentRun tenantId agentId request
      authorityRevision contractFingerprint) :
    RecordsChange self call
      (finalState
        (createAgentRun call.environment tenantId agentId request call.now
          authorityRevision contractFingerprint self)).records := by
  have chosen : ∀ id, (self.withRunChosen id).records = self.records := by
    intro id
    cases id <;> rfl
  have chosenStores : ∀ id, (self.withRunChosen id).stores = self.stores := by
    intro id
    cases id <;> rfl
  rw [createAgentRun_eq]
  cases grounds : self.createRunGrounds tenantId agentId request call.now
      authorityRevision contractFingerprint with
  | error err => exact .unchanged
  | ok found =>
      obtain ⟨tenant, run⟩ := found
      dsimp only
      split
      · rw [finalState_error, chosen]
        exact .unchanged
      · rename_i absent
        have fresh : self.stores.runs.runs[run.id]? = none := by
          apply Std.ExtTreeMap.getElem?_eq_none
          simpa using absent
        have written : ((self.withRunChosen request.id).withRun run).records =
            (self.withRun run).records := by
          unfold records withRun changeRuns
          rw [chosenStores]
        rw [finish_records, written]
        exact .runCreated tenantId agentId request authorityRevision
          contractFingerprint tenant run operation grounds fresh

theorem cancelAgentRun_change {tenantId : String} {runId : RunId}
    (operation : call.operation = .cancelAgentRun tenantId runId) :
    RecordsChange self call
      (finalState
        (cancelAgentRun call.environment tenantId runId call.now
          self)).records := by
  rw [cancelAgentRun_eq]
  cases tenantFound : self.tenant tenantId with
  | error err => exact .unchanged
  | ok tenant =>
      dsimp only
      cases found : self.agentRun tenant runId with
      | error err => exact .unchanged
      | ok listed =>
          cases listed with
          | none => exact .unchanged
          | some run =>
              have facts : _ ∧ _ := getScoped_eq_some_iff.mp
                (except_mapError_eq_ok_iff.mp found)
              dsimp only
              cases written : self.stores.runs.updateRun tenant
                  { run with
                    status := .cancelled, cancelledAt := some call.now } with
              | error err => exact .unchanged
              | ok pair =>
                  obtain ⟨cancelled, runs⟩ := pair
                  obtain ⟨rfl, _, rfl⟩ := MemoryRunStore.updateRun_ok written
                  dsimp only
                  rw [finish_records]
                  exact .runCancelled tenantId runId tenant run operation
                    tenantFound facts.1 facts.2

/-- Every call leaves the records alone or changes them in one of the listed
ways. -/
theorem perform_records (self : AuthMesh) (call : MeshCall) :
    RecordsChange self call (self.perform call).records := by
  have same : ∀ {after : AuthMesh}, after.records = self.records →
      RecordsChange self call after.records := by
    intro after framed
    rw [framed]
    exact .unchanged
  unfold perform
  cases operation : call.operation with
  | putTenant tenant => exact .unchanged
  | putPolicy policy => exact .unchanged
  | signIn tenantId response => exact signIn_change operation
  | signUp tenantId response registration =>
      exact signUp_records_change operation
  | linkAccount tenantId principalId response =>
      exact linkAccount_change operation
  | logout tenantId sessionId => exact logout_change operation
  | delegate tenantId request => exact delegate_records_change operation
  | revokeDelegation tenantId delegationId =>
      exact revokeDelegation_records_change operation
  | suspendAgent tenantId agent =>
      exact stopped_change (Or.inl ⟨operation, rfl⟩)
  | revokeAgent tenantId agent =>
      exact stopped_change (Or.inr (Or.inl ⟨operation, rfl⟩))
  | retireAgent tenantId agent =>
      exact stopped_change (Or.inr (Or.inr ⟨operation, rfl⟩))
  | createAgentRun tenantId agentId request revision fingerprint =>
      exact createAgentRun_change operation
  | cancelAgentRun tenantId runId => exact cancelAgentRun_change operation
  | authorize context capability revision =>
      apply same
      dsimp only
      unfold authorizeWithAuthorityRevision
      cases self.policy context.tenant with
      | error err => rfl
      | ok policy => exact settleDecision_records self context _ _ call.now _
  | authorizeRequest context request attributes revision =>
      exact same (authorizeRequest_records self context request attributes
        call.now revision)
  | authorizeRunRequest context runId request attributes revision =>
      apply same
      dsimp only
      unfold authorizeRunRequestWithAuthorityRevision
      cases self.checkedRunForRequest context runId request attributes
          call.now with
      | ok run => exact authorizeRequest_records self _ _ _ call.now _
      | error refusal => exact settleDecision_records self _ _ _ call.now _

/-! ## Granted calls -/

theorem perform_signIn {tenantId : String} {response : AuthResponse}
    {tenant : TenantContext} {external : ExternalIdentity}
    {resolved : ResolvedPrincipal}
    (operation : call.operation = .signIn tenantId response)
    (grounds : self.signInGrounds call.environment tenantId response =
      .ok (tenant, external, resolved)) :
    (self.perform call).records =
      (self.withSession call.environment tenant resolved.identity.id
        call.now).records := by
  unfold perform
  rw [operation]
  dsimp only
  rw [signIn_records, grounds]

theorem perform_signUp {tenantId : String} {response : AuthResponse}
    {registration : Registration} {tenant : TenantContext}
    {external : ExternalIdentity} {claims : Claims}
    (operation : call.operation = .signUp tenantId response registration)
    (grounds : self.signUpGrounds call.environment tenantId response
      registration = .ok (tenant, external, claims)) :
    (self.perform call).records =
      ((self.withAccount tenant external registration.kind claims
        call.now).withSession call.environment tenant
          (identityIdFor (identityKey tenant external)) call.now).records := by
  unfold perform
  rw [operation]
  dsimp only
  rw [signUp_records, grounds]

theorem perform_linkAccount {tenantId : String} {principalId : PrincipalId}
    {response : AuthResponse} {tenant : TenantContext}
    {external : ExternalIdentity} {principal : Principal}
    {known : Option Identity}
    (operation : call.operation = .linkAccount tenantId principalId response)
    (grounds : self.linkGrounds call.environment tenantId principalId
      response = .ok (tenant, external, principal, known)) :
    (self.perform call).records =
      ((self.withMissingIdentity known (identityKey tenant external)
        principal.claims).withBinding
          (newBinding (identityKey tenant external) principalId
            call.now)).records := by
  unfold perform
  rw [operation]
  dsimp only
  rw [linkAccount_records, grounds]

/-! ## One store at a time -/

def bindingMap (self : AuthMesh) : KeyedMap IdentityKey ExternalBinding :=
  self.stores.principals.bindings

def sessionMap (self : AuthMesh) : KeyedMap SessionId Session :=
  self.stores.sessions.sessions

/-- The call opens a session for an identity that it proved. -/
inductive OpensSession (self : AuthMesh) (call : MeshCall)
    (tenant : TenantContext) (external : ExternalIdentity) :
    IdentityId → Prop where
  | signIn (tenantId : String) (response : AuthResponse)
      (resolved : ResolvedPrincipal)
      (operation : call.operation = .signIn tenantId response)
      (grounds : self.signInGrounds call.environment tenantId response =
        .ok (tenant, external, resolved)) :
      OpensSession self call tenant external resolved.identity.id
  | signUp (tenantId : String) (response : AuthResponse)
      (registration : Registration) (claims : Claims)
      (operation : call.operation = .signUp tenantId response registration)
      (grounds : self.signUpGrounds call.environment tenantId response
        registration = .ok (tenant, external, claims)) :
      OpensSession self call tenant external
        (identityIdFor (identityKey tenant external))

inductive SessionsChange (self : AuthMesh) (call : MeshCall) :
    KeyedMap SessionId Session → Prop where
  | unchanged : SessionsChange self call self.sessionMap
  | opened (tenant : TenantContext) (external : ExternalIdentity)
      (identityId : IdentityId)
      (opens : OpensSession self call tenant external identityId) :
      SessionsChange self call
        (self.sessionMap.insert
          (self.openedSession call.environment tenant identityId call.now).id
          (self.openedSession call.environment tenant identityId call.now))
  | revoked (tenantId : String) (sessionId : SessionId)
      (tenant : TenantContext) (session : Session)
      (operation : call.operation = .logout tenantId sessionId)
      (tenantFound : self.tenant tenantId = .ok tenant)
      (stored : self.sessionMap[sessionId]? = some session)
      (inTenant : session.tenantId = tenant.tenantId) :
      SessionsChange self call
        (self.sessionMap.insert sessionId
          { session with revokedAt := some call.now })

/-- Identities, principals and bindings change together. -/
inductive AccountsChange (self : AuthMesh) (call : MeshCall) :
    MemoryIdentityStore → MemoryPrincipalStore → Prop where
  | unchanged : AccountsChange self call self.stores.identities
      self.stores.principals
  | signedUp (tenantId : String) (response : AuthResponse)
      (registration : Registration) (tenant : TenantContext)
      (external : ExternalIdentity) (claims : Claims)
      (operation : call.operation = .signUp tenantId response registration)
      (grounds : self.signUpGrounds call.environment tenantId response
        registration = .ok (tenant, external, claims)) :
      AccountsChange self call
        (self.withAccount tenant external registration.kind claims
          call.now).stores.identities
        (self.withAccount tenant external registration.kind claims
          call.now).stores.principals
  | linked (tenantId : String) (principalId : PrincipalId)
      (response : AuthResponse) (tenant : TenantContext)
      (external : ExternalIdentity) (principal : Principal)
      (known : Option Identity)
      (operation : call.operation = .linkAccount tenantId principalId response)
      (grounds : self.linkGrounds call.environment tenantId principalId
        response = .ok (tenant, external, principal, known)) :
      AccountsChange self call
        ((self.withMissingIdentity known (identityKey tenant external)
          principal.claims).withBinding
            (newBinding (identityKey tenant external) principalId
              call.now)).stores.identities
        ((self.withMissingIdentity known (identityKey tenant external)
          principal.claims).withBinding
            (newBinding (identityKey tenant external) principalId
              call.now)).stores.principals
  | stopped (tenantId : String) (agent : PrincipalId) (state : AgentState)
      (tenant : TenantContext) (principal : Principal)
      (operation : call.operation.stops tenantId agent state)
      (tenantFound : self.tenant tenantId = .ok tenant)
      (stored : self.principalMap[agent]? = some principal)
      (inTenant : principal.tenantId = tenant.tenantId)
      (isAgent : principal.kind = .agent) :
      AccountsChange self call self.stores.identities
        { self.stores.principals with
          principals := self.principalMap.insert agent
            { principal with agentState := some state } }

inductive RunsChange (self : AuthMesh) (call : MeshCall) :
    KeyedMap RunId AgentRun → Prop where
  | unchanged : RunsChange self call self.stores.runs.runs
  | created (tenantId : String) (agentId : PrincipalId)
      (request : RunCreationRequest) (authorityRevision : Nat)
      (contractFingerprint : String) (tenant : TenantContext) (run : AgentRun)
      (operation : call.operation = .createAgentRun tenantId agentId request
        authorityRevision contractFingerprint)
      (grounds : self.createRunGrounds tenantId agentId request call.now
        authorityRevision contractFingerprint = .ok (tenant, run))
      (fresh : self.stores.runs.runs[run.id]? = none) :
      RunsChange self call (self.stores.runs.runs.insert run.id run)
  | cancelled (tenantId : String) (runId : RunId) (tenant : TenantContext)
      (run : AgentRun)
      (operation : call.operation = .cancelAgentRun tenantId runId)
      (tenantFound : self.tenant tenantId = .ok tenant)
      (stored : self.stores.runs.runs[runId]? = some run)
      (inTenant : run.tenantId = tenant.tenantId) :
      RunsChange self call
        (self.stores.runs.runs.insert run.id
          { run with
            status := .cancelled, cancelledAt := some call.now })

namespace RecordsChange

variable {after : Records}

theorem linked_sessions (known : Option Identity) (key : IdentityKey)
    (claims : Claims) (binding : ExternalBinding) :
    ((self.withMissingIdentity known key claims).withBinding
      binding).records.sessions = self.stores.sessions :=
  (linked_records self known key claims binding).2.1

theorem linked_runs (known : Option Identity) (key : IdentityKey)
    (claims : Claims) (binding : ExternalBinding) :
    ((self.withMissingIdentity known key claims).withBinding
      binding).records.runs = self.stores.runs :=
  (linked_records self known key claims binding).2.2.2

theorem sessions (change : RecordsChange self call after) :
    SessionsChange self call after.sessions.sessions := by
  cases change with
  | unchanged => exact .unchanged
  | signedIn tenantId response tenant external resolved operation grounds =>
      exact .opened tenant external resolved.identity.id
        (.signIn tenantId response resolved operation grounds)
  | signedUp tenantId response registration tenant external claims operation
      grounds =>
      exact .opened tenant external _
        (.signUp tenantId response registration claims operation grounds)
  | linked =>
      rw [linked_sessions]
      exact .unchanged
  | loggedOut tenantId sessionId tenant session operation tenantFound stored
      inTenant =>
      exact .revoked tenantId sessionId tenant session operation tenantFound
        stored inTenant
  | delegated => exact .unchanged
  | delegationRevoked => exact .unchanged
  | agentStopped => exact .unchanged
  | runCreated => exact .unchanged
  | runCancelled => exact .unchanged

theorem accounts (change : RecordsChange self call after) :
    AccountsChange self call after.identities after.principals := by
  cases change with
  | unchanged => exact .unchanged
  | signedIn => exact .unchanged
  | signedUp tenantId response registration tenant external claims operation
      grounds =>
      exact .signedUp tenantId response registration tenant external claims
        operation grounds
  | linked tenantId principalId response tenant external principal known
      operation grounds =>
      exact .linked tenantId principalId response tenant external principal
        known operation grounds
  | loggedOut => exact .unchanged
  | delegated => exact .unchanged
  | delegationRevoked => exact .unchanged
  | agentStopped tenantId agent state tenant principal operation tenantFound
      stored inTenant isAgent =>
      exact .stopped tenantId agent state tenant principal operation
        tenantFound stored inTenant isAgent
  | runCreated => exact .unchanged
  | runCancelled => exact .unchanged

theorem runs (change : RecordsChange self call after) :
    RunsChange self call after.runs.runs := by
  cases change with
  | unchanged => exact .unchanged
  | signedIn => exact .unchanged
  | signedUp => exact .unchanged
  | linked =>
      rw [linked_runs]
      exact .unchanged
  | loggedOut => exact .unchanged
  | delegated => exact .unchanged
  | delegationRevoked => exact .unchanged
  | agentStopped => exact .unchanged
  | runCreated tenantId agentId request authorityRevision contractFingerprint
      tenant run operation grounds fresh =>
      exact .created tenantId agentId request authorityRevision
        contractFingerprint tenant run operation grounds fresh
  | runCancelled tenantId runId tenant run operation tenantFound stored
      inTenant =>
      exact .cancelled tenantId runId tenant run operation tenantFound stored
        inTenant

end RecordsChange

end AuthMesh

end AuthBoundry
