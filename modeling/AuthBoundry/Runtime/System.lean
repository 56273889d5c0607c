import AuthBoundry.Authz.DenyRules
import AuthBoundry.Library.Reachability
import AuthBoundry.Runtime.Accounts
import AuthBoundry.Runtime.Authorize

/-!
# The mesh as a transition system

A call is one operation at one time in one environment.  A state is reachable
when some sequence of calls leads to it from a mesh over empty stores.  The
change lemmas say once what a call can do to the stored delegations and to the
stored principals; every invariant is proved from them.
-/

namespace AuthBoundry

open Library
open Library.Stateful

inductive MeshOperation where
  | putTenant (tenant : TenantContext)
  | putPolicy (policy : Policy)
  | signIn (tenantId : String) (response : AuthResponse)
  | signUp (tenantId : String) (response : AuthResponse)
      (registration : Registration)
  | linkAccount (tenantId : String) (principalId : PrincipalId)
      (response : AuthResponse)
  | logout (tenantId : String) (sessionId : SessionId)
  | delegate (tenantId : String) (request : DelegationRequest)
  | revokeDelegation (tenantId : String) (delegationId : DelegationId)
  | suspendAgent (tenantId : String) (agent : PrincipalId)
  | revokeAgent (tenantId : String) (agent : PrincipalId)
  | retireAgent (tenantId : String) (agent : PrincipalId)
  | createAgentRun (tenantId : String) (agentId : PrincipalId)
      (request : RunCreationRequest) (authorityRevision : Nat)
      (contractFingerprint : String)
  | cancelAgentRun (tenantId : String) (runId : RunId)
  | authorize (context : RuntimeContext) (capability : Capability)
      (authorityRevision : Nat)
  | authorizeRequest (context : RuntimeContext)
      (request : AuthorizationRequest)
      (resourceAttributes : Option ResourceAttributes)
      (authorityRevision : Nat)
  | authorizeRunRequest (context : RuntimeContext) (runId : RunId)
      (request : AuthorizationRequest)
      (resourceAttributes : Option ResourceAttributes)
      (authorityRevision : Nat)

structure MeshCall where
  environment : Environment
  now : Int
  operation : MeshOperation

namespace AuthMesh

def perform (self : AuthMesh) (call : MeshCall) : AuthMesh :=
  let environment := call.environment
  let now := call.now
  match call.operation with
  | .putTenant tenant =>
      self.changeTenants (self.stores.tenants.putTenant tenant)
  | .putPolicy policy => self.changePolicies (self.stores.policies.put policy)
  | .signIn tenantId response =>
      finalState (signIn environment tenantId response now self)
  | .signUp tenantId response registration =>
      finalState (signUp environment tenantId response registration now self)
  | .linkAccount tenantId principalId response =>
      finalState
        (linkAccount environment tenantId principalId response now self)
  | .logout tenantId sessionId =>
      finalState (logout environment tenantId sessionId now self)
  | .delegate tenantId request =>
      finalState (delegate environment tenantId request now self)
  | .revokeDelegation tenantId delegationId =>
      finalState (revokeDelegation environment tenantId delegationId now self)
  | .suspendAgent tenantId agent =>
      finalState (suspendAgent environment tenantId agent now self)
  | .revokeAgent tenantId agent =>
      finalState (revokeAgent environment tenantId agent now self)
  | .retireAgent tenantId agent =>
      finalState (retireAgent environment tenantId agent now self)
  | .createAgentRun tenantId agentId request revision fingerprint =>
      finalState
        (createAgentRun environment tenantId agentId request now revision
          fingerprint self)
  | .cancelAgentRun tenantId runId =>
      finalState (cancelAgentRun environment tenantId runId now self)
  | .authorize context capability revision =>
      (self.authorizeWithAuthorityRevision environment context capability now
        revision).2
  | .authorizeRequest context request attributes revision =>
      (self.authorizeRequestWithAuthorityRevision environment context request
        attributes now revision).2
  | .authorizeRunRequest context runId request attributes revision =>
      (self.authorizeRunRequestWithAuthorityRevision environment context runId
        request attributes now revision).2

/-- A mesh over empty stores, with any session lifetime. -/
def Fresh (self : AuthMesh) : Prop :=
  ∃ config registry sessionTtl mesh,
    AuthMesh.new config registry .new = .ok mesh ∧
      self = { mesh with sessionTtl }

def system : TransitionSystem AuthMesh MeshCall :=
  { initial := Fresh, step := perform }

/-! ## Views -/

def delegationMap (self : AuthMesh) : KeyedMap DelegationId Delegation :=
  self.stores.delegations.delegations

def principalMap (self : AuthMesh) : KeyedMap PrincipalId Principal :=
  self.stores.principals.principals

/-- The view shows nothing of identities, bindings, sessions, runs and the
audit trail. -/
structure IgnoresAccounts {γ : Type} (view : AuthMesh → γ) : Prop where
  identities : ∀ (self : AuthMesh) part,
    view (self.changeIdentities part) = view self
  bindings : ∀ (self : AuthMesh) bindings,
    view (self.changePrincipals { self.stores.principals with bindings }) =
      view self
  sessions : ∀ (self : AuthMesh) part,
    view (self.changeSessions part) = view self
  runs : ∀ (self : AuthMesh) part runSequence,
    view { self.changeRuns part with runSequence } = view self
  trail : ∀ (self : AuthMesh) audit auditSequence decisions,
    view { self with
      auditSequence, decisions, stores := { self.stores with audit } } =
      view self

theorem delegationMap_ignoresAccounts : IgnoresAccounts delegationMap where
  identities _ _ := rfl
  bindings _ _ := rfl
  sessions _ _ := rfl
  runs _ _ _ := rfl
  trail _ _ _ _ := rfl

theorem principalMap_ignoresAccounts : IgnoresAccounts principalMap where
  identities _ _ := rfl
  bindings _ _ := rfl
  sessions _ _ := rfl
  runs _ _ _ := rfl
  trail _ _ _ _ := rfl

section Frames

variable {γ : Type} {view : AuthMesh → γ} {environment : Environment}

namespace IgnoresAccounts

variable (ignores : IgnoresAccounts view)

include ignores

theorem audit (tenant : TenantContext) (record : AuditRecord) (now : Int) :
    Frames view (AuthMesh.audit environment tenant record now) := by
  intro self
  unfold AuthMesh.audit
  cases environment.auditFault self.auditSequence with
  | some failure =>
      exact ignores.trail self self.stores.audit _ self.decisions
  | none =>
      dsimp only
      split
      · exact ignores.trail self self.stores.audit _ self.decisions
      · rename_i log _
        exact ignores.trail self log _ self.decisions

theorem settleDecision (self : AuthMesh) (context : RuntimeContext)
    (capability : Capability) (decision : AuthorizationDecision) (now : Int)
    (authorityRevision : Nat) :
    view (self.settleDecision environment context capability decision now
      authorityRevision).2 = view self := by
  have recorded : Frames view
      (recordDecision environment context capability decision now) :=
    .bind (ignores.audit context.tenant _ now) fun _ => .inspect _
  have reached := recorded self
  unfold AuthMesh.settleDecision
  cases outcome : recordDecision environment context capability decision now
      self with
  | error failure middle =>
      rw [outcome] at reached
      exact reached
  | ok id middle =>
      rw [outcome] at reached
      exact (ignores.trail middle middle.stores.audit middle.auditSequence
        _).trans reached

theorem openSession (tenant : TenantContext) (identityId : IdentityId)
    (now : Int) :
    Frames view (AuthMesh.openSession environment tenant identityId now) :=
  .bind (.inspect _) fun _ =>
    .commitPart fun self _ part _ => ignores.sessions self part

theorem establish (kind : AuditEventKind) (tenant : TenantContext)
    (external : ExternalIdentity) (resolved : ResolvedPrincipal) (now : Int) :
    Frames view
      (AuthMesh.establish environment kind tenant external resolved now) := by
  apply Frames.bind (ignores.openSession tenant resolved.identity.id now)
  intro session
  apply Frames.bind (ignores.audit tenant _ now)
  intro _
  exact .bind (.inspect _) fun _ => .pure _

theorem signIn (tenantId : String) (response : AuthResponse) (now : Int) :
    Frames view (AuthMesh.signIn environment tenantId response now) := by
  apply Frames.bind (.inspect _)
  intro tenant
  apply Frames.bind (.inspect _)
  intro external
  apply Frames.bind (.inspect _)
  intro resolved
  apply Frames.bind (.inspect _)
  intro _
  exact ignores.establish .login tenant external resolved now

theorem linkIdentityRecord (tenant : TenantContext)
    (connector : ProviderName) (subject : ProviderSubject) (claims : Claims) :
    Frames view
      (Resolution.linkIdentityRecord tenant connector subject claims) := by
  apply Frames.bind
    (.commitPart fun self _ part _ => ignores.identities self part)
  intro identity
  apply Frames.bind
    (.commitPart fun self _ part _ => ignores.identities self part)
  intro _
  exact .pure _

theorem linkMissingIdentity (known : Option Identity) (tenant : TenantContext)
    (connector : ProviderName) (subject : ProviderSubject) (claims : Claims) :
    Frames view
      (Resolution.linkMissingIdentity known tenant connector subject
        claims) := by
  cases known with
  | some identity => exact .pure _
  | none =>
      exact .bind (ignores.linkIdentityRecord tenant connector subject claims)
        fun _ => .pure _

theorem bindExternalIdentity (toError : StorageError → AuthError)
    (tenant : TenantContext) (connector : ProviderName)
    (subject : ProviderSubject) (principalId : PrincipalId) (now : Int) :
    Frames view
      (writePrincipals toError fun principals =>
        principals.bindExternalIdentity tenant connector subject principalId
          now) := by
  apply Frames.commitPart
  intro self binding written outcome
  obtain ⟨bindings, rfl⟩ := MemoryPrincipalStore.bindExternalIdentity_ok
    (except_mapError_eq_ok_iff.mp outcome)
  exact ignores.bindings self bindings

theorem linkAccount (tenantId : String) (principalId : PrincipalId)
    (response : AuthResponse) (now : Int) :
    Frames view
      (AuthMesh.linkAccount environment tenantId principalId response now) := by
  apply Frames.bind (.inspect _)
  intro tenant
  apply Frames.bind (.inspect _)
  intro external
  apply Frames.bind
  · apply Frames.bind (.inspect _)
    intro principal
    apply Frames.bind (.inspect _)
    intro known
    apply Frames.bind (ignores.linkMissingIdentity known tenant _ _ _)
    intro _
    exact ignores.bindExternalIdentity _ tenant _ _ principalId now
  · intro binding
    exact .bind (ignores.audit tenant _ now) fun _ => .pure _

theorem logout (tenantId : String) (sessionId : SessionId) (now : Int) :
    Frames view (AuthMesh.logout environment tenantId sessionId now) := by
  apply Frames.bind (.inspect _)
  intro tenant
  apply Frames.bind
    (.commitPart fun self _ part _ => ignores.sessions self part)
  intro _
  exact ignores.audit tenant _ now

theorem createAgentRun (tenantId : String) (agentId : PrincipalId)
    (request : RunCreationRequest) (now : Int) (authorityRevision : Nat)
    (contractFingerprint : String) :
    Frames view
      (AuthMesh.createAgentRun environment tenantId agentId request now
        authorityRevision contractFingerprint) := by
  apply Frames.bind (.inspect _)
  intro tenant
  apply Frames.bind (.inspect _)
  intro delegation
  apply Frames.bind
  · intro self
    cases request.id with
    | some id => rfl
    | none => exact ignores.runs self self.stores.runs (self.runSequence + 1)
  · intro id
    apply Frames.bind (.inspect _)
    intro credential
    apply Frames.bind
      (.commitPart fun self _ part _ =>
        ignores.runs self part self.runSequence)
    intro _
    exact .bind (ignores.audit tenant _ now) fun _ => .pure _

theorem cancelAgentRun (tenantId : String) (runId : RunId) (now : Int) :
    Frames view
      (AuthMesh.cancelAgentRun environment tenantId runId now) := by
  apply Frames.bind (.inspect _)
  intro tenant
  apply Frames.bind (.inspect _)
  intro run
  apply Frames.bind
    (.commitPart fun self _ part _ => ignores.runs self part self.runSequence)
  intro cancelled
  exact .bind (ignores.audit tenant _ now) fun _ => .pure _

theorem authorizeWithAuthorityRevision (self : AuthMesh)
    (context : RuntimeContext) (capability : Capability) (now : Int)
    (authorityRevision : Nat) :
    view (self.authorizeWithAuthorityRevision environment context capability
      now authorityRevision).2 = view self := by
  unfold AuthMesh.authorizeWithAuthorityRevision
  cases self.policy context.tenant with
  | error err => rfl
  | ok policy => exact ignores.settleDecision self context _ _ now _

theorem authorizeRequestWithAuthorityRevision (self : AuthMesh)
    (context : RuntimeContext) (request : AuthorizationRequest)
    (resourceAttributes : Option ResourceAttributes) (now : Int)
    (authorityRevision : Nat) :
    view (self.authorizeRequestWithAuthorityRevision environment context
      request resourceAttributes now authorityRevision).2 = view self := by
  unfold AuthMesh.authorizeRequestWithAuthorityRevision
  cases self.policy context.tenant with
  | error err => rfl
  | ok policy => exact ignores.settleDecision self context _ _ now _

theorem authorizeRunRequestWithAuthorityRevision (self : AuthMesh)
    (context : RuntimeContext) (runId : RunId)
    (request : AuthorizationRequest)
    (resourceAttributes : Option ResourceAttributes) (now : Int)
    (authorityRevision : Nat) :
    view (self.authorizeRunRequestWithAuthorityRevision environment context
      runId request resourceAttributes now authorityRevision).2 = view self := by
  unfold AuthMesh.authorizeRunRequestWithAuthorityRevision
  cases self.checkedRunForRequest context runId request resourceAttributes
      now with
  | ok run =>
      exact ignores.authorizeRequestWithAuthorityRevision self _ _ _ now _
  | error refusal => exact ignores.settleDecision self _ _ _ now _

end IgnoresAccounts

theorem setAgentState_frames (ignores : IgnoresAccounts view)
    (hidden : ∀ (self : AuthMesh) part,
      view (self.changePrincipals part) = view self)
    (tenantId : String) (agent : PrincipalId) (state : AgentState)
    (now : Int) :
    Frames view (setAgentState environment tenantId agent state now) := by
  apply Frames.bind (.inspect _)
  intro tenant
  apply Frames.bind (.commitPart fun self _ part _ => hidden self part)
  intro _
  exact ignores.audit tenant _ now

theorem signUp_frames (ignores : IgnoresAccounts view)
    (hidden : ∀ (self : AuthMesh) part,
      view (self.changePrincipals part) = view self)
    (tenantId : String) (response : AuthResponse) (registration : Registration)
    (now : Int) :
    Frames view (signUp environment tenantId response registration now) := by
  apply Frames.bind (.inspect _)
  intro tenant
  apply Frames.bind (.inspect _)
  intro _
  apply Frames.bind (.inspect _)
  intro external
  apply Frames.bind (.inspect _)
  intro claims
  apply Frames.bind
  · apply Frames.bind (.inspect _)
    intro _
    apply Frames.bind (ignores.linkIdentityRecord tenant _ _ claims)
    intro identity
    apply Frames.bind (.commitPart fun self _ part _ => hidden self part)
    intro _
    apply Frames.bind
      (ignores.bindExternalIdentity _ tenant _ _ _ now)
    intro binding
    exact .pure _
  · intro resolved
    exact ignores.establish .accountLinked tenant external resolved now

theorem delegate_frames (ignores : IgnoresAccounts view)
    (hidden : ∀ (self : AuthMesh) part,
      view (self.changeDelegations part) = view self)
    (tenantId : String) (request : DelegationRequest) (now : Int) :
    Frames view (delegate environment tenantId request now) := by
  apply Frames.bind (.inspect _)
  intro tenant
  apply Frames.bind (.inspect _)
  intro checked
  apply Frames.bind (.commitPart fun self _ part _ => hidden self part)
  intro delegation
  exact .bind (ignores.audit tenant _ now) fun _ => .pure _

theorem revokeDelegation_frames (ignores : IgnoresAccounts view)
    (hidden : ∀ (self : AuthMesh) part,
      view (self.changeDelegations part) = view self)
    (tenantId : String) (delegationId : DelegationId) (now : Int) :
    Frames view (revokeDelegation environment tenantId delegationId now) := by
  apply Frames.bind (.inspect _)
  intro tenant
  apply Frames.bind (.commitPart fun self _ part _ => hidden self part)
  intro _
  exact ignores.audit tenant _ now

end Frames

/-! ## What a call changes -/

/-- What a call can do to the stored delegations. -/
inductive DelegationChange (self : AuthMesh) (call : MeshCall) :
    KeyedMap DelegationId Delegation → Prop where
  | unchanged : DelegationChange self call self.delegationMap
  | created (tenantId : String) (request : DelegationRequest)
      (tenant : TenantContext) (delegation : Delegation)
      (operation : call.operation = .delegate tenantId request)
      (tenantFound : self.tenant tenantId = .ok tenant)
      (checked : self.checkedDelegation call.environment tenant request
        call.now = .ok delegation)
      (fresh : self.delegationMap[delegation.id]? = none)
      (different : delegation.delegator ≠ delegation.delegate) :
      DelegationChange self call
        (self.delegationMap.insert delegation.id delegation)
  | revoked (tenantId : String) (delegationId : DelegationId)
      (tenant : TenantContext) (delegation : Delegation)
      (operation : call.operation = .revokeDelegation tenantId delegationId)
      (tenantFound : self.tenant tenantId = .ok tenant)
      (stored : self.delegationMap[delegationId]? = some delegation)
      (inTenant : delegation.tenantId = tenant.tenantId) :
      DelegationChange self call
        (self.delegationMap.insert delegationId
          { delegation with revokedAt := some call.now })

/-- What a call can do to the stored principals. -/
inductive PrincipalChange (self : AuthMesh) (call : MeshCall) :
    KeyedMap PrincipalId Principal → Prop where
  | unchanged : PrincipalChange self call self.principalMap
  | provisioned (tenantId : String) (response : AuthResponse)
      (registration : Registration) (tenant : TenantContext)
      (external : ExternalIdentity) (claims : Claims)
      (operation : call.operation = .signUp tenantId response registration)
      (tenantFound : self.tenant tenantId = .ok tenant)
      (proven : self.authenticateExternal call.environment tenant response =
        .ok external) :
      PrincipalChange self call
        (self.principalMap.insert
          (principalIdFor tenant.tenantId external.connector external.subject)
          (Resolution.provisionedPrincipal tenant external registration.kind
            claims))
  | stateSet (principalId : PrincipalId) (principal : Principal)
      (state : AgentState)
      (stored : self.principalMap[principalId]? = some principal)
      (agent : principal.kind = .agent) :
      PrincipalChange self call
        (self.principalMap.insert principalId
          { principal with agentState := some state })

theorem delegate_change {self : AuthMesh} {call : MeshCall} {tenantId : String}
    {request : DelegationRequest}
    (operation : call.operation = .delegate tenantId request) :
    DelegationChange self call
      (finalState
        (delegate call.environment tenantId request call.now
          self)).delegationMap := by
  unfold delegate
  rw [finalState_inspect_bind]
  cases tenantFound : self.tenant tenantId with
  | error err => exact .unchanged
  | ok tenant =>
      dsimp only
      rw [finalState_inspect_bind]
      cases checked : self.checkedDelegation call.environment tenant request
          call.now with
      | error err => exact .unchanged
      | ok prepared =>
          dsimp only
          unfold writeDelegations
          rw [finalState_commitPart_bind]
          cases written : (self.stores.delegations.createDelegation
              prepared).mapError delegationRefused with
          | error err => exact .unchanged
          | ok pair =>
              obtain ⟨delegation, delegations⟩ := pair
              obtain ⟨rfl, fresh, different, rfl⟩ :=
                MemoryDelegationStore.createDelegation_ok
                  (except_mapError_eq_ok_iff.mp written)
              have framed : Frames delegationMap (do
                  audit call.environment tenant
                    ((((AuditRecord.new .delegationCreated).principal
                      delegation.delegate).delegation delegation.id).addMeta
                      "delegator" delegation.delegator.value) call.now
                  pure delegation : MeshM Delegation) :=
                .bind (delegationMap_ignoresAccounts.audit tenant _ call.now)
                  fun _ => .pure _
              dsimp only
              rw [framed]
              exact .created tenantId request tenant delegation operation
                tenantFound checked fresh different

theorem revokeDelegation_change {self : AuthMesh} {call : MeshCall}
    {tenantId : String} {delegationId : DelegationId}
    (operation : call.operation = .revokeDelegation tenantId delegationId) :
    DelegationChange self call
      (finalState
        (revokeDelegation call.environment tenantId delegationId call.now
          self)).delegationMap := by
  unfold revokeDelegation
  rw [finalState_inspect_bind]
  cases tenantFound : self.tenant tenantId with
  | error err => exact .unchanged
  | ok tenant =>
      dsimp only
      unfold writeDelegations
      rw [finalState_commitPart_bind]
      cases written : (self.stores.delegations.revokeDelegation tenant
          delegationId call.now).mapError delegationRefused with
      | error err => exact .unchanged
      | ok pair =>
          obtain ⟨result, delegations⟩ := pair
          obtain ⟨delegation, stored, inTenant, rfl⟩ :=
            MemoryDelegationStore.revokeDelegation_ok
              (except_mapError_eq_ok_iff.mp written)
          dsimp only
          rw [delegationMap_ignoresAccounts.audit tenant _ call.now]
          exact .revoked tenantId delegationId tenant delegation operation
            tenantFound stored inTenant

theorem perform_delegationMap (self : AuthMesh) (call : MeshCall) :
    DelegationChange self call (self.perform call).delegationMap := by
  have same : ∀ {after : AuthMesh},
      after.delegationMap = self.delegationMap →
        DelegationChange self call after.delegationMap := by
    intro after framed
    rw [framed]
    exact .unchanged
  have accounts := delegationMap_ignoresAccounts
  unfold perform
  cases operation : call.operation with
  | putTenant tenant => exact .unchanged
  | putPolicy policy => exact .unchanged
  | signIn tenantId response =>
      exact same (accounts.signIn tenantId response call.now self)
  | signUp tenantId response registration =>
      exact same (signUp_frames accounts (fun _ _ => rfl) tenantId response
        registration call.now self)
  | linkAccount tenantId principalId response =>
      exact same (accounts.linkAccount tenantId principalId response call.now
        self)
  | logout tenantId sessionId =>
      exact same (accounts.logout tenantId sessionId call.now self)
  | delegate tenantId request => exact delegate_change operation
  | revokeDelegation tenantId delegationId =>
      exact revokeDelegation_change operation
  | suspendAgent tenantId agent =>
      exact same (setAgentState_frames accounts (fun _ _ => rfl) tenantId agent
        _ call.now self)
  | revokeAgent tenantId agent =>
      exact same (setAgentState_frames accounts (fun _ _ => rfl) tenantId agent
        _ call.now self)
  | retireAgent tenantId agent =>
      exact same (setAgentState_frames accounts (fun _ _ => rfl) tenantId agent
        _ call.now self)
  | createAgentRun tenantId agentId request revision fingerprint =>
      exact same (accounts.createAgentRun tenantId agentId request call.now
        revision fingerprint self)
  | cancelAgentRun tenantId runId =>
      exact same (accounts.cancelAgentRun tenantId runId call.now self)
  | authorize context capability revision =>
      exact same (accounts.authorizeWithAuthorityRevision self context
        capability call.now revision)
  | authorizeRequest context request attributes revision =>
      exact same (accounts.authorizeRequestWithAuthorityRevision self context
        request attributes call.now revision)
  | authorizeRunRequest context runId request attributes revision =>
      exact same (accounts.authorizeRunRequestWithAuthorityRevision self
        context runId request attributes call.now revision)

def PutsAtMost (principal : Principal) (before after : AuthMesh) : Prop :=
  after.principalMap = before.principalMap ∨
    after.principalMap = before.principalMap.insert principal.id principal

theorem provisionPrincipal_puts (tenant : TenantContext)
    (external : ExternalIdentity) (kind : PrincipalKind) (claims : Claims)
    (now : Int) :
    Within
      (PutsAtMost
        (Resolution.provisionedPrincipal tenant external kind claims))
      (Resolution.provisionPrincipal tenant external kind claims now) := by
  have accounts := principalMap_ignoresAccounts
  have stopped : ∀ first middle : AuthMesh,
      middle.principalMap = first.principalMap →
        PutsAtMost
          (Resolution.provisionedPrincipal tenant external kind claims)
          first middle :=
    fun _ _ framed => Or.inl framed
  have joined : ∀ first middle last : AuthMesh,
      middle.principalMap = first.principalMap →
        PutsAtMost
            (Resolution.provisionedPrincipal tenant external kind claims)
            middle last →
          PutsAtMost
            (Resolution.provisionedPrincipal tenant external kind claims)
            first last := by
    intro first middle last framed puts
    unfold PutsAtMost at puts ⊢
    rwa [framed] at puts
  unfold Resolution.provisionPrincipal
  apply Within.seq _ stopped joined (Frames.inspect _)
  intro _
  apply Within.seq _ stopped joined
    (accounts.linkIdentityRecord tenant _ _ claims)
  -- The next write stores the principal; what follows it only binds.
  intro identity self
  unfold writePrincipals
  rw [finalState_commitPart_bind]
  refine Or.inr ?_
  exact Frames.bind
    (accounts.bindExternalIdentity Resolution.principalError tenant
      ⟨external.connector⟩ ⟨external.subject⟩
      (Resolution.provisionedPrincipal tenant external kind claims).id now)
    (fun _ => .pure _) _

theorem signUp_change {self : AuthMesh} {call : MeshCall} {tenantId : String}
    {response : AuthResponse} {registration : Registration}
    (operation : call.operation = .signUp tenantId response registration) :
    PrincipalChange self call
      (finalState
        (signUp call.environment tenantId response registration call.now
          self)).principalMap := by
  unfold signUp
  rw [finalState_inspect_bind]
  cases tenantFound : self.tenant tenantId with
  | error err => exact .unchanged
  | ok tenant =>
      dsimp only
      rw [finalState_inspect_bind]
      split
      · rw [finalState_inspect_bind]
        cases proven : self.authenticateExternal call.environment tenant
            response with
        | error err => exact .unchanged
        | ok external =>
            dsimp only
            rw [finalState_inspect_bind]
            cases registeredClaims self.config registration with
            | error err => exact .unchanged
            | ok claims =>
                dsimp only
                have reached := Within.seq _
                  (fun _ _ puts => puts)
                  (fun first middle last puts framed => by
                    unfold PutsAtMost at puts ⊢
                    rwa [← framed] at puts)
                  (provisionPrincipal_puts tenant external registration.kind
                    claims call.now)
                  (fun resolved =>
                    (principalMap_ignoresAccounts.establish .accountLinked
                      tenant external resolved call.now :
                    Frames principalMap (establish call.environment
                      .accountLinked tenant external resolved call.now))) self
                rcases reached with same | put
                · rw [same]
                  exact .unchanged
                · rw [put]
                  exact .provisioned tenantId response registration tenant
                    external claims operation tenantFound proven
      · exact .unchanged

theorem setAgentState_change {self : AuthMesh} {call : MeshCall}
    {tenantId : String} {agent : PrincipalId} {state : AgentState} :
    PrincipalChange self call
      (finalState
        (setAgentState call.environment tenantId agent state call.now
          self)).principalMap := by
  unfold setAgentState
  rw [finalState_inspect_bind]
  cases self.tenant tenantId with
  | error err => exact .unchanged
  | ok tenant =>
      dsimp only
      unfold writePrincipals
      rw [finalState_commitPart_bind]
      split
      · rename_i written
        obtain ⟨principal, stored, _, isAgent, rfl⟩ :=
          MemoryPrincipalStore.setAgentState_ok
            (except_mapError_eq_ok_iff.mp written)
        rw [principalMap_ignoresAccounts.audit tenant _ call.now]
        exact .stateSet agent principal state stored isAgent
      · exact .unchanged

theorem perform_principalMap (self : AuthMesh) (call : MeshCall) :
    PrincipalChange self call (self.perform call).principalMap := by
  have same : ∀ {after : AuthMesh},
      after.principalMap = self.principalMap →
        PrincipalChange self call after.principalMap := by
    intro after framed
    rw [framed]
    exact .unchanged
  have accounts := principalMap_ignoresAccounts
  unfold perform
  cases operation : call.operation with
  | putTenant tenant => exact .unchanged
  | putPolicy policy => exact .unchanged
  | signIn tenantId response =>
      exact same (accounts.signIn tenantId response call.now self)
  | signUp tenantId response registration => exact signUp_change operation
  | linkAccount tenantId principalId response =>
      exact same (accounts.linkAccount tenantId principalId response call.now
        self)
  | logout tenantId sessionId =>
      exact same (accounts.logout tenantId sessionId call.now self)
  | delegate tenantId request =>
      exact same (delegate_frames accounts (fun _ _ => rfl) tenantId request
        call.now self)
  | revokeDelegation tenantId delegationId =>
      exact same (revokeDelegation_frames accounts (fun _ _ => rfl) tenantId
        delegationId call.now self)
  | suspendAgent tenantId agent => exact setAgentState_change
  | revokeAgent tenantId agent => exact setAgentState_change
  | retireAgent tenantId agent => exact setAgentState_change
  | createAgentRun tenantId agentId request revision fingerprint =>
      exact same (accounts.createAgentRun tenantId agentId request call.now
        revision fingerprint self)
  | cancelAgentRun tenantId runId =>
      exact same (accounts.cancelAgentRun tenantId runId call.now self)
  | authorize context capability revision =>
      exact same (accounts.authorizeWithAuthorityRevision self context
        capability call.now revision)
  | authorizeRequest context request attributes revision =>
      exact same (accounts.authorizeRequestWithAuthorityRevision self context
        request attributes call.now revision)
  | authorizeRunRequest context runId request attributes revision =>
      exact same (accounts.authorizeRunRequestWithAuthorityRevision self
        context runId request attributes call.now revision)

/-- What is shown of neither accounts nor delegations nor principals is kept by
every call that puts no tenant and no policy. -/
theorem perform_frames {γ : Type} {view : AuthMesh → γ}
    (accounts : IgnoresAccounts view)
    (delegations : ∀ (self : AuthMesh) part,
      view (self.changeDelegations part) = view self)
    (principals : ∀ (self : AuthMesh) part,
      view (self.changePrincipals part) = view self)
    (self : AuthMesh) {call : MeshCall}
    (noTenant : ∀ tenant, call.operation ≠ .putTenant tenant)
    (noPolicy : ∀ policy, call.operation ≠ .putPolicy policy) :
    view (self.perform call) = view self := by
  unfold perform
  cases operation : call.operation with
  | putTenant tenant => exact absurd operation (noTenant tenant)
  | putPolicy policy => exact absurd operation (noPolicy policy)
  | signIn tenantId response =>
      exact accounts.signIn tenantId response call.now self
  | signUp tenantId response registration =>
      exact signUp_frames accounts principals tenantId response registration
        call.now self
  | linkAccount tenantId principalId response =>
      exact accounts.linkAccount tenantId principalId response call.now self
  | logout tenantId sessionId =>
      exact accounts.logout tenantId sessionId call.now self
  | delegate tenantId request =>
      exact delegate_frames accounts delegations tenantId request call.now self
  | revokeDelegation tenantId delegationId =>
      exact revokeDelegation_frames accounts delegations tenantId delegationId
        call.now self
  | suspendAgent tenantId agent =>
      exact setAgentState_frames accounts principals tenantId agent _ call.now
        self
  | revokeAgent tenantId agent =>
      exact setAgentState_frames accounts principals tenantId agent _ call.now
        self
  | retireAgent tenantId agent =>
      exact setAgentState_frames accounts principals tenantId agent _ call.now
        self
  | createAgentRun tenantId agentId request revision fingerprint =>
      exact accounts.createAgentRun tenantId agentId request call.now revision
        fingerprint self
  | cancelAgentRun tenantId runId =>
      exact accounts.cancelAgentRun tenantId runId call.now self
  | authorize context capability revision =>
      exact accounts.authorizeWithAuthorityRevision self context capability
        call.now revision
  | authorizeRequest context request attributes revision =>
      exact accounts.authorizeRequestWithAuthorityRevision self context request
        attributes call.now revision
  | authorizeRunRequest context runId request attributes revision =>
      exact accounts.authorizeRunRequestWithAuthorityRevision self context
        runId request attributes call.now revision

/-- The tenants and policies, which change only by being put. -/
def registries (self : AuthMesh) : MemoryTenantRoot × MemoryPolicyStore :=
  (self.stores.tenants, self.stores.policies)

theorem registries_ignoresAccounts : IgnoresAccounts registries where
  identities _ _ := rfl
  bindings _ _ := rfl
  sessions _ _ := rfl
  runs _ _ _ := rfl
  trail _ _ _ _ := rfl

/-- What a call can do to the tenants and policies. -/
inductive RegistriesChange (self : AuthMesh) :
    MemoryTenantRoot × MemoryPolicyStore → Prop where
  | unchanged : RegistriesChange self self.registries
  | tenantPut (tenant : TenantContext) :
      RegistriesChange self
        (self.stores.tenants.putTenant tenant, self.stores.policies)
  | policyPut (policy : Policy) :
      RegistriesChange self
        (self.stores.tenants, self.stores.policies.put policy)

theorem perform_registries (self : AuthMesh) (call : MeshCall) :
    RegistriesChange self (self.perform call).registries := by
  by_cases tenantPut : ∃ tenant, call.operation = .putTenant tenant
  · obtain ⟨tenant, operation⟩ := tenantPut
    unfold perform
    rw [operation]
    exact .tenantPut tenant
  · by_cases policyPut : ∃ policy, call.operation = .putPolicy policy
    · obtain ⟨policy, operation⟩ := policyPut
      unfold perform
      rw [operation]
      exact .policyPut policy
    · rw [not_exists] at tenantPut policyPut
      rw [perform_frames registries_ignoresAccounts (fun _ _ => rfl)
        (fun _ _ => rfl) self tenantPut policyPut]
      exact .unchanged

/-! ## Keys -/

theorem Fresh.stores_eq {self : AuthMesh} (fresh : self.Fresh) :
    self.stores = .new := by
  obtain ⟨config, registry, sessionTtl, mesh, created, rfl⟩ := fresh
  unfold AuthMesh.new at created
  split at created
  · cases created
  · split at created
    · cases created
    · cases created
      rfl

theorem Fresh.delegationMap_eq {self : AuthMesh} (fresh : self.Fresh) :
    self.delegationMap = ∅ := by
  unfold delegationMap
  rw [fresh.stores_eq]
  rfl

theorem Fresh.principalMap_eq {self : AuthMesh} (fresh : self.Fresh) :
    self.principalMap = ∅ := by
  unfold principalMap
  rw [fresh.stores_eq]
  rfl

/-- Delegations are stored under their own ids. -/
theorem delegationMap_keyed {self : AuthMesh} (run : system.Reachable self) :
    KeyedMap.KeyedBy Delegation.id self.delegationMap := by
  refine run.invariant (motive := fun state : AuthMesh =>
    KeyedMap.KeyedBy Delegation.id state.delegationMap) ?_ ?_
  · intro state fresh
    rw [Fresh.delegationMap_eq fresh]
    exact KeyedMap.KeyedBy.empty
  · intro state call _ _ keyed
    have change := perform_delegationMap state call
    change KeyedMap.KeyedBy Delegation.id (state.perform call).delegationMap
    generalize (state.perform call).delegationMap = after at change
    cases change with
    | unchanged => exact keyed
    | created _ _ _ delegation => exact keyed.insert delegation
    | revoked _ delegationId _ delegation _ _ stored =>
        rw [← keyed delegationId delegation stored]
        exact keyed.insert { delegation with revokedAt := some call.now }

/-- Principals are stored under their own ids. -/
theorem principalMap_keyed {self : AuthMesh} (run : system.Reachable self) :
    KeyedMap.KeyedBy Principal.id self.principalMap := by
  refine run.invariant (motive := fun state : AuthMesh =>
    KeyedMap.KeyedBy Principal.id state.principalMap) ?_ ?_
  · intro state fresh
    rw [Fresh.principalMap_eq fresh]
    exact KeyedMap.KeyedBy.empty
  · intro state call _ _ keyed
    have change := perform_principalMap state call
    change KeyedMap.KeyedBy Principal.id (state.perform call).principalMap
    generalize (state.perform call).principalMap = after at change
    cases change with
    | unchanged => exact keyed
    | provisioned _ _ registration tenant external claims =>
        exact keyed.insert (Resolution.provisionedPrincipal tenant external
          registration.kind claims)
    | stateSet principalId principal state stored =>
        rw [← keyed principalId principal stored]
        exact keyed.insert { principal with agentState := some state }

theorem registries_keyed {self : AuthMesh} (run : system.Reachable self) :
    KeyedMap.KeyedBy TenantContext.tenantId self.stores.tenants.tenants ∧
      KeyedMap.KeyedBy Policy.id self.stores.policies.policies := by
  refine run.invariant (motive := fun state : AuthMesh =>
    KeyedMap.KeyedBy TenantContext.tenantId state.registries.1.tenants ∧
      KeyedMap.KeyedBy Policy.id state.registries.2.policies) ?_ ?_
  · intro state fresh
    unfold registries
    rw [fresh.stores_eq]
    exact ⟨KeyedMap.KeyedBy.empty, KeyedMap.KeyedBy.empty⟩
  · intro state call _ _ keyed
    have change := perform_registries state call
    change KeyedMap.KeyedBy TenantContext.tenantId
        (state.perform call).registries.1.tenants ∧
      KeyedMap.KeyedBy Policy.id (state.perform call).registries.2.policies
    generalize (state.perform call).registries = after at change
    cases change with
    | unchanged => exact keyed
    | tenantPut tenant => exact ⟨keyed.1.insert tenant, keyed.2⟩
    | policyPut policy => exact ⟨keyed.1, keyed.2.insert policy⟩

theorem tenant_eq_ok {self : AuthMesh} (run : system.Reachable self)
    {tenantId : String} {tenant : TenantContext}
    (found : self.tenant tenantId = .ok tenant) :
    tenant.tenantId = ⟨tenantId⟩ := by
  unfold AuthMesh.tenant at found
  split at found
  · cases found
  · split at found
    · rename_i stored
      cases found
      exact (registries_keyed run).1 ⟨tenantId⟩ _ stored
    · cases found

theorem principal_eq_ok {self : AuthMesh} {tenant : TenantContext}
    {principalId : PrincipalId} {principal : Principal}
    (found : self.principal tenant principalId = .ok principal) :
    self.principalMap[principalId]? = some principal ∧
      principal.tenantId = tenant.tenantId := by
  unfold AuthMesh.principal at found
  split at found
  · cases found
  · rename_i stored
    cases found
    exact getScoped_eq_some_iff.mp stored
  · cases found

end AuthMesh

/-! ## A concrete tenant at run time -/

def acmeConfig : AuthConfig :=
  { AuthConfig.default with
    providers := ["local"]
    claims := [{ name := "role", kind := .string }]
    agents := true }

/-- Every account is proven by its user name, and every event is recorded. -/
def acmeEnvironment : Environment :=
  { systemTime := some 0
    authenticate := fun connector response =>
      .ok
        { connector
          subject := response.parameters["username"]?.getD "nobody"
          attributes := ∅ }
    mintSessionId := fun counter => s!"sess_{counter}"
    auditFault := fun _ => none }

def emptyMesh : AuthMesh :=
  { config := acmeConfig
    registry := { ids := ["local"] }
    stores := .new
    sessionTtl := 3600
    auditSequence := 0
    runSequence := 0
    decisions := [] }

theorem emptyMesh_fresh : emptyMesh.Fresh := by
  refine ⟨acmeConfig, { ids := ["local"] }, 3600, emptyMesh, ?_, rfl⟩
  have valid : acmeConfig.validate = .ok () := by decide +kernel
  unfold AuthMesh.new
  rw [valid]
  rfl

def acmeCall (now : Int) (operation : MeshOperation) : MeshCall :=
  { environment := acmeEnvironment, now, operation }

def acmeId (name : String) : PrincipalId :=
  principalIdFor ⟨"acme"⟩ "local" name

def register (name : String) (registration : Registration) : MeshCall :=
  acmeCall 1
    (.signUp "acme"
      { connector := "local"
        tenant := none
        state := ""
        parameters := (∅ : KeyedMap String String).insert "username" name }
      registration)

def readRule : Rule :=
  .allow ⟨"invoice.read"⟩ (.claimEquals "role" (.string "admin"))

/-- The tenant under a policy, with an administrator and two agents. -/
def acmeCalls (rules : List Rule) : List MeshCall :=
  [acmeCall 0 (.putTenant acme),
    acmeCall 0 (.putPolicy (acmePolicy rules)),
    register "alice"
      { kind := .human
        claims := (∅ : KeyedMap String String).insert "role" "admin" },
    register "manager" { kind := .agent, claims := ∅ },
    register "worker" { kind := .agent, claims := ∅ }]

/-- An unlimited delegation of some capabilities. -/
def handOver (id delegator delegate : String) (capabilities : List Capability)
    (resourceScope : ResourceScope) : MeshCall :=
  acmeCall 2
    (.delegate "acme"
      { id := ⟨id⟩
        delegator := acmeId delegator
        delegate := acmeId delegate
        capabilities
        resourceScope
        issuedAt := 2
        expiresAt := none })

def agentContext (name : String) : RuntimeContext :=
  { principal := acmePrincipal (acmeId name).value .agent
    tenant := acme
    sessionId := none
    delegation := none
    run := none
    claims := { values := ∅ }
    capabilities := .empty }

end AuthBoundry
