import AuthBoundry.Authz.EvaluatorSpec
import AuthBoundry.Runtime.Accounts
import AuthBoundry.Runtime.Authorize

/-!
# What the mesh decides

Settling changes nothing about a decision but whether it stands: it stands
exactly when the audit log takes the event.  The decision functions are thereby
characterised by the grants of the evaluators they ask.
-/

namespace AuthBoundry

open Library
open Library.Stateful

@[simp] theorem grant_attachAuditEvent (decision : AuthorizationDecision)
    (id : AuditEventId) :
    (attachAuditEvent decision id).grant = decision.grant := by
  cases decision <;> rfl

@[simp] theorem isAllowed_attachAuditEvent (decision : AuthorizationDecision)
    (id : AuditEventId) :
    (attachAuditEvent decision id).isAllowed = decision.isAllowed := by
  cases decision <;> rfl

@[simp] theorem auditEventId_attachAuditEvent
    (decision : AuthorizationDecision) (id : AuditEventId) :
    (attachAuditEvent decision id).auditEventId = some id := by
  cases decision <;> rfl

/-! ## Picking a delegation -/

theorem pickDelegation_valid_iff {delegations : List Delegation}
    {capability : Capability} {now : Int} {source : Delegation} :
    pickDelegation delegations capability now = some source ∧
        source.isValidAt now = true ↔
      firstValid delegations capability now = some source := by
  unfold pickDelegation
  constructor
  · intro picked
    obtain ⟨found, valid⟩ := picked
    cases search : firstValid delegations capability now with
    | some first =>
        rw [search, Option.some_or] at found
        exact found
    | none =>
        rw [search, Option.none_or] at found
        have contains := List.find?_some found
        have member := List.mem_of_find?_eq_some found
        have refused := List.find?_eq_none.mp search source member
        rw [valid, contains] at refused
        exact (refused rfl).elim
  · intro search
    rw [search, Option.some_or]
    exact ⟨rfl, (AuthMesh.firstValid_eq_some search).2.1⟩

/-- Of delegations addressed to a principal, the one considered covers the
capability exactly when it is the first valid one. -/
theorem pickDelegation_covers_iff {delegations : List Delegation}
    {tenant : TenantContext} {principal : Principal}
    (addressed : ∀ delegation ∈ delegations,
      delegation.tenantId = tenant.tenantId ∧
        delegation.delegate = principal.id)
    {capability : Capability} {now : Int} {source : Delegation} :
    pickDelegation delegations capability now = some source ∧
        source.Covers tenant principal capability now ↔
      firstValid delegations capability now = some source := by
  constructor
  · intro picked
    obtain ⟨found, covers⟩ := picked
    exact pickDelegation_valid_iff.mp ⟨found, covers.valid⟩
  · intro search
    obtain ⟨found, valid⟩ := pickDelegation_valid_iff.mpr search
    obtain ⟨member, _, contains⟩ := AuthMesh.firstValid_eq_some search
    obtain ⟨sameTenant, sameDelegate⟩ := addressed source member
    exact ⟨found, sameTenant, sameDelegate, valid, contains⟩

theorem firstValid_eq_none_iff {delegations : List Delegation}
    {capability : Capability} {now : Int} :
    firstValid delegations capability now = none ↔
      ∀ delegation ∈ delegations, delegation.isValidAt now = true →
        capability ∉ delegation.capabilities := by
  simp [firstValid, List.find?_eq_none]

namespace AuthMesh

variable {environment : Environment} {self : AuthMesh}

/-! ## Settling -/

/-- The state once an event has been stamped and, if the log took it, stored. -/
def stamped (self : AuthMesh) (tenant : TenantContext) (record : AuditRecord)
    (now : Int) : AuthMesh :=
  { self with
    auditSequence := self.auditSequence + 1
    stores := { self.stores with
      audit :=
        { events :=
            self.stores.audit.events ++
              [self.auditEvent tenant record now] } } }

theorem audit_ok {tenant : TenantContext} {record : AuditRecord} {now : Int}
    (accepts : environment.auditFault self.auditSequence = none) :
    audit environment tenant record now self =
      .ok () (self.stamped tenant record now) := by
  simp [audit, accepts, MemoryAuditLog.recordEvent, auditEvent, stamped]

theorem audit_error (tenant : TenantContext) (record : AuditRecord) (now : Int)
    {failure : StorageError}
    (refuses : environment.auditFault self.auditSequence = some failure) :
    ∃ err, audit environment tenant record now self =
      .error err { self with auditSequence := self.auditSequence + 1 } := by
  simp [audit, refuses]

/-- What is left behind when an event was recorded. -/
theorem audit_eq_ok {tenant : TenantContext} {record : AuditRecord} {now : Int}
    {value : Unit} {after : AuthMesh}
    (recorded : audit environment tenant record now self = .ok value after) :
    after = self.stamped tenant record now := by
  cases fault : environment.auditFault self.auditSequence with
  | none =>
      rw [audit_ok fault] at recorded
      cases recorded
      rfl
  | some failure =>
      obtain ⟨_, refused⟩ := audit_error tenant record now fault
      rw [refused] at recorded
      cases recorded

theorem recordDecision_ok {context : RuntimeContext} {capability : Capability}
    {decision : AuthorizationDecision} {now : Int}
    (accepts : environment.auditFault self.auditSequence = none) :
    recordDecision environment context capability decision now self =
      .ok (AuthBoundry.auditEventId context.tenant self.auditSequence)
        (self.stamped context.tenant
          (decisionRecord context capability decision) now) := by
  unfold recordDecision
  rw [bind_apply, audit_ok accepts]
  simp [inspect, lastAuditEventId, stamped]

theorem recordDecision_error (context : RuntimeContext)
    (capability : Capability) (decision : AuthorizationDecision) (now : Int)
    {failure : StorageError}
    (refuses : environment.auditFault self.auditSequence = some failure) :
    ∃ err, recordDecision environment context capability decision now self =
      .error err { self with auditSequence := self.auditSequence + 1 } := by
  obtain ⟨err, refused⟩ := audit_error context.tenant
    (decisionRecord context capability decision) now refuses
  refine ⟨err, ?_⟩
  unfold recordDecision
  rw [bind_apply, refused]

/-- A settled decision stands with the id of its event, or the audit log
refused the event and the answer is a denial. -/
theorem settleDecision_fst (context : RuntimeContext) (capability : Capability)
    (decision : AuthorizationDecision) (now : Int) (authorityRevision : Nat) :
    (self.settleDecision environment context capability decision now
        authorityRevision).1 =
      if environment.auditFault self.auditSequence = none then
        attachAuditEvent decision
          (AuthBoundry.auditEventId context.tenant self.auditSequence)
      else
        deny .auditUnavailable := by
  unfold settleDecision
  cases fault : environment.auditFault self.auditSequence with
  | none => simp [recordDecision_ok fault]
  | some failure =>
      obtain ⟨_, refused⟩ := recordDecision_error context capability decision now
        fault
      simp [refused]

theorem settleDecision_grant_iff {context : RuntimeContext}
    {capability : Capability} {decision : AuthorizationDecision} {now : Int}
    {authorityRevision : Nat} {grant : GrantedCapability} :
    (self.settleDecision environment context capability decision now
        authorityRevision).1.grant = some grant ↔
      environment.auditFault self.auditSequence = none ∧
        decision.grant = some grant := by
  rw [settleDecision_fst]
  by_cases accepts : environment.auditFault self.auditSequence = none
  · simp [accepts]
  · simp [accepts]

theorem settleDecision_isAllowed_iff {context : RuntimeContext}
    {capability : Capability} {decision : AuthorizationDecision} {now : Int}
    {authorityRevision : Nat} :
    (self.settleDecision environment context capability decision now
        authorityRevision).1.isAllowed = true ↔
      environment.auditFault self.auditSequence = none ∧
        decision.isAllowed = true := by
  simp only [AuthorizationDecision.isAllowed_iff_grant,
    settleDecision_grant_iff, exists_and_left]

/-! ## Decisions -/

variable {context : RuntimeContext} {now : Int} {authorityRevision : Nat}
  {grant : GrantedCapability}

theorem authorize_grant_iff {capability : Capability} :
    (self.authorizeWithAuthorityRevision environment context capability now
        authorityRevision).1.grant = some grant ↔
      environment.auditFault self.auditSequence = none ∧
        ∃ policy, self.policy context.tenant = .ok policy ∧
          CapabilityGrant environment.systemTime policy context.principal
            context.tenant
            (pickDelegation
              (self.delegationsFor context.tenant context.principal.id)
              capability now) capability now grant := by
  unfold authorizeWithAuthorityRevision
  cases self.policy context.tenant with
  | error err => simp
  | ok policy =>
      simp only [settleDecision_grant_iff, evaluateCapability_grant_iff,
        Except.ok.injEq, exists_eq_left']

theorem authorizeRequest_grant_iff {request : AuthorizationRequest}
    {resourceAttributes : Option ResourceAttributes} :
    (self.authorizeRequestWithAuthorityRevision environment context request
        resourceAttributes now authorityRevision).1.grant = some grant ↔
      environment.auditFault self.auditSequence = none ∧
        ∃ policy, self.policy context.tenant = .ok policy ∧
          RequestGrant environment.systemTime policy context.principal
            context.tenant
            (pickDelegation
              (self.delegationsFor context.tenant context.principal.id)
              request.capability now) request resourceAttributes now grant := by
  unfold authorizeRequestWithAuthorityRevision
  cases self.policy context.tenant with
  | error err => simp
  | ok policy =>
      simp only [settleDecision_grant_iff,
        evaluateAuthorizationRequest_grant_iff, Except.ok.injEq,
        exists_eq_left']

theorem authorize_isAllowed_iff {capability : Capability} :
    (self.authorizeWithAuthorityRevision environment context capability now
        authorityRevision).1.isAllowed = true ↔
      environment.auditFault self.auditSequence = none ∧
        ∃ policy, self.policy context.tenant = .ok policy ∧
          Accepted policy context.principal context.tenant ∧
          HoldsBy environment.systemTime policy context.principal
            context.tenant
            (pickDelegation
              (self.delegationsFor context.tenant context.principal.id)
              capability now) capability now := by
  unfold authorizeWithAuthorityRevision
  cases self.policy context.tenant with
  | error err => simp
  | ok policy =>
      simp only [settleDecision_isAllowed_iff, evaluateCapability_isAllowed_iff,
        Except.ok.injEq, exists_eq_left']

theorem authorizeRequest_isAllowed_iff {request : AuthorizationRequest}
    {resourceAttributes : Option ResourceAttributes} :
    (self.authorizeRequestWithAuthorityRevision environment context request
        resourceAttributes now authorityRevision).1.isAllowed = true ↔
      environment.auditFault self.auditSequence = none ∧
        ∃ policy, self.policy context.tenant = .ok policy ∧
          RequestAccepted policy context.principal context.tenant request
            resourceAttributes ∧
          MayDo environment.systemTime policy context.principal context.tenant
            (pickDelegation
              (self.delegationsFor context.tenant context.principal.id)
              request.capability now) request resourceAttributes now := by
  unfold authorizeRequestWithAuthorityRevision
  cases self.policy context.tenant with
  | error err => simp
  | ok policy =>
      simp only [settleDecision_isAllowed_iff,
        evaluateAuthorizationRequest_isAllowed_iff, Except.ok.injEq,
        exists_eq_left']

/-- No evaluator reads what a run adds to a request. -/
theorem requestAccepted_runRequest_iff {policy : Policy}
    {principal : Principal} {tenant : TenantContext}
    {request : AuthorizationRequest} {run : AgentRun}
    {resourceAttributes : Option ResourceAttributes} :
    RequestAccepted policy principal tenant (runRequest request run)
        resourceAttributes ↔
      RequestAccepted policy principal tenant request resourceAttributes := by
  rw [requestAccepted_iff, requestAccepted_iff]
  rfl

theorem mayDo_runRequest_iff {systemTime : Option Int} {policy : Policy}
    {principal : Principal} {tenant : TenantContext}
    {delegation : Option Delegation} {request : AuthorizationRequest}
    {run : AgentRun} {resourceAttributes : Option ResourceAttributes} :
    MayDo systemTime policy principal tenant delegation
        (runRequest request run) resourceAttributes now ↔
      MayDo systemTime policy principal tenant delegation request
        resourceAttributes now :=
  Iff.rfl

theorem authorizeRunRequest_isAllowed_iff {runId : RunId}
    {request : AuthorizationRequest}
    {resourceAttributes : Option ResourceAttributes} :
    (self.authorizeRunRequestWithAuthorityRevision environment context runId
        request resourceAttributes now authorityRevision).1.isAllowed =
          true ↔
      (∃ run, self.checkedRunForRequest context runId request
        resourceAttributes now = .ok run) ∧
      (self.authorizeRequestWithAuthorityRevision environment context request
        resourceAttributes now authorityRevision).1.isAllowed = true := by
  unfold authorizeRunRequestWithAuthorityRevision
  cases self.checkedRunForRequest context runId request resourceAttributes
      now with
  | error refusal =>
      dsimp only
      rw [settleDecision_isAllowed_iff]
      simp [AuthorizationDecision.isAllowed]
  | ok run =>
      have allowedBy : ∃ allowing : AgentRun,
          (.ok run : Except (DenialReason × Option AgentRun) AgentRun) =
            .ok allowing :=
        ⟨run, rfl⟩
      dsimp only
      rw [authorizeRequest_isAllowed_iff, authorizeRequest_isAllowed_iff,
        and_iff_right allowedBy]
      simp only [requestAccepted_runRequest_iff, mayDo_runRequest_iff]
      rfl

/-! ## Sessions -/

theorem agentRefusal_of_usable {principal : Principal}
    (usable : assertPrincipalIsUsable principal = .ok ()) :
    agentRefusal principal = none := by
  rw [agentRefusal_eq_none_iff]
  intro agent
  unfold assertPrincipalIsUsable at usable
  rw [if_neg (by simp [agent])] at usable
  split at usable
  · assumption
  · cases usable
  · cases usable

theorem contextFor_accepted {tenant : TenantContext} {principal : Principal}
    {sessionId : Option SessionId}
    (usable : assertPrincipalIsUsable principal = .ok ())
    (derived : self.contextFor environment tenant principal sessionId now =
      .ok context) :
    ∃ policy, self.policy context.tenant = .ok policy ∧
      Accepted policy context.principal context.tenant := by
  obtain ⟨policy, found, derived⟩ := except_bind_eq_ok_iff.mp derived
  dsimp only at derived
  split at derived
  · cases derived
  · rename_i evaluated
    cases derived
    obtain ⟨sameTenant, samePolicy, _⟩ :=
      evaluateWithDelegations_eq_ok_iff.mp evaluated
    exact ⟨policy, found, sameTenant, samePolicy,
      agentRefusal_of_usable usable⟩

/-- What a session resolves to is derived for a usable principal. -/
theorem resolveSession_derived {tenantId : String} {sessionId : SessionId}
    {session : Session}
    (resolved : self.resolveSession environment tenantId sessionId now =
      .ok (session, context)) :
    ∃ tenant principal, assertPrincipalIsUsable principal = .ok () ∧
      self.contextFor environment tenant principal (some session.id) now =
        .ok context := by
  obtain ⟨tenant, _, resolved⟩ := except_bind_eq_ok_iff.mp resolved
  obtain ⟨session, _, resolved⟩ := except_bind_eq_ok_iff.mp resolved
  split at resolved
  · cases resolved
  · cases resolved
  · split at resolved
    · cases resolved
    · obtain ⟨principal, _, resolved⟩ := except_bind_eq_ok_iff.mp resolved
      obtain ⟨_, usable, resolved⟩ := except_bind_eq_ok_iff.mp resolved
      obtain ⟨made, derived, resolved⟩ := except_bind_eq_ok_iff.mp resolved
      cases resolved
      exact ⟨tenant, principal, usable, derived⟩

theorem resolveSession_accepted {tenantId : String} {sessionId : SessionId}
    {session : Session}
    (resolved : self.resolveSession environment tenantId sessionId now =
      .ok (session, context)) :
    ∃ policy, self.policy context.tenant = .ok policy ∧
      Accepted policy context.principal context.tenant := by
  obtain ⟨_, _, usable, derived⟩ := resolveSession_derived resolved
  exact contextFor_accepted usable derived

end AuthMesh

end AuthBoundry
