import AuthBoundry.Runtime.Delegations
import AuthBoundry.Runtime.Runs

/-!
# Authorizing

The decision functions of the mesh look up the policy and one delegation, ask
an evaluator, and settle the answer: it is recorded in the audit trail and
remembered as evidence, and an answer that cannot be recorded is a denial.
-/

namespace AuthBoundry

open Library
open Library.Stateful

/-- The delegation a decision considers: the first valid one that contains the
capability, else any that contains it, so that the denial names the reason. -/
def pickDelegation (delegations : List Delegation) (capability : Capability)
    (now : Int) : Option Delegation :=
  (firstValid delegations capability now).or
    (delegations.find? fun delegation =>
      delegation.capabilities.contains capability)

/-- The run-scope matcher of the mesh. -/
def resourceScopeMatches (scope : ResourceScope)
    (request : AuthorizationRequest)
    (resourceAttributes : Option ResourceAttributes) : Bool :=
  if scope.isUnconstrained then
    true
  else
    match request.resource with
    | none => false
    | some resource =>
        (match scope.resourceType with
          | some resourceType => resourceType == resource.resourceType
          | none => true) &&
        (match scope.resourceId with
          | some resourceId =>
              resourceId == "*" || resourceId == resource.resourceId
          | none => true) &&
        scope.attributes.toList.all fun (key, expected) =>
          if key == "tenant" || key == "tenant_id" then
            matchesTenant expected resource.tenantId.value
          else
            (resourceAttributes.bind fun attributes =>
              attributes.values[key]?) == some expected

def attachAuditEvent (decision : AuthorizationDecision)
    (auditEventId : AuditEventId) : AuthorizationDecision :=
  match decision with
  | .allow grant resource action matchedRules conditions _ =>
      .allow grant resource action matchedRules conditions (some auditEventId)
  | .deny reason capability resource action policyId matchedRules conditions
      _ =>
      .deny reason capability resource action policyId matchedRules conditions
        (some auditEventId)

def fallbackDecisionId (context : RuntimeContext) (capability : Capability)
    (now : Int) : String :=
  let material :=
    s!"{context.tenant.tenantId}|{context.principal.id}|{capability}|{now}"
  s!"decision_{hex16 (stableHash material)}"

def decisionEvidence (context : RuntimeContext) (capability : Capability)
    (decision : AuthorizationDecision) (now : Int) (authorityRevision : Nat)
    (contractFingerprint : String) : AuthorizationEvidence :=
  let decisionId (auditEventId : Option AuditEventId) : String :=
    (auditEventId.map AuthorityId.value).getD
      (fallbackDecisionId context capability now)
  match decision with
  | .allow grant resource action matchedRules conditions auditEventId =>
      { decisionId := decisionId auditEventId
        timestamp := now
        principal := context.principal.id
        tenant := context.tenant.tenantId
        capability := grant.capability
        action
        resource
        policyId := some grant.policyId
        matchedRules
        conditions
        authority := some grant.authority
        delegatedBy := grant.delegatedBy
        delegationChain := grant.delegationChain
        runId := context.run.map AgentRun.id
        taskId := context.run.map fun run => run.task.id
        agentPrincipal := context.run.map AgentRun.agentPrincipal
        delegationId := context.run.map AgentRun.delegationId
        parentRunId := context.run.bind AgentRun.parentRunId
        executionScope := context.run.map AgentRun.resourceScope
        authorityRevision
        contractFingerprint
        decision := .allow
        reason := decision.reason
        auditEventId }
  | .deny _ denied resource action policyId matchedRules conditions
      auditEventId =>
      { decisionId := decisionId auditEventId
        timestamp := now
        principal := context.principal.id
        tenant := context.tenant.tenantId
        capability := denied.getD capability
        action
        resource
        policyId
        matchedRules
        conditions
        authority := none
        delegatedBy := context.run.map AgentRun.delegator
        delegationChain := (context.run.map AgentRun.delegationChain).getD []
        runId := context.run.map AgentRun.id
        taskId := context.run.map fun run => run.task.id
        agentPrincipal := context.run.map AgentRun.agentPrincipal
        delegationId := context.run.map AgentRun.delegationId
        parentRunId := context.run.bind AgentRun.parentRunId
        executionScope := context.run.map AgentRun.resourceScope
        authorityRevision
        contractFingerprint
        decision := .deny
        reason := decision.reason
        auditEventId }

def decisionKind : AuthorizationDecision → AuditEventKind
  | .allow .. => .authorizationGranted
  | .deny .. => .authorizationDenied

def decisionResource : AuthorizationDecision → Option ResourceRef
  | .allow _ resource _ _ _ _ => resource
  | .deny _ _ resource _ _ _ _ _ => resource

def decisionAction : AuthorizationDecision → Option Action
  | .allow _ _ action _ _ _ => action
  | .deny _ _ _ action _ _ _ _ => action

/-- The entry a decision leaves in the audit trail. -/
def decisionRecord (context : RuntimeContext) (capability : Capability)
    (decision : AuthorizationDecision) : AuditRecord :=
  let delegationId :=
    (decision.grant.bind GrantedCapability.delegationId).or
      (context.delegation.map Delegation.id)
  let runMeta :=
    match context.run with
    | some run => [("run_id", run.id.value), ("task_id", run.task.id.value)]
    | none => []
  let reasonMeta :=
    match decision.denialReason with
    | some reason => [("reason", reason.asStr)]
    | none => []
  let resourceMeta :=
    match decisionResource decision with
    | some resource =>
        [("resource", resource.opaqueName),
          ("resource_type", resource.resourceType),
          ("resource_tenant", resource.tenantId.value)]
    | none => []
  let actionMeta :=
    match decisionAction decision with
    | some action => [("action", action.value)]
    | none => []
  { kind := decisionKind decision
    principalId := some context.principal.id
    sessionId := context.sessionId
    delegationId
    metadata :=
      [("capability", capability.value)] ++ runMeta ++ reasonMeta ++
        resourceMeta ++ actionMeta }

namespace AuthMesh

def recordDecision (environment : Environment) (context : RuntimeContext)
    (capability : Capability) (decision : AuthorizationDecision) (now : Int) :
    MeshM AuditEventId := do
  audit environment context.tenant (decisionRecord context capability decision)
    now
  inspect fun self => .ok (self.lastAuditEventId context.tenant)

/-- At most the last hundred decisions are kept. -/
def rememberDecision (self : AuthMesh) (context : RuntimeContext)
    (capability : Capability) (decision : AuthorizationDecision) (now : Int)
    (authorityRevision : Nat) : AuthMesh :=
  let evidence := decisionEvidence context capability decision now
    authorityRevision self.config.fingerprint
  let decisions := self.decisions ++ [evidence]
  { self with
    decisions := if decisions.length > 100 then decisions.tail else decisions }

def settleDecision (environment : Environment) (self : AuthMesh)
    (context : RuntimeContext) (capability : Capability)
    (decision : AuthorizationDecision) (now : Int) (authorityRevision : Nat) :
    AuthorizationDecision × AuthMesh :=
  match recordDecision environment context capability decision now self with
  | .ok auditEventId recorded =>
      let settled := attachAuditEvent decision auditEventId
      (settled,
        recorded.rememberDecision context capability settled now
          authorityRevision)
  | .error _ refused => (deny .auditUnavailable, refused)

def authorizeWithAuthorityRevision (environment : Environment)
    (self : AuthMesh) (context : RuntimeContext) (capability : Capability)
    (now : Int) (authorityRevision : Nat) : AuthorizationDecision × AuthMesh :=
  match self.policy context.tenant with
  | .error _ => (deny .policyNotFound, self)
  | .ok policy =>
      let delegations :=
        self.delegationsFor context.tenant context.principal.id
      let delegation := pickDelegation delegations capability now
      let decision := evaluateCapability environment.systemTime (some policy)
        (some context.principal) (some context.tenant) delegation capability now
      self.settleDecision environment context capability decision now
        authorityRevision

/-- The one authorization entry point, for every principal kind. -/
def authorize (environment : Environment) (self : AuthMesh)
    (context : RuntimeContext) (capability : Capability) (now : Int) :
    AuthorizationDecision × AuthMesh :=
  self.authorizeWithAuthorityRevision environment context capability now 0

def authorizeRequestWithAuthorityRevision (environment : Environment)
    (self : AuthMesh) (context : RuntimeContext)
    (request : AuthorizationRequest)
    (resourceAttributes : Option ResourceAttributes) (now : Int)
    (authorityRevision : Nat) : AuthorizationDecision × AuthMesh :=
  match self.policy context.tenant with
  | .error _ => (deny .policyNotFound, self)
  | .ok policy =>
      let delegations :=
        self.delegationsFor context.tenant context.principal.id
      let delegation := pickDelegation delegations request.capability now
      let decision := evaluateAuthorizationRequest environment.systemTime
        (some policy) (some context.principal) (some context.tenant) delegation
        request resourceAttributes now
      self.settleDecision environment context request.capability decision now
        authorityRevision

def authorizeRequest (environment : Environment) (self : AuthMesh)
    (context : RuntimeContext) (request : AuthorizationRequest)
    (resourceAttributes : Option ResourceAttributes) (now : Int) :
    AuthorizationDecision × AuthMesh :=
  self.authorizeRequestWithAuthorityRevision environment context request
    resourceAttributes now 0

/-- The run of a request, or why the request is refused and the run that
refused it. -/
def checkedRunForRequest (self : AuthMesh) (context : RuntimeContext)
    (runId : RunId) (request : AuthorizationRequest)
    (resourceAttributes : Option ResourceAttributes) (now : Int) :
    Except (DenialReason × Option AgentRun) AgentRun :=
  match self.checkedRun context.tenant runId now with
  | .error err => .error (err.denial, none)
  | .ok run =>
      if run.agentPrincipal != context.principal.id ||
          run.tenantId != context.tenant.tenantId then
        .error (.runNotFound, some run)
      else if !run.capabilityScope.contains request.capability then
        .error (.runScopeDenied, some run)
      else if !resourceScopeMatches run.resourceScope request
          resourceAttributes then
        .error (.runScopeDenied, some run)
      else
        .ok run

/-- A request as it is made within a run. -/
def runRequest (request : AuthorizationRequest) (run : AgentRun) :
    AuthorizationRequest :=
  { request with
    context :=
      { request.context with
        runId := some run.id
        taskId := some run.task.id
        agentPrincipal := some run.agentPrincipal
        delegationId := some run.delegationId
        delegationChain := run.delegationChain } }

def authorizeRunRequestWithAuthorityRevision (environment : Environment)
    (self : AuthMesh) (context : RuntimeContext) (runId : RunId)
    (request : AuthorizationRequest)
    (resourceAttributes : Option ResourceAttributes) (now : Int)
    (authorityRevision : Nat) : AuthorizationDecision × AuthMesh :=
  match self.checkedRunForRequest context runId request resourceAttributes
      now with
  | .ok run =>
      self.authorizeRequestWithAuthorityRevision environment
        (context.withRun run) (runRequest request run) resourceAttributes now
        authorityRevision
  | .error (reason, run) =>
      let runContext := (run.map context.withRun).getD context
      let policyId := (self.policy context.tenant).toOption.map Policy.id
      let decision : AuthorizationDecision :=
        .deny reason (some request.capability) request.resource
          (some request.action) policyId [] [] none
      self.settleDecision environment runContext request.capability decision
        now authorityRevision

end AuthMesh

end AuthBoundry
