import AuthBoundry.Runtime.Mesh

/-!
# Agent runs and agent states

A run is a task-bound attenuation of one delegation and, where it has a parent
run, of that run.
-/

namespace AuthBoundry

open Library
open Library.Stateful

structure RunCreationRequest where
  id : Option RunId
  taskId : TaskId
  taskPurpose : String
  delegationId : DelegationId
  parentRunId : Option RunId
  capabilities : List Capability
  resourceScope : ResourceScope
  expiresAt : Int
  constraints : List String
  deriving DecidableEq

def tenantScopeHolds (scope : ResourceScope) (tenantId : TenantId) : Bool :=
  ((scope.attributes["tenant"]?.or scope.attributes["tenant_id"]?).map
    fun value => matchesTenant value tenantId.value).getD true

def runStorageError (err : StorageError) : AuthError :=
  runError err.message .runNotFound

namespace AuthMesh

def agentRun (self : AuthMesh) (tenant : TenantContext) (runId : RunId) :
    Except AuthError (Option AgentRun) :=
  (self.stores.runs.getRun tenant runId).mapError runStorageError

def agentRunByCredential (self : AuthMesh) (tenant : TenantContext)
    (credential : ExecutionCredentialId) : Option AgentRun :=
  self.stores.runs.findRunByCredential tenant credential

def checkedRun (self : AuthMesh) (tenant : TenantContext) (runId : RunId)
    (now : Int) : Except AuthError AgentRun :=
  match self.agentRun tenant runId with
  | .error err => .error err
  | .ok none => .error (runError "run not found" .runNotFound)
  | .ok (some run) =>
      match run.status with
      | .cancelled => .error (runError "run is cancelled" .runCancelled)
      | .expired => .error (runError "run is expired" .runExpired)
      | .completed | .failed =>
          .error (runError "run is no longer active" .runCancelled)
      | .active =>
          if now ≥ run.expiresAt then
            .error (runError "run is expired" .runExpired)
          else
            .ok run

def runDelegation (self : AuthMesh) (tenant : TenantContext)
    (agentId : PrincipalId) (request : RunCreationRequest) (now : Int) :
    Except AuthError Delegation :=
  match self.stores.delegations.getDelegation tenant request.delegationId with
  | .error err =>
      .error
        { stage := .delegationManagement
          message := err.message
          denial := .invalidDelegation }
  | .ok none => .error (runError "delegation not found" .delegationMissing)
  | .ok (some delegation) => do
      refuseIf (delegation.delegate != agentId ||
          delegation.tenantId != tenant.tenantId)
        (runError "delegation does not belong to this agent"
          .invalidDelegation)
      refuseIf delegation.revokedAt.isSome
        (runError "delegation is revoked" .revokedDelegation)
      refuseIf (!delegation.isValidAt now)
        (runError "delegation is expired" .expiredDelegation)
      refuseIf
        ((delegation.expiresAt.map fun expiresAt =>
          decide (request.expiresAt > expiresAt)).getD false)
        (runError "run expiration exceeds delegation lifetime"
          .runExceedsDelegation)
      .ok delegation

/-- The first capability that is not among the available ones. -/
def firstMissing (requested available : List Capability) :
    Option Capability :=
  requested.find? fun capability => !available.contains capability

def checkRunScope (tenant : TenantContext) (delegation : Delegation)
    (request : RunCreationRequest) : Except AuthError Unit := do
  match firstMissing request.capabilities delegation.capabilities with
  | some capability =>
      .error
        (runError s!"run requests `{capability}` outside delegation"
          .runExceedsDelegation)
  | none => do
      refuseIf (!tenantScopeHolds request.resourceScope tenant.tenantId)
        (runError "run resource scope crosses tenant boundary"
          .runExceedsDelegation)
      refuseIf (!request.resourceScope.isSubsetOf delegation.resourceScope)
        (runError "run resource scope must narrow the delegation"
          .runExceedsDelegation)

def checkParentRun (self : AuthMesh) (tenant : TenantContext)
    (request : RunCreationRequest) (now : Int) : Except AuthError Unit :=
  match request.parentRunId with
  | none => .ok ()
  | some parentId =>
      match self.checkedRun tenant parentId now with
      | .error _ =>
          .error (runError "parent run is not valid" .parentRunScopeDenied)
      | .ok parent =>
          match firstMissing request.capabilities parent.capabilityScope with
          | some capability =>
              .error
                (runError
                  s!"child run requests `{capability}` outside parent run"
                  .parentRunScopeDenied)
          | none =>
              refuseIf (!request.resourceScope.isSubsetOf parent.resourceScope ||
                  decide (request.expiresAt > parent.expiresAt))
                (runError "child run must narrow the parent run"
                  .parentRunScopeDenied)

def nextRunId (tenant : TenantContext) : MeshM RunId := fun self =>
  .ok
    ⟨"run_" ++
      hex16 (stableHash s!"{tenant.tenantId}|{self.runSequence}")⟩
    { self with runSequence := self.runSequence + 1 }

def executionCredential (self : AuthMesh) (tenant : TenantContext)
    (runId : RunId) : ExecutionCredentialId :=
  let material := s!"{tenant.tenantId}|{runId}|{self.config.fingerprint}"
  ⟨s!"exec_{hex16 (stableHash material)}"⟩

/-- Everything `createAgentRun` checks before it writes. -/
def checkRunRequest (self : AuthMesh) (tenant : TenantContext)
    (agentId : PrincipalId) (request : RunCreationRequest) (now : Int) :
    Except AuthError Delegation := do
  refuseIf request.capabilities.isEmpty
    (runError "run task must request structured capabilities"
      .runExceedsDelegation)
  refuseIf (decide (request.expiresAt ≤ now))
    (runError "run expires before it can be used" .runExpired)
  let agent ← self.principal tenant agentId
  refuseIf (agent.kind != .agent)
    (runError "run principal must be an agent" .runNotFound)
  assertPrincipalIsUsable agent
  let delegation ← self.runDelegation tenant agentId request now
  checkRunScope tenant delegation request
  self.checkParentRun tenant request now
  .ok delegation

def createdRun (tenant : TenantContext) (agentId : PrincipalId)
    (request : RunCreationRequest) (delegation : Delegation) (id : RunId)
    (credential : ExecutionCredentialId) (now : Int)
    (authorityRevision : Nat) (contractFingerprint : String) : AgentRun :=
  { id
    tenantId := tenant.tenantId
    agentPrincipal := agentId
    delegator := delegation.delegator
    delegationId := delegation.id
    delegationChain := delegation.chain ++ [delegation.id]
    task :=
      { id := request.taskId
        purpose := request.taskPurpose
        capabilities := request.capabilities
        resourceScope := request.resourceScope
        expiresAt := request.expiresAt
        constraints := request.constraints }
    parentRunId := request.parentRunId
    createdAt := now
    expiresAt := request.expiresAt
    status := .active
    authorityRevision
    contractFingerprint
    capabilityScope := request.capabilities
    resourceScope := request.resourceScope
    executionCredential := credential
    cancelledAt := none }

def requestedRunId (tenant : TenantContext) : Option RunId → MeshM RunId
  | some id => pure id
  | none => nextRunId tenant

def createAgentRun (environment : Environment) (tenantId : String)
    (agentId : PrincipalId) (request : RunCreationRequest) (now : Int)
    (authorityRevision : Nat) (contractFingerprint : String) :
    MeshM AgentRun := do
  let tenant ← inspect fun self => self.tenant tenantId
  let delegation ← inspect fun self =>
    self.checkRunRequest tenant agentId request now
  let id ← requestedRunId tenant request.id
  let credential ← inspect fun self => .ok (self.executionCredential tenant id)
  let run := createdRun tenant agentId request delegation id credential now
    authorityRevision contractFingerprint
  let _ ← writeRuns runStorageError fun runs => runs.putRun run
  audit environment tenant
    (((((AuditRecord.new .agentRunCreated).principal
      run.agentPrincipal).delegation run.delegationId).addMeta "run_id"
      run.id.value).addMeta "task_id" run.task.id.value) now
  pure run

def cancelAgentRun (environment : Environment) (tenantId : String)
    (runId : RunId) (now : Int) : MeshM AgentRun := do
  let tenant ← inspect fun self => self.tenant tenantId
  let run ← inspect fun self =>
    match self.agentRun tenant runId with
    | .error err => .error err
    | .ok none => .error (runError "run not found" .runNotFound)
    | .ok (some run) => .ok run
  let cancelled ← writeRuns runStorageError fun runs =>
    runs.updateRun tenant
      { run with status := .cancelled, cancelledAt := some now }
  audit environment tenant
    (((((AuditRecord.new .agentRunCancelled).principal
      cancelled.agentPrincipal).delegation cancelled.delegationId).addMeta
      "run_id" cancelled.id.value).addMeta "task_id" cancelled.task.id.value)
    now
  pure cancelled

/-! ## Agent states -/

def agentStateEvent : AgentState → AuditEventKind
  | .suspended => .agentSuspended
  | .revoked => .agentRevoked
  | _ => .agentCreated

def setAgentState (environment : Environment) (tenantId : String)
    (agent : PrincipalId) (state : AgentState) (now : Int) : MeshM Unit := do
  let tenant ← inspect fun self => self.tenant tenantId
  writePrincipals
    (fun err =>
      { stage := .agentLifecycle
        message := err.message
        denial := .unknownPrincipal })
    fun principals => principals.setAgentState tenant agent state
  audit environment tenant
    ((AuditRecord.new (agentStateEvent state)).principal agent) now

def suspendAgent (environment : Environment) (tenantId : String)
    (agent : PrincipalId) (now : Int) : MeshM Unit :=
  setAgentState environment tenantId agent .suspended now

def revokeAgent (environment : Environment) (tenantId : String)
    (agent : PrincipalId) (now : Int) : MeshM Unit :=
  setAgentState environment tenantId agent .revoked now

def retireAgent (environment : Environment) (tenantId : String)
    (agent : PrincipalId) (now : Int) : MeshM Unit :=
  setAgentState environment tenantId agent .retired now

end AuthMesh

end AuthBoundry
