import AuthBoundry.Runtime.RunTrees
import AuthBoundry.Server.ChangeJson
import AuthBoundry.Server.Control

/-!
# Delegations and runs made through the control plane

Both handlers pick the fields of a delegation or a run out of the body of a
request and pass them on to the mesh.  What they are answered with success for
is stored, and nothing else is.
-/

namespace AuthBoundry

open Library

/-! ## Answers -/

/-- A number of 64 bits with a sign as a double. -/
def signedAsF64 (value : ℤ) : ℚ := value.sign * asF64 value.natAbs

def RunStatus.asStr : RunStatus → String
  | .active => "active"
  | .completed => "completed"
  | .cancelled => "cancelled"
  | .expired => "expired"
  | .failed => "failed"

def claimValueJson : ClaimValue → JsonValue
  | .enum value | .string value => .string value
  | .integer value => .number (signedAsF64 value)
  | .boolean value => .bool value

def resourceScopeJson (scope : ResourceScope) : JsonValue :=
  .object
    [("resource_type", (scope.resourceType.map JsonValue.string).getD .null),
      ("resource_id", (scope.resourceId.map JsonValue.string).getD .null),
      ("attributes",
        .object
          (scope.attributes.toList.map fun (key, value) =>
            (key, claimValueJson value)))]

def delegationJson (delegation : Delegation) : JsonValue :=
  .object
    [("id", .string delegation.id.value),
      ("delegator", .string delegation.delegator.value),
      ("delegate", .string delegation.delegate.value),
      ("expires_at",
        (delegation.expiresAt.map fun expiresAt =>
          JsonValue.number (signedAsF64 expiresAt)).getD .null),
      ("status",
        .string
          (if delegation.revokedAt.isSome then "revoked" else "active"))]

def runJson (run : AgentRun) : JsonValue :=
  .object
    [("id", .string run.id.value),
      ("agent_principal", .string run.agentPrincipal.value),
      ("delegator", .string run.delegator.value),
      ("delegation_id", .string run.delegationId.value),
      ("delegation_chain",
        .array (run.delegationChain.map fun id => .string id.value)),
      ("parent_run_id",
        (run.parentRunId.map fun id => JsonValue.string id.value).getD .null),
      ("task_id", .string run.task.id.value),
      ("task_purpose", .string run.task.purpose),
      ("capability_scope",
        .array (run.capabilityScope.map fun capability =>
          .string capability.value)),
      ("resource_scope", resourceScopeJson run.resourceScope),
      ("created_at", .number (signedAsF64 run.createdAt)),
      ("expires_at", .number (signedAsF64 run.expiresAt)),
      ("status", .string run.status.asStr),
      ("authority_revision", .number (asF64 run.authorityRevision)),
      ("contract_fingerprint", .string run.contractFingerprint),
      ("execution_credential", .string run.executionCredential.value)]

/-- How a handler answers with what the mesh did. -/
def answered {α : Type} (toJson : α → JsonValue) :
    EStateM.Result AuthError AuthMesh α → ControlResponse × AuthMesh
  | .ok value mesh => (.okJson (toJson value), mesh)
  | .error err mesh =>
      (.denied (statusFor err.denial) err.denial.asStr err.message, mesh)

/-! ## What is read from a body -/

/-- The parts of a text between commas, trimmed, without the empty ones. -/
def listedTexts (value : String) : List String :=
  (((value.toList.splitOn ',').map trimList).filter
    fun part => !part.isEmpty).map String.ofList

def capabilityFields (body : List Char) : List Capability :=
  (((extractQuotedField body "capabilities").or
    (extractQuotedField body "capability")).map fun value =>
      (listedTexts value).map AuthorityId.mk).getD []

/-- The scope that demands one more attribute, if there is a value for it. -/
def ResourceScope.withText (self : ResourceScope) (key : String)
    (value : Option String) : ResourceScope :=
  match value with
  | some value =>
      { self with attributes := self.attributes.insert key (.enum value) }
  | none => self

/-- The scope of a type and an id; an id alone restricts nothing. -/
def namedScope : Option String → Option String → ResourceScope
  | some resourceType, some resourceId => .exact resourceType resourceId
  | some resourceType, none => .resource resourceType
  | _, _ => .any

def resourceScopeFromBody (body : List Char) : ResourceScope :=
  let scope := namedScope (extractQuotedField body "resource_type")
    (extractQuotedField body "resource_id")
  ((scope.withText "tenant"
      ((extractQuotedField body "resource_tenant").or
        (extractQuotedField body "tenant_scope"))).withText "status"
      (extractQuotedField body "status")).withText "department"
    (extractQuotedField body "department")

/-- A value that the handler cannot do without. -/
def orMissing {α : Type} (found : Option α) (field : String) :
    Except ControlResponse α :=
  match found with
  | some value => .ok value
  | none => .error (.badRequest ("missing " ++ field))

def pathId (path start : String) : Option String :=
  (stripStart start path).filter fun id => !id.isEmpty

/-! ## Handlers -/

def requestedDelegationFields (request : HttpRequest) (issuedAt : Int) :
    Except ControlResponse (String × DelegationRequest) := do
  let body := request.body.toList
  let tenant ← orMissing (requestValue request "tenant") "tenant"
  let id ← orMissing (extractQuotedField body "id") "id"
  let delegator ← orMissing (extractQuotedField body "delegator") "delegator"
  let delegate ← orMissing (extractQuotedField body "delegate") "delegate"
  let capability ←
    orMissing (extractQuotedField body "capability") "capability"
  return (tenant,
    { id := ⟨id⟩
      delegator := ⟨delegator⟩
      delegate := ⟨delegate⟩
      capabilities := [⟨capability⟩]
      resourceScope := .any
      issuedAt
      expiresAt := extractNumberField body "expires_at" })

/-- The clock is read once for the issue and once for the checks. -/
def createDelegation (environment : Environment) (clock : Nat → Int)
    (request : HttpRequest) (mesh : AuthMesh) : ControlResponse × AuthMesh :=
  match requestedDelegationFields request (clock 0) with
  | .error response => (response, mesh)
  | .ok (tenant, delegation) =>
      answered delegationJson
        (AuthMesh.delegate environment tenant delegation (clock 1) mesh)

def requestedRunFields (path : String) (request : HttpRequest) :
    Except ControlResponse (String × PrincipalId × RunCreationRequest) := do
  let body := request.body.toList
  let tenant ← orMissing (requestValue request "tenant") "tenant"
  let agentPath ← orMissing (pathId path "/_authboundry/agents/") "agent id"
  let agentId := trimFinish "/runs" agentPath
  let delegationId ←
    orMissing ((extractQuotedField body "delegation_id").or
      (extractQuotedField body "delegation")) "delegation_id"
  let capabilities := capabilityFields body
  refuseIf capabilities.isEmpty (.badRequest "missing capability")
  let expiresAt ←
    orMissing (extractNumberField body "expires_at") "expires_at"
  let taskId := (extractQuotedField body "task_id").getD
    ("task:" ++ replaceChar ':' "-" agentId)
  let taskPurpose := ((extractQuotedField body "purpose").or
    (extractQuotedField body "task_purpose")).getD "agent run"
  return (tenant, ⟨agentId⟩,
    { id := (extractQuotedField body "id").map AuthorityId.mk
      taskId := ⟨taskId⟩
      taskPurpose
      delegationId := ⟨delegationId⟩
      parentRunId :=
        (extractQuotedField body "parent_run_id").map AuthorityId.mk
      capabilities
      resourceScope := resourceScopeFromBody body
      expiresAt
      constraints := [] })

/-- The live revision and the contract are those of the server. -/
def createAgentRun (environment : Environment) (clock : Nat → Int)
    (revision : Nat) (fingerprint path : String) (request : HttpRequest)
    (mesh : AuthMesh) : ControlResponse × AuthMesh :=
  match requestedRunFields path request with
  | .error response => (response, mesh)
  | .ok (tenant, agent, run) =>
      answered runJson
        (AuthMesh.createAgentRun environment tenant agent run (clock 0)
          revision fingerprint mesh)

/-! ## What is granted -/

/-- The two requests that hand out authority. -/
inductive GrantCall where
  | delegation
  | run (path : String)
  deriving DecidableEq, Repr

/-- What the handlers are given besides the request. -/
structure GrantServer where
  environment : Environment
  clock : Nat → Int
  revision : Nat
  fingerprint : String

def GrantCall.perform (server : GrantServer) (call : GrantCall)
    (request : HttpRequest) (mesh : AuthMesh) : ControlResponse × AuthMesh :=
  match call with
  | .delegation =>
      createDelegation server.environment server.clock request mesh
  | .run path =>
      createAgentRun server.environment server.clock server.revision
        server.fingerprint path request mesh

/-- A delegation or a run. -/
inductive Grant where
  | delegation (delegation : Delegation)
  | run (run : AgentRun)

namespace Grant

def capabilities : Grant → List Capability
  | .delegation issued => issued.capabilities
  | .run started => started.capabilityScope

def resourceScope : Grant → ResourceScope
  | .delegation issued => issued.resourceScope
  | .run started => started.resourceScope

def expiresAt : Grant → Option Int
  | .delegation issued => issued.expiresAt
  | .run started => some started.expiresAt

def matchesResource (grant : Grant) (request : AuthorizationRequest)
    (attributes : Option ResourceAttributes) : Bool :=
  match grant with
  | .delegation issued =>
      delegationScopeMatches issued.resourceScope request attributes
  | .run started =>
      resourceScopeMatches started.resourceScope request attributes

theorem matchesResource_eq (grant : Grant) (request : AuthorizationRequest)
    (attributes : Option ResourceAttributes) :
    grant.matchesResource request attributes =
      resourceScopeMatches grant.resourceScope request attributes := by
  cases grant <;> rfl

/-- The second mesh has the grant, and the first one has not. -/
def Created (before after : AuthMesh) : Grant → Prop
  | .delegation issued =>
      after.stores.delegations.delegations[issued.id]? = some issued ∧
        before.stores.delegations.delegations[issued.id]? ≠ some issued
  | .run started =>
      after.stores.runs.runs[started.id]? = some started ∧
        before.stores.runs.runs[started.id]? ≠ some started

end Grant

variable {server : GrantServer} {request : HttpRequest} {mesh : AuthMesh}

theorem statusFor_ne_ok (reason : DenialReason) : statusFor reason ≠ 200 := by
  cases reason <;> decide

theorem answered_isOk {α : Type} {toJson : α → JsonValue}
    {outcome : EStateM.Result AuthError AuthMesh α}
    (success : (answered toJson outcome).1.IsOk) :
    ∃ value after, outcome = .ok value after ∧
      (answered toJson outcome).2 = after := by
  cases outcome with
  | ok value after => exact ⟨value, after, rfl, rfl⟩
  | error err after => exact absurd success (statusFor_ne_ok err.denial)

theorem orMissing_eq_ok_iff {α : Type} {found : Option α} {field : String}
    {value : α} : orMissing found field = .ok value ↔ found = some value := by
  cases found <;> simp [orMissing]

/-- Where the reading of a request fails, it is not answered with success. -/
def RefusesOnly {α : Type} (outcome : Except ControlResponse α) : Prop :=
  ∀ response, outcome = .error response → ¬ response.IsOk

namespace RefusesOnly

variable {α β : Type}

theorem ok (value : α) : RefusesOnly (.ok value) := by
  intro response impossible
  cases impossible

theorem bind {first : Except ControlResponse α}
    {next : α → Except ControlResponse β} (early : RefusesOnly first)
    (late : ∀ value, RefusesOnly (next value)) :
    RefusesOnly (first >>= next) := by
  cases first with
  | error refused =>
      intro response same
      obtain rfl := Except.error.inj same
      exact early refused rfl
  | ok value => exact late value

theorem orMissing (found : Option α) (field : String) :
    RefusesOnly (orMissing found field) := by
  cases found with
  | some value => exact ok value
  | none =>
      intro response same
      obtain rfl := Except.error.inj same
      intro isOk
      cases isOk

theorem refuseIf (condition : Bool) (message : String) :
    RefusesOnly (refuseIf condition (.badRequest message)) := by
  cases condition with
  | false => exact ok ()
  | true =>
      intro response same
      obtain rfl := Except.error.inj same
      intro isOk
      cases isOk

end RefusesOnly

theorem requestedDelegationFields_refusesOnly (issuedAt : Int) :
    RefusesOnly (requestedDelegationFields request issuedAt) := by
  rw [requestedDelegationFields]
  refine .bind (.orMissing _ _) fun tenant => ?_
  refine .bind (.orMissing _ _) fun id => ?_
  refine .bind (.orMissing _ _) fun delegator => ?_
  refine .bind (.orMissing _ _) fun delegate => ?_
  exact .bind (.orMissing _ _) fun capability => .ok _

theorem requestedRunFields_refusesOnly (path : String) :
    RefusesOnly (requestedRunFields path request) := by
  rw [requestedRunFields]
  refine .bind (.orMissing _ _) fun tenant => ?_
  refine .bind (.orMissing _ _) fun agentPath => ?_
  refine .bind (.orMissing _ _) fun delegationId => ?_
  refine .bind (.refuseIf _ _) fun _ => ?_
  exact .bind (.orMissing _ _) fun expiresAt => .ok _

/-! ## What a request is granted -/

namespace GrantCall

def capabilities (call : GrantCall) (body : List Char) : List Capability :=
  match call with
  | .delegation =>
      ((extractQuotedField body "capability").map AuthorityId.mk).toList
  | .run _ => capabilityFields body

def resourceScope (call : GrantCall) (body : List Char) : ResourceScope :=
  match call with
  | .delegation => .any
  | .run _ => resourceScopeFromBody body

/-- The one grant that is made has what the body is read as. -/
structure Makes (call : GrantCall) (request : HttpRequest)
    (before after : AuthMesh) (grant : Grant) : Prop where
  created : ∀ other, other.Created before after ↔ other = grant
  capabilities : grant.capabilities = call.capabilities request.body.toList
  resourceScope : grant.resourceScope = call.resourceScope request.body.toList
  expiresAt :
    grant.expiresAt = extractNumberField request.body.toList "expires_at"

end GrantCall

theorem created_withDelegation {issued : Delegation}
    {tenant : TenantContext} {record : AuditRecord} {now : Int}
    (fresh : mesh.stores.delegations.delegations[issued.id]? = none)
    (other : Grant) :
    other.Created mesh
        ((mesh.withDelegation issued).stamped tenant record now) ↔
      other = .delegation issued := by
  cases other with
  | run started =>
      refine iff_of_false ?_ (by simp)
      rintro ⟨after, before⟩
      exact before after
  | delegation found =>
      have stored :
          ((mesh.withDelegation issued).stamped tenant record now).stores
              |>.delegations.delegations[found.id]? =
            if issued.id = found.id then some issued
            else mesh.stores.delegations.delegations[found.id]? :=
        KeyedMap.getElem?_insert_eq _ _ _ _
      rw [Grant.Created, stored]
      by_cases same : issued.id = found.id
      · rw [if_pos same, ← same, fresh]
        simp [eq_comm]
      · rw [if_neg same]
        refine iff_of_false (fun both => both.2 both.1) ?_
        rintro equal
        exact same (congrArg Delegation.id (Grant.delegation.inj equal)).symm

theorem created_withRun {started : AgentRun} {id : Option RunId}
    {tenant : TenantContext} {record : AuditRecord} {now : Int}
    (fresh : mesh.stores.runs.runs[started.id]? = none) (other : Grant) :
    other.Created mesh
        (((mesh.withRunChosen id).withRun started).stamped tenant record now) ↔
      other = .run started := by
  have sameStores : (mesh.withRunChosen id).stores = mesh.stores := by
    cases id <;> rfl
  cases other with
  | delegation issued =>
      refine iff_of_false ?_ (by simp)
      rintro ⟨after, before⟩
      change (mesh.withRunChosen id).stores.delegations.delegations[
        issued.id]? = some issued at after
      rw [sameStores] at after
      exact before after
  | run found =>
      have stored :
          (((mesh.withRunChosen id).withRun started).stamped tenant record
              now).stores.runs.runs[found.id]? =
            if started.id = found.id then some started
            else mesh.stores.runs.runs[found.id]? := by
        rw [← sameStores]
        exact KeyedMap.getElem?_insert_eq _ _ _ _
      rw [Grant.Created, stored]
      by_cases same : started.id = found.id
      · rw [if_pos same, ← same, fresh]
        simp [eq_comm]
      · rw [if_neg same]
        refine iff_of_false (fun both => both.2 both.1) ?_
        intro equal
        exact same (congrArg AgentRun.id (Grant.run.inj equal)).symm

/-- What ends with success has recorded its event and changed nothing else. -/
theorem finish_eq_ok {α : Type} {tenant : TenantContext}
    {record : AuditRecord} {now : Int} {value result : α}
    {after : AuthMesh}
    (outcome : AuthMesh.finish server.environment tenant record now value
      mesh = .ok result after) :
    after = mesh.stamped tenant record now := by
  rw [AuthMesh.finish_eq] at outcome
  cases fault : server.environment.auditFault mesh.auditSequence with
  | some err =>
      rw [fault] at outcome
      cases outcome
  | none =>
      rw [fault] at outcome
      cases outcome
      rfl

theorem requestedDelegationFields_ok {issuedAt : Int} {tenantId : String}
    {wanted : DelegationRequest}
    (fields : requestedDelegationFields request issuedAt =
      .ok (tenantId, wanted)) :
    wanted.capabilities =
        GrantCall.delegation.capabilities request.body.toList ∧
      wanted.resourceScope = .any ∧
      wanted.expiresAt =
        extractNumberField request.body.toList "expires_at" := by
  obtain ⟨tenant, _, fields⟩ := except_bind_eq_ok_iff.mp fields
  obtain ⟨id, _, fields⟩ := except_bind_eq_ok_iff.mp fields
  obtain ⟨delegator, _, fields⟩ := except_bind_eq_ok_iff.mp fields
  obtain ⟨delegate, _, fields⟩ := except_bind_eq_ok_iff.mp fields
  obtain ⟨capability, found, fields⟩ := except_bind_eq_ok_iff.mp fields
  cases fields
  rw [GrantCall.capabilities, orMissing_eq_ok_iff.mp found]
  exact ⟨rfl, rfl, rfl⟩

theorem requestedRunFields_ok {path tenantId : String} {agent : PrincipalId}
    {wanted : RunCreationRequest}
    (fields : requestedRunFields path request = .ok (tenantId, agent, wanted)) :
    wanted.capabilities = capabilityFields request.body.toList ∧
      wanted.resourceScope = resourceScopeFromBody request.body.toList ∧
      some wanted.expiresAt =
        extractNumberField request.body.toList "expires_at" := by
  obtain ⟨tenant, _, fields⟩ := except_bind_eq_ok_iff.mp fields
  obtain ⟨agentPath, _, fields⟩ := except_bind_eq_ok_iff.mp fields
  obtain ⟨delegationId, _, fields⟩ := except_bind_eq_ok_iff.mp fields
  obtain ⟨_, _, fields⟩ := except_bind_eq_ok_iff.mp fields
  obtain ⟨expiresAt, found, fields⟩ := except_bind_eq_ok_iff.mp fields
  cases fields
  exact ⟨rfl, rfl, (orMissing_eq_ok_iff.mp found).symm⟩

theorem createDelegation_makes
    (success :
      (createDelegation server.environment server.clock request mesh).1.IsOk) :
    ∃ grant, GrantCall.delegation.Makes request mesh
      (createDelegation server.environment server.clock request mesh).2
      grant := by
  rw [createDelegation] at success ⊢
  cases fields : requestedDelegationFields request (server.clock 0) with
  | error response =>
      rw [fields] at success
      exact absurd success
        (requestedDelegationFields_refusesOnly _ response fields)
  | ok pair =>
      obtain ⟨tenantId, wanted⟩ := pair
      obtain ⟨sameCapabilities, sameScope, sameExpiry⟩ :=
        requestedDelegationFields_ok fields
      rw [fields] at success
      obtain ⟨issued, after, outcome, sameMesh⟩ := answered_isOk success
      dsimp only
      rw [sameMesh]
      rw [AuthMesh.delegate_eq] at outcome
      cases grounds : mesh.delegateGrounds server.environment tenantId wanted
          (server.clock 1) with
      | error err =>
          rw [grounds] at outcome
          cases outcome
      | ok granted =>
          obtain ⟨tenant, delegation⟩ := granted
          obtain ⟨_, checked, fresh⟩ := AuthMesh.delegateGrounds_ok grounds
          obtain ⟨_, _, _, _, chain, _, rfl⟩ :=
            AuthMesh.checkedDelegation_ok checked
          rw [grounds] at outcome
          dsimp only at outcome
          obtain rfl := finish_eq_ok outcome
          exact
            ⟨.delegation (AuthMesh.requestedDelegation tenant wanted chain),
              { created := created_withDelegation fresh
                capabilities := sameCapabilities
                resourceScope := sameScope
                expiresAt := sameExpiry }⟩

theorem createAgentRun_makes {path : String}
    (success :
      (createAgentRun server.environment server.clock server.revision
        server.fingerprint path request mesh).1.IsOk) :
    ∃ grant, (GrantCall.run path).Makes request mesh
      (createAgentRun server.environment server.clock server.revision
        server.fingerprint path request mesh).2 grant := by
  rw [createAgentRun] at success ⊢
  cases fields : requestedRunFields path request with
  | error response =>
      rw [fields] at success
      exact absurd success (requestedRunFields_refusesOnly _ response fields)
  | ok triple =>
      obtain ⟨tenantId, agent, wanted⟩ := triple
      obtain ⟨sameCapabilities, sameScope, sameExpiry⟩ :=
        requestedRunFields_ok fields
      rw [fields] at success
      obtain ⟨started, after, outcome, sameMesh⟩ := answered_isOk success
      dsimp only
      rw [sameMesh]
      rw [AuthMesh.createAgentRun_eq] at outcome
      cases grounds : mesh.createRunGrounds tenantId agent wanted
          (server.clock 0) server.revision server.fingerprint with
      | error err =>
          rw [grounds] at outcome
          cases outcome
      | ok granted =>
          obtain ⟨tenant, run⟩ := granted
          obtain ⟨_, _, checked⟩ := AuthMesh.createRunGrounds_ok grounds
          obtain ⟨credential, revision, fingerprint, same⟩ := checked.created
          rw [grounds] at outcome
          dsimp only at outcome
          by_cases taken : mesh.stores.runs.runs.contains run.id = true
          · rw [if_pos taken] at outcome
            cases outcome
          · rw [if_neg taken] at outcome
            obtain rfl := finish_eq_ok outcome
            have absent : run.id ∉ mesh.stores.runs.runs := by simpa using taken
            have fresh := Std.ExtTreeMap.getElem?_eq_none absent
            refine
              ⟨.run run,
                { created := created_withRun fresh
                  capabilities := ?_
                  resourceScope := ?_
                  expiresAt := ?_ }⟩
            · rw [same]
              exact sameCapabilities
            · rw [same]
              exact sameScope
            · rw [same]
              exact sameExpiry

theorem GrantCall.perform_makes {call : GrantCall}
    (success : (call.perform server request mesh).1.IsOk) :
    ∃ grant, call.Makes request mesh (call.perform server request mesh).2
      grant := by
  cases call with
  | delegation => exact createDelegation_makes success
  | run path => exact createAgentRun_makes success

end AuthBoundry
