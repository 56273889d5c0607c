import AuthBoundry.Runtime.DelegationSelection

/-!
# The authority behind a run

A request within a run passes two checks: the run has to admit it, and the
mesh then decides it like any other request of the agent.  The second check
does not know which delegation the run was created under, so that the answer
may rest on a rule or on another delegation.
-/

namespace AuthBoundry

open Library

namespace AuthMesh

def runMap (self : AuthMesh) : KeyedMap RunId AgentRun :=
  self.stores.runs.runs

/-- The run is stored, live and the agent's own, and the request lies inside
its scope. -/
structure RunAdmits (mesh : AuthMesh) (context : RuntimeContext)
    (runId : RunId) (request : AuthorizationRequest)
    (resourceAttributes : Option ResourceAttributes) (now : Int)
    (run : AgentRun) : Prop where
  stored : mesh.runMap[runId]? = some run
  active : run.status = .active
  unexpired : now < run.expiresAt
  acting : run.agentPrincipal = context.principal.id
  sameTenant : run.tenantId = context.tenant.tenantId
  capability : request.capability ∈ run.capabilityScope
  resource : resourceScopeMatches run.resourceScope request
    resourceAttributes = true

variable {self : AuthMesh} {environment : Environment}
  {context : RuntimeContext} {runId : RunId} {request : AuthorizationRequest}
  {resourceAttributes : Option ResourceAttributes} {now : Int}

theorem agentRun_eq_ok_iff {tenant : TenantContext} {run : AgentRun} :
    self.agentRun tenant runId = .ok (some run) ↔
      self.runMap[runId]? = some run ∧ run.tenantId = tenant.tenantId := by
  unfold agentRun
  rw [except_mapError_eq_ok_iff]
  exact getScoped_eq_some_iff

theorem checkedRun_eq_ok_iff {tenant : TenantContext} {run : AgentRun} :
    self.checkedRun tenant runId now = .ok run ↔
      self.runMap[runId]? = some run ∧ run.tenantId = tenant.tenantId ∧
        run.status = .active ∧ now < run.expiresAt := by
  have found := @agentRun_eq_ok_iff self runId tenant
  unfold checkedRun
  cases answer : self.agentRun tenant runId with
  | error err =>
      simp only [reduceCtorEq, false_iff]
      rintro ⟨stored, inTenant, _⟩
      have same := found.mpr ⟨stored, inTenant⟩
      rw [answer] at same
      cases same
  | ok listed =>
      cases listed with
      | none =>
          simp only [reduceCtorEq, false_iff]
          rintro ⟨stored, inTenant, _⟩
          have same := found.mpr ⟨stored, inTenant⟩
          rw [answer] at same
          cases same
      | some stored =>
          have facts := found.mp answer
          constructor
          · intro checked
            dsimp only at checked
            split at checked <;> try cases checked
            rename_i active
            split at checked
            · cases checked
            · rename_i unexpired
              cases checked
              exact ⟨facts.1, facts.2, active, Int.not_le.mp unexpired⟩
          · rintro ⟨listed, _, active, unexpired⟩
            rw [facts.1] at listed
            cases listed
            simp only [active]
            rw [if_neg (Int.not_le.mpr unexpired)]

theorem checkedRunForRequest_eq_ok_iff {run : AgentRun} :
    self.checkedRunForRequest context runId request resourceAttributes now =
        .ok run ↔
      self.RunAdmits context runId request resourceAttributes now run := by
  have checked := @checkedRun_eq_ok_iff self runId now context.tenant
  unfold checkedRunForRequest
  cases answer : self.checkedRun context.tenant runId now with
  | error err =>
      simp only [reduceCtorEq, false_iff]
      intro admits
      have same := checked.mpr ⟨admits.stored, admits.sameTenant,
        admits.active, admits.unexpired⟩
      rw [answer] at same
      cases same
  | ok found =>
      obtain ⟨stored, sameTenant, active, unexpired⟩ := checked.mp answer
      constructor
      · intro accepted
        dsimp only at accepted
        split at accepted
        · cases accepted
        · rename_i own
          split at accepted
          · cases accepted
          · rename_i capability
            split at accepted
            · cases accepted
            · rename_i resource
              cases accepted
              simp only [Bool.or_eq_true, bne_iff_ne, ne_eq, not_or,
                not_not] at own
              exact
                { stored
                  active
                  unexpired
                  acting := own.1
                  sameTenant
                  capability := by simpa using capability
                  resource := by simpa using resource }
      · intro admits
        have same := admits.stored
        rw [stored] at same
        cases same
        simp [admits.acting, sameTenant, admits.capability, admits.resource]

/-! ## The decision within a run -/

variable {authorityRevision : Nat} {grant : GrantedCapability}

theorem requestGrant_runRequest_iff {systemTime : Option Int}
    {policy : Policy} {principal : Principal} {tenant : TenantContext}
    {delegation : Option Delegation} {run : AgentRun} :
    RequestGrant systemTime policy principal tenant delegation
        (runRequest request run) resourceAttributes now grant ↔
      RequestGrant systemTime policy principal tenant delegation request
        resourceAttributes now grant := by
  constructor
  · intro grounds
    cases grounds with
    | claim rule accepted decides allows =>
        exact .claim rule (requestAccepted_runRequest_iff.mp accepted) decides
          allows
    | delegated source accepted undecided agent offered covers scope =>
        exact .delegated source (requestAccepted_runRequest_iff.mp accepted)
          undecided agent offered covers scope
  · intro grounds
    cases grounds with
    | claim rule accepted decides allows =>
        exact .claim rule (requestAccepted_runRequest_iff.mpr accepted)
          decides allows
    | delegated source accepted undecided agent offered covers scope =>
        exact .delegated source (requestAccepted_runRequest_iff.mpr accepted)
          undecided agent offered covers scope

theorem authorizeRunRequest_grant_iff :
    (self.authorizeRunRequestWithAuthorityRevision environment context runId
        request resourceAttributes now authorityRevision).1.grant =
          some grant ↔
      (∃ run, self.RunAdmits context runId request resourceAttributes now
        run) ∧
      environment.auditFault self.auditSequence = none ∧
      ∃ policy, self.policy context.tenant = .ok policy ∧
        RequestGrant environment.systemTime policy context.principal
          context.tenant
          (pickDelegation
            (self.delegationsFor context.tenant context.principal.id)
            request.capability now) request resourceAttributes now grant := by
  simp only [← checkedRunForRequest_eq_ok_iff]
  unfold authorizeRunRequestWithAuthorityRevision
  cases self.checkedRunForRequest context runId request resourceAttributes
      now with
  | error refusal =>
      dsimp only
      rw [settleDecision_grant_iff]
      simp [AuthorizationDecision.grant]
  | ok run =>
      have admitted : ∃ allowing : AgentRun,
          (.ok run : Except (DenialReason × Option AgentRun) AgentRun) =
            .ok allowing :=
        ⟨run, rfl⟩
      dsimp only
      rw [authorizeRequest_grant_iff, and_iff_right admitted]
      simp only [requestGrant_runRequest_iff]
      rfl

/-- The delegation the run was created under is stored, unrevoked and valid,
and is the one the grant names. -/
def RestsOnRun (mesh : AuthMesh) (run : AgentRun) (now : Int)
    (grant : GrantedCapability) : Prop :=
  ∃ delegation, mesh.delegationMap[run.delegationId]? = some delegation ∧
    delegation.revokedAt = none ∧ delegation.isValidAt now = true ∧
    grant.delegationId = some run.delegationId

/-- What an allowed request within a run is owed: the run admits it, and the
grant rests on the delegation of the run. -/
def HonoursRun (mesh : AuthMesh) (environment : Environment)
    (context : RuntimeContext) (runId : RunId)
    (request : AuthorizationRequest)
    (resourceAttributes : Option ResourceAttributes) (now : Int)
    (authorityRevision : Nat) : Prop :=
  ∀ grant,
    (mesh.authorizeRunRequestWithAuthorityRevision environment context runId
        request resourceAttributes now authorityRevision).1.grant =
          some grant →
      ∃ run,
        mesh.RunAdmits context runId request resourceAttributes now run ∧
          mesh.RestsOnRun run now grant

/-- No rule allows what the run admits, and of the agent's delegations that
offer the capability the one with the least id is that of the run, or its
scope does not cover the request. -/
def OnlyRunDecides (mesh : AuthMesh) (environment : Environment)
    (context : RuntimeContext) (run : AgentRun)
    (request : AuthorizationRequest)
    (resourceAttributes : Option ResourceAttributes) (now : Int) : Prop :=
  ∀ policy, mesh.policy context.tenant = .ok policy →
    match decidingRule environment.systemTime policy context.principal request
        resourceAttributes with
    | some rule => rule.effect ≠ .allow
    | none =>
        context.principal.kind = .agent →
          ∀ first,
            mesh.Offers context.tenant context.principal.id request.capability
                now first →
              (∀ other,
                mesh.Offers context.tenant context.principal.id
                  request.capability now other → first.id ≤ other.id) →
                delegationScopeMatches first.resourceScope request
                    resourceAttributes = true →
                  first.id = run.delegationId

theorem restsOnRun_iff
    (keyed : KeyedMap.KeyedBy Delegation.id self.delegationMap)
    {run : AgentRun}
    (admitted : self.Admits environment context request resourceAttributes) :
    (∀ policy grant, self.policy context.tenant = .ok policy →
        RequestGrant environment.systemTime policy context.principal
            context.tenant
            (pickDelegation
              (self.delegationsFor context.tenant context.principal.id)
              request.capability now) request resourceAttributes now grant →
          self.RestsOnRun run now grant) ↔
      self.OnlyRunDecides environment context run request resourceAttributes
        now := by
  obtain ⟨_, policy, policyFound, accepted⟩ := admitted
  have addressed : ∀ delegation ∈
      self.delegationsFor context.tenant context.principal.id, _ :=
    delegationsFor_addressed keyed
  constructor
  · intro rests policy' policyFound'
    rw [policyFound] at policyFound'
    cases policyFound'
    cases decides : decidingRule environment.systemTime policy
        context.principal request resourceAttributes with
    | some rule =>
        intro allows
        obtain ⟨_, _, _, _, named⟩ := rests policy _ policyFound
          (.claim rule accepted decides allows)
        cases named
    | none =>
        intro agent first offers least scope
        have search := (firstValid_eq_some_iff keyed).mpr ⟨offers, least⟩
        obtain ⟨offered, covers⟩ :=
          (pickDelegation_covers_iff addressed).mpr search
        obtain ⟨_, _, _, _, named⟩ := rests policy _ policyFound
          (.delegated first accepted decides agent offered covers scope)
        exact Option.some.inj named
  · intro onlyRun policy' grant policyFound' grounds
    have decided := onlyRun policy' policyFound'
    cases grounds with
    | claim rule _ decides allows =>
        rw [decides] at decided
        exact (decided allows).elim
    | delegated source _ undecided agent offered covers scope =>
        rw [undecided] at decided
        have search :=
          (pickDelegation_covers_iff addressed).mp ⟨offered, covers⟩
        obtain ⟨offers, least⟩ := (firstValid_eq_some_iff keyed).mp search
        have same := decided agent source offers least scope
        refine ⟨source, ?_, covers.unrevoked, covers.valid, ?_⟩
        · rw [← same]
          exact offers.stored
        · rw [← same]
          rfl

/-- An allowed request within a run is owed what it claims exactly if, where
the mesh admits it, only the run decides. -/
theorem honoursRun_iff (reachable : system.Reachable self) :
    self.HonoursRun environment context runId request resourceAttributes now
        authorityRevision ↔
      ∀ run,
        self.RunAdmits context runId request resourceAttributes now run →
          self.Admits environment context request resourceAttributes →
            self.OnlyRunDecides environment context run request
              resourceAttributes now := by
  have keyed := delegationMap_keyed reachable
  constructor
  · intro honours run admits admitted
    rw [← restsOnRun_iff keyed admitted]
    intro policy grant policyFound grounds
    obtain ⟨same, sameAdmits, rests⟩ := honours grant
      (authorizeRunRequest_grant_iff.mpr
        ⟨⟨run, admits⟩, admitted.1, policy, policyFound, grounds⟩)
    have stored := sameAdmits.stored
    rw [admits.stored] at stored
    cases stored
    exact rests
  · intro condition grant granted
    obtain ⟨⟨run, admits⟩, recorded, policy, policyFound, grounds⟩ :=
      authorizeRunRequest_grant_iff.mp granted
    have accepted : RequestAccepted policy context.principal context.tenant
        request resourceAttributes := by
      cases grounds with
      | claim rule accepted => exact accepted
      | delegated source accepted => exact accepted
    have admitted : self.Admits environment context request
        resourceAttributes :=
      ⟨recorded, policy, policyFound, accepted⟩
    have rests := (restsOnRun_iff keyed admitted).mpr
      (condition run admits admitted)
    exact ⟨run, admits, rests policy grant policyFound grounds⟩

end AuthMesh

/-! ## A run that outlives its delegation -/

def startRun (id delegationId : String) (parentRunId : Option RunId) :
    MeshCall :=
  acmeCall 3
    (.createAgentRun "acme" (acmeId "worker")
      { id := some ⟨id⟩
        taskId := ⟨"task"⟩
        taskPurpose := "read invoices"
        delegationId := ⟨delegationId⟩
        parentRunId
        capabilities := [⟨"invoice.read"⟩]
        resourceScope := .any
        expiresAt := 100
        constraints := [] }
      0 "")

/-- The worker holds two delegations of the same capability and runs a task
under the first. -/
def runCalls : List MeshCall :=
  acmeCalls [readRule] ++
    [handOver "dlg_a" "alice" "worker" [⟨"invoice.read"⟩] .any,
      handOver "dlg_b" "alice" "worker" [⟨"invoice.read"⟩] .any,
      startRun "run_1" "dlg_a" none]

def runningMesh : AuthMesh := AuthMesh.system.run emptyMesh runCalls

theorem honoursRun_iff_worker :
    runningMesh.HonoursRun acmeEnvironment (agentContext "worker") ⟨"run_1"⟩
        (workerRequest "invoice") none 10 0 ↔
      ∀ run,
        runningMesh.RunAdmits (agentContext "worker") ⟨"run_1"⟩
            (workerRequest "invoice") none 10 run →
          runningMesh.Admits acmeEnvironment (agentContext "worker")
              (workerRequest "invoice") none →
            runningMesh.OnlyRunDecides acmeEnvironment (agentContext "worker")
              run (workerRequest "invoice") none 10 :=
  AuthMesh.honoursRun_iff (.run (.start emptyMesh_fresh) runCalls)

def outlivedMesh : AuthMesh :=
  AuthMesh.system.run emptyMesh
    (runCalls ++ [acmeCall 4 (.revokeDelegation "acme" ⟨"dlg_a"⟩)])

/-- The run goes on under the other delegation. -/
theorem outlivedMesh_not_honoursRun :
    AuthMesh.system.Reachable outlivedMesh ∧
      (outlivedMesh.authorizeRunRequestWithAuthorityRevision acmeEnvironment
        (agentContext "worker") ⟨"run_1"⟩ (workerRequest "invoice") none 10
        0).1.isAllowed = true ∧
      ¬outlivedMesh.HonoursRun acmeEnvironment (agentContext "worker")
        ⟨"run_1"⟩ (workerRequest "invoice") none 10 0 := by
  have decided : ∃ grant,
      (outlivedMesh.authorizeRunRequestWithAuthorityRevision acmeEnvironment
        (agentContext "worker") ⟨"run_1"⟩ (workerRequest "invoice") none 10
        0).1.grant = some grant ∧ grant.delegationId = some ⟨"dlg_b"⟩ :=
    Option.map_eq_some_iff.mp (by decide +kernel)
  have running : ∃ run : AgentRun,
      outlivedMesh.runMap[(⟨"run_1"⟩ : RunId)]? = some run ∧
        run.delegationId = ⟨"dlg_a"⟩ :=
    Option.map_eq_some_iff.mp (by decide +kernel)
  obtain ⟨grant, granted, named⟩ := decided
  obtain ⟨run, stored, created⟩ := running
  refine ⟨.run (.start emptyMesh_fresh) _, ?_, ?_⟩
  · exact AuthorizationDecision.isAllowed_iff_grant.mpr ⟨grant, granted⟩
  · intro honours
    obtain ⟨same, admits, _, _, _, _, rests⟩ := honours grant granted
    have sameRun := admits.stored
    rw [stored] at sameRun
    cases sameRun
    simp [named, created] at rests

end AuthBoundry
