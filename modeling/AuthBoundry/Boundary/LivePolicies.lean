import AuthBoundry.Authz.ClockReadings
import AuthBoundry.Boundary.Methods
import AuthBoundry.Library.Encoding
import AuthBoundry.Runtime.DelegationSelection

/-!
# Live capability policies

A live policy is what is currently permitted for a capability.  Only decisions
by name consult it, and with the delegation of the context instead of the one
that is picked; what is decided by resource or in a run still follows the
policy of the tenant.
-/

namespace AuthBoundry

open Library
open Library.Stateful

/-- The decision without the id of the event that it was recorded as. -/
def AuthorizationDecision.unrecorded :
    AuthorizationDecision → AuthorizationDecision
  | .allow grant resource action matchedRules conditions _ =>
      .allow grant resource action matchedRules conditions none
  | .deny reason capability resource action policyId matchedRules conditions
      _ =>
      .deny reason capability resource action policyId matchedRules conditions
        none

@[simp] theorem unrecorded_attachAuditEvent (decision : AuthorizationDecision)
    (id : AuditEventId) :
    (attachAuditEvent decision id).unrecorded = decision.unrecorded := by
  cases decision <;> rfl

theorem AuthorizationDecision.unrecorded_eq {decision : AuthorizationDecision}
    (fresh : decision.auditEventId = none) :
    decision.unrecorded = decision := by
  cases decision with
  | allow => exact congrArg _ fresh.symm
  | deny => exact congrArg _ fresh.symm

namespace AuthPortRuntime

/-! ## The decision a policy gives -/

def resourceDecision (environment : Environment) (self : AuthPortRuntime)
    (policy : Policy) (context : AuthContext)
    (authRequest : AuthorizationRequest) (named : Option RunId) (now : Int) :
    AuthorizationDecision :=
  let attributes := self.resourceAttributes authRequest
  let evaluated (asked : AuthorizationRequest) : AuthorizationDecision :=
    evaluateAuthorizationRequest environment.systemTime (some policy)
      (some context.principal) (some context.tenant)
      (pickDelegation
        (self.mesh.delegationsFor context.tenant context.principal.id)
        asked.capability now) asked attributes now
  match named with
  | none => evaluated authRequest
  | some runId =>
      match self.mesh.checkedRunForRequest context.runtime runId authRequest
          attributes now with
      | .error (reason, _) => denyFor authRequest reason (some policy)
      | .ok run => evaluated (AuthMesh.runRequest authRequest run)

/-- The decision that evaluating a policy gives on an enforced request: by
resource and in the run that is named, or else by name, in each case with the
delegation that is picked for the capability. -/
def evaluationUnder (environment : Environment) (self : AuthPortRuntime)
    (policy : Policy) (context : AuthContext) (capability : String)
    (request : BoundaryRequest) (now : Int) :
    Except AuthError AuthorizationDecision :=
  match authorizationRequest context.runtime capability request with
  | none => do
      refuseIf (isBlank capability) noCapabilityNamed
      .ok (evaluateCapability environment.systemTime (some policy)
        (some context.principal) (some context.tenant)
        (pickDelegation
          (self.mesh.delegationsFor context.tenant context.principal.id)
          ⟨capability⟩ now) ⟨capability⟩ now)
  | some authRequest => do
      let named ← self.runIdFromRequest context request
      refuseIf (isBlank capability) noCapabilityNamed
      .ok (self.resourceDecision environment policy context authRequest named
        now)

/-- What is decided, apart from the id of the event that records it. -/
def decision (environment : Environment) (self : AuthPortRuntime)
    (context : AuthContext) (capability : String) (request : BoundaryRequest)
    (now : Int) : Except AuthError AuthorizationDecision :=
  match decide environment context capability request now self with
  | .ok decision _ => .ok decision.unrecorded
  | .error err _ => .error err

/-- The whole decision is the one that evaluating the policy gives. -/
def DecidesUnder (environment : Environment) (self : AuthPortRuntime)
    (policy : Policy) (context : AuthContext) (capability : String)
    (request : BoundaryRequest) (now : Int) : Prop :=
  self.decision environment context capability request now =
    self.evaluationUnder environment policy context capability request now

end AuthPortRuntime

/-! ## By name -/

section Capability

variable {systemTime : Option Int} {policy : Policy} {principal : Principal}
  {tenant : TenantContext} {capability : Capability} {now : Int}

theorem evaluateCapability_agent {delegation : Option Delegation}
    (accepted : Accepted policy principal tenant)
    (undecided : claimRule systemTime policy principal capability = none)
    (agent : principal.kind = .agent) :
    evaluateCapability systemTime (some policy) (some principal) (some tenant)
        delegation capability now =
      decideByDelegation policy principal tenant delegation capability
        now := by
  obtain ⟨header, active⟩ := accepted_iff.mp accepted
  have scan := grantingRule_eq systemTime principal capability policy.rules
  rw [show policy.rules.find? _ = none from undecided] at scan
  simp only [evaluateCapability, header, active, scan]
  simp [agent]

/-- Everywhere else no delegation is looked at. -/
theorem evaluateCapability_undelegated (first second : Option Delegation)
    (decided : ¬(Accepted policy principal tenant ∧
      claimRule systemTime policy principal capability = none ∧
      principal.kind = .agent)) :
    evaluateCapability systemTime (some policy) (some principal) (some tenant)
        first capability now =
      evaluateCapability systemTime (some policy) (some principal)
        (some tenant) second capability now := by
  by_cases accepted : Accepted policy principal tenant
  · obtain ⟨header, active⟩ := accepted_iff.mp accepted
    have scan := grantingRule_eq systemTime principal capability policy.rules
    cases claims : claimRule systemTime policy principal capability with
    | some rule =>
        rw [show policy.rules.find? _ = some rule from claims] at scan
        simp only [evaluateCapability, header, active, scan]
        rfl
    | none =>
        have notAgent : principal.kind ≠ .agent := fun agent =>
          decided ⟨accepted, claims, agent⟩
        rw [show policy.rules.find? _ = none from claims] at scan
        simp only [evaluateCapability, header, active, scan]
        simp [notAgent]
  · simp only [evaluateCapability]
    split
    · rfl
    · rename_i header
      cases active : agentRefusal principal with
      | some reason => rfl
      | none =>
          have refuted := accepted_iff.mpr ⟨by simpa using header, active⟩
          exact (accepted refuted).elim

theorem decideByDelegation_addressed {source : Delegation}
    (sameTenant : source.tenantId = tenant.tenantId)
    (addressed : source.delegate = principal.id) :
    decideByDelegation policy principal tenant (some source) capability now =
      if source.revokedAt.isSome then deny .revokedDelegation
      else if source.isValidAt now = false then deny .expiredDelegation
      else if capability ∉ source.capabilities then deny .delegationMissing
      else
        .allow (delegatedGrant policy principal tenant source capability)
          none none ["delegation"] [] none := by
  simp [decideByDelegation, sameTenant, addressed]

theorem decideByDelegation_ne_missing {source : Delegation}
    (sameTenant : source.tenantId = tenant.tenantId)
    (addressed : source.delegate = principal.id)
    (contains : capability ∈ source.capabilities) :
    decideByDelegation policy principal tenant (some source) capability now ≠
      deny .delegationMissing := by
  rw [decideByDelegation_addressed sameTenant addressed,
    if_neg (not_not.mpr contains)]
  split
  · simp [deny]
  · split
    · simp [deny]
    · simp [deny]

end Capability

theorem pickDelegation_eq_some {delegations : List Delegation}
    {capability : Capability} {now : Int} {source : Delegation}
    (picked : pickDelegation delegations capability now = some source) :
    source ∈ delegations ∧ capability ∈ source.capabilities := by
  rcases Option.or_eq_some_iff.mp picked with valid | ⟨_, any⟩
  · obtain ⟨member, _, contains⟩ := AuthMesh.firstValid_eq_some valid
    exact ⟨member, contains⟩
  · exact ⟨List.mem_of_find?_eq_some any, by simpa using List.find?_some any⟩

theorem pickDelegation_eq_none {delegations : List Delegation}
    {capability : Capability} {now : Int}
    (picked : pickDelegation delegations capability now = none)
    {source : Delegation} (member : source ∈ delegations) :
    capability ∉ source.capabilities := by
  obtain ⟨_, any⟩ := Option.or_eq_none_iff.mp picked
  simpa using List.find?_eq_none.mp any source member

namespace AuthMesh

variable {environment : Environment} {self : AuthMesh} {now : Int}
  {context : RuntimeContext}

/-- The delegations of a principal are told apart by their ids. -/
theorem eq_of_listed {tenant : TenantContext} {principalId : PrincipalId}
    (keyed : KeyedMap.KeyedBy Delegation.id self.delegationMap)
    {first second : Delegation}
    (firstListed : first ∈ self.delegationsFor tenant principalId)
    (secondListed : second ∈ self.delegationsFor tenant principalId)
    (sameId : first.id = second.id) : first = second := by
  have firstStored := ((MemoryDelegationStore.mem_listDelegationsForDelegate
    keyed).mp firstListed).1
  have secondStored := ((MemoryDelegationStore.mem_listDelegationsForDelegate
    keyed).mp secondListed).1
  rw [sameId, secondStored] at firstStored
  exact (Option.some.inj firstStored).symm

/-- A valid delegation is answered like one that contains the capability only
if it is that one. -/
theorem eq_of_decideByDelegation_eq {policy : Policy} {principal : Principal}
    {tenant : TenantContext} {capability : Capability}
    (keyed : KeyedMap.KeyedBy Delegation.id self.delegationMap)
    {first second : Delegation}
    (firstListed : first ∈ self.delegationsFor tenant principal.id)
    (valid : first.isValidAt now = true)
    (secondListed : second ∈ self.delegationsFor tenant principal.id)
    (secondContains : capability ∈ second.capabilities)
    (alike : decideByDelegation policy principal tenant (some first) capability
        now =
      decideByDelegation policy principal tenant (some second) capability
        now) :
    first = second := by
  obtain ⟨firstTenant, firstDelegate⟩ :=
    delegationsFor_addressed keyed first firstListed
  obtain ⟨secondTenant, secondDelegate⟩ :=
    delegationsFor_addressed keyed second secondListed
  have unrevoked := (Delegation.isValidAt_iff.mp valid).1
  by_cases contains : capability ∈ first.capabilities
  · -- Both grant, and a grant names its delegation.
    have granted : (decideByDelegation policy principal tenant (some first)
        capability now).grant =
          some (delegatedGrant policy principal tenant first capability) :=
      grant_decideByDelegation_iff.mpr ⟨first, rfl,
        ⟨firstTenant, firstDelegate, valid, contains⟩, rfl⟩
    rw [alike] at granted
    obtain ⟨source, same, _, grants⟩ := grant_decideByDelegation_iff.mp granted
    cases same
    have sameId := congrArg GrantedCapability.delegationId grants
    exact eq_of_listed keyed firstListed secondListed
      (Option.some.inj sameId).symm
  · rw [decideByDelegation_addressed firstTenant firstDelegate,
      if_neg (by simp [unrevoked]), if_neg (by simp [valid]),
      if_pos contains] at alike
    exact (decideByDelegation_ne_missing secondTenant secondDelegate
      secondContains alike.symm).elim

theorem contextFor_delegation {tenant : TenantContext} {principal : Principal}
    {sessionId : Option SessionId} {source : Delegation}
    (keyed : KeyedMap.KeyedBy Delegation.id self.delegationMap)
    (derived : self.contextFor environment tenant principal sessionId now =
      .ok context)
    (offered : context.delegation = some source) :
    source ∈ self.delegationsFor context.tenant context.principal.id ∧
      source.isValidAt now = true := by
  obtain ⟨policy, _, derived⟩ := except_bind_eq_ok_iff.mp derived
  dsimp only at derived
  split at derived
  · cases derived
  · rename_i envelope evaluated
    cases derived
    obtain ⟨id, granted, found⟩ := Option.bind_eq_some_iff.mp offered
    obtain ⟨grant, member, named⟩ := List.exists_of_findSome?_eq_some granted
    have listed := List.mem_of_find?_eq_some found
    refine ⟨listed, ?_⟩
    obtain ⟨_, _, rfl⟩ := evaluateWithDelegations_eq_ok_iff.mp evaluated
    split at member
    · rcases foldl_origin grantDelegation_origin member with claimed | delegated
      · rcases foldl_origin grantClaim_origin claimed with none | byRule
        · simp at none
        · obtain ⟨_, _, _, rfl⟩ := byRule
          cases named
      · obtain ⟨granting, grantingListed, _, covers, rfl⟩ := delegated
        cases named
        have sameId : source.id = granting.id := by
          simpa using List.find?_some found
        rw [eq_of_listed keyed listed grantingListed sameId]
        exact covers.valid
    · simp [CapabilityEnvelope.empty] at member

end AuthMesh

namespace AuthPortRuntime

variable {environment : Environment} {self : AuthPortRuntime} {now : Int}
  {context : AuthContext} {capability : String} {request : BoundaryRequest}
  {policy live : Policy}

theorem authenticate_delegation {source : Delegation}
    (keyed : KeyedMap.KeyedBy Delegation.id self.mesh.delegationMap)
    (authenticated : self.authenticate environment request now = .ok context)
    (offered : context.delegation = some source) :
    source ∈ self.mesh.delegationsFor context.tenant context.principal.id ∧
      source.isValidAt now = true := by
  obtain ⟨_, _, _, resolved⟩ := authenticate_resolved authenticated
  obtain ⟨_, _, _, derived⟩ := AuthMesh.resolveSession_derived resolved
  exact AuthMesh.contextFor_delegation keyed derived offered

/-- Where only a delegation can give an agent the capability, the context's is
the one that is picked, or none contains the capability. -/
def DelegationsAlike (environment : Environment) (self : AuthPortRuntime)
    (live : Policy) (context : AuthContext) (capability : String)
    (now : Int) : Prop :=
  live.id = context.tenant.policyId →
    claimRule environment.systemTime live context.principal ⟨capability⟩ =
      none →
    context.principal.kind = .agent →
    pickDelegation
        (self.mesh.delegationsFor context.tenant context.principal.id)
        ⟨capability⟩ now = none ∨
      context.delegation = pickDelegation
        (self.mesh.delegationsFor context.tenant context.principal.id)
        ⟨capability⟩ now

/-- A valid delegation is answered like the picked one only if it is the picked
one, or none contains the capability. -/
theorem decideByDelegation_context_iff
    (keyed : KeyedMap.KeyedBy Delegation.id self.mesh.delegationMap)
    (authenticated :
      self.authenticate environment request now = .ok context) :
    decideByDelegation live context.principal context.tenant
          context.delegation ⟨capability⟩ now =
        decideByDelegation live context.principal context.tenant
          (pickDelegation
            (self.mesh.delegationsFor context.tenant context.principal.id)
            ⟨capability⟩ now) ⟨capability⟩ now ↔
      pickDelegation
          (self.mesh.delegationsFor context.tenant context.principal.id)
          ⟨capability⟩ now = none ∨
        context.delegation = pickDelegation
          (self.mesh.delegationsFor context.tenant context.principal.id)
          ⟨capability⟩ now := by
  have addressed : ∀ source ∈
      self.mesh.delegationsFor context.tenant context.principal.id,
      source.tenantId = context.tenant.tenantId ∧
        source.delegate = context.principal.id :=
    AuthMesh.delegationsFor_addressed keyed
  constructor
  · intro alike
    cases picked : pickDelegation
        (self.mesh.delegationsFor context.tenant context.principal.id)
        ⟨capability⟩ now with
    | none => exact Or.inl rfl
    | some second =>
        right
        rw [picked] at alike
        obtain ⟨secondListed, secondContains⟩ := pickDelegation_eq_some picked
        obtain ⟨secondTenant, secondDelegate⟩ := addressed second secondListed
        cases offered : context.delegation with
        | none =>
            rw [offered] at alike
            exact (decideByDelegation_ne_missing secondTenant secondDelegate
              secondContains alike.symm).elim
        | some first =>
            rw [offered] at alike
            obtain ⟨firstListed, valid⟩ :=
              authenticate_delegation keyed authenticated offered
            rw [AuthMesh.eq_of_decideByDelegation_eq keyed firstListed valid
              secondListed secondContains alike]
  · intro same
    rcases same with missing | same
    · rw [missing]
      cases offered : context.delegation with
      | none => rfl
      | some source =>
          obtain ⟨listed, valid⟩ :=
            authenticate_delegation keyed authenticated offered
          obtain ⟨sameTenant, sameDelegate⟩ := addressed source listed
          have unrevoked := (Delegation.isValidAt_iff.mp valid).1
          rw [decideByDelegation_addressed sameTenant sameDelegate,
            if_neg (by simp [unrevoked]), if_neg (by simp [valid]),
            if_pos (pickDelegation_eq_none missing listed)]
          rfl
    · rw [same]

end AuthPortRuntime

/-! ## By resource -/

/-- Two scans of rules end alike: both at the same place with a rule of the same
effect, the same evidence and, where it allows, the same claims; or both without
a rule and, unless an agent's delegation answers, with the same evidence. -/
def RuleScan.Alike (agent : Prop) : RuleScan → RuleScan → Prop
  | .decided index rule conditions, .decided otherIndex other others =>
      index = otherIndex ∧ rule.effect = other.effect ∧ conditions = others ∧
        (rule.effect = .allow →
          claimBasis rule.condition = claimBasis other.condition)
  | .exhausted failed, .exhausted otherFailed => agent ∨ failed = otherFailed
  | _, _ => False

section Request

variable {systemTime : Option Int} {policy live : Policy}
  {principal : Principal} {tenant : TenantContext}
  {delegation : Option Delegation} {request : AuthorizationRequest}
  {attributes : Option ResourceAttributes} {now : Int}

def AuthorizationDecision.matchedRules : AuthorizationDecision → List String
  | .allow _ _ _ matchedRules _ _ => matchedRules
  | .deny _ _ _ _ _ matchedRules _ _ => matchedRules

/-- Without a rule nothing but a delegation is named. -/
theorem matchedRules_decideRequestByDelegation :
    (decideRequestByDelegation policy principal tenant delegation request
      attributes now).matchedRules ⊆ ["delegation"] := by
  cases delegation with
  | none => exact List.nil_subset _
  | some source =>
      simp only [decideRequestByDelegation]
      repeat' split
      all_goals first | exact List.nil_subset _ | exact List.Subset.refl _

theorem ruleName_not_delegation {index : Nat}
    (named : [s!"rule:{index}"] ⊆ ["delegation"]) : False := by
  have same : s!"rule:{index}" = "delegation" := by simpa using named
  have texts := congrArg String.toList same
  have prefixed : (toString "rule:").toList = ['r', 'u', 'l', 'e', ':'] := rfl
  simp [prefixed] at texts

theorem matchedRules_decideScanned_exhausted
    {failed : Option (List ConditionEvidence)} :
    (decideScanned policy principal tenant delegation request attributes now
      (.exhausted failed)).matchedRules ⊆ ["delegation"] := by
  simp only [decideScanned]
  split
  · exact matchedRules_decideRequestByDelegation
  · cases failed with
    | none => exact List.nil_subset _
    | some conditions => exact List.nil_subset _

theorem matchedRules_decideScanned_decided {index : Nat} {rule : Rule}
    {conditions : List ConditionEvidence} :
    (decideScanned policy principal tenant delegation request attributes now
      (.decided index rule conditions)).matchedRules = [s!"rule:{index}"] := by
  simp only [decideScanned]
  split
  · rfl
  · rfl

theorem decideRequestByDelegation_congr (same : live.id = policy.id) :
    decideRequestByDelegation policy principal tenant delegation request
        attributes now =
      decideRequestByDelegation live principal tenant delegation request
        attributes now := by
  simp only [decideRequestByDelegation, denyFor, denyForWithConditions,
    delegatedGrant, Option.map_some, same]

theorem decideScanned_decided_iff (same : live.id = policy.id)
    {index other : Nat} {rule otherRule : Rule}
    {conditions others : List ConditionEvidence} :
    decideScanned policy principal tenant delegation request attributes now
          (.decided index rule conditions) =
        decideScanned live principal tenant delegation request attributes now
          (.decided other otherRule others) ↔
      RuleScan.Alike (principal.kind = .agent)
        (.decided index rule conditions) (.decided other otherRule others) := by
  -- A rule is named by its place.
  have names : index.repr = other.repr ↔ index = other :=
    ⟨decimal_inj, congrArg Nat.repr⟩
  cases effect : rule.effect with
  | allow =>
      cases otherEffect : otherRule.effect with
      | allow =>
          simp [decideScanned, RuleScan.Alike, effect, otherEffect, claimGrant,
            same, names]
          tauto
      | deny => simp [decideScanned, RuleScan.Alike, effect, otherEffect]
  | deny =>
      cases otherEffect : otherRule.effect with
      | allow => simp [decideScanned, RuleScan.Alike, effect, otherEffect]
      | deny =>
          simp [decideScanned, RuleScan.Alike, effect, otherEffect, same, names]

theorem decideScanned_eq_iff (same : live.id = policy.id)
    {scan other : RuleScan} :
    decideScanned policy principal tenant delegation request attributes now scan =
        decideScanned live principal tenant delegation request attributes now
          other ↔
      RuleScan.Alike (principal.kind = .agent) scan other := by
  cases scan with
  | decided index rule conditions =>
      cases other with
      | decided => exact decideScanned_decided_iff same
      | exhausted failed =>
          refine iff_of_false ?_ id
          intro alike
          apply ruleName_not_delegation
          rw [← matchedRules_decideScanned_decided, alike]
          exact matchedRules_decideScanned_exhausted
  | exhausted failed =>
      cases other with
      | decided index rule conditions =>
          refine iff_of_false ?_ id
          intro alike
          apply ruleName_not_delegation
          rw [← matchedRules_decideScanned_decided, ← alike]
          exact matchedRules_decideScanned_exhausted
      | exhausted otherFailed =>
          by_cases agent : principal.kind = .agent
          · simp [decideScanned, RuleScan.Alike, agent,
              decideRequestByDelegation_congr same]
          · cases failed <;> cases otherFailed <;>
              simp [decideScanned, RuleScan.Alike, agent, denyFor,
                denyForWithConditions, same]

/-- The policy that a decision about a request names. -/
def AuthorizationDecision.policyId :
    AuthorizationDecision → Option PolicyId
  | .allow grant _ _ _ _ _ => some grant.policyId
  | .deny _ _ _ _ policyId _ _ _ => policyId

/-- A decision of the evaluator names its policy and no event yet. -/
structure MadeUnder (policy : Policy) (decision : AuthorizationDecision) :
    Prop where
  names : decision.policyId = some policy.id
  fresh : decision.auditEventId = none

theorem denyFor_madeUnder (reason : DenialReason) :
    MadeUnder policy (denyFor request reason (some policy)) :=
  ⟨rfl, rfl⟩

theorem decideScanned_madeUnder {scan : RuleScan} :
    MadeUnder policy (decideScanned policy principal tenant delegation request
      attributes now scan) := by
  cases scan with
  | decided index rule conditions =>
      simp only [decideScanned]
      split
      · exact ⟨rfl, rfl⟩
      · exact ⟨rfl, rfl⟩
  | exhausted failed =>
      simp only [decideScanned]
      split
      · simp only [decideRequestByDelegation]
        repeat' split
        all_goals exact ⟨rfl, rfl⟩
      · cases failed with
        | none => exact ⟨rfl, rfl⟩
        | some conditions => exact ⟨rfl, rfl⟩

theorem evaluateAuthorizationRequest_unaccepted
    (refused : ¬RequestAccepted policy principal tenant request attributes)
    (active : agentRefusal principal = none) :
    evaluateAuthorizationRequest systemTime (some policy) (some principal)
        (some tenant) delegation request attributes now =
      denyFor request .tenantMismatch (some policy) := by
  simp only [evaluateAuthorizationRequest]
  split
  · rfl
  · rename_i header
    split
    · rfl
    · rename_i resource
      have accepted : RequestAccepted policy principal tenant request
          attributes :=
        requestAccepted_iff.mpr
          ⟨by simpa using header, by simpa using resource, active⟩
      exact (refused accepted).elim

theorem evaluateAuthorizationRequest_madeUnder
    (active : agentRefusal principal = none) :
    MadeUnder policy (evaluateAuthorizationRequest systemTime (some policy)
      (some principal) (some tenant) delegation request attributes now) := by
  by_cases accepted :
      RequestAccepted policy principal tenant request attributes
  · rw [evaluateAuthorizationRequest_scanned accepted]
    exact decideScanned_madeUnder
  · rw [evaluateAuthorizationRequest_unaccepted accepted active]
    exact denyFor_madeUnder _

end Request

namespace AuthPortRuntime

variable {environment : Environment} {self : AuthPortRuntime} {now : Int}
  {context : AuthContext} {capability : String} {request : BoundaryRequest}
  {authRequest : AuthorizationRequest} {policy live : Policy}

theorem resourceDecision_madeUnder (named : Option RunId)
    (active : agentRefusal context.principal = none) :
    MadeUnder policy
      (self.resourceDecision environment policy context authRequest named
        now) := by
  unfold resourceDecision
  cases named with
  | none => exact evaluateAuthorizationRequest_madeUnder active
  | some runId =>
      dsimp only
      cases self.mesh.checkedRunForRequest context.runtime runId authRequest
          (self.resourceAttributes authRequest) now with
      | error refusal => exact denyFor_madeUnder _
      | ok run => exact evaluateAuthorizationRequest_madeUnder active

variable (environment now) in
theorem authorizeResource_eq
    (found : self.mesh.policy context.tenant = .ok policy)
    (names : isBlank authRequest.capability.value = false) :
    ∃ after, authorizeResource environment context authRequest now self =
      .ok (self.mesh.settleDecision environment context.runtime
        authRequest.capability
        (self.resourceDecision environment policy context authRequest none now)
        now self.authority.revision).1 after := by
  have policyFound : self.mesh.policy context.runtime.tenant = .ok policy :=
    found
  unfold authorizeResource AuthMesh.authorizeRequestWithAuthorityRevision
  rw [names, policyFound]
  exact ⟨_, rfl⟩

variable (environment now) in
theorem authorizeRunResource_eq (runId : RunId)
    (found : self.mesh.policy context.tenant = .ok policy)
    (names : isBlank authRequest.capability.value = false) :
    ∃ runContext after,
      authorizeRunResource environment context runId authRequest now self =
        .ok (self.mesh.settleDecision environment runContext
          authRequest.capability
          (self.resourceDecision environment policy context authRequest
            (some runId) now)
          now self.authority.revision).1 after := by
  have policyFound : self.mesh.policy context.runtime.tenant = .ok policy :=
    found
  unfold authorizeRunResource
    AuthMesh.authorizeRunRequestWithAuthorityRevision resourceDecision
  rw [names]
  dsimp only
  cases self.mesh.checkedRunForRequest context.runtime runId authRequest
      (self.resourceAttributes authRequest) now with
  | error refusal =>
      obtain ⟨reason, run⟩ := refusal
      rw [policyFound]
      exact ⟨_, _, rfl⟩
  | ok run =>
      have runPolicy : self.mesh.policy (context.runtime.withRun run).tenant =
          .ok policy := found
      unfold AuthMesh.authorizeRequestWithAuthorityRevision
      dsimp only
      rw [runPolicy]
      exact ⟨_, _, rfl⟩

theorem decision_resource
    (found : self.mesh.policy context.tenant = .ok policy)
    (accepted : Accepted policy context.principal context.tenant)
    (targeted : authorizationRequest context.runtime capability request =
      some authRequest) :
    self.decision environment context capability request now =
      (do
        let named ← self.runIdFromRequest context request
        refuseIf (isBlank capability) noCapabilityNamed
        .ok (if environment.auditFault self.mesh.auditSequence = none then
          self.resourceDecision environment policy context authRequest named
            now
        else
          deny .auditUnavailable)) := by
  have names : authRequest.capability.value = capability := by
    rw [authorizationRequest_capability targeted]
  have settled : ∀ named runContext authorityRevision,
      ((self.mesh.settleDecision environment runContext authRequest.capability
        (self.resourceDecision environment policy context authRequest named
          now) now authorityRevision).1).unrecorded =
        if environment.auditFault self.mesh.auditSequence = none then
          self.resourceDecision environment policy context authRequest named
            now
        else
          deny .auditUnavailable := by
    intro named runContext authorityRevision
    rw [AuthMesh.settleDecision_fst]
    split
    · rw [unrecorded_attachAuditEvent]
      exact AuthorizationDecision.unrecorded_eq
        (resourceDecision_madeUnder named accepted.active).fresh
    · rfl
  unfold decision decide
  rw [targeted]
  dsimp only
  rw [inspect_bind]
  cases self.runIdFromRequest context request with
  | error err => rfl
  | ok named =>
      cases blank : isBlank capability with
      | true =>
          cases named with
          | none => simp [authorizeResource, names, blank, refuseIf, bind,
              Except.bind]
          | some runId => simp [authorizeRunResource, names, blank, refuseIf,
              bind, Except.bind]
      | false =>
          rw [← names] at blank
          cases named with
          | none =>
              obtain ⟨after, answered⟩ :=
                authorizeResource_eq environment now found blank
              dsimp only
              rw [answered]
              exact congrArg Except.ok (settled none _ _)
          | some runId =>
              obtain ⟨runContext, after, answered⟩ :=
                authorizeRunResource_eq environment now runId found blank
              dsimp only
              rw [answered]
              exact congrArg Except.ok (settled (some runId) _ _)

/-- The tenant's policy and the live one decide the request alike where the run
and the resource let it through, and the decision can be recorded. -/
def PoliciesAlike (environment : Environment) (self : AuthPortRuntime)
    (policy live : Policy) (context : AuthContext)
    (request : BoundaryRequest) (authRequest : AuthorizationRequest)
    (now : Int) : Prop :=
  environment.auditFault self.mesh.auditSequence = none ∧
    live.id = context.tenant.policyId ∧
    (RunAdmits self context request authRequest now →
      self.InTenant context authRequest →
      RuleScan.Alike (context.principal.kind = .agent)
        (scanRules environment.systemTime context.principal authRequest
          (self.resourceAttributes authRequest) 0 none policy.rules)
        (scanRules environment.systemTime context.principal authRequest
          (self.resourceAttributes authRequest) 0 none live.rules))

theorem evaluateAuthorizationRequest_eq_iff
    (accepted : Accepted policy context.principal context.tenant)
    (targeted : authorizationRequest context.runtime capability request =
      some authRequest)
    (same : live.id = context.tenant.policyId)
    {delegation : Option Delegation} :
    evaluateAuthorizationRequest environment.systemTime (some policy)
          (some context.principal) (some context.tenant) delegation authRequest
          (self.resourceAttributes authRequest) now =
        evaluateAuthorizationRequest environment.systemTime (some live)
          (some context.principal) (some context.tenant) delegation authRequest
          (self.resourceAttributes authRequest) now ↔
      (self.InTenant context authRequest →
        RuleScan.Alike (context.principal.kind = .agent)
          (scanRules environment.systemTime context.principal authRequest
            (self.resourceAttributes authRequest) 0 none policy.rules)
          (scanRules environment.systemTime context.principal authRequest
            (self.resourceAttributes authRequest) 0 none live.rules)) := by
  have samePolicy : live.id = policy.id := same.trans accepted.samePolicy.symm
  have acceptedRequest : ∀ other : Policy,
      RequestAccepted other context.principal context.tenant authRequest
          (self.resourceAttributes authRequest) ↔
        other.id = context.tenant.policyId ∧
          self.InTenant context authRequest :=
    fun _ => requestAccepted_inferred_iff accepted targeted
  by_cases inTenant : self.InTenant context authRequest
  · rw [evaluateAuthorizationRequest_scanned
        ((acceptedRequest policy).mpr ⟨accepted.samePolicy, inTenant⟩),
      evaluateAuthorizationRequest_scanned
        ((acceptedRequest live).mpr ⟨same, inTenant⟩),
      decideScanned_eq_iff samePolicy]
    simp [inTenant]
  · rw [evaluateAuthorizationRequest_unaccepted
        (fun accepts => inTenant ((acceptedRequest policy).mp accepts).2)
        accepted.active,
      evaluateAuthorizationRequest_unaccepted
        (fun accepts => inTenant ((acceptedRequest live).mp accepts).2)
        accepted.active]
    simp [denyFor, denyForWithConditions, samePolicy, inTenant]

theorem scanRules_runRequest {systemTime : Option Int} {principal : Principal}
    {attributes : Option ResourceAttributes} (run : AgentRun) (index : Nat)
    (failed : Option (List ConditionEvidence)) (rules : List Rule) :
    scanRules systemTime principal (AuthMesh.runRequest authRequest run)
        attributes index failed rules =
      scanRules systemTime principal authRequest attributes index failed
        rules := by
  induction rules generalizing index failed with
  | nil => rfl
  | cons rule rules induction =>
      simp only [scanRules, induction]
      rfl

/-- A request is decided within a run as it is without. -/
theorem evaluateAuthorizationRequest_runRequest {systemTime : Option Int}
    {principal : Principal} {tenant : TenantContext}
    {delegation : Option Delegation} {attributes : Option ResourceAttributes}
    (run : AgentRun) :
    evaluateAuthorizationRequest systemTime (some policy) (some principal)
        (some tenant) delegation (AuthMesh.runRequest authRequest run)
        attributes now =
      evaluateAuthorizationRequest systemTime (some policy) (some principal)
        (some tenant) delegation authRequest attributes now := by
  simp only [evaluateAuthorizationRequest, scanRules_runRequest]
  rfl

/-- By resource, two policies decide the same exactly if they decide alike. -/
theorem resourceDecision_eq_iff
    (accepted : Accepted policy context.principal context.tenant)
    (targeted : authorizationRequest context.runtime capability request =
      some authRequest)
    {named : Option RunId}
    (located : self.runIdFromRequest context request = .ok named)
    (recorded : environment.auditFault self.mesh.auditSequence = none) :
    self.resourceDecision environment policy context authRequest named now =
        self.resourceDecision environment live context authRequest named now ↔
      PoliciesAlike environment self policy live context request authRequest
        now := by
  unfold PoliciesAlike
  rw [and_iff_right recorded]
  by_cases same : live.id = context.tenant.policyId
  · rw [and_iff_right same]
    unfold resourceDecision RunAdmits
    rw [located]
    cases named with
    | none =>
        rw [evaluateAuthorizationRequest_eq_iff accepted targeted same]
        simp
    | some runId =>
        dsimp only
        cases self.mesh.checkedRunForRequest context.runtime runId authRequest
            (self.resourceAttributes authRequest) now with
        | error refusal =>
            have samePolicy := same.trans accepted.samePolicy.symm
            simp [denyFor, denyForWithConditions, samePolicy]
        | ok run =>
            dsimp only
            rw [evaluateAuthorizationRequest_runRequest,
              evaluateAuthorizationRequest_runRequest,
              evaluateAuthorizationRequest_eq_iff accepted targeted same]
            simp
  · constructor
    · intro alike
      have names : MadeUnder live (self.resourceDecision environment live
          context authRequest named now) :=
        resourceDecision_madeUnder named accepted.active
      rw [← alike] at names
      have decided := (resourceDecision_madeUnder named
        accepted.active).names.symm.trans names.names
      exact (same ((Option.some.inj decided).symm.trans
        accepted.samePolicy)).elim
    · intro alike
      exact (same alike.1).elim

/-! ## Which decisions are the live policy's -/

theorem decision_by_name
    (overlay : self.authority.capabilityPolicies[capability]? = some live)
    (untargeted :
      authorizationRequest context.runtime capability request = none) :
    self.decision environment context capability request now =
      (do
        refuseIf (isBlank capability) noCapabilityNamed
        .ok (evaluateCapability environment.systemTime (some live)
          (some context.principal) (some context.tenant) context.delegation
          ⟨capability⟩ now).unrecorded) := by
  unfold decision decide authorize
  rw [untargeted]
  dsimp only
  rw [overlay]
  cases isBlank capability <;> rfl

theorem evaluateCapability_fresh {systemTime : Option Int}
    {principal : Principal} {tenant : TenantContext}
    {delegation : Option Delegation} {wanted : Capability} :
    (evaluateCapability systemTime (some live) (some principal) (some tenant)
      delegation wanted now).auditEventId = none := by
  simp only [evaluateCapability, decideByDelegation]
  repeat' split
  all_goals rfl

/-- By name, the context's delegation gives what the picked one gives exactly if
they are alike. -/
theorem evaluateCapability_eq_iff
    (keyed : KeyedMap.KeyedBy Delegation.id self.mesh.delegationMap)
    (authenticated : self.authenticate environment request now =
      .ok context)
    (accepted : Accepted policy context.principal context.tenant) :
    evaluateCapability environment.systemTime (some live)
          (some context.principal) (some context.tenant) context.delegation
          ⟨capability⟩ now =
        evaluateCapability environment.systemTime (some live)
          (some context.principal) (some context.tenant)
          (pickDelegation
            (self.mesh.delegationsFor context.tenant context.principal.id)
            ⟨capability⟩ now) ⟨capability⟩ now ↔
      DelegationsAlike environment self live context capability now := by
  have acceptedLive : live.id = context.tenant.policyId →
      Accepted live context.principal context.tenant := fun same =>
    ⟨accepted.sameTenant, same, accepted.active⟩
  by_cases delegated : Accepted live context.principal context.tenant ∧
      claimRule environment.systemTime live context.principal ⟨capability⟩ =
        none ∧
      context.principal.kind = .agent
  · obtain ⟨liveAccepted, undecided, agent⟩ := delegated
    rw [evaluateCapability_agent liveAccepted undecided agent,
      evaluateCapability_agent liveAccepted undecided agent,
      decideByDelegation_context_iff keyed authenticated]
    unfold DelegationsAlike
    simp [liveAccepted.samePolicy, undecided, agent]
  · refine iff_of_true (evaluateCapability_undelegated _ _ delegated) ?_
    intro same undecided agent
    exact (delegated ⟨acceptedLive same, undecided, agent⟩).elim

/-- The decision is the one that evaluating the live policy gives exactly if,
by name, the context's delegation is the one that is picked and, by resource,
the tenant's policy decides like the live one. -/
theorem decidesUnder_iff (reachable : AuthMesh.system.Reachable self.mesh)
    (overlay : self.authority.capabilityPolicies[capability]? = some live)
    (authenticated : self.authenticate environment request now =
      .ok context) :
    DecidesUnder environment self live context capability request now ↔
      (isBlank capability = false →
        authorizationRequest context.runtime capability request = none →
        DelegationsAlike environment self live context capability now) ∧
      ∀ policy authRequest named,
        self.mesh.policy context.tenant = .ok policy →
        authorizationRequest context.runtime capability request =
          some authRequest →
        self.runIdFromRequest context request = .ok named →
        isBlank capability = false →
        PoliciesAlike environment self policy live context request authRequest
          now := by
  have keyed := AuthMesh.delegationMap_keyed reachable
  obtain ⟨policy, found, accepted⟩ := authenticate_ok authenticated
  unfold DecidesUnder evaluationUnder
  cases targeted : authorizationRequest context.runtime capability request with
  | none =>
      rw [decision_by_name overlay targeted]
      dsimp only
      cases blank : isBlank capability with
      | true => simp [refuseIf, bind, Except.bind]
      | false =>
          rw [AuthorizationDecision.unrecorded_eq evaluateCapability_fresh]
          simp [refuseIf, bind, Except.bind,
            evaluateCapability_eq_iff keyed authenticated accepted]
  | some authRequest =>
      rw [decision_resource found accepted targeted]
      dsimp only
      cases located : self.runIdFromRequest context request with
      | error err => simp [bind, Except.bind]
      | ok named =>
          cases blank : isBlank capability with
          | true => simp [refuseIf, bind, Except.bind]
          | false =>
              simp only [bind, Except.bind, refuseIf, Bool.false_eq_true,
                if_false, Except.ok.injEq, reduceCtorEq, IsEmpty.forall_iff,
                imp_self, found, Option.some.injEq, forall_const,
                forall_apply_eq_imp_iff₂, forall_apply_eq_imp_iff, forall_eq',
                true_and]
              by_cases recorded :
                  environment.auditFault self.mesh.auditSequence = none
              · rw [if_pos recorded]
                exact resourceDecision_eq_iff accepted targeted located recorded
              · rw [if_neg recorded]
                constructor
                · intro alike
                  have names : MadeUnder live (self.resourceDecision
                      environment live context authRequest named now) :=
                    resourceDecision_madeUnder named accepted.active
                  rw [← alike] at names
                  cases names.names
                · intro alike
                  exact (recorded alike.1).elim

end AuthPortRuntime

/-! ## A grant removed -/

def withdrawnAuthority : LiveAuthorityState :=
  { LiveAuthorityState.new with
    capabilityPolicies :=
      LiveAuthorityState.new.capabilityPolicies.insert "invoice.read"
        (acmePolicy [])
    revision := 1 }

def readMesh : AuthMesh := AuthMesh.system.run emptyMesh (acmeCalls [readRule])

theorem readMesh_reachable : AuthMesh.system.Reachable readMesh :=
  .run (.start emptyMesh_fresh) _

def withdrawnRuntime : AuthPortRuntime :=
  { bareRuntime readMesh with authority := withdrawnAuthority }

theorem withdrawnRuntime_overlay :
    withdrawnRuntime.authority.capabilityPolicies["invoice.read"]? =
      some (acmePolicy []) :=
  Std.ExtTreeMap.getElem?_insert_self

/-- Alice still gets the invoice that the live policy denies her. -/
theorem withdrawn_grant_admits :
    AuthMesh.system.Reachable readMesh ∧
      applyChange .new (.setCapabilityPolicy "invoice.read" (acmePolicy [])) =
        .ok withdrawnAuthority ∧
      ∃ context,
        withdrawnRuntime.authenticate acmeEnvironment
            (aliceRequest .get "/invoices/7") 10 = .ok context ∧
          AuthPortRuntime.Admits acmeEnvironment withdrawnRuntime
            (aliceRequest .get "/invoices/7") (.capability "invoice.read")
            10 ∧
          ¬AuthPortRuntime.DecidesUnder acmeEnvironment withdrawnRuntime
            (acmePolicy []) context "invoice.read"
            (aliceRequest .get "/invoices/7") 10 := by
  have decided : ∃ context,
      (withdrawnRuntime.authenticate acmeEnvironment
        (aliceRequest .get "/invoices/7") 10).toOption = some context ∧
      ((withdrawnRuntime.decision acmeEnvironment context "invoice.read"
          (aliceRequest .get "/invoices/7") 10).toOption.map
            AuthorizationDecision.isAllowed,
        (withdrawnRuntime.evaluationUnder acmeEnvironment (acmePolicy [])
          context "invoice.read" (aliceRequest .get "/invoices/7")
          10).toOption.map AuthorizationDecision.isAllowed) =
        (some true, some false) :=
    Option.map_eq_some_iff.mp (by decide +kernel)
  obtain ⟨context, authenticated, answers⟩ := decided
  obtain ⟨allowed, denied⟩ := Prod.mk.inj answers
  refine ⟨readMesh_reachable, rfl, context,
    except_toOption_eq_some authenticated, ?_, ?_⟩
  · rw [AuthPortRuntime.admits_iff_returned]
    decide +kernel
  · intro same
    unfold AuthPortRuntime.DecidesUnder at same
    rw [same, denied] at allowed
    cases allowed

/-- The head of the invoice is denied as the live policy says. -/
theorem decidesUnder_iff_withdrawn :
    ∃ context,
      withdrawnRuntime.authenticate acmeEnvironment
          (aliceRequest .head "/invoices/7") 10 = .ok context ∧
        AuthPortRuntime.DecidesUnder acmeEnvironment withdrawnRuntime
          (acmePolicy []) context "invoice.read"
          (aliceRequest .head "/invoices/7") 10 := by
  have decided : ∃ context,
      (withdrawnRuntime.authenticate acmeEnvironment
        (aliceRequest .head "/invoices/7") 10).toOption = some context ∧
      context.principal.kind = .human :=
    Option.map_eq_some_iff.mp (by decide +kernel)
  obtain ⟨context, found, human⟩ := decided
  have authenticated := except_toOption_eq_some found
  refine ⟨context, authenticated, (AuthPortRuntime.decidesUnder_iff
    readMesh_reachable withdrawnRuntime_overlay authenticated).mpr ⟨?_, ?_⟩⟩
  · intro _ _ _ _ agent
    rw [human] at agent
    cases agent
  · intro policy authRequest _ _ targeted
    rw [AuthPortRuntime.authorizationRequest_untargeted (Or.inl rfl)]
      at targeted
    cases targeted

end AuthBoundry
