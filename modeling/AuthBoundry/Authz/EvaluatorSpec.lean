import AuthBoundry.Authz.Evaluator
import AuthBoundry.Library.Accumulation

/-!
# Relational specification of the evaluators

`CapabilityGrant` and `RequestGrant` say which grants the two decision
functions make and on what authority; `Holds` says what the envelope contains.
The equivalences below are the only facts about the evaluators that later
modules use.
-/

namespace AuthBoundry

open Library

theorem agentRefusal_eq_none_iff {principal : Principal} :
    agentRefusal principal = none ↔
      (principal.kind = .agent → principal.agentState = some .active) := by
  unfold agentRefusal
  by_cases agent : principal.kind = .agent
  · cases state : principal.agentState with
    | none => simp [agent]
    | some value => cases value <;> simp [agent]
  · simp [agent]

/-- The principal, the tenant and the policy belong together, and the
principal is not a stopped agent. -/
structure Accepted (policy : Policy) (principal : Principal)
    (tenant : TenantContext) : Prop where
  sameTenant : principal.tenantId = tenant.tenantId
  samePolicy : policy.id = tenant.policyId
  active : agentRefusal principal = none

/-- In addition the request is the principal's own and stays in the tenant. -/
structure RequestAccepted (policy : Policy) (principal : Principal)
    (tenant : TenantContext) (request : AuthorizationRequest)
    (resourceAttributes : Option ResourceAttributes) : Prop
    extends Accepted policy principal tenant where
  samePrincipal : principal.id = request.principal
  requestTenant : tenant.tenantId = request.tenant
  resourceTenant : ∀ resource, request.resource = some resource →
    resolvedTenant resource resourceAttributes = tenant.tenantId

/-- The delegation is addressed to the principal in the tenant, is valid and
contains the capability. -/
structure Delegation.Covers (source : Delegation) (tenant : TenantContext)
    (principal : Principal) (capability : Capability) (now : Int) : Prop where
  sameTenant : source.tenantId = tenant.tenantId
  addressed : source.delegate = principal.id
  valid : source.isValidAt now = true
  contains : capability ∈ source.capabilities

/-- The rule on which a principal holds a capability: the first one for it
whose condition the claims satisfy. -/
def claimRule (systemTime : Option Int) (policy : Policy)
    (principal : Principal) (capability : Capability) : Option Rule :=
  policy.rules.find? fun rule =>
    rule.capability == capability &&
      conditionMatches systemTime rule.condition principal

def decidingRule (systemTime : Option Int) (policy : Policy)
    (principal : Principal) (request : AuthorizationRequest)
    (resourceAttributes : Option ResourceAttributes) : Option Rule :=
  policy.rules.find? fun rule =>
    ruleAddresses request rule &&
      (evaluateCondition systemTime principal resourceAttributes
        rule.condition).1

section Decisions

variable (systemTime : Option Int) (policy : Policy) (principal : Principal)
  (tenant : TenantContext)

/-- The grants of `evaluateCapability`. -/
inductive CapabilityGrant (delegation : Option Delegation)
    (capability : Capability) (now : Int) : GrantedCapability → Prop where
  | claim (rule : Rule) (accepted : Accepted policy principal tenant)
      (decides : claimRule systemTime policy principal capability = some rule) :
      CapabilityGrant delegation capability now
        (claimGrant policy principal tenant capability rule.condition)
  | delegated (source : Delegation)
      (accepted : Accepted policy principal tenant)
      (undecided : claimRule systemTime policy principal capability = none)
      (agent : principal.kind = .agent) (offered : delegation = some source)
      (covers : source.Covers tenant principal capability now) :
      CapabilityGrant delegation capability now
        (delegatedGrant policy principal tenant source capability)

/-- The grants of `evaluateAuthorizationRequest`. -/
inductive RequestGrant (delegation : Option Delegation)
    (request : AuthorizationRequest)
    (resourceAttributes : Option ResourceAttributes) (now : Int) :
    GrantedCapability → Prop where
  | claim (rule : Rule)
      (accepted :
        RequestAccepted policy principal tenant request resourceAttributes)
      (decides : decidingRule systemTime policy principal request
        resourceAttributes = some rule)
      (allows : rule.effect = .allow) :
      RequestGrant delegation request resourceAttributes now
        (claimGrant policy principal tenant request.capability rule.condition)
  | delegated (source : Delegation)
      (accepted :
        RequestAccepted policy principal tenant request resourceAttributes)
      (undecided : decidingRule systemTime policy principal request
        resourceAttributes = none)
      (agent : principal.kind = .agent) (offered : delegation = some source)
      (covers : source.Covers tenant principal request.capability now)
      (scope : delegationScopeMatches source.resourceScope request
        resourceAttributes = true) :
      RequestGrant delegation request resourceAttributes now
        (delegatedGrant policy principal tenant source request.capability)

def HoldsBy (delegation : Option Delegation) (capability : Capability)
    (now : Int) : Prop :=
  claimRule systemTime policy principal capability ≠ none ∨
    principal.kind = .agent ∧ ∃ source, delegation = some source ∧
      source.Covers tenant principal capability now

/-- The deciding rule allows the request or, where there is none, the
principal is an agent whose delegation covers the request. -/
def MayDo (delegation : Option Delegation) (request : AuthorizationRequest)
    (resourceAttributes : Option ResourceAttributes) (now : Int) : Prop :=
  match decidingRule systemTime policy principal request
      resourceAttributes with
  | some rule => rule.effect = .allow
  | none =>
      principal.kind = .agent ∧ ∃ source, delegation = some source ∧
        source.Covers tenant principal request.capability now ∧
        delegationScopeMatches source.resourceScope request
          resourceAttributes = true

/-- What the claims and a list of delegations give a principal. -/
inductive Holds (delegations : List Delegation) (now : Int)
    (capability : Capability) : Prop where
  | claim (rule : Rule) (member : rule ∈ policy.rules)
      (names : rule.capability = capability)
      (holds : conditionMatches systemTime rule.condition principal = true)
  | delegated (source : Delegation) (member : source ∈ delegations)
      (covers : source.Covers tenant principal capability now)

end Decisions

section Rules

variable {systemTime : Option Int} {policy : Policy} {principal : Principal}

theorem grantingRule_eq (systemTime : Option Int) (principal : Principal)
    (capability : Capability) (rules : List Rule) :
    grantingRule systemTime principal capability rules =
      (rules.find? fun rule =>
        rule.capability == capability &&
          conditionMatches systemTime rule.condition principal).map
        fun rule =>
          (rule, (evaluateCondition systemTime principal none
            rule.condition).2) := by
  induction rules with
  | nil => rfl
  | cons rule rules induction =>
      by_cases names : rule.capability = capability
      · cases holds : (evaluateCondition systemTime principal none
            rule.condition).1 with
        | true => simp [grantingRule, conditionMatches, names, holds]
        | false =>
            simp [grantingRule, conditionMatches, names, holds, induction]
      · simp [grantingRule, names, induction]

theorem claimRule_eq_some {capability : Capability} {rule : Rule}
    (found : claimRule systemTime policy principal capability = some rule) :
    rule ∈ policy.rules ∧ rule.capability = capability ∧
      conditionMatches systemTime rule.condition principal = true := by
  have accepted := List.find?_some found
  simp only [Bool.and_eq_true, beq_iff_eq] at accepted
  exact ⟨List.mem_of_find?_eq_some found, accepted.1, accepted.2⟩

theorem claimRule_eq_none_iff {capability : Capability} :
    claimRule systemTime policy principal capability = none ↔
      ∀ rule ∈ policy.rules, rule.capability = capability →
        conditionMatches systemTime rule.condition principal = false := by
  simp [claimRule, List.find?_eq_none]

/-- The scan ends at the first rule that addresses the request and whose
condition holds, whatever its starting index and evidence. -/
theorem scanRules_spec (systemTime : Option Int) (principal : Principal)
    (request : AuthorizationRequest)
    (resourceAttributes : Option ResourceAttributes) (index : Nat)
    (failed : Option (List ConditionEvidence)) (rules : List Rule) :
    match rules.find? fun rule =>
        ruleAddresses request rule &&
          (evaluateCondition systemTime principal resourceAttributes
            rule.condition).1 with
    | some rule => ∃ position conditions,
        scanRules systemTime principal request resourceAttributes index failed
          rules = .decided position rule conditions
    | none => ∃ remaining,
        scanRules systemTime principal request resourceAttributes index failed
          rules = .exhausted remaining := by
  induction rules generalizing index failed with
  | nil => exact ⟨failed, rfl⟩
  | cons rule rules induction =>
      cases addresses : ruleAddresses request rule with
      | false =>
          have later := induction (index + 1) failed
          simpa [scanRules, addresses] using later
      | true =>
          cases holds : (evaluateCondition systemTime principal
              resourceAttributes rule.condition).1 with
          | false =>
              have later := induction (index + 1)
                (some (evaluateCondition systemTime principal
                  resourceAttributes rule.condition).2)
              simpa [scanRules, List.find?_cons, addresses, holds] using later
          | true => simp [scanRules, addresses, holds]

end Rules

section Equivalences

variable {systemTime : Option Int} {policy : Policy} {principal : Principal}
  {tenant : TenantContext} {delegation : Option Delegation}

@[simp] theorem isAllowed_deny (reason : DenialReason) :
    (deny reason).isAllowed = false := rfl

@[simp] theorem grant_deny (reason : DenialReason) :
    (deny reason).grant = none := rfl

@[simp] theorem grant_denyFor (request : AuthorizationRequest)
    (reason : DenialReason) (policy : Option Policy) :
    (denyFor request reason policy).grant = none := rfl

@[simp] theorem grant_denyForWithConditions (request : AuthorizationRequest)
    (reason : DenialReason) (policy : Option Policy)
    (conditions : List ConditionEvidence) :
    (denyForWithConditions request reason policy conditions).grant = none :=
  rfl

/-- The header test of the evaluators. -/
theorem accepted_iff :
    Accepted policy principal tenant ↔
      (principal.tenantId != tenant.tenantId ||
          policy.id != tenant.policyId) = false ∧
        agentRefusal principal = none := by
  constructor
  · intro accepted
    obtain ⟨sameTenant, samePolicy, active⟩ := accepted
    exact ⟨by simp [sameTenant, samePolicy], active⟩
  · intro tests
    obtain ⟨header, active⟩ := tests
    simp only [Bool.or_eq_false_iff, bne_eq_false_iff_eq] at header
    exact ⟨header.1, header.2, active⟩

theorem requestAccepted_iff {request : AuthorizationRequest}
    {resourceAttributes : Option ResourceAttributes} :
    RequestAccepted policy principal tenant request resourceAttributes ↔
      (principal.id != request.principal ||
          principal.tenantId != tenant.tenantId ||
          tenant.tenantId != request.tenant ||
          policy.id != tenant.policyId) = false ∧
        (request.resource.map fun resource =>
          resolvedTenant resource resourceAttributes != tenant.tenantId).getD
            false = false ∧
        agentRefusal principal = none := by
  constructor
  · intro accepted
    obtain ⟨⟨sameTenant, samePolicy, active⟩, samePrincipal, requestTenant,
      resourceTenant⟩ := accepted
    refine ⟨?_, ?_, active⟩
    · simp [samePrincipal, sameTenant, ← requestTenant, samePolicy]
    · cases named : request.resource with
      | none => rfl
      | some resource => simp [resourceTenant resource named]
  · intro tests
    obtain ⟨header, resource, active⟩ := tests
    simp only [Bool.or_eq_false_iff, bne_eq_false_iff_eq] at header
    obtain ⟨⟨⟨samePrincipal, sameTenant⟩, requestTenant⟩, samePolicy⟩ := header
    refine ⟨⟨sameTenant, samePolicy, active⟩, samePrincipal, requestTenant, ?_⟩
    intro named found
    simpa [found] using resource

theorem Delegation.Covers.unrevoked {source : Delegation}
    {capability : Capability} {now : Int}
    (covers : source.Covers tenant principal capability now) :
    source.revokedAt = none :=
  (Delegation.isValidAt_iff.mp covers.valid).1

/-- The tests that precede a delegated grant, one after another. -/
theorem covers_iff_tests {source : Delegation} {capability : Capability}
    {now : Int} :
    source.Covers tenant principal capability now ↔
      (source.tenantId != tenant.tenantId ||
          source.delegate != principal.id) = false ∧
        source.revokedAt.isSome = false ∧
        (!source.isValidAt now) = false ∧
        (!source.capabilities.contains capability) = false := by
  constructor
  · intro covers
    refine ⟨?_, ?_, ?_, ?_⟩
    · simp [covers.sameTenant, covers.addressed]
    · simp [covers.unrevoked]
    · simp [covers.valid]
    · simp [covers.contains]
  · intro tests
    obtain ⟨addressed, _, valid, contains⟩ := tests
    simp only [Bool.or_eq_false_iff, bne_eq_false_iff_eq] at addressed
    exact ⟨addressed.1, addressed.2, by simpa using valid,
      by simpa using contains⟩

theorem grant_decideByDelegation_iff {capability : Capability} {now : Int}
    {grant : GrantedCapability} :
    (decideByDelegation policy principal tenant delegation capability
        now).grant = some grant ↔
      ∃ source, delegation = some source ∧
        source.Covers tenant principal capability now ∧
        delegatedGrant policy principal tenant source capability = grant := by
  cases delegation with
  | none => simp [decideByDelegation]
  | some source =>
      simp only [decideByDelegation, Option.some.injEq, exists_eq_left',
        covers_iff_tests]
      cases source.tenantId != tenant.tenantId ||
          source.delegate != principal.id with
      | true => simp
      | false =>
      cases source.revokedAt.isSome with
      | true => simp
      | false =>
      cases source.isValidAt now with
      | false => simp
      | true =>
      cases source.capabilities.contains capability with
      | false => simp
      | true => simp [AuthorizationDecision.grant]

theorem grant_decideRequestByDelegation_iff {request : AuthorizationRequest}
    {resourceAttributes : Option ResourceAttributes} {now : Int}
    {grant : GrantedCapability} :
    (decideRequestByDelegation policy principal tenant delegation request
        resourceAttributes now).grant = some grant ↔
      ∃ source, delegation = some source ∧
        source.Covers tenant principal request.capability now ∧
        delegationScopeMatches source.resourceScope request
          resourceAttributes = true ∧
        delegatedGrant policy principal tenant source request.capability =
          grant := by
  cases delegation with
  | none => simp [decideRequestByDelegation]
  | some source =>
      simp only [decideRequestByDelegation, Option.some.injEq,
        exists_eq_left', covers_iff_tests]
      cases source.tenantId != tenant.tenantId ||
          source.delegate != principal.id with
      | true => simp
      | false =>
      cases source.revokedAt.isSome with
      | true => simp
      | false =>
      cases source.isValidAt now with
      | false => simp
      | true =>
      cases source.capabilities.contains request.capability with
      | false => simp
      | true =>
      cases delegationScopeMatches source.resourceScope request
          resourceAttributes with
      | false => simp
      | true => simp [AuthorizationDecision.grant]

/-! ## One capability -/

section Capability

variable {capability : Capability} {now : Int}

theorem evaluateCapability_refused
    (refused : ¬Accepted policy principal tenant) :
    (evaluateCapability systemTime (some policy) (some principal)
      (some tenant) delegation capability now).grant = none := by
  simp only [evaluateCapability]
  split
  · simp
  · rename_i header
    cases active : agentRefusal principal with
    | some reason => simp
    | none =>
        have accepted : Accepted policy principal tenant :=
          accepted_iff.mpr ⟨by simpa using header, active⟩
        exact (refused accepted).elim

theorem evaluateCapability_decided {rule : Rule}
    (accepted : Accepted policy principal tenant)
    (decides : claimRule systemTime policy principal capability = some rule) :
    (evaluateCapability systemTime (some policy) (some principal)
      (some tenant) delegation capability now).grant =
        some (claimGrant policy principal tenant capability
          rule.condition) := by
  obtain ⟨header, active⟩ := accepted_iff.mp accepted
  have scan := grantingRule_eq systemTime principal capability policy.rules
  rw [show policy.rules.find? _ = some rule from decides] at scan
  simp only [evaluateCapability, header, active, scan]
  rfl

theorem evaluateCapability_undecided
    (accepted : Accepted policy principal tenant)
    (undecided : claimRule systemTime policy principal capability = none) :
    (evaluateCapability systemTime (some policy) (some principal)
      (some tenant) delegation capability now).grant =
        if principal.kind = .agent then
          (decideByDelegation policy principal tenant delegation capability
            now).grant
        else
          none := by
  obtain ⟨header, active⟩ := accepted_iff.mp accepted
  have scan := grantingRule_eq systemTime principal capability policy.rules
  rw [show policy.rules.find? _ = none from undecided] at scan
  simp only [evaluateCapability, header, active, scan]
  by_cases agent : principal.kind = .agent
  · simp [agent]
  · simp [agent]

theorem evaluateCapability_grant_iff {grant : GrantedCapability} :
    (evaluateCapability systemTime (some policy) (some principal)
        (some tenant) delegation capability now).grant = some grant ↔
      CapabilityGrant systemTime policy principal tenant delegation capability
        now grant := by
  constructor
  · intro granted
    by_cases accepted : Accepted policy principal tenant
    · cases decides : claimRule systemTime policy principal capability with
      | some rule =>
          rw [evaluateCapability_decided accepted decides] at granted
          cases granted
          exact .claim rule accepted decides
      | none =>
          rw [evaluateCapability_undecided accepted decides] at granted
          by_cases agent : principal.kind = .agent
          · rw [if_pos agent] at granted
            obtain ⟨source, offered, covers, rfl⟩ :=
              grant_decideByDelegation_iff.mp granted
            exact .delegated source accepted decides agent offered covers
          · rw [if_neg agent] at granted
            cases granted
    · rw [evaluateCapability_refused accepted] at granted
      cases granted
  · intro granted
    cases granted with
    | claim rule accepted decides =>
        exact evaluateCapability_decided accepted decides
    | delegated source accepted undecided agent offered covers =>
        rw [evaluateCapability_undecided accepted undecided, if_pos agent]
        exact grant_decideByDelegation_iff.mpr ⟨source, offered, covers, rfl⟩

end Capability

/-! ## One request -/

section Request

variable {request : AuthorizationRequest}
  {resourceAttributes : Option ResourceAttributes} {now : Int}

theorem evaluateAuthorizationRequest_refused
    (refused :
      ¬RequestAccepted policy principal tenant request resourceAttributes) :
    (evaluateAuthorizationRequest systemTime (some policy) (some principal)
      (some tenant) delegation request resourceAttributes now).grant =
        none := by
  simp only [evaluateAuthorizationRequest]
  split
  · simp
  · rename_i header
    split
    · simp
    · rename_i resource
      cases active : agentRefusal principal with
      | some reason => simp
      | none =>
          have accepted : RequestAccepted policy principal tenant request
              resourceAttributes :=
            requestAccepted_iff.mpr
              ⟨by simpa using header, by simpa using resource, active⟩
          exact (refused accepted).elim

theorem evaluateAuthorizationRequest_decided {rule : Rule}
    (accepted :
      RequestAccepted policy principal tenant request resourceAttributes)
    (decides : decidingRule systemTime policy principal request
      resourceAttributes = some rule) :
    (evaluateAuthorizationRequest systemTime (some policy) (some principal)
      (some tenant) delegation request resourceAttributes now).grant =
        if rule.effect = .allow then
          some (claimGrant policy principal tenant request.capability
            rule.condition)
        else
          none := by
  obtain ⟨header, resource, active⟩ := requestAccepted_iff.mp accepted
  have scan := scanRules_spec systemTime principal request resourceAttributes 0
    none policy.rules
  rw [show policy.rules.find? _ = some rule from decides] at scan
  obtain ⟨position, conditions, scanned⟩ := scan
  simp only [evaluateAuthorizationRequest, header, resource, active, scanned]
  cases effect : rule.effect with
  | allow => rfl
  | deny => rfl

theorem evaluateAuthorizationRequest_undecided
    (accepted :
      RequestAccepted policy principal tenant request resourceAttributes)
    (undecided : decidingRule systemTime policy principal request
      resourceAttributes = none) :
    (evaluateAuthorizationRequest systemTime (some policy) (some principal)
      (some tenant) delegation request resourceAttributes now).grant =
        if principal.kind = .agent then
          (decideRequestByDelegation policy principal tenant delegation
            request resourceAttributes now).grant
        else
          none := by
  obtain ⟨header, resource, active⟩ := requestAccepted_iff.mp accepted
  have scan := scanRules_spec systemTime principal request resourceAttributes 0
    none policy.rules
  rw [show policy.rules.find? _ = none from undecided] at scan
  obtain ⟨remaining, scanned⟩ := scan
  simp only [evaluateAuthorizationRequest, header, resource, active, scanned]
  by_cases agent : principal.kind = .agent
  · simp [agent]
  · cases remaining with
    | none => simp [agent]
    | some conditions => simp [agent]

theorem evaluateAuthorizationRequest_grant_iff {grant : GrantedCapability} :
    (evaluateAuthorizationRequest systemTime (some policy) (some principal)
        (some tenant) delegation request resourceAttributes now).grant =
          some grant ↔
      RequestGrant systemTime policy principal tenant delegation request
        resourceAttributes now grant := by
  constructor
  · intro granted
    by_cases accepted :
        RequestAccepted policy principal tenant request resourceAttributes
    · cases decides : decidingRule systemTime policy principal request
          resourceAttributes with
      | some rule =>
          rw [evaluateAuthorizationRequest_decided accepted decides] at granted
          by_cases allows : rule.effect = .allow
          · rw [if_pos allows] at granted
            cases granted
            exact .claim rule accepted decides allows
          · rw [if_neg allows] at granted
            cases granted
      | none =>
          rw [evaluateAuthorizationRequest_undecided accepted decides]
            at granted
          by_cases agent : principal.kind = .agent
          · rw [if_pos agent] at granted
            obtain ⟨source, offered, covers, scope, rfl⟩ :=
              grant_decideRequestByDelegation_iff.mp granted
            exact .delegated source accepted decides agent offered covers scope
          · rw [if_neg agent] at granted
            cases granted
    · rw [evaluateAuthorizationRequest_refused accepted] at granted
      cases granted
  · intro granted
    cases granted with
    | claim rule accepted decides allows =>
        rw [evaluateAuthorizationRequest_decided accepted decides,
          if_pos allows]
    | delegated source accepted undecided agent offered covers scope =>
        rw [evaluateAuthorizationRequest_undecided accepted undecided,
          if_pos agent]
        exact grant_decideRequestByDelegation_iff.mpr
          ⟨source, offered, covers, scope, rfl⟩

end Request

/-! ## Without the grants -/

theorem exists_capabilityGrant_iff {capability : Capability} {now : Int} :
    (∃ grant, CapabilityGrant systemTime policy principal tenant delegation
        capability now grant) ↔
      Accepted policy principal tenant ∧
        HoldsBy systemTime policy principal tenant delegation capability
          now := by
  constructor
  · intro granted
    obtain ⟨_, granted⟩ := granted
    cases granted with
    | claim rule accepted decides =>
        exact ⟨accepted, Or.inl (by simp [decides])⟩
    | delegated source accepted _ agent offered covers =>
        exact ⟨accepted, Or.inr ⟨agent, source, offered, covers⟩⟩
  · intro grounds
    obtain ⟨accepted, held⟩ := grounds
    cases decides : claimRule systemTime policy principal capability with
    | some rule => exact ⟨_, .claim rule accepted decides⟩
    | none =>
        rcases held with claimed | ⟨agent, source, offered, covers⟩
        · exact (claimed decides).elim
        · exact ⟨_, .delegated source accepted decides agent offered covers⟩

theorem evaluateCapability_isAllowed_iff {capability : Capability}
    {now : Int} :
    (evaluateCapability systemTime (some policy) (some principal)
        (some tenant) delegation capability now).isAllowed = true ↔
      Accepted policy principal tenant ∧
        HoldsBy systemTime policy principal tenant delegation capability
          now := by
  rw [AuthorizationDecision.isAllowed_iff_grant]
  simp only [evaluateCapability_grant_iff]
  exact exists_capabilityGrant_iff

variable {request : AuthorizationRequest}
  {resourceAttributes : Option ResourceAttributes} {now : Int}

theorem mayDo_decided_iff {rule : Rule}
    (decides : decidingRule systemTime policy principal request
      resourceAttributes = some rule) :
    MayDo systemTime policy principal tenant delegation request
        resourceAttributes now ↔ rule.effect = .allow := by
  rw [MayDo, decides]

theorem mayDo_undecided_iff
    (undecided : decidingRule systemTime policy principal request
      resourceAttributes = none) :
    MayDo systemTime policy principal tenant delegation request
        resourceAttributes now ↔
      principal.kind = .agent ∧ ∃ source, delegation = some source ∧
        source.Covers tenant principal request.capability now ∧
        delegationScopeMatches source.resourceScope request
          resourceAttributes = true := by
  rw [MayDo, undecided]

theorem exists_requestGrant_iff :
    (∃ grant, RequestGrant systemTime policy principal tenant delegation
        request resourceAttributes now grant) ↔
      RequestAccepted policy principal tenant request resourceAttributes ∧
        MayDo systemTime policy principal tenant delegation request
          resourceAttributes now := by
  constructor
  · intro granted
    obtain ⟨_, granted⟩ := granted
    cases granted with
    | claim rule accepted decides allows =>
        exact ⟨accepted, (mayDo_decided_iff decides).mpr allows⟩
    | delegated source accepted undecided agent offered covers scope =>
        exact ⟨accepted, (mayDo_undecided_iff undecided).mpr
          ⟨agent, source, offered, covers, scope⟩⟩
  · intro grounds
    obtain ⟨accepted, allowed⟩ := grounds
    cases decides : decidingRule systemTime policy principal request
        resourceAttributes with
    | some rule =>
        have allows := (mayDo_decided_iff decides).mp allowed
        exact ⟨_, .claim rule accepted decides allows⟩
    | none =>
        obtain ⟨agent, source, offered, covers, scope⟩ :=
          (mayDo_undecided_iff decides).mp allowed
        exact ⟨_, .delegated source accepted decides agent offered covers
          scope⟩

theorem evaluateAuthorizationRequest_isAllowed_iff :
    (evaluateAuthorizationRequest systemTime (some policy) (some principal)
        (some tenant) delegation request resourceAttributes
        now).isAllowed = true ↔
      RequestAccepted policy principal tenant request resourceAttributes ∧
        MayDo systemTime policy principal tenant delegation request
          resourceAttributes now := by
  rw [AuthorizationDecision.isAllowed_iff_grant]
  simp only [evaluateAuthorizationRequest_grant_iff]
  exact exists_requestGrant_iff

end Equivalences

section Envelope

variable {systemTime : Option Int} {policy : Policy} {principal : Principal}
  {tenant : TenantContext}

theorem grantClaim_retains (granted : List GrantedCapability) (rule : Rule)
    (grant : GrantedCapability) (member : grant ∈ granted) :
    grant ∈ grantClaim systemTime policy principal tenant granted rule := by
  unfold grantClaim
  split
  · exact List.mem_append_left _ member
  · exact member

theorem grantClaim_origin (granted : List GrantedCapability) (rule : Rule)
    (grant : GrantedCapability)
    (member :
      grant ∈ grantClaim systemTime policy principal tenant granted rule) :
    grant ∈ granted ∨
      conditionMatches systemTime rule.condition principal = true ∧
        grant = claimGrant policy principal tenant rule.capability
          rule.condition := by
  unfold grantClaim at member
  split at member
  · rename_i holds
    rcases List.mem_append.mp member with old | new
    · exact Or.inl old
    · exact Or.inr ⟨holds, List.mem_singleton.mp new⟩
  · exact Or.inl member

theorem grantDelegated_retains {delegation : Delegation}
    (granted : List GrantedCapability) (capability : Capability)
    (grant : GrantedCapability) (member : grant ∈ granted) :
    grant ∈ grantDelegated policy principal tenant delegation granted
      capability := by
  unfold grantDelegated
  split
  · exact member
  · exact List.mem_append_left _ member

theorem grantDelegated_origin {delegation : Delegation}
    (granted : List GrantedCapability) (capability : Capability)
    (grant : GrantedCapability)
    (member : grant ∈ grantDelegated policy principal tenant delegation
      granted capability) :
    grant ∈ granted ∨
      grant = delegatedGrant policy principal tenant delegation
        capability := by
  unfold grantDelegated at member
  split at member
  · exact Or.inl member
  · rcases List.mem_append.mp member with old | new
    · exact Or.inl old
    · exact Or.inr (List.mem_singleton.mp new)

theorem grantDelegated_provides {delegation : Delegation}
    (capability : Capability) (granted : List GrantedCapability) :
    ∃ grant ∈ grantDelegated policy principal tenant delegation granted
        capability, grant.capability = capability := by
  unfold grantDelegated
  split
  · rename_i present
    obtain ⟨grant, member, names⟩ := List.any_eq_true.mp present
    exact ⟨grant, member, by simpa using names⟩
  · exact ⟨_, List.mem_append_right _ (List.mem_singleton_self _), rfl⟩

/-- The validity tests on a listed delegation, for a capability it contains,
amount to `Covers`. -/
theorem covers_iff_listed {delegation : Delegation} {capability : Capability}
    {now : Int} :
    delegation.Covers tenant principal capability now ↔
      (delegation.tenantId != tenant.tenantId ||
          delegation.delegate != principal.id ||
          !delegation.isValidAt now) = false ∧
        capability ∈ delegation.capabilities := by
  constructor
  · intro covers
    simp [covers.sameTenant, covers.addressed, covers.valid, covers.contains]
  · intro tests
    obtain ⟨listed, contains⟩ := tests
    simp only [Bool.or_eq_false_iff, bne_eq_false_iff_eq,
      Bool.not_eq_false'] at listed
    exact ⟨listed.1.1, listed.1.2, listed.2, contains⟩

theorem grantDelegation_retains {now : Int}
    (granted : List GrantedCapability) (delegation : Delegation)
    (grant : GrantedCapability) (member : grant ∈ granted) :
    grant ∈ grantDelegation policy principal tenant now granted
      delegation := by
  unfold grantDelegation
  split
  · exact member
  · exact mem_foldl_of_mem grantDelegated_retains _ member

theorem grantDelegation_origin {now : Int}
    (granted : List GrantedCapability) (delegation : Delegation)
    (grant : GrantedCapability)
    (member : grant ∈ grantDelegation policy principal tenant now granted
      delegation) :
    grant ∈ granted ∨
      ∃ capability, delegation.Covers tenant principal capability now ∧
        grant = delegatedGrant policy principal tenant delegation
          capability := by
  unfold grantDelegation at member
  split at member
  · exact Or.inl member
  · rename_i listed
    rcases foldl_origin grantDelegated_origin member with old | new
    · exact Or.inl old
    · obtain ⟨capability, contains, same⟩ := new
      have covers : delegation.Covers tenant principal capability now :=
        covers_iff_listed.mpr ⟨by simpa using listed, contains⟩
      exact Or.inr ⟨capability, covers, same⟩

theorem grantDelegation_provides {now : Int} {delegation : Delegation}
    {capability : Capability}
    (covers : delegation.Covers tenant principal capability now)
    (granted : List GrantedCapability) :
    ∃ grant ∈ grantDelegation policy principal tenant now granted delegation,
      grant.capability = capability := by
  obtain ⟨listed, contains⟩ := covers_iff_listed.mp covers
  unfold grantDelegation
  rw [if_neg (by simp [listed])]
  exact exists_mem_foldl grantDelegated_retains contains
    (grantDelegated_provides capability) granted

theorem evaluateWithDelegations_eq_ok_iff {delegations : List Delegation}
    {now : Int} {envelope : CapabilityEnvelope} :
    evaluateWithDelegations systemTime policy principal tenant delegations
        now = .ok envelope ↔
      principal.tenantId = tenant.tenantId ∧ policy.id = tenant.policyId ∧
        envelope = if agentRefusal principal = none then
          { grantedCapabilities :=
              delegations.foldl (grantDelegation policy principal tenant now)
                (policy.rules.foldl
                  (grantClaim systemTime policy principal tenant) []) }
        else .empty := by
  unfold evaluateWithDelegations
  have stopped : (principal.kind == .agent &&
      principal.agentState != some .active) = true ↔
        ¬agentRefusal principal = none := by
    simp [agentRefusal_eq_none_iff]
  by_cases sameTenant : principal.tenantId = tenant.tenantId
  · by_cases samePolicy : policy.id = tenant.policyId
    · by_cases active : agentRefusal principal = none
      · rw [if_neg (mt stopped.mp (not_not.mpr active)), if_pos active]
        simp only [sameTenant, samePolicy, bne_self_eq_false,
          Bool.false_eq_true, if_false, Except.ok.injEq, true_and]
        exact eq_comm
      · rw [if_pos (stopped.mpr active), if_neg active]
        simp only [sameTenant, samePolicy, bne_self_eq_false,
          Bool.false_eq_true, if_false, Except.ok.injEq, true_and]
        exact eq_comm
    · simp [sameTenant, samePolicy]
  · simp [sameTenant]

/-- The entries an envelope justifies by claims are those of the rules whose
condition the claims satisfy, whatever their effect. -/
theorem mem_envelope_claim_iff {delegations : List Delegation} {now : Int}
    {envelope : CapabilityEnvelope} {grant : GrantedCapability}
    (evaluated : evaluateWithDelegations systemTime policy principal tenant
      delegations now = .ok envelope) :
    grant ∈ envelope.grantedCapabilities ∧ grant.authority = .claim ↔
      agentRefusal principal = none ∧
        ∃ rule ∈ policy.rules,
          conditionMatches systemTime rule.condition principal = true ∧
            grant = claimGrant policy principal tenant rule.capability
              rule.condition := by
  obtain ⟨_, _, rfl⟩ := evaluateWithDelegations_eq_ok_iff.mp evaluated
  by_cases active : agentRefusal principal = none
  · simp only [if_pos active]
    constructor
    · intro entry
      obtain ⟨member, byClaim⟩ := entry
      rcases foldl_origin grantDelegation_origin member with early | later
      · rcases foldl_origin grantClaim_origin early with start | claimed
        · simp at start
        · exact ⟨active, claimed⟩
      · obtain ⟨_, _, _, _, rfl⟩ := later
        simp [delegatedGrant] at byClaim
    · intro claimed
      obtain ⟨_, rule, member, holds, rfl⟩ := claimed
      refine ⟨?_, rfl⟩
      apply mem_foldl_of_mem grantDelegation_retains
      have provided : ∀ granted : List GrantedCapability,
          ∃ value ∈ grantClaim systemTime policy principal tenant granted rule,
            value = claimGrant policy principal tenant rule.capability
              rule.condition := by
        intro granted
        refine ⟨_, ?_, rfl⟩
        simp [grantClaim, holds]
      obtain ⟨_, collected, rfl⟩ :=
        exists_mem_foldl grantClaim_retains member provided []
      exact collected
  · simp [active, CapabilityEnvelope.empty]

theorem evaluateWithDelegations_allows_iff {delegations : List Delegation}
    {now : Int} {envelope : CapabilityEnvelope} {capability : Capability}
    (evaluated : evaluateWithDelegations systemTime policy principal tenant
      delegations now = .ok envelope) :
    envelope.allows capability = true ↔
      agentRefusal principal = none ∧
        Holds systemTime policy principal tenant delegations now
          capability := by
  have claims := @mem_envelope_claim_iff systemTime policy principal tenant
    delegations now envelope
  obtain ⟨_, _, envelopeEq⟩ := evaluateWithDelegations_eq_ok_iff.mp evaluated
  rw [CapabilityEnvelope.allows_iff]
  constructor
  · intro allowed
    obtain ⟨grant, member, rfl⟩ := allowed
    cases authority : grant.authority with
    | claim =>
        obtain ⟨active, rule, ruleMember, holds, rfl⟩ :=
          (claims evaluated).mp ⟨member, authority⟩
        exact ⟨active, .claim rule ruleMember rfl holds⟩
    | delegated =>
        by_cases active : agentRefusal principal = none
        · rw [envelopeEq, if_pos active] at member
          refine ⟨active, ?_⟩
          rcases foldl_origin grantDelegation_origin member with early | later
          · rcases foldl_origin grantClaim_origin early with start | claimed
            · simp at start
            · obtain ⟨_, _, _, rfl⟩ := claimed
              simp [claimGrant] at authority
          · obtain ⟨source, sourceMember, _, covers, rfl⟩ := later
            exact .delegated source sourceMember covers
        · rw [envelopeEq, if_neg active] at member
          simp [CapabilityEnvelope.empty] at member
  · intro holding
    obtain ⟨active, held⟩ := holding
    cases held with
    | claim rule member names holds =>
        subst names
        obtain ⟨inEnvelope, _⟩ :=
          (claims evaluated).mpr ⟨active, rule, member, holds, rfl⟩
        exact ⟨_, inEnvelope, rfl⟩
    | delegated source member covers =>
        rw [envelopeEq, if_pos active]
        exact exists_mem_foldl grantDelegation_retains member
          (grantDelegation_provides covers) _

end Envelope

end AuthBoundry
