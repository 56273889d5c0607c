import AuthBoundry.Authz.Policy

/-!
# The three evaluators

`evaluateWithDelegations` computes everything a principal holds,
`evaluateCapability` answers for one capability, and
`evaluateAuthorizationRequest` answers for one action on one resource.  They
share the condition evaluator below and nothing else.

A time-bound condition reads the system clock.  Its reading is the parameter
`systemTime`, which is absent when the clock stands before the epoch; `now` is
the separate time the caller supplies, against which delegations are checked.
-/

namespace AuthBoundry

open Library

structure PolicyEvaluationError where
  message : String
  deriving DecidableEq, Repr

def claimValueText : ClaimValue → String
  | .enum value => value
  | .string value => value
  | .integer value => toString value
  | .boolean value => toString value

def claimFact (key : String) (present : Bool) : String :=
  if present then s!"claim.{key} present" else s!"claim.{key} missing"

def resourceFact (key : String) (present : Bool) : String :=
  if present then s!"resource.{key} present" else s!"resource.{key} missing"

def principalAttributeName : PrincipalAttribute → String
  | .id => "id"
  | .tenant => "tenant"
  | .claim key => s!"claim.{key}"

def principalAttributeValue (principal : Principal) :
    PrincipalAttribute → Option ClaimValue
  | .id => some (.string principal.id.value)
  | .tenant => some (.string principal.tenantId.value)
  | .claim key => principal.claims.values[key]?

def conditionEvidence (condition : String) (passed : Bool)
    (fact : Option String) : ConditionEvidence :=
  { condition, result := if passed then .pass else .fail, fact }

mutual

def evaluateCondition (systemTime : Option Int) (principal : Principal)
    (resource : Option ResourceAttributes) :
    Condition → Bool × List ConditionEvidence
  | .always => (true, [conditionEvidence "always" true none])
  | .all conditions =>
      evaluateConditions systemTime principal resource conditions
  | .claimEquals key value =>
      let holds := principal.claims.values[key]? == some value
      (holds,
        [conditionEvidence s!"claim.{key} == {claimValueText value}" holds
          (some (claimFact key principal.claims.values[key]?.isSome))])
  | .claimIn key values =>
      let present := principal.claims.values[key]?
      let holds := (present.map fun value => values.contains value).getD false
      let listed := ", ".intercalate (values.map claimValueText)
      (holds,
        [conditionEvidence s!"claim.{key} in [{listed}]" holds
          (some (claimFact key present.isSome))])
  | .timeBound start finish =>
      let text := s!"time between {start} and {finish}"
      match systemTime with
      | none =>
          (false, [conditionEvidence text false (some "time unavailable")])
      | some reading =>
          let holds := decide (reading ≥ start) && decide (reading ≤ finish)
          (holds, [conditionEvidence text holds (some "system time evaluated")])
  | .tenantCurrent =>
      let resourceTenant := resource.bind ResourceAttributes.tenantId
      let holds :=
        (resourceTenant.map fun tenant => tenant == principal.tenantId).getD
          false
      let fact :=
        match resourceTenant with
        | some _ =>
            if holds then "resource tenant matched current tenant"
            else "resource tenant did not match current tenant"
        | none => "resource tenant unavailable"
      (holds, [conditionEvidence "tenant=current" holds (some fact)])
  | .resourceAttributeEquals key value =>
      let actual := resource.bind fun attributes => attributes.values[key]?
      let holds := (actual.map fun found => found == value).getD false
      (holds,
        [conditionEvidence s!"resource.{key} == {claimValueText value}" holds
          (some (resourceFact key actual.isSome))])
  | .resourceAttributeIn key values =>
      let actual := resource.bind fun attributes => attributes.values[key]?
      let holds := (actual.map fun found => values.contains found).getD false
      let listed := ", ".intercalate (values.map claimValueText)
      (holds,
        [conditionEvidence s!"resource.{key} in [{listed}]" holds
          (some (resourceFact key actual.isSome))])
  | .relationshipEquals resourceAttribute principalAttribute =>
      let name := principalAttributeName principalAttribute
      let text := s!"resource.{resourceAttribute} == principal.{name}"
      match resource.bind fun attributes =>
          attributes.values[resourceAttribute]? with
      | none =>
          (false,
            [conditionEvidence text false
              (some (resourceFact resourceAttribute false))])
      | some left =>
          let right := principalAttributeValue principal principalAttribute
          let holds := (right.map fun right => left == right).getD false
          let fact :=
            if holds then "relationship matched"
            else "relationship did not match"
          (holds, [conditionEvidence text holds (some fact)])

def evaluateConditions (systemTime : Option Int) (principal : Principal)
    (resource : Option ResourceAttributes) :
    List Condition → Bool × List ConditionEvidence
  | [] => (true, [])
  | condition :: conditions =>
      let first := evaluateCondition systemTime principal resource condition
      let rest := evaluateConditions systemTime principal resource conditions
      (first.1 && rest.1, first.2 ++ rest.2)

end

def conditionMatches (systemTime : Option Int) (condition : Condition)
    (principal : Principal) : Bool :=
  (evaluateCondition systemTime principal none condition).1

mutual

def claimBasis : Condition → List String
  | .always => ["always"]
  | .all conditions => claimBases conditions
  | .claimEquals key _ => [key]
  | .claimIn key _ => [key]
  | .timeBound _ _ => ["time"]
  | .tenantCurrent => ["tenant=current"]
  | .resourceAttributeEquals key _ => [s!"resource.{key}"]
  | .resourceAttributeIn key _ => [s!"resource.{key}"]
  | .relationshipEquals resourceAttribute _ =>
      [s!"resource.{resourceAttribute}"]

def claimBases : List Condition → List String
  | [] => []
  | condition :: conditions => claimBasis condition ++ claimBases conditions

end

/-- The grant a rule makes on the principal's own claims. -/
def claimGrant (policy : Policy) (principal : Principal)
    (tenant : TenantContext) (capability : Capability)
    (condition : Condition) : GrantedCapability :=
  { capability
    policyId := policy.id
    tenantId := tenant.tenantId
    principalId := principal.id
    principalKind := principal.kind
    authority := .claim
    claimBasis := claimBasis condition
    delegationId := none
    delegationChain := []
    delegatedBy := none }

/-- The ids along which a delegation was handed down, its own last. -/
def delegationChain (delegation : Delegation) : List DelegationId :=
  delegation.chain ++ [delegation.id]

def delegatedGrant (policy : Policy) (principal : Principal)
    (tenant : TenantContext) (delegation : Delegation)
    (capability : Capability) : GrantedCapability :=
  { capability
    policyId := policy.id
    tenantId := tenant.tenantId
    principalId := principal.id
    principalKind := principal.kind
    authority := .delegated
    claimBasis := [s!"delegation:{delegation.delegator}"]
    delegationId := some delegation.id
    delegationChain := delegationChain delegation
    delegatedBy := some delegation.delegator }

/-- The first loop of `evaluateWithDelegations` at one rule: an entry for each
rule whose condition the claims satisfy. -/
def grantClaim (systemTime : Option Int) (policy : Policy)
    (principal : Principal) (tenant : TenantContext)
    (granted : List GrantedCapability) (rule : Rule) :
    List GrantedCapability :=
  if conditionMatches systemTime rule.condition principal then
    granted ++ [claimGrant policy principal tenant rule.capability
      rule.condition]
  else
    granted

/-- The inner loop at one capability of a delegation.  A capability that is
already granted is not granted again. -/
def grantDelegated (policy : Policy) (principal : Principal)
    (tenant : TenantContext) (delegation : Delegation)
    (granted : List GrantedCapability) (capability : Capability) :
    List GrantedCapability :=
  if granted.any fun grant => grant.capability == capability then
    granted
  else
    granted ++ [delegatedGrant policy principal tenant delegation capability]

/-- The second loop of `evaluateWithDelegations` at one delegation. -/
def grantDelegation (policy : Policy) (principal : Principal)
    (tenant : TenantContext) (now : Int) (granted : List GrantedCapability)
    (delegation : Delegation) : List GrantedCapability :=
  if delegation.tenantId != tenant.tenantId ||
      delegation.delegate != principal.id || !delegation.isValidAt now then
    granted
  else
    delegation.capabilities.foldl
      (grantDelegated policy principal tenant delegation) granted

def evaluateWithDelegations (systemTime : Option Int) (policy : Policy)
    (principal : Principal) (tenant : TenantContext)
    (delegations : List Delegation) (now : Int) :
    Except PolicyEvaluationError CapabilityEnvelope :=
  if principal.tenantId != tenant.tenantId then
    .error { message := "principal tenant does not match tenant context" }
  else if policy.id != tenant.policyId then
    .error { message := "policy does not match tenant context" }
  else if principal.kind == .agent &&
      principal.agentState != some .active then
    .ok .empty
  else
    .ok
      { grantedCapabilities :=
          delegations.foldl (grantDelegation policy principal tenant now)
            (policy.rules.foldl
              (grantClaim systemTime policy principal tenant) []) }

/-- The least time a caller can name. -/
def i64Min : Int := -9223372036854775808

def evaluate (systemTime : Option Int) (policy : Policy)
    (principal : Principal) (tenant : TenantContext) :
    Except PolicyEvaluationError CapabilityEnvelope :=
  evaluateWithDelegations systemTime policy principal tenant [] i64Min

def deny (reason : DenialReason) : AuthorizationDecision :=
  .deny reason none none none none [] [] none

def denyForWithConditions (request : AuthorizationRequest)
    (reason : DenialReason) (policy : Option Policy)
    (conditions : List ConditionEvidence) : AuthorizationDecision :=
  .deny reason (some request.capability) request.resource
    (some request.action) (policy.map Policy.id) [] conditions none

def denyFor (request : AuthorizationRequest) (reason : DenialReason)
    (policy : Option Policy) : AuthorizationDecision :=
  denyForWithConditions request reason policy []

/-- Why an agent in this state is refused before any rule is read. -/
def agentRefusal (principal : Principal) : Option DenialReason :=
  if principal.kind == .agent then
    match principal.agentState with
    | some .active => none
    | some .revoked | some .retired => some .agentRevoked
    | some .suspended => some .agentSuspended
    | some .created | none => some .unknownPrincipal
  else
    none

/-- The rule loop of `evaluateCapability`: the first rule for the capability
whose condition the claims satisfy.  Effect, action and selector of a rule
are not read. -/
def grantingRule (systemTime : Option Int) (principal : Principal)
    (capability : Capability) :
    List Rule → Option (Rule × List ConditionEvidence)
  | [] => none
  | rule :: rules =>
      if rule.capability == capability then
        let (holds, conditions) :=
          evaluateCondition systemTime principal none rule.condition
        if !holds then
          grantingRule systemTime principal capability rules
        else
          some (rule, conditions)
      else
        grantingRule systemTime principal capability rules

/-- What `evaluateCapability` answers an agent that no rule grants the
capability. -/
def decideByDelegation (policy : Policy) (principal : Principal)
    (tenant : TenantContext) (delegation : Option Delegation)
    (capability : Capability) (now : Int) : AuthorizationDecision :=
  match delegation with
  | none => deny .delegationMissing
  | some delegation =>
      if delegation.tenantId != tenant.tenantId ||
          delegation.delegate != principal.id then
        deny .invalidDelegation
      else if delegation.revokedAt.isSome then
        deny .revokedDelegation
      else if !delegation.isValidAt now then
        deny .expiredDelegation
      else if !delegation.capabilities.contains capability then
        deny .delegationMissing
      else
        .allow (delegatedGrant policy principal tenant delegation capability)
          none none ["delegation"] [] none

def evaluateCapability (systemTime : Option Int) (policy : Option Policy)
    (principal : Option Principal) (tenant : Option TenantContext)
    (delegation : Option Delegation) (capability : Capability) (now : Int) :
    AuthorizationDecision :=
  match policy with
  | none => deny .policyNotFound
  | some policy =>
  match principal with
  | none => deny .unknownPrincipal
  | some principal =>
  match tenant with
  | none => deny .unknownTenant
  | some tenant =>
  if principal.tenantId != tenant.tenantId ||
      policy.id != tenant.policyId then
    deny .tenantMismatch
  else
  match agentRefusal principal with
  | some reason => deny reason
  | none =>
  match grantingRule systemTime principal capability policy.rules with
  | some (rule, conditions) =>
      .allow (claimGrant policy principal tenant capability rule.condition)
        none none (claimBasis rule.condition) conditions none
  | none =>
  if principal.kind == .agent then
    decideByDelegation policy principal tenant delegation capability now
  else
    deny .capabilityNotGranted

def matchesTenant (value : ClaimValue) (tenantId : String) : Bool :=
  match value with
  | .enum value => value == tenantId
  | .string value => value == tenantId
  | _ => false

def delegationScopeMatches (scope : ResourceScope)
    (request : AuthorizationRequest)
    (resourceAttributes : Option ResourceAttributes) : Bool :=
  if scope.isUnconstrained then
    true
  else
    match request.resource with
    | none => false
    | some resource =>
        (match scope.resourceType with
          | some resourceType => resourceType == resource.resourceType
          | none => true) &&
        (match scope.resourceId with
          | some resourceId =>
              resourceId == "*" || resourceId == resource.resourceId
          | none => true) &&
        scope.attributes.toList.all fun (key, expected) =>
          if key == "tenant" || key == "tenant_id" then
            matchesTenant expected resource.tenantId.value
          else
            (resourceAttributes.bind fun attributes =>
              attributes.values[key]?) == some expected

/-- What the rule loop of `evaluateAuthorizationRequest` ends with: the rule
that decides, or the evidence of the last rule whose condition failed. -/
inductive RuleScan where
  | decided (index : Nat) (rule : Rule) (conditions : List ConditionEvidence)
  | exhausted (failedConditions : Option (List ConditionEvidence))

/-- The tests a rule has to pass before its condition is evaluated. -/
def ruleAddresses (request : AuthorizationRequest) (rule : Rule) : Bool :=
  rule.capability == request.capability &&
    (match rule.action with
      | some action => action == request.action
      | none => true) &&
    (match rule.resource with
      | none => true
      | some selector =>
          match request.resource with
          | none => false
          | some resource => selector.selects resource)

def scanRules (systemTime : Option Int) (principal : Principal)
    (request : AuthorizationRequest)
    (resourceAttributes : Option ResourceAttributes) :
    Nat → Option (List ConditionEvidence) → List Rule → RuleScan
  | _, failedConditions, [] => .exhausted failedConditions
  | index, failedConditions, rule :: rules =>
      if !ruleAddresses request rule then
        scanRules systemTime principal request resourceAttributes
          (index + 1) failedConditions rules
      else
        let (conditionsMatch, conditions) :=
          evaluateCondition systemTime principal resourceAttributes
            rule.condition
        if !conditionsMatch then
          scanRules systemTime principal request resourceAttributes
            (index + 1) (some conditions) rules
        else
          .decided index rule conditions

/-- The tenant a resource belongs to: the resolved one where the resolver
names it, else the one in the reference. -/
def resolvedTenant (resource : ResourceRef)
    (resourceAttributes : Option ResourceAttributes) : TenantId :=
  (resourceAttributes.bind ResourceAttributes.tenantId).getD resource.tenantId

/-- What `evaluateAuthorizationRequest` answers an agent whose request no rule
decides. -/
def decideRequestByDelegation (policy : Policy) (principal : Principal)
    (tenant : TenantContext) (delegation : Option Delegation)
    (request : AuthorizationRequest)
    (resourceAttributes : Option ResourceAttributes) (now : Int) :
    AuthorizationDecision :=
  match delegation with
  | none => denyFor request .delegationMissing (some policy)
  | some delegation =>
      if delegation.tenantId != tenant.tenantId ||
          delegation.delegate != principal.id then
        denyFor request .invalidDelegation (some policy)
      else if delegation.revokedAt.isSome then
        denyFor request .revokedDelegation (some policy)
      else if !delegation.isValidAt now then
        denyFor request .expiredDelegation (some policy)
      else if !delegation.capabilities.contains request.capability then
        denyFor request .delegationMissing (some policy)
      else if !delegationScopeMatches delegation.resourceScope request
          resourceAttributes then
        denyFor request .delegationScopeDenied (some policy)
      else
        .allow
          (delegatedGrant policy principal tenant delegation
            request.capability)
          request.resource (some request.action) ["delegation"] [] none

def evaluateAuthorizationRequest (systemTime : Option Int)
    (policy : Option Policy) (principal : Option Principal)
    (tenant : Option TenantContext) (delegation : Option Delegation)
    (request : AuthorizationRequest)
    (resourceAttributes : Option ResourceAttributes) (now : Int) :
    AuthorizationDecision :=
  match policy with
  | none => denyFor request .policyNotFound none
  | some policy =>
  match principal with
  | none => denyFor request .unknownPrincipal (some policy)
  | some principal =>
  match tenant with
  | none => denyFor request .unknownTenant (some policy)
  | some tenant =>
  if principal.id != request.principal ||
      principal.tenantId != tenant.tenantId ||
      tenant.tenantId != request.tenant || policy.id != tenant.policyId then
    denyFor request .tenantMismatch (some policy)
  else if (request.resource.map fun resource =>
      resolvedTenant resource resourceAttributes != tenant.tenantId).getD
        false then
    denyFor request .tenantMismatch (some policy)
  else
  match agentRefusal principal with
  | some reason => denyFor request reason (some policy)
  | none =>
  match scanRules systemTime principal request resourceAttributes 0 none
      policy.rules with
  | .decided index rule conditions =>
      if rule.effect == .deny then
        .deny .policyDenied (some request.capability) request.resource
          (some request.action) (some policy.id) [s!"rule:{index}"]
          conditions none
      else
        .allow
          (claimGrant policy principal tenant request.capability
            rule.condition)
          request.resource (some request.action) [s!"rule:{index}"]
          conditions none
  | .exhausted failedConditions =>
  if principal.kind == .agent then
    decideRequestByDelegation policy principal tenant delegation request
      resourceAttributes now
  else
    match failedConditions with
    | some conditions =>
        denyForWithConditions request .conditionFailed (some policy) conditions
    | none => denyFor request .capabilityNotGranted (some policy)

end AuthBoundry
