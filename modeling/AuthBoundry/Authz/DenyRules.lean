import AuthBoundry.Authz.EvaluatorSpec

/-!
# Deny rules in the three evaluators

Only `evaluateAuthorizationRequest` reads the effect of a rule.  This module
states what a deny rule should do to the other two evaluators, and that they
comply exactly when no deny rule is ever reached.
-/

namespace AuthBoundry

open Library

section DenyRules

variable (systemTime : Option Int) (policy : Policy) (principal : Principal)
  (tenant : TenantContext)

/-- The rule puts this entry into an envelope. -/
structure JustifiesEntry (rule : Rule) (grant : GrantedCapability) : Prop where
  member : rule ∈ policy.rules
  holds : conditionMatches systemTime rule.condition principal = true
  entry : grant = claimGrant policy principal tenant rule.capability
    rule.condition

/-- The rule is the one on which `evaluateCapability` grants. -/
structure JustifiesDecision (capability : Capability) (rule : Rule)
    (grant : GrantedCapability) : Prop where
  decides : claimRule systemTime policy principal capability = some rule
  entry : grant = claimGrant policy principal tenant capability rule.condition

/-- The first rule that names the capability without restricting it to a
resource or an action and whose condition holds without resource
attributes. -/
def unrestrictedRule (capability : Capability) : Option Rule :=
  policy.rules.find? fun rule =>
    rule.capability == capability && rule.resource.isNone &&
      rule.action.isNone && conditionMatches systemTime rule.condition principal

def EntriesFollowEffects (envelope : CapabilityEnvelope) : Prop :=
  ∀ grant ∈ envelope.grantedCapabilities, ∀ rule,
    JustifiesEntry systemTime policy principal tenant rule grant →
      rule.effect ≠ .deny

/-- What the effect of a rule has to mean to every evaluator. -/
structure DenyRulesBind (delegations : List Delegation) (now : Int) : Prop where
  envelopes : ∀ envelope,
    evaluateWithDelegations systemTime policy principal tenant delegations
        now = .ok envelope →
      EntriesFollowEffects systemTime policy principal tenant envelope
  claimEnvelopes : ∀ envelope,
    evaluate systemTime policy principal tenant = .ok envelope →
      EntriesFollowEffects systemTime policy principal tenant envelope
  decisions : ∀ delegation capability grant rule,
    (evaluateCapability systemTime (some policy) (some principal)
        (some tenant) delegation capability now).grant = some grant →
      JustifiesDecision systemTime policy principal tenant capability rule
        grant →
      rule.effect ≠ .deny
  barsDecisions : ∀ capability rule,
    unrestrictedRule systemTime policy principal capability = some rule →
      rule.effect = .deny → ∀ delegation,
        (evaluateCapability systemTime (some policy) (some principal)
          (some tenant) delegation capability now).isAllowed = false
  barsEnvelopes : ∀ capability rule,
    unrestrictedRule systemTime policy principal capability = some rule →
      rule.effect = .deny → ∀ envelope,
        (evaluateWithDelegations systemTime policy principal tenant
            delegations now = .ok envelope ∨
          evaluate systemTime policy principal tenant = .ok envelope) →
        envelope.allows capability = false
  barsRequests : ∀ capability rule,
    unrestrictedRule systemTime policy principal capability = some rule →
      rule.effect = .deny → ∀ delegation request resourceAttributes,
        request.capability = capability →
        (evaluateAuthorizationRequest systemTime (some policy)
          (some principal) (some tenant) delegation request
          resourceAttributes now).isAllowed = false

end DenyRules

variable {systemTime : Option Int} {policy : Policy} {principal : Principal}
  {tenant : TenantContext}

theorem evaluateCapability_accepted {delegation : Option Delegation}
    {capability : Capability} {now : Int} {grant : GrantedCapability}
    (granted : (evaluateCapability systemTime (some policy) (some principal)
      (some tenant) delegation capability now).grant = some grant) :
    Accepted policy principal tenant := by
  cases evaluateCapability_grant_iff.mp granted with
  | claim _ accepted => exact accepted
  | delegated _ accepted => exact accepted

theorem evaluateAuthorizationRequest_accepted {delegation : Option Delegation}
    {request : AuthorizationRequest}
    {resourceAttributes : Option ResourceAttributes} {now : Int}
    {grant : GrantedCapability}
    (granted : (evaluateAuthorizationRequest systemTime (some policy)
      (some principal) (some tenant) delegation request resourceAttributes
      now).grant = some grant) :
    RequestAccepted policy principal tenant request resourceAttributes := by
  cases evaluateAuthorizationRequest_grant_iff.mp granted with
  | claim _ accepted => exact accepted
  | delegated _ accepted => exact accepted

theorem isAllowed_eq_false_iff {decision : AuthorizationDecision} :
    decision.isAllowed = false ↔ ∀ grant, decision.grant ≠ some grant := by
  rw [← Bool.not_eq_true, AuthorizationDecision.isAllowed_iff_grant,
    not_exists]

theorem evaluateWithDelegations_accepted {delegations : List Delegation}
    {now : Int} {envelope : CapabilityEnvelope} {capability : Capability}
    (evaluated : evaluateWithDelegations systemTime policy principal tenant
      delegations now = .ok envelope)
    (allowed : envelope.allows capability = true) :
    Accepted policy principal tenant := by
  obtain ⟨sameTenant, samePolicy, _⟩ :=
    evaluateWithDelegations_eq_ok_iff.mp evaluated
  obtain ⟨active, _⟩ :=
    (evaluateWithDelegations_allows_iff evaluated).mp allowed
  exact ⟨sameTenant, samePolicy, active⟩

section Reached

variable {delegations : List Delegation} {now : Int}

/-- A deny rule with a satisfied condition puts an entry of its own into the
envelope. -/
theorem denyRulesBind_unreached
    (bind : DenyRulesBind systemTime policy principal tenant delegations now)
    (accepted : Accepted policy principal tenant) {rule : Rule}
    (member : rule ∈ policy.rules) (denies : rule.effect = .deny) :
    conditionMatches systemTime rule.condition principal = false := by
  by_contra reached
  rw [Bool.not_eq_false] at reached
  have evaluated : evaluateWithDelegations systemTime policy principal
      tenant delegations now = .ok _ :=
    evaluateWithDelegations_eq_ok_iff.mpr
      ⟨accepted.sameTenant, accepted.samePolicy, rfl⟩
  have entry := (mem_envelope_claim_iff evaluated).mpr
    ⟨accepted.active, rule, member, reached, rfl⟩
  exact bind.envelopes _ evaluated _ entry.1 rule ⟨member, reached, rfl⟩ denies

variable
  (unreached : Accepted policy principal tenant → ∀ rule ∈ policy.rules,
    conditionMatches systemTime rule.condition principal = true →
      rule.effect ≠ .deny)

include unreached

theorem not_accepted_of_unrestrictedRule {capability : Capability}
    {rule : Rule}
    (found : unrestrictedRule systemTime policy principal capability =
      some rule)
    (denies : rule.effect = .deny) : ¬Accepted policy principal tenant := by
  intro accepted
  have holds := List.find?_some found
  simp only [Bool.and_eq_true] at holds
  exact unreached accepted rule (List.mem_of_find?_eq_some found) holds.2 denies

theorem entriesFollowEffects_of_unreached {listed : List Delegation}
    {time : Int} {envelope : CapabilityEnvelope}
    (evaluated : evaluateWithDelegations systemTime policy principal tenant
      listed time = .ok envelope) :
    EntriesFollowEffects systemTime policy principal tenant envelope := by
  intro grant member rule justifies
  have allowed : envelope.allows grant.capability = true :=
    CapabilityEnvelope.allows_iff.mpr ⟨grant, member, rfl⟩
  have accepted := evaluateWithDelegations_accepted evaluated allowed
  exact unreached accepted rule justifies.member justifies.holds

theorem denyRulesBind_of_unreached :
    DenyRulesBind systemTime policy principal tenant delegations now := by
  have barred := @not_accepted_of_unrestrictedRule _ _ _ _ unreached
  refine ⟨?_, ?_, ?_, ?_, ?_, ?_⟩
  · intro envelope evaluated
    exact entriesFollowEffects_of_unreached unreached evaluated
  · intro envelope evaluated
    exact entriesFollowEffects_of_unreached unreached evaluated
  · intro delegation capability grant rule granted justifies
    obtain ⟨member, _, holds⟩ := claimRule_eq_some justifies.decides
    exact unreached (evaluateCapability_accepted granted) rule member holds
  · intro capability rule found denies delegation
    apply isAllowed_eq_false_iff.mpr
    intro grant granted
    exact barred found denies (evaluateCapability_accepted granted)
  · intro capability rule found denies envelope evaluated
    by_contra allowed
    rw [Bool.not_eq_false] at allowed
    apply barred found denies
    rcases evaluated with listed | claims
    · exact evaluateWithDelegations_accepted listed allowed
    · exact evaluateWithDelegations_accepted claims allowed
  · intro capability rule found denies delegation request attributes _
    apply isAllowed_eq_false_iff.mpr
    intro grant granted
    have accepted := evaluateAuthorizationRequest_accepted granted
    exact barred found denies accepted.toAccepted

end Reached

/-- The evaluators respect deny rules exactly when they stop before the rules
or no deny rule has a condition that the claims satisfy. -/
theorem denyRulesBind_iff {delegations : List Delegation} {now : Int} :
    DenyRulesBind systemTime policy principal tenant delegations now ↔
      ¬Accepted policy principal tenant ∨
        ∀ rule ∈ policy.rules, rule.effect = .deny →
          conditionMatches systemTime rule.condition principal = false := by
  constructor
  · intro bind
    by_cases accepted : Accepted policy principal tenant
    · right
      intro rule member denies
      exact denyRulesBind_unreached bind accepted member denies
    · exact Or.inl accepted
  · intro condition
    apply denyRulesBind_of_unreached
    intro accepted rule member holds denies
    rcases condition with refused | quiet
    · exact refused accepted
    · simp [quiet rule member denies] at holds

/-! ## A concrete tenant -/

def acme : TenantContext :=
  { tenantId := ⟨"acme"⟩
    tenantNamespace := "acme"
    policyId := ⟨"policy_acme"⟩
    storageRootId := ⟨"root_acme"⟩ }

def acmePolicy (rules : List Rule) : Policy :=
  { id := ⟨"policy_acme"⟩, rules }

def acmePrincipal (id : String) (kind : PrincipalKind) : Principal :=
  { id := ⟨id⟩
    kind
    tenantId := ⟨"acme"⟩
    claims := { values := ∅ }
    version := { major := 1, minor := 0 }
    agentState := if kind == .agent then some .active else none }

/-- A policy that only denies refunds grants them by capability. -/
theorem denyRulesBind_fails :
    ¬DenyRulesBind none
      (acmePolicy
        [{ capability := ⟨"invoice.refund"⟩
           condition := .always
           resource := none
           action := none
           effect := .deny }])
      (acmePrincipal "prn_alice" .human) acme [] 0 := by
  intro bind
  have denied := bind.barsDecisions ⟨"invoice.refund"⟩ _ rfl rfl none
  revert denied
  decide

end AuthBoundry
