import AuthBoundry.Authz.DenyRules
import AuthBoundry.Runtime.Decisions

/-!
# Advertised and granted capabilities

A session context advertises the capabilities of an envelope, and `authorize`
grants them one by one.  The two agree on agents; for other principals only
the envelope counts delegations.
-/

namespace AuthBoundry

section Advertised

variable (systemTime : Option Int) (policy : Policy) (principal : Principal)
  (tenant : TenantContext) (delegations : List Delegation)
  (capability : Capability) (now : Int)

def Advertises : Prop :=
  ∃ envelope,
    evaluateWithDelegations systemTime policy principal tenant delegations
        now = .ok envelope ∧
      envelope.allows capability = true

def GrantsPicked : Prop :=
  (evaluateCapability systemTime (some policy) (some principal) (some tenant)
    (pickDelegation delegations capability now) capability now).isAllowed =
      true

end Advertised

variable {systemTime : Option Int} {policy : Policy} {principal : Principal}
  {tenant : TenantContext} {delegations : List Delegation}
  {capability : Capability} {now : Int}

theorem advertises_iff :
    Advertises systemTime policy principal tenant delegations capability now ↔
      Accepted policy principal tenant ∧
        Holds systemTime policy principal tenant delegations now
          capability := by
  constructor
  · intro advertised
    obtain ⟨envelope, evaluated, allowed⟩ := advertised
    obtain ⟨sameTenant, samePolicy, _⟩ :=
      evaluateWithDelegations_eq_ok_iff.mp evaluated
    obtain ⟨active, held⟩ :=
      (evaluateWithDelegations_allows_iff evaluated).mp allowed
    exact ⟨⟨sameTenant, samePolicy, active⟩, held⟩
  · intro both
    obtain ⟨accepted, held⟩ := both
    have evaluated : evaluateWithDelegations systemTime policy principal
        tenant delegations now = .ok _ :=
      evaluateWithDelegations_eq_ok_iff.mpr
        ⟨accepted.sameTenant, accepted.samePolicy, rfl⟩
    exact ⟨_, evaluated, (evaluateWithDelegations_allows_iff evaluated).mpr
      ⟨accepted.active, held⟩⟩

theorem grantsPicked_iff :
    GrantsPicked systemTime policy principal tenant delegations capability
        now ↔
      Accepted policy principal tenant ∧
        (claimRule systemTime policy principal capability ≠ none ∨
          principal.kind = .agent ∧ ∃ source,
            pickDelegation delegations capability now = some source ∧
              source.Covers tenant principal capability now) :=
  evaluateCapability_isAllowed_iff

theorem claimRule_ne_none_iff :
    claimRule systemTime policy principal capability ≠ none ↔
      ∃ rule ∈ policy.rules, rule.capability = capability ∧
        conditionMatches systemTime rule.condition principal = true := by
  rw [Ne, claimRule_eq_none_iff]
  simp

/-- For delegations addressed to the principal, a picked one covers the
capability exactly when some listed one does. -/
theorem exists_picked_covers_iff
    (addressed : ∀ delegation ∈ delegations,
      delegation.tenantId = tenant.tenantId ∧
        delegation.delegate = principal.id) :
    (∃ source, pickDelegation delegations capability now = some source ∧
        source.Covers tenant principal capability now) ↔
      ∃ source ∈ delegations,
        source.Covers tenant principal capability now := by
  constructor
  · intro picked
    obtain ⟨source, found, covers⟩ := picked
    have search := (pickDelegation_covers_iff addressed).mp ⟨found, covers⟩
    exact ⟨source, (AuthMesh.firstValid_eq_some search).1, covers⟩
  · intro listed
    obtain ⟨source, member, covers⟩ := listed
    cases search : firstValid delegations capability now with
    | none =>
        have lacking :=
          firstValid_eq_none_iff.mp search source member covers.valid
        exact (lacking covers.contains).elim
    | some first =>
        exact ⟨first, (pickDelegation_covers_iff addressed).mpr search⟩

/-- What is advertised is what is granted exactly for agents, for principals
the evaluators refuse, for capabilities held by claims, and where no valid
delegation contains the capability. -/
theorem advertises_iff_grantsPicked_iff
    (addressed : ∀ delegation ∈ delegations,
      delegation.tenantId = tenant.tenantId ∧
        delegation.delegate = principal.id) :
    (Advertises systemTime policy principal tenant delegations capability
          now ↔
        GrantsPicked systemTime policy principal tenant delegations capability
          now) ↔
      principal.kind = .agent ∨ ¬Accepted policy principal tenant ∨
        (∃ rule ∈ policy.rules, rule.capability = capability ∧
          conditionMatches systemTime rule.condition principal = true) ∨
        ∀ delegation ∈ delegations, delegation.isValidAt now = true →
          capability ∉ delegation.capabilities := by
  rw [advertises_iff, grantsPicked_iff, exists_picked_covers_iff addressed,
    claimRule_ne_none_iff]
  constructor
  · intro agree
    by_cases agent : principal.kind = .agent
    · exact Or.inl agent
    · by_cases accepted : Accepted policy principal tenant
      · by_cases claimed : ∃ rule ∈ policy.rules,
            rule.capability = capability ∧
              conditionMatches systemTime rule.condition principal = true
        · exact Or.inr (Or.inr (Or.inl claimed))
        · refine Or.inr (Or.inr (Or.inr ?_))
          intro delegation member valid contains
          obtain ⟨sameTenant, sameDelegate⟩ := addressed delegation member
          have held : Holds systemTime policy principal tenant delegations now
              capability :=
            .delegated delegation member
              ⟨sameTenant, sameDelegate, valid, contains⟩
          obtain ⟨_, authority⟩ := agree.mp ⟨accepted, held⟩
          rcases authority with byClaim | ⟨isAgent, _⟩
          · exact claimed byClaim
          · exact agent isAgent
      · exact Or.inr (Or.inl accepted)
  · intro condition
    constructor
    · intro advertised
      obtain ⟨accepted, held⟩ := advertised
      refine ⟨accepted, ?_⟩
      cases held with
      | claim rule member names holds =>
          exact Or.inl ⟨rule, member, names, holds⟩
      | delegated source member covers =>
          rcases condition with agent | refused | claimed | uncovered
          · exact Or.inr ⟨agent, source, member, covers⟩
          · exact (refused accepted).elim
          · exact Or.inl claimed
          · exact (uncovered source member covers.valid covers.contains).elim
    · intro granted
      obtain ⟨accepted, authority⟩ := granted
      refine ⟨accepted, ?_⟩
      rcases authority with ⟨rule, member, names, holds⟩ |
        ⟨_, source, member, covers⟩
      · exact .claim rule member names holds
      · exact .delegated source member covers

def refundDelegation : Delegation :=
  { id := ⟨"dlg_refund"⟩
    delegator := ⟨"prn_alice"⟩
    delegate := ⟨"prn_billing"⟩
    tenantId := ⟨"acme"⟩
    capabilities := [⟨"invoice.refund"⟩]
    resourceScope := .any
    issuedAt := 0
    expiresAt := none
    revokedAt := none
    chain := [] }

theorem refundDelegation_addressed :
    ∀ delegation ∈ [refundDelegation],
      delegation.tenantId = acme.tenantId ∧
        delegation.delegate = (acmePrincipal "prn_billing" .service).id := by
  decide

theorem advertises_iff_grantsPicked_iff_service :
    (Advertises none (acmePolicy []) (acmePrincipal "prn_billing" .service)
          acme [refundDelegation] ⟨"invoice.refund"⟩ 1 ↔
        GrantsPicked none (acmePolicy [])
          (acmePrincipal "prn_billing" .service) acme [refundDelegation]
          ⟨"invoice.refund"⟩ 1) ↔
      (acmePrincipal "prn_billing" .service).kind = .agent ∨
        ¬Accepted (acmePolicy []) (acmePrincipal "prn_billing" .service)
          acme ∨
        (∃ rule ∈ (acmePolicy []).rules,
          rule.capability = ⟨"invoice.refund"⟩ ∧
            conditionMatches none rule.condition
              (acmePrincipal "prn_billing" .service) = true) ∨
        ∀ delegation ∈ [refundDelegation], delegation.isValidAt 1 = true →
          ⟨"invoice.refund"⟩ ∉ delegation.capabilities :=
  advertises_iff_grantsPicked_iff refundDelegation_addressed

/-- The service's envelope advertises refunds, and `authorize` refuses them. -/
theorem advertises_not_grantsPicked :
    ¬(Advertises none (acmePolicy []) (acmePrincipal "prn_billing" .service)
          acme [refundDelegation] ⟨"invoice.refund"⟩ 1 ↔
        GrantsPicked none (acmePolicy [])
          (acmePrincipal "prn_billing" .service) acme [refundDelegation]
          ⟨"invoice.refund"⟩ 1) := by
  have advertised : Advertises none (acmePolicy [])
      (acmePrincipal "prn_billing" .service) acme [refundDelegation]
      ⟨"invoice.refund"⟩ 1 :=
    ⟨_, rfl, by decide⟩
  have refused : ¬GrantsPicked none (acmePolicy [])
      (acmePrincipal "prn_billing" .service) acme [refundDelegation]
      ⟨"invoice.refund"⟩ 1 := by
    unfold GrantsPicked
    decide
  intro agree
  exact refused (agree.mp advertised)

end AuthBoundry
