import AuthBoundry.Authz.Evaluator
import Mathlib.Data.List.Forall2

/-!
# What the evidence tells

Evaluating a condition leaves one entry for each of its leaves, in their order,
and the condition holds if all of them passed.  The evidence of a decision is
that of one rule.
-/

namespace AuthBoundry

mutual

/-- The parts of a condition that are evaluated by themselves. -/
def Condition.leaves : Condition → List Condition
  | .all conditions => Condition.listedLeaves conditions
  | condition => [condition]

def Condition.listedLeaves : List Condition → List Condition
  | [] => []
  | condition :: conditions =>
      condition.leaves ++ Condition.listedLeaves conditions

end

section Statement

variable (systemTime : Option Int) (principal : Principal)
  (resource : Option ResourceAttributes)

/-- The entry is all that the leaf leaves behind. -/
def IsEvidenceOf (leaf : Condition) (entry : ConditionEvidence) : Prop :=
  (evaluateCondition systemTime principal resource leaf).2 = [entry]

/-- A condition holds if all entries passed, and there is one for each leaf. -/
structure EvidenceTells (condition : Condition) : Prop where
  holds : (evaluateCondition systemTime principal resource condition).1 = true ↔
    ∀ entry ∈ (evaluateCondition systemTime principal resource condition).2,
      entry.result = .pass
  leaves : List.Forall₂ (IsEvidenceOf systemTime principal resource)
    condition.leaves
    (evaluateCondition systemTime principal resource condition).2

end Statement

/-- What is allowed has passed all conditions, and what is refused for a failed
condition shows one that failed, of a rule for the capability. -/
structure DecisionTells (systemTime : Option Int) (policy : Option Policy)
    (principal : Option Principal) (request : AuthorizationRequest)
    (attributes : Option ResourceAttributes)
    (decision : AuthorizationDecision) : Prop where
  allowed : ∀ grant resource action matchedRules conditions event,
    decision = .allow grant resource action matchedRules conditions event →
      ∀ entry ∈ conditions, entry.result = .pass
  failed : ∀ capability resource action policyId matchedRules conditions event,
    decision = .deny .conditionFailed capability resource action policyId
        matchedRules conditions event →
      (∃ entry ∈ conditions, entry.result = .fail) ∧
        ∃ rules caller, policy = some rules ∧ principal = some caller ∧
          ∃ rule ∈ rules.rules, rule.capability = request.capability ∧
            conditions = (evaluateCondition systemTime caller attributes
              rule.condition).2

/-! ## Conditions -/

section Conditions

variable {systemTime : Option Int} {principal : Principal}
  {resource : Option ResourceAttributes}

theorem evidenceTells_leaf {condition : Condition} {text : String}
    {holds : Bool} {fact : Option String}
    (leaf : condition.leaves = [condition])
    (evaluated : evaluateCondition systemTime principal resource condition =
      (holds, [conditionEvidence text holds fact])) :
    EvidenceTells systemTime principal resource condition := by
  constructor
  · rw [evaluated]
    cases holds <;> simp [conditionEvidence]
  · rw [leaf, evaluated]
    refine .cons ?_ .nil
    unfold IsEvidenceOf
    rw [evaluated]

mutual

theorem evidenceTells (condition : Condition) :
    EvidenceTells systemTime principal resource condition := by
  cases condition with
  | all conditions =>
      obtain ⟨holds, leaves⟩ := listedEvidenceTells conditions
      constructor
      · unfold evaluateCondition
        exact holds
      · unfold evaluateCondition Condition.leaves
        exact leaves
  | timeBound start finish =>
      cases systemTime with
      | none => exact evidenceTells_leaf rfl rfl
      | some reading => exact evidenceTells_leaf rfl rfl
  | relationshipEquals resourceAttribute source =>
      cases stored : resource.bind fun attributes =>
          attributes.values[resourceAttribute]? with
      | none =>
          apply evidenceTells_leaf rfl
          unfold evaluateCondition
          rw [stored]
      | some value =>
          apply evidenceTells_leaf rfl
          unfold evaluateCondition
          rw [stored]
  | _ => exact evidenceTells_leaf rfl rfl

theorem listedEvidenceTells (conditions : List Condition) :
    ((evaluateConditions systemTime principal resource conditions).1 = true ↔
      ∀ entry ∈
          (evaluateConditions systemTime principal resource conditions).2,
        entry.result = .pass) ∧
      List.Forall₂ (IsEvidenceOf systemTime principal resource)
        (Condition.listedLeaves conditions)
        (evaluateConditions systemTime principal resource conditions).2 := by
  cases conditions with
  | nil =>
      constructor
      · simp [evaluateConditions]
      · exact .nil
  | cons condition conditions =>
      obtain ⟨first, firstLeaves⟩ := evidenceTells condition
      obtain ⟨rest, restLeaves⟩ := listedEvidenceTells conditions
      constructor
      · unfold evaluateConditions
        dsimp only
        rw [Bool.and_eq_true, first, rest, List.forall_mem_append]
      · unfold evaluateConditions Condition.listedLeaves
        exact List.rel_append firstLeaves restLeaves

end

end Conditions

/-! ## Rules -/

section Rules

variable {systemTime : Option Int} {principal : Principal}
  {request : AuthorizationRequest} {attributes : Option ResourceAttributes}

theorem ruleAddresses_capability {rule : Rule}
    (addresses : ruleAddresses request rule = true) :
    rule.capability = request.capability := by
  unfold ruleAddresses at addresses
  rw [Bool.and_eq_true, Bool.and_eq_true, beq_iff_eq] at addresses
  exact addresses.1.1

def FailedEvidence (systemTime : Option Int) (principal : Principal)
    (request : AuthorizationRequest) (attributes : Option ResourceAttributes)
    (rules : List Rule) (conditions : List ConditionEvidence) : Prop :=
  ∃ rule ∈ rules, rule.capability = request.capability ∧
    evaluateCondition systemTime principal attributes rule.condition =
      (false, conditions)

def ScanTells (systemTime : Option Int) (principal : Principal)
    (request : AuthorizationRequest) (attributes : Option ResourceAttributes)
    (earlier : Option (List ConditionEvidence)) (rules : List Rule) :
    RuleScan → Prop
  | .decided _ rule conditions =>
      evaluateCondition systemTime principal attributes rule.condition =
        (true, conditions)
  | .exhausted failed => ∀ conditions, failed = some conditions →
      earlier = some conditions ∨
        FailedEvidence systemTime principal request attributes rules conditions

theorem scanRules_tells (rules : List Rule) (index : Nat)
    (earlier : Option (List ConditionEvidence)) :
    ScanTells systemTime principal request attributes earlier rules
      (scanRules systemTime principal request attributes index earlier
        rules) := by
  induction rules generalizing index earlier with
  | nil =>
      intro conditions failed
      exact .inl failed
  | cons rule rules induction =>
      -- The entries were there before, are those of this rule, or of a later.
      have widen : ∀ {middle : Option (List ConditionEvidence)} {scan},
          (∀ conditions, middle = some conditions →
            earlier = some conditions ∨
              FailedEvidence systemTime principal request attributes
                (rule :: rules) conditions) →
          ScanTells systemTime principal request attributes middle rules scan →
            ScanTells systemTime principal request attributes earlier
              (rule :: rules) scan := by
        intro middle scan known tells
        cases scan with
        | decided index found conditions => exact tells
        | exhausted failed =>
            intro conditions same
            rcases tells conditions same with before | evidence
            · exact known conditions before
            · obtain ⟨found, member, ofRule⟩ := evidence
              exact .inr ⟨found, List.mem_cons_of_mem rule member, ofRule⟩
      unfold scanRules
      cases addresses : ruleAddresses request rule with
      | false => exact widen (fun _ before => .inl before) (induction _ _)
      | true =>
          cases evaluated : evaluateCondition systemTime principal attributes
              rule.condition with
          | mk holds conditions =>
              cases holds with
              | true => exact evaluated
              | false =>
                  refine widen ?_ (induction _ _)
                  intro found same
                  cases same
                  exact .inr ⟨rule, List.mem_cons_self,
                    ruleAddresses_capability addresses, evaluated⟩

theorem exists_failed {condition : Condition}
    {conditions : List ConditionEvidence}
    (evaluated : evaluateCondition systemTime principal attributes condition =
      (false, conditions)) :
    ∃ entry ∈ conditions, entry.result = .fail := by
  have tells : EvidenceTells systemTime principal attributes condition :=
    evidenceTells condition
  have holds := tells.holds
  rw [evaluated] at holds
  by_contra unfailed
  have passed : ∀ entry ∈ conditions, entry.result = .pass := by
    intro entry member
    cases result : entry.result with
    | pass => rfl
    | fail => exact absurd ⟨entry, member, result⟩ unfailed
  have impossible : false = true := holds.mpr passed
  cases impossible

end Rules

/-! ## Decisions -/

section Decisions

variable {systemTime : Option Int} {principal : Principal}
  {request : AuthorizationRequest} {attributes : Option ResourceAttributes}

variable {policy : Option Policy} {caller : Option Principal}

theorem DecisionTells.ite {condition : Prop} [Decidable condition]
    {first second : AuthorizationDecision}
    (ifHolds : DecisionTells systemTime policy caller request attributes first)
    (otherwise :
      DecisionTells systemTime policy caller request attributes second) :
    DecisionTells systemTime policy caller request attributes
      (if condition then first else second) := by
  by_cases holds : condition
  · rw [if_pos holds]
    exact ifHolds
  · rw [if_neg holds]
    exact otherwise

theorem decisionTells_denyFor {reason : DenialReason} {shown : Option Policy}
    (other : reason ≠ .conditionFailed) :
    DecisionTells systemTime policy caller request attributes
      (denyFor request reason shown) := by
  constructor
  · intro grant resource action matchedRules conditions event same
    cases same
  · intro capability resource action policyId matchedRules conditions event same
    cases same
    exact absurd rfl other

theorem decisionTells_delegation {rules : Policy} {tenant : TenantContext}
    {delegation : Option Delegation} {now : Int} :
    DecisionTells systemTime policy caller request attributes
      (decideRequestByDelegation rules principal tenant delegation request
        attributes now) := by
  cases delegation with
  | none => exact decisionTells_denyFor (by decide)
  | some delegation =>
      unfold decideRequestByDelegation
      refine .ite (decisionTells_denyFor (by decide)) ?_
      refine .ite (decisionTells_denyFor (by decide)) ?_
      refine .ite (decisionTells_denyFor (by decide)) ?_
      refine .ite (decisionTells_denyFor (by decide)) ?_
      refine .ite (decisionTells_denyFor (by decide)) ?_
      constructor
      · intro grant resource action matchedRules conditions event same
        cases same
        exact List.forall_mem_nil _
      · intro capability resource action policyId matchedRules conditions event
          same
        cases same

theorem agentRefusal_ne {reason : DenialReason}
    (refused : agentRefusal principal = some reason) :
    reason ≠ .conditionFailed := by
  rintro rfl
  unfold agentRefusal at refused
  split at refused
  · split at refused <;> cases refused
  · cases refused

/-- The evidence of a condition has one entry for each leaf and passes exactly
if the condition holds, and decisions show such evidence. -/
theorem evaluateAuthorizationRequest_tells (systemTime : Option Int)
    (policy : Option Policy) (principal : Option Principal)
    (tenant : Option TenantContext) (delegation : Option Delegation)
    (request : AuthorizationRequest)
    (attributes : Option ResourceAttributes) (now : Int) :
    (∀ caller condition,
        EvidenceTells systemTime caller attributes condition) ∧
      DecisionTells systemTime policy principal request attributes
        (evaluateAuthorizationRequest systemTime policy principal tenant
          delegation request attributes now) := by
  refine ⟨fun caller condition => evidenceTells condition, ?_⟩
  cases policy with
  | none => exact decisionTells_denyFor (by decide)
  | some policy =>
  cases principal with
  | none => exact decisionTells_denyFor (by decide)
  | some principal =>
  cases tenant with
  | none => exact decisionTells_denyFor (by decide)
  | some tenant =>
      unfold evaluateAuthorizationRequest
      dsimp only
      refine .ite (decisionTells_denyFor (by decide)) ?_
      refine .ite (decisionTells_denyFor (by decide)) ?_
      cases refused : agentRefusal principal with
      | some reason => exact decisionTells_denyFor (agentRefusal_ne refused)
      | none =>
          have tells : ScanTells systemTime principal request attributes none
              policy.rules (scanRules systemTime principal request attributes 0
                none policy.rules) := scanRules_tells policy.rules 0 none
          cases scan : scanRules systemTime principal request attributes 0 none
              policy.rules with
          | decided index rule conditions =>
              rw [scan] at tells
              have evidence : EvidenceTells systemTime principal attributes
                  rule.condition := evidenceTells rule.condition
              have passed := evidence.holds
              unfold ScanTells at tells
              rw [tells] at passed
              refine .ite ?_ ?_
              · constructor
                · intro grant resource action matchedRules found event same
                  cases same
                · intro capability resource action policyId matchedRules found
                    event same
                  cases same
              · constructor
                · intro grant resource action matchedRules found event same
                  cases same
                  exact passed.mp rfl
                · intro capability resource action policyId matchedRules found
                    event same
                  cases same
          | exhausted failed =>
              rw [scan] at tells
              dsimp only
              refine .ite decisionTells_delegation ?_
              cases failed with
              | none => exact decisionTells_denyFor (by decide)
              | some conditions =>
                  obtain impossible | ⟨rule, member, named, evaluated⟩ :=
                    tells conditions rfl
                  · cases impossible
                  constructor
                  · intro grant resource action matchedRules found event same
                    cases same
                  · intro capability resource action policyId matchedRules found
                      event same
                    cases same
                    exact ⟨exists_failed evaluated, policy, principal, rfl, rfl,
                      rule, member, named, by rw [evaluated]⟩

end Decisions

end AuthBoundry
