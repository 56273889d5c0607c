import AuthBoundry.Authz.DenyRules

/-!
# The clock inside the evaluators

Time reaches an evaluation twice: as the argument `now` and through the system
clock, which a time-bound condition reads for itself.  This module states that
only `now` should matter and says exactly when it does.
-/

namespace AuthBoundry

open Library

mutual

def Condition.timeBounds : Condition → List (Int × Int)
  | .timeBound start finish => [(start, finish)]
  | .all conditions => Condition.listedTimeBounds conditions
  | _ => []

def Condition.listedTimeBounds : List Condition → List (Int × Int)
  | [] => []
  | condition :: conditions =>
      condition.timeBounds ++ Condition.listedTimeBounds conditions

end

def Policy.timeBounds (self : Policy) : List (Int × Int) :=
  self.rules.flatMap fun rule => rule.condition.timeBounds

/-- What the clock can show: seconds since the epoch, or nothing where it
stands before the epoch. -/
def Showable (reading : Option Int) : Prop :=
  ∀ seconds, reading = some seconds → 0 ≤ seconds

section Statement

variable (policy : Policy) (principal : Principal) (tenant : TenantContext)
  (delegations : List Delegation) (delegation : Option Delegation)
  (capability : Capability) (request : AuthorizationRequest)
  (resourceAttributes : Option ResourceAttributes) (now : Int)

/-- The evaluations follow `now` and not the clock. -/
structure FollowsNow : Prop where
  bounds : ∀ reading, Showable reading →
    ∀ start finish, (start, finish) ∈ policy.timeBounds →
      ((evaluateCondition reading principal resourceAttributes
        (.timeBound start finish)).1 = true ↔ start ≤ now ∧ now ≤ finish)
  capabilities : ∀ reading other, Showable reading → Showable other →
    evaluateCapability reading (some policy) (some principal) (some tenant)
        delegation capability now =
      evaluateCapability other (some policy) (some principal) (some tenant)
        delegation capability now
  envelopes : ∀ reading other, Showable reading → Showable other →
    evaluateWithDelegations reading policy principal tenant delegations now =
      evaluateWithDelegations other policy principal tenant delegations now
  requests : ∀ reading other, Showable reading → Showable other →
    evaluateAuthorizationRequest reading (some policy) (some principal)
        (some tenant) delegation request resourceAttributes now =
      evaluateAuthorizationRequest other (some policy) (some principal)
        (some tenant) delegation request resourceAttributes now

/-- Neither `now` nor any time the clock can show lies within the bounds. -/
def OutOfReach (bounds : Int × Int) : Prop :=
  bounds.2 < bounds.1 ∨ bounds.2 < 0 ∧ ¬(bounds.1 ≤ now ∧ now ≤ bounds.2)

/-- The rule that supplies the evidence when every condition fails: the last
one that addresses the request. -/
def lastAddressing (rules : List Rule) : Option Rule :=
  (rules.filter (ruleAddresses request)).getLast?

/-- Every rule that addresses the request fails, as long as the clock cannot
be read. -/
def AllFail (rules : List Rule) (reading : Option Int) : Prop :=
  ∀ rule ∈ rules, ruleAddresses request rule = true →
    (evaluateCondition reading principal resourceAttributes
      rule.condition).1 = false

/-- The policy has no use for the clock: its time bounds are out of reach, and
none of them is evidence for a refusal of the request. -/
structure NeedsNoClock : Prop where
  outOfReach : ∀ bounds ∈ policy.timeBounds, OutOfReach now bounds
  noEvidence :
    RequestAccepted policy principal tenant request resourceAttributes →
      principal.kind ≠ .agent →
      AllFail principal request resourceAttributes policy.rules none →
      ∀ rule, lastAddressing request policy.rules = some rule →
        rule.condition.timeBounds = []

end Statement

theorem showable_none : Showable none := by
  intro seconds shown
  cases shown

theorem showable_some {seconds : Int} (nonneg : 0 ≤ seconds) :
    Showable (some seconds) := by
  intro shown same
  cases same
  exact nonneg

/-! ## Conditions at two readings -/

section Conditions

variable {principal : Principal} {resource : Option ResourceAttributes}
  {now : Int}

theorem evaluateCondition_timeBound_iff {reading : Option Int}
    {start finish : Int} :
    (evaluateCondition reading principal resource
        (.timeBound start finish)).1 = true ↔
      ∃ seconds, reading = some seconds ∧ start ≤ seconds ∧
        seconds ≤ finish := by
  unfold evaluateCondition
  cases reading with
  | none => simp
  | some seconds => simp

/-- Bounds are out of reach exactly when the clock judges them as `now`
does, whatever it shows. -/
theorem outOfReach_iff {start finish : Int} :
    OutOfReach now (start, finish) ↔
      ∀ reading, Showable reading →
        ((evaluateCondition reading principal resource
          (.timeBound start finish)).1 = true ↔
            start ≤ now ∧ now ≤ finish) := by
  simp only [evaluateCondition_timeBound_iff]
  unfold OutOfReach
  constructor
  · intro outside reading readable
    constructor
    · intro within
      obtain ⟨seconds, shown, after, before⟩ := within
      have nonneg := readable seconds shown
      omega
    · intro within
      omega
  · intro judged
    have outside : ¬(start ≤ now ∧ now ≤ finish) := by
      intro within
      obtain ⟨_, shown, _⟩ := (judged none showable_none).mpr within
      cases shown
    by_contra reached
    have shown := judged (some (max start 0))
      (showable_some (le_max_right start 0))
    exact outside (shown.mp ⟨_, rfl, by omega, by omega⟩)

mutual

theorem evaluateCondition_eq {condition : Condition}
    (untimed : condition.timeBounds = []) (reading other : Option Int) :
    evaluateCondition reading principal resource condition =
      evaluateCondition other principal resource condition := by
  cases condition with
  | all conditions =>
      unfold Condition.timeBounds at untimed
      unfold evaluateCondition
      exact evaluateConditions_eq untimed reading other
  | timeBound start finish =>
      unfold Condition.timeBounds at untimed
      cases untimed
  | _ =>
      unfold evaluateCondition
      rfl

theorem evaluateConditions_eq {conditions : List Condition}
    (untimed : Condition.listedTimeBounds conditions = [])
    (reading other : Option Int) :
    evaluateConditions reading principal resource conditions =
      evaluateConditions other principal resource conditions := by
  cases conditions with
  | nil => rfl
  | cons condition conditions =>
      unfold Condition.listedTimeBounds at untimed
      obtain ⟨first, rest⟩ := List.append_eq_nil_iff.mp untimed
      unfold evaluateConditions
      rw [evaluateCondition_eq first reading other,
        evaluateConditions_eq rest reading other]

end

mutual

theorem evaluateCondition_eq_false {condition : Condition}
    {bounds : Int × Int} {reading : Option Int} (readable : Showable reading)
    (outside : OutOfReach now bounds) (within : bounds ∈ condition.timeBounds) :
    (evaluateCondition reading principal resource condition).1 = false := by
  cases condition with
  | all conditions =>
      unfold Condition.timeBounds at within
      unfold evaluateCondition
      exact evaluateConditions_eq_false readable outside within
  | timeBound start finish =>
      unfold Condition.timeBounds at within
      cases List.mem_singleton.mp within
      apply Bool.eq_false_iff.mpr
      intro holds
      obtain ⟨seconds, shown, after, before⟩ :=
        evaluateCondition_timeBound_iff.mp holds
      have nonneg := readable seconds shown
      unfold OutOfReach at outside
      omega
  | _ =>
      unfold Condition.timeBounds at within
      cases within

theorem evaluateConditions_eq_false {conditions : List Condition}
    {bounds : Int × Int} {reading : Option Int} (readable : Showable reading)
    (outside : OutOfReach now bounds)
    (within : bounds ∈ Condition.listedTimeBounds conditions) :
    (evaluateConditions reading principal resource conditions).1 = false := by
  cases conditions with
  | nil => cases within
  | cons condition conditions =>
      unfold Condition.listedTimeBounds at within
      unfold evaluateConditions
      dsimp only
      apply Bool.and_eq_false_iff.mpr
      rcases List.mem_append.mp within with first | rest
      · exact Or.inl (evaluateCondition_eq_false readable outside first)
      · exact Or.inr (evaluateConditions_eq_false readable outside rest)

end

mutual

/-- How much evidence there is does not depend on the clock. -/
theorem evaluateCondition_length (condition : Condition)
    (reading other : Option Int) :
    (evaluateCondition reading principal resource condition).2.length =
      (evaluateCondition other principal resource condition).2.length := by
  cases condition with
  | all conditions =>
      unfold evaluateCondition
      exact evaluateConditions_length conditions reading other
  | timeBound start finish =>
      unfold evaluateCondition
      cases reading <;> cases other <;> rfl
  | _ =>
      unfold evaluateCondition
      rfl

theorem evaluateConditions_length (conditions : List Condition)
    (reading other : Option Int) :
    (evaluateConditions reading principal resource conditions).2.length =
      (evaluateConditions other principal resource conditions).2.length := by
  cases conditions with
  | nil => rfl
  | cons condition conditions =>
      unfold evaluateConditions
      dsimp only
      rw [List.length_append, List.length_append,
        evaluateCondition_length condition reading other,
        evaluateConditions_length conditions reading other]

end

mutual

/-- The evidence of a time bound shows whether the clock could be read. -/
theorem timeBounds_eq_nil {condition : Condition} {reading : Int}
    (same : (evaluateCondition none principal resource condition).2 =
      (evaluateCondition (some reading) principal resource condition).2) :
    condition.timeBounds = [] := by
  cases condition with
  | all conditions =>
      unfold evaluateCondition at same
      unfold Condition.timeBounds
      exact listedTimeBounds_eq_nil same
  | timeBound start finish =>
      unfold evaluateCondition at same
      have facts := congrArg ConditionEvidence.fact (List.cons.inj same).1
      exact absurd (Option.some.inj facts) (by decide)
  | _ =>
      unfold Condition.timeBounds
      rfl

theorem listedTimeBounds_eq_nil {conditions : List Condition} {reading : Int}
    (same : (evaluateConditions none principal resource conditions).2 =
      (evaluateConditions (some reading) principal resource conditions).2) :
    Condition.listedTimeBounds conditions = [] := by
  cases conditions with
  | nil => rfl
  | cons condition conditions =>
      unfold evaluateConditions at same
      obtain ⟨first, rest⟩ := List.append_inj same
        (evaluateCondition_length condition none (some reading))
      unfold Condition.listedTimeBounds
      rw [timeBounds_eq_nil first, listedTimeBounds_eq_nil rest]
      rfl

end

/-- Two readings judge the condition alike, and give the same evidence where
it holds. -/
def JudgedAlike (principal : Principal) (resource : Option ResourceAttributes)
    (reading other : Option Int) (condition : Condition) : Prop :=
  evaluateCondition reading principal resource condition =
      evaluateCondition other principal resource condition ∨
    (evaluateCondition reading principal resource condition).1 = false ∧
      (evaluateCondition other principal resource condition).1 = false

theorem JudgedAlike.passes {reading other : Option Int} {condition : Condition}
    (alike : JudgedAlike principal resource reading other condition) :
    (evaluateCondition reading principal resource condition).1 =
      (evaluateCondition other principal resource condition).1 := by
  rcases alike with same | fails
  · rw [same]
  · rw [fails.1, fails.2]

theorem judgedAlike_of_outOfReach {reading other : Option Int}
    (readable : Showable reading) (otherReadable : Showable other)
    {condition : Condition}
    (outOfReach : ∀ bounds ∈ condition.timeBounds, OutOfReach now bounds) :
    JudgedAlike principal resource reading other condition := by
  cases found : condition.timeBounds with
  | nil => exact Or.inl (evaluateCondition_eq found reading other)
  | cons bounds rest =>
      have within : bounds ∈ condition.timeBounds := by
        rw [found]
        exact List.mem_cons_self
      have outside := outOfReach bounds within
      exact Or.inr ⟨evaluateCondition_eq_false readable outside within,
        evaluateCondition_eq_false otherReadable outside within⟩

end Conditions

/-! ## Rules at two readings -/

section Rules

variable {principal : Principal} {request : AuthorizationRequest}
  {resourceAttributes : Option ResourceAttributes}
  {reading other : Option Int}

theorem grantingRule_congr {capability : Capability} {rules : List Rule}
    (alike : ∀ rule ∈ rules,
      JudgedAlike principal none reading other rule.condition) :
    grantingRule reading principal capability rules =
      grantingRule other principal capability rules := by
  induction rules with
  | nil => rfl
  | cons rule rules induction =>
      obtain ⟨first, rest⟩ := List.forall_mem_cons.mp alike
      unfold grantingRule
      rw [induction rest]
      rcases first with same | fails
      · rw [same]
      · simp [fails.1, fails.2]

theorem foldl_grantClaim_congr {policy : Policy} {tenant : TenantContext}
    {rules : List Rule}
    (alike : ∀ rule ∈ rules,
      JudgedAlike principal none reading other rule.condition)
    (granted : List GrantedCapability) :
    rules.foldl (grantClaim reading policy principal tenant) granted =
      rules.foldl (grantClaim other policy principal tenant) granted := by
  apply List.foldl_ext
  intro granted rule member
  unfold grantClaim conditionMatches
  rw [(alike rule member).passes]

theorem scanRules_congr {rules : List Rule}
    (alike : ∀ rule ∈ rules,
      JudgedAlike principal resourceAttributes reading other rule.condition)
    (decided : ∃ rule ∈ rules, ruleAddresses request rule = true ∧
      (evaluateCondition reading principal resourceAttributes
        rule.condition).1 = true)
    (index : Nat) (failed otherFailed : Option (List ConditionEvidence)) :
    scanRules reading principal request resourceAttributes index failed rules =
      scanRules other principal request resourceAttributes index otherFailed
        rules := by
  induction rules generalizing index failed otherFailed with
  | nil =>
      obtain ⟨_, member, _⟩ := decided
      cases member
  | cons rule rules induction =>
      obtain ⟨first, rest⟩ := List.forall_mem_cons.mp alike
      have later := (List.exists_mem_cons_iff _ rule rules).mp decided
      unfold scanRules
      cases addresses : ruleAddresses request rule with
      | false =>
          apply induction rest
          exact later.resolve_left (by simp [addresses])
      | true =>
          have continues
              (fails : (evaluateCondition reading principal
                resourceAttributes rule.condition).1 = false) :=
            induction rest (later.resolve_left (by simp [fails]))
          rcases first with same | fails
          · cases holds : (evaluateCondition reading principal
                resourceAttributes rule.condition).1 with
            | true => simp [← same, holds]
            | false =>
                simp only [← same, holds]
                exact continues holds _ _ _
          · simp only [fails.1, fails.2]
            exact continues fails.1 _ _ _

theorem scanRules_exhausted {rules : List Rule}
    (allFail : AllFail principal request resourceAttributes rules reading)
    (index : Nat) (failed : Option (List ConditionEvidence)) :
    scanRules reading principal request resourceAttributes index failed rules =
      .exhausted (((lastAddressing request rules).map fun rule =>
        (evaluateCondition reading principal resourceAttributes
          rule.condition).2).or failed) := by
  induction rules generalizing index failed with
  | nil => rfl
  | cons rule rules induction =>
      obtain ⟨first, rest⟩ := List.forall_mem_cons.mp allFail
      unfold scanRules
      cases addresses : ruleAddresses request rule with
      | false =>
          simpa [lastAddressing, addresses] using induction rest _ _
      | true =>
          have fails := first addresses
          simp only [fails]
          refine (induction rest _ _).trans ?_
          cases later : lastAddressing request rules with
          | none =>
              unfold lastAddressing at later ⊢
              simp [addresses, List.getLast?_cons, later]
          | some found =>
              unfold lastAddressing at later ⊢
              simp [addresses, List.getLast?_cons, later]

end Rules

/-! ## The evaluators at two readings -/

section Evaluators

variable {policy : Policy} {principal : Principal} {tenant : TenantContext}
  {delegations : List Delegation} {delegation : Option Delegation}
  {capability : Capability} {request : AuthorizationRequest}
  {resourceAttributes : Option ResourceAttributes} {now : Int}
  {reading other : Option Int}

variable (policy principal tenant delegation request resourceAttributes now)
  in
/-- The answer to an accepted request, given how the scan of the rules
ended. -/
def decideScanned : RuleScan → AuthorizationDecision
  | .decided index rule conditions =>
      if rule.effect == .deny then
        .deny .policyDenied (some request.capability) request.resource
          (some request.action) (some policy.id) [s!"rule:{index}"]
          conditions none
      else
        .allow
          (claimGrant policy principal tenant request.capability
            rule.condition)
          request.resource (some request.action) [s!"rule:{index}"]
          conditions none
  | .exhausted failedConditions =>
      if principal.kind == .agent then
        decideRequestByDelegation policy principal tenant delegation request
          resourceAttributes now
      else
        match failedConditions with
        | some conditions =>
            denyForWithConditions request .conditionFailed (some policy)
              conditions
        | none => denyFor request .capabilityNotGranted (some policy)

theorem evaluateAuthorizationRequest_scanned
    (accepted :
      RequestAccepted policy principal tenant request resourceAttributes) :
    evaluateAuthorizationRequest reading (some policy) (some principal)
        (some tenant) delegation request resourceAttributes now =
      decideScanned policy principal tenant delegation request
        resourceAttributes now
        (scanRules reading principal request resourceAttributes 0 none
          policy.rules) := by
  obtain ⟨header, resource, active⟩ := requestAccepted_iff.mp accepted
  simp only [evaluateAuthorizationRequest, header, resource, active]
  cases scanRules reading principal request resourceAttributes 0 none
      policy.rules with
  | decided => rfl
  | exhausted => rfl

theorem evaluateAuthorizationRequest_unscanned
    (refused :
      ¬RequestAccepted policy principal tenant request resourceAttributes) :
    evaluateAuthorizationRequest reading (some policy) (some principal)
        (some tenant) delegation request resourceAttributes now =
      evaluateAuthorizationRequest other (some policy) (some principal)
        (some tenant) delegation request resourceAttributes now := by
  simp only [evaluateAuthorizationRequest]
  split
  · rfl
  · rename_i header
    split
    · rfl
    · rename_i resource
      cases active : agentRefusal principal with
      | some reason => rfl
      | none =>
          exact absurd (requestAccepted_iff.mpr
            ⟨by simpa using header, by simpa using resource, active⟩) refused

theorem evaluateCapability_congr
    (alike : ∀ rule ∈ policy.rules,
      JudgedAlike principal none reading other rule.condition) :
    evaluateCapability reading (some policy) (some principal) (some tenant)
        delegation capability now =
      evaluateCapability other (some policy) (some principal) (some tenant)
        delegation capability now := by
  simp only [evaluateCapability, grantingRule_congr alike]

theorem evaluateWithDelegations_congr
    (alike : ∀ rule ∈ policy.rules,
      JudgedAlike principal none reading other rule.condition) :
    evaluateWithDelegations reading policy principal tenant delegations now =
      evaluateWithDelegations other policy principal tenant delegations
        now := by
  unfold evaluateWithDelegations
  rw [foldl_grantClaim_congr alike]

theorem AllFail.transfer {rules : List Rule}
    (allFail : AllFail principal request resourceAttributes rules reading)
    (alike : ∀ rule ∈ rules,
      JudgedAlike principal resourceAttributes reading other
        rule.condition) :
    AllFail principal request resourceAttributes rules other := by
  intro rule member addresses
  rw [← (alike rule member).passes]
  exact allFail rule member addresses

theorem evaluateAuthorizationRequest_congr
    (alike : ∀ rule ∈ policy.rules,
      JudgedAlike principal resourceAttributes reading other rule.condition)
    (sameEvidence :
      RequestAccepted policy principal tenant request resourceAttributes →
        principal.kind ≠ .agent →
        AllFail principal request resourceAttributes policy.rules reading →
        ∀ rule, lastAddressing request policy.rules = some rule →
          rule.condition.timeBounds = []) :
    evaluateAuthorizationRequest reading (some policy) (some principal)
        (some tenant) delegation request resourceAttributes now =
      evaluateAuthorizationRequest other (some policy) (some principal)
        (some tenant) delegation request resourceAttributes now := by
  by_cases accepted :
      RequestAccepted policy principal tenant request resourceAttributes
  · rw [evaluateAuthorizationRequest_scanned accepted,
      evaluateAuthorizationRequest_scanned accepted]
    by_cases allFail :
        AllFail principal request resourceAttributes policy.rules reading
    · rw [scanRules_exhausted allFail,
        scanRules_exhausted (allFail.transfer alike)]
      by_cases agent : principal.kind = .agent
      · simp [decideScanned, agent]
      · cases last : lastAddressing request policy.rules with
        | none => rfl
        | some rule =>
            have untimed := sameEvidence accepted agent allFail rule last
            rw [Option.map_some, Option.map_some,
              evaluateCondition_eq untimed reading other]
    · unfold AllFail at allFail
      push Not at allFail
      obtain ⟨rule, member, addresses, passes⟩ := allFail
      rw [scanRules_congr alike
        ⟨rule, member, addresses, by simpa using passes⟩]
  · exact evaluateAuthorizationRequest_unscanned accepted

theorem evaluateAuthorizationRequest_conditionFailed {rule : Rule}
    (accepted :
      RequestAccepted policy principal tenant request resourceAttributes)
    (human : principal.kind ≠ .agent)
    (allFail :
      AllFail principal request resourceAttributes policy.rules reading)
    (last : lastAddressing request policy.rules = some rule) :
    evaluateAuthorizationRequest reading (some policy) (some principal)
        (some tenant) delegation request resourceAttributes now =
      denyForWithConditions request .conditionFailed (some policy)
        (evaluateCondition reading principal resourceAttributes
          rule.condition).2 := by
  rw [evaluateAuthorizationRequest_scanned accepted,
    scanRules_exhausted allFail, last]
  simp [decideScanned, human]

end Evaluators

/-! ## When the evaluators follow `now` -/

variable {policy : Policy} {principal : Principal} {tenant : TenantContext}
  {request : AuthorizationRequest}
  {resourceAttributes : Option ResourceAttributes} {now : Int}

theorem judgedAlike_of_policy
    (outOfReach : ∀ bounds ∈ policy.timeBounds, OutOfReach now bounds)
    (resource : Option ResourceAttributes) {reading other : Option Int}
    (readable : Showable reading) (otherReadable : Showable other)
    (rule : Rule) (member : rule ∈ policy.rules) :
    JudgedAlike principal resource reading other rule.condition := by
  apply judgedAlike_of_outOfReach readable otherReadable
  intro bounds within
  exact outOfReach bounds (List.mem_flatMap.mpr ⟨rule, member, within⟩)

theorem followsNow_of_needsNoClock
    (needsNone : NeedsNoClock policy principal tenant request
      resourceAttributes now)
    (delegations : List Delegation) (delegation : Option Delegation)
    (capability : Capability) :
    FollowsNow policy principal tenant delegations delegation capability
      request resourceAttributes now where
  bounds := by
    intro reading readable start finish within
    exact outOfReach_iff.mp (needsNone.outOfReach _ within) reading readable
  capabilities := by
    intro reading other readable otherReadable
    exact evaluateCapability_congr (judgedAlike_of_policy
      needsNone.outOfReach none readable otherReadable)
  envelopes := by
    intro reading other readable otherReadable
    exact evaluateWithDelegations_congr (judgedAlike_of_policy
      needsNone.outOfReach none readable otherReadable)
  requests := by
    intro reading other readable otherReadable
    have alike : ∀ {reading other : Option Int}, Showable reading →
        Showable other → ∀ rule ∈ policy.rules,
          JudgedAlike principal resourceAttributes reading other
            rule.condition :=
      fun readable otherReadable => judgedAlike_of_policy
        needsNone.outOfReach resourceAttributes readable otherReadable
    apply evaluateAuthorizationRequest_congr (alike readable otherReadable)
    intro accepted human allFail
    exact needsNone.noEvidence accepted human
      (allFail.transfer (alike readable showable_none))

theorem needsNoClock_of_followsNow {delegations : List Delegation}
    {delegation : Option Delegation} {capability : Capability}
    (follows : FollowsNow policy principal tenant delegations delegation
      capability request resourceAttributes now) :
    NeedsNoClock policy principal tenant request resourceAttributes now := by
  have outOfReach : ∀ bounds ∈ policy.timeBounds, OutOfReach now bounds := by
    intro bounds within
    apply outOfReach_iff.mpr
    intro reading readable
    exact follows.bounds reading readable bounds.1 bounds.2 within
  refine ⟨outOfReach, ?_⟩
  intro accepted human allFail rule last
  have epoch : Showable (some 0) := showable_some (Int.le_refl 0)
  have stillFail := allFail.transfer (judgedAlike_of_policy outOfReach
    resourceAttributes showable_none epoch)
  have same := follows.requests none (some 0) showable_none epoch
  rw [evaluateAuthorizationRequest_conditionFailed accepted human allFail
      last,
    evaluateAuthorizationRequest_conditionFailed accepted human stillFail
      last] at same
  apply timeBounds_eq_nil
  unfold denyForWithConditions at same
  injection same

/-- The evaluators follow `now` exactly when the policy has no use for the
clock. -/
theorem followsNow_iff {delegations : List Delegation}
    {delegation : Option Delegation} {capability : Capability} :
    FollowsNow policy principal tenant delegations delegation capability
        request resourceAttributes now ↔
      NeedsNoClock policy principal tenant request resourceAttributes now :=
  ⟨needsNoClock_of_followsNow, fun needsNone =>
    followsNow_of_needsNoClock needsNone delegations delegation capability⟩

/-- A rule that holds during the first hundred seconds of the epoch. -/
def earlyPolicy : Policy :=
  acmePolicy [.allow ⟨"offer.accept"⟩ (.timeBound 0 100)]

def acceptOffer : AuthorizationRequest :=
  { principal := ⟨"prn_alice"⟩
    tenant := ⟨"acme"⟩
    capability := ⟨"offer.accept"⟩
    action := ⟨"accept"⟩
    resource := none
    context :=
      { values := ∅
        runId := none
        taskId := none
        agentPrincipal := none
        delegationId := none
        delegationChain := [] } }

/-- At `now` = 50 the offer is open, but a clock at 200 closes it. -/
theorem followsNow_fails :
    ¬∀ policy principal tenant delegations delegation capability request
        resourceAttributes now,
      FollowsNow policy principal tenant delegations delegation capability
        request resourceAttributes now := by
  intro follows
  have alice := follows earlyPolicy (acmePrincipal "prn_alice" .human) acme []
    none ⟨"offer.accept"⟩ acceptOffer none 50
  have same := alice.capabilities (some 50) (some 200)
    (showable_some (by decide)) (showable_some (by decide))
  have allowed := congrArg AuthorizationDecision.isAllowed same
  revert allowed
  decide

end AuthBoundry
