import AuthBoundry.Dsl.Validity
import AuthBoundry.Authz.DenyRules
import AuthBoundry.Runtime.Accounts

/-!
# Declared policies and declared claims

A declaration is translated twice: its policies become rules, and the raw
claims of a registration become typed values.  The rules compare every listed
value as an enum variant, so a condition on a claim of another kind is met by
nobody.
-/

namespace AuthBoundry

open Library
open Library.Stateful

/-! ## What a compiled policy asks -/

section Evaluation

variable {systemTime : Option Int} {principal : Principal}
  {resource : Option ResourceAttributes}

theorem evaluateConditions_iff {conditions : List Condition} :
    (evaluateConditions systemTime principal resource conditions).1 = true ↔
      ∀ condition ∈ conditions,
        (evaluateCondition systemTime principal resource condition).1 =
          true := by
  induction conditions with
  | nil => simp [evaluateConditions]
  | cons condition conditions induction =>
      simp [evaluateConditions, induction]

theorem evaluateCondition_tenantCurrent_iff :
    (evaluateCondition systemTime principal resource .tenantCurrent).1 =
        true ↔
      resource.bind ResourceAttributes.tenantId = some principal.tenantId := by
  rw [evaluateCondition]
  cases resource.bind ResourceAttributes.tenantId with
  | none => simp
  | some tenant => simp

/-- The comparison that one claim condition is compiled to. -/
def claimCondition (claim : PolicyClaimCondition) : Condition :=
  match claim.values with
  | [value] => .claimEquals claim.claim (.enum value)
  | values => .claimIn claim.claim (values.map ClaimValue.enum)

/-- A single listed value and several are compared alike. -/
theorem evaluateCondition_claimCondition_iff {claim : PolicyClaimCondition} :
    (evaluateCondition systemTime principal resource
        (claimCondition claim)).1 = true ↔
      ∃ text ∈ claim.values,
        principal.claims.values[claim.claim]? = some (.enum text) := by
  rw [claimCondition]
  split
  · next value single =>
      rw [evaluateCondition, single]
      simp
  · rw [evaluateCondition]
    cases principal.claims.values[claim.claim]? with
    | none => simp
    | some value =>
        simp only [Option.map_some, Option.getD_some, List.contains_eq_mem,
          List.mem_map, decide_eq_true_eq, Option.some_inj]
        constructor
        · rintro ⟨text, listed, same⟩
          exact ⟨text, listed, same.symm⟩
        · rintro ⟨text, listed, same⟩
          exact ⟨text, listed, same.symm⟩

theorem AuthMesh.evaluateCondition_policyCondition_iff {policy : PolicyDef} :
    (evaluateCondition systemTime principal resource
        (policyCondition policy)).1 = true ↔
      (policy.tenantCurrent = true →
        resource.bind ResourceAttributes.tenantId =
          some principal.tenantId) ∧
      ∀ claim ∈ policy.claims,
        ∃ text ∈ claim.values,
          principal.claims.values[claim.claim]? = some (.enum text) := by
  let tenantConditions : List Condition :=
    if policy.tenantCurrent then [.tenantCurrent] else []
  have compiled :
      (evaluateCondition systemTime principal resource
          (policyCondition policy)).1 = true ↔
        ∀ condition ∈ tenantConditions ++ policy.claims.map claimCondition,
          (evaluateCondition systemTime principal resource condition).1 =
            true := by
    rw [policyCondition]
    split
    · next none =>
        replace none : tenantConditions ++ policy.claims.map claimCondition =
          [] := none
        simp [none, evaluateCondition]
    · next condition single =>
        replace single : tenantConditions ++ policy.claims.map claimCondition =
          [condition] := single
        simp [single]
    · rw [evaluateCondition, evaluateConditions_iff]
      rfl
  rw [compiled]
  simp only [List.mem_append, List.mem_map, or_imp, forall_and,
    forall_exists_index, and_imp, forall_apply_eq_imp_iff₂,
    evaluateCondition_claimCondition_iff]
  cases current : policy.tenantCurrent with
  | true =>
      simp [tenantConditions, current, evaluateCondition_tenantCurrent_iff]
  | false => simp [tenantConditions, current]

end Evaluation

/-! ## What resolved claims are -/

theorem parseClaimValue_enum_iff {kind : ClaimKind} {raw : String}
    {value : ClaimValue} (parsed : parseClaimValue kind raw = .ok value) :
    (∃ text, value = .enum text) ↔ ∃ values, kind = .enum values := by
  cases kind with
  | enum values =>
      simp only [parseClaimValue] at parsed
      split at parsed
      · cases parsed
        simp
      · cases parsed
  | string =>
      cases parsed
      simp
  | integer =>
      simp only [parseClaimValue] at parsed
      split at parsed
      · cases parsed
        simp
      · cases parsed
  | boolean =>
      simp only [parseClaimValue] at parsed
      split at parsed
      · cases parsed
        simp
      · split at parsed
        · cases parsed
          simp
        · cases parsed

theorem resolveDeclared_origin {provided : KeyedMap String String}
    {claims : List ClaimDef} {values resolved : KeyedMap String ClaimValue}
    (success : resolveDeclared provided claims values = .ok resolved)
    {name : String} {value : ClaimValue}
    (found : resolved[name]? = some value) :
    (∃ claim ∈ claims, claim.name = name ∧
      ∃ raw, parseClaimValue claim.kind raw = .ok value) ∨
    values[name]? = some value := by
  induction claims generalizing values with
  | nil =>
      cases success
      exact .inr found
  | cons claim claims induction =>
      rw [resolveDeclared] at success
      split at success
      · cases success
      · next raw _ =>
          obtain ⟨parsed, parses, success⟩ :=
            except_bind_eq_ok_iff.mp success
          rcases induction success with ⟨later, member, origin⟩ | earlier
          · exact .inl ⟨later, List.mem_cons_of_mem _ member, origin⟩
          · rw [KeyedMap.getElem?_insert_eq] at earlier
            by_cases here : claim.name = name
            · rw [if_pos here] at earlier
              cases earlier
              exact .inl ⟨claim, List.mem_cons_self, here, raw, parses⟩
            · rw [if_neg here] at earlier
              exact .inr earlier

namespace AuthConfig

def DeclaresEnum (self : AuthConfig) (name : String) : Prop :=
  ∃ values, (self.claim name).map ClaimDef.kind = some (.enum values)

theorem Valid.claim_eq {config : AuthConfig} (valid : config.Valid)
    {claim : ClaimDef} (member : claim ∈ config.claims) :
    config.claim claim.name = some claim := by
  unfold AuthConfig.claim
  cases search : config.claims.find? fun other => other.name == claim.name with
  | none =>
      have missed := List.find?_eq_none.mp search claim member
      simp at missed
  | some other =>
      have name : other.name = claim.name := by
        simpa using List.find?_some search
      rw [List.inj_on_of_nodup_map valid.claimsDistinct
        (List.mem_of_find?_eq_some search) member name]

theorem Valid.resolved_enum_iff {config : AuthConfig} (valid : config.Valid)
    {provided : KeyedMap String String} {claims : Claims}
    (resolved : resolveClaims config provided = .ok claims) {name : String}
    {value : ClaimValue} (found : claims.values[name]? = some value) :
    (∃ text, value = .enum text) ↔ config.DeclaresEnum name := by
  rw [resolveClaims] at resolved
  obtain ⟨values, success, rest⟩ := except_bind_eq_ok_iff.mp resolved
  have same : claims.values = values := by
    split at rest
    · cases rest
    · cases rest
      rfl
  rw [same] at found
  rcases resolveDeclared_origin success found with
    ⟨claim, member, rfl, raw, parsed⟩ | none
  · rw [parseClaimValue_enum_iff parsed, DeclaresEnum, valid.claim_eq member]
    simp
  · simp at none

end AuthConfig

/-! ## The declared meaning against the compiled rule -/

namespace PolicyDef

def ListsClaims (self : PolicyDef) (claims : Claims) : Prop :=
  ∀ condition ∈ self.claims,
    ∃ value, claims.values[condition.claim]? = some value ∧
      claimValueText value ∈ condition.values

/-- On every resource the condition admits the principal exactly if the claims
are listed, and a policy for the current tenant only on that tenant's own
resources. -/
def MatchesAsDeclared (self : PolicyDef) (systemTime : Option Int)
    (principal : Principal) (condition : Condition) : Prop :=
  ∀ resource,
    (evaluateCondition systemTime principal resource condition).1 = true ↔
      (self.tenantCurrent = true →
        resource.bind ResourceAttributes.tenantId =
          some principal.tenantId) ∧
      self.ListsClaims principal.claims

end PolicyDef

section Compiled

variable {config : AuthConfig} {provided : KeyedMap String String}
  {principal : Principal} {policy : PolicyDef}

theorem AuthConfig.Valid.enum_listed_iff (valid : config.Valid)
    (registered : resolveClaims config provided = .ok principal.claims) :
    (∀ claim ∈ policy.claims, ∃ text ∈ claim.values,
      principal.claims.values[claim.claim]? = some (.enum text)) ↔
    policy.ListsClaims principal.claims ∧
      ∀ claim ∈ policy.claims, config.DeclaresEnum claim.claim := by
  constructor
  · intro admitted
    constructor
    · intro claim member
      obtain ⟨text, listed, found⟩ := admitted claim member
      exact ⟨.enum text, found, listed⟩
    · intro claim member
      obtain ⟨text, _, found⟩ := admitted claim member
      exact (valid.resolved_enum_iff registered found).mp ⟨text, rfl⟩
  · rintro ⟨lists, declared⟩ claim member
    obtain ⟨value, found, listed⟩ := lists claim member
    obtain ⟨text, rfl⟩ := (valid.resolved_enum_iff registered found).mpr
      (declared claim member)
    exact ⟨text, listed, found⟩

theorem declaredRule_matchesAsDeclared_iff (systemTime : Option Int)
    (tenant : TenantContext) {built : Policy} {index : Nat} {rule : Rule}
    (accepted : config.validate = .ok ())
    (registered : resolveClaims config provided = .ok principal.claims)
    (compiled : AuthMesh.policyFromConfig config tenant = some built)
    (declared : config.policies[index]? = some policy)
    (compiledRule : built.rules[index]? = some rule) :
    policy.MatchesAsDeclared systemTime principal rule.condition ↔
      (∀ claim ∈ policy.claims, config.DeclaresEnum claim.claim) ∨
        ¬policy.ListsClaims principal.claims := by
  have valid := AuthConfig.validate_eq_ok_iff.mp accepted
  have condition : rule.condition = AuthMesh.policyCondition policy := by
    rw [AuthMesh.policyFromConfig] at compiled
    split at compiled
    · cases compiled
    · cases compiled
      rw [List.getElem?_map, declared] at compiledRule
      cases compiledRule
      rfl
  have meaning : ∀ resource,
      (evaluateCondition systemTime principal resource rule.condition).1 =
        true ↔
      (policy.tenantCurrent = true →
        resource.bind ResourceAttributes.tenantId =
          some principal.tenantId) ∧
      policy.ListsClaims principal.claims ∧
        ∀ claim ∈ policy.claims, config.DeclaresEnum claim.claim := by
    intro resource
    rw [condition, AuthMesh.evaluateCondition_policyCondition_iff,
      valid.enum_listed_iff registered]
  constructor
  · intro asDeclared
    by_cases lists : policy.ListsClaims principal.claims
    · -- The principal's own resource meets the tenant's part of the policy.
      let own := ResourceAttributes.new.withTenant principal.tenantId
      have admitted := (asDeclared (some own)).mpr ⟨fun _ => rfl, lists⟩
      exact .inl ((meaning (some own)).mp admitted).2.2
    · exact .inr lists
  · intro condition resource
    rw [meaning resource]
    rcases condition with enums | unlisted
    · exact ⟨fun admitted => ⟨admitted.1, admitted.2.1⟩,
        fun listed => ⟨listed.1, listed.2, enums⟩⟩
    · exact ⟨fun admitted => absurd admitted.2.1 unlisted,
        fun listed => absurd listed.2 unlisted⟩

end Compiled

/-! ## A report that only the finance department may read -/

def financePolicy : PolicyDef :=
  { capability := "report.read"
    tenantCurrent := false
    resource := none
    action := some "read"
    claims := [{ claim := "department", values := ["finance"] }] }

def departmentConfig (kind : ClaimKind) : AuthConfig :=
  { AuthConfig.default with
    providers := ["local"]
    claims := [{ name := "department", kind }]
    policies := [financePolicy] }

def financeClaims : KeyedMap String String :=
  (∅ : KeyedMap String String).insert "department" "finance"

/-- A human of the finance department, as signing up stores it. -/
def financePrincipal (value : ClaimValue) : Principal :=
  Resolution.provisionedPrincipal acme
    { connector := "local", subject := "alice", attributes := ∅ } .human
    { values := (∅ : KeyedMap String ClaimValue).insert "department" value }

def financeRule : Rule :=
  { capability := ⟨"report.read"⟩
    condition := .claimEquals "department" (.enum "finance")
    resource := none
    action := some ⟨"read"⟩
    effect := .allow }

/-- Declared as an enum, the department is recognised. -/
theorem declaredRule_matchesAsDeclared_iff_enum :
    financePolicy.MatchesAsDeclared none (financePrincipal (.enum "finance"))
      financeRule.condition := by
  have accepted :
      (departmentConfig (.enum ["finance", "legal"])).validate = .ok () := by
    decide +kernel
  have registered :
      resolveClaims (departmentConfig (.enum ["finance", "legal"]))
        financeClaims =
        .ok (financePrincipal (.enum "finance")).claims := by
    decide +kernel
  have compiled :
      AuthMesh.policyFromConfig (departmentConfig (.enum ["finance", "legal"]))
        acme = some { id := acme.policyId, rules := [financeRule] } := rfl
  have declared : (departmentConfig (.enum ["finance", "legal"])).policies[0]? =
      some financePolicy := rfl
  have compiledRule :
      ({ id := acme.policyId, rules := [financeRule] } : Policy).rules[0]? =
        some financeRule := rfl
  refine (declaredRule_matchesAsDeclared_iff none acme accepted registered
    compiled declared compiledRule).mpr (.inl ?_)
  intro claim member
  cases List.mem_singleton.mp member
  exact ⟨["finance", "legal"], rfl⟩

/-- Declared as a string, it is not. -/
theorem departmentText_not_matchesAsDeclared :
    (departmentConfig .string).validate = .ok () ∧
    resolveClaims (departmentConfig .string) financeClaims =
      .ok (financePrincipal (.string "finance")).claims ∧
    AuthMesh.policyFromConfig (departmentConfig .string) acme =
      some { id := acme.policyId, rules := [financeRule] } ∧
    ¬financePolicy.MatchesAsDeclared none (financePrincipal (.string "finance"))
      financeRule.condition := by
  refine ⟨by decide +kernel, by decide +kernel, rfl, ?_⟩
  intro asDeclared
  have lists : financePolicy.ListsClaims
      (financePrincipal (.string "finance")).claims := by
    intro claim member
    cases List.mem_singleton.mp member
    exact ⟨.string "finance", by decide +kernel, by decide⟩
  have admitted := (asDeclared none).mpr ⟨nofun, lists⟩
  exact absurd admitted (by decide +kernel)

end AuthBoundry
