import AuthBoundry.Dsl.Validity
import AuthBoundry.Library.Reordering

/-!
# Reordered declarations

Two declarations that say the same in a different order should have one
canonical form.  The canonical form sorts every such list but two: the claim
conditions inside a policy, and the values inside a claim condition.
-/

namespace AuthBoundry

open Library

/-! ## Saying the same in another order -/

structure PolicyClaimCondition.ReorderedAs
    (before after : PolicyClaimCondition) : Prop where
  claim : before.claim = after.claim
  values : before.values.Perm after.values

structure PolicyDef.ReorderedAs (before after : PolicyDef) : Prop where
  capability : before.capability = after.capability
  tenantCurrent : before.tenantCurrent = after.tenantCurrent
  resource : before.resource = after.resource
  action : before.action = after.action
  claims : Reordered PolicyClaimCondition.ReorderedAs before.claims after.claims

inductive ClaimKind.ReorderedAs : ClaimKind → ClaimKind → Prop
  | enum {before after : List String} (values : before.Perm after) :
      ReorderedAs (.enum before) (.enum after)
  | same (kind : ClaimKind) : ReorderedAs kind kind

structure ClaimDef.ReorderedAs (before after : ClaimDef) : Prop where
  name : before.name = after.name
  kind : before.kind.ReorderedAs after.kind

structure AuthUiConfig.ReorderedAs (before after : AuthUiConfig) : Prop where
  renderer : before.renderer = after.renderer
  mode : before.mode = after.mode
  theme : before.theme = after.theme
  screens : before.screens.Perm after.screens

/-- Both declarations say the same, each list in an order of its own. -/
structure AuthConfig.ReorderedAs (before after : AuthConfig) : Prop where
  multiTenant : before.multiTenant = after.multiTenant
  providers : before.providers.Perm after.providers
  claims : Reordered ClaimDef.ReorderedAs before.claims after.claims
  isolation : before.isolation = after.isolation
  agents : before.agents = after.agents
  policies : Reordered PolicyDef.ReorderedAs before.policies after.policies
  ui : before.ui.ReorderedAs after.ui
  experience : before.experience = after.experience
  passwordPolicy : before.passwordPolicy = after.passwordPolicy
  storage : before.storage = after.storage
  mail : before.mail = after.mail

theorem PolicyDef.ReorderedAs.eq_of_claims {before after : PolicyDef}
    (reordered : before.ReorderedAs after)
    (claims : before.claims = after.claims) : before = after := by
  obtain ⟨capability, tenantCurrent, resource, action, _⟩ := before
  obtain ⟨rfl, rfl, rfl, rfl, _⟩ := reordered
  cases claims
  rfl

/-! ## What the canonical form sorts -/

theorem insertionSort_le_perm {before after : List String}
    (permuted : before.Perm after) :
    before.insertionSort (· ≤ ·) = after.insertionSort (· ≤ ·) :=
  insertionSort_perm id (fun _ _ => Iff.rfl)
    (fun _ _ _ _ same => same) permuted

theorem insertionSort_le_idempotent (values : List String) :
    (values.insertionSort (· ≤ ·)).insertionSort (· ≤ ·) =
      values.insertionSort (· ≤ ·) :=
  insertionSort_idempotent id (fun _ _ => Iff.rfl) values

/-- The place of an override in the order that is derived for it. -/
def UiScreenOverride.rank (self : UiScreenOverride) : Nat :=
  2 * self.screen.ctorIdx + self.mode.ctorIdx

theorem UiScreenOverride.compare_isLE_iff (left right : UiScreenOverride) :
    (compare left right).isLE = true ↔ left.rank ≤ right.rank := by
  obtain ⟨leftScreen, leftMode⟩ := left
  obtain ⟨rightScreen, rightMode⟩ := right
  cases leftMode <;> cases rightMode <;> cases leftScreen <;>
    cases rightScreen <;> decide

theorem UiScreenOverride.rank_inj {left right : UiScreenOverride}
    (same : left.rank = right.rank) : left = right := by
  obtain ⟨leftScreen, leftMode⟩ := left
  obtain ⟨rightScreen, rightMode⟩ := right
  revert same
  cases leftMode <;> cases rightMode <;> cases leftScreen <;>
    cases rightScreen <;> decide

theorem AuthUiConfig.canonical_eq_of_reordered {before after : AuthUiConfig}
    (reordered : before.ReorderedAs after) :
    before.canonical = after.canonical := by
  have screens := insertionSort_perm UiScreenOverride.rank
    UiScreenOverride.compare_isLE_iff
    (fun left _ right _ same => UiScreenOverride.rank_inj same)
    reordered.screens
  unfold canonical
  rw [screens, reordered.renderer, reordered.theme]

theorem dedupAdjacent_eq_self {α : Type} [DecidableEq α] {items : List α}
    (distinct : items.Nodup) : dedupAdjacent items = items := by
  fun_induction dedupAdjacent items with
  | case1 second rest induction => simp at distinct
  | case2 first second rest different induction =>
      rw [induction (List.nodup_cons.mp distinct).2]
  | case3 => rfl

theorem AuthUiConfig.canonical_idempotent {self : AuthUiConfig}
    (distinct : (self.screens.map UiScreenOverride.screen).Nodup) :
    self.canonical.canonical = self.canonical := by
  let sorted := self.screens.insertionSort fun left right =>
    (compare left right).isLE
  have sortedDistinct : sorted.Nodup :=
    (List.perm_insertionSort _ self.screens).nodup_iff.mpr distinct.of_map
  have screens : self.canonical.screens = sorted :=
    dedupAdjacent_eq_self sortedDistinct
  have again : dedupAdjacent (self.canonical.screens.insertionSort
      fun left right => (compare left right).isLE) =
      self.canonical.screens := by
    rw [screens, insertionSort_idempotent UiScreenOverride.rank
      UiScreenOverride.compare_isLE_iff, dedupAdjacent_eq_self sortedDistinct]
  have unfolded : self.canonical.canonical =
      { self.canonical with
        mode :=
          if (dedupAdjacent (self.canonical.screens.insertionSort
              fun left right => (compare left right).isLE)).any
              fun screen => screen.mode == .custom then
            .custom
          else
            .default
        screens := dedupAdjacent (self.canonical.screens.insertionSort
          fun left right => (compare left right).isLE) } := rfl
  rw [unfolded, again]
  rfl

namespace AuthConfig

@[simp] theorem name_canonicalClaim (claim : ClaimDef) :
    (canonicalClaim claim).name = claim.name := by
  unfold canonicalClaim
  cases claim.kind <;> rfl

theorem canonicalClaim_idempotent (claim : ClaimDef) :
    canonicalClaim (canonicalClaim claim) = canonicalClaim claim := by
  obtain ⟨name, kind⟩ := claim
  cases kind with
  | enum values =>
      simp only [canonicalClaim, insertionSort_le_idempotent]
  | string => rfl
  | integer => rfl
  | boolean => rfl

theorem canonicalClaim_eq_of_reordered {before after : ClaimDef}
    (reordered : before.ReorderedAs after) :
    canonicalClaim before = canonicalClaim after := by
  obtain ⟨name, kind⟩ := before
  obtain ⟨name', kind'⟩ := after
  obtain ⟨rfl, kinds⟩ := reordered
  cases kinds with
  | enum values => simp only [canonicalClaim, insertionSort_le_perm values]
  | same => rfl

theorem Valid.canonicalClaims_eq {before after : AuthConfig}
    (valid : before.Valid) (reordered : before.ReorderedAs after) :
    before.canonical.claims = after.canonical.claims := by
  have sorted : List.Forall₂ ClaimDef.ReorderedAs
      (before.claims.insertionSort fun left right => left.name ≤ right.name)
      (after.claims.insertionSort fun left right => left.name ≤ right.name) :=
    reordered.claims.insertionSort ClaimDef.name (fun _ _ => Iff.rfl)
      (fun _ _ related => related.name)
      (fun _ left _ right => List.inj_on_of_nodup_map valid.claimsDistinct left
        right)
  exact map_eq_of_forall₂
    (fun _ _ related => canonicalClaim_eq_of_reordered related) sorted

theorem canonicalClaims_idempotent (self : AuthConfig) :
    self.canonical.canonical.claims = self.canonical.claims := by
  have sorted := pairwise_insertionSort_key ClaimDef.name
    (fun left right : ClaimDef => (Iff.rfl : left.name ≤ right.name ↔ _))
    self.claims
  have named : self.canonical.claims.Pairwise
      fun left right => left.name ≤ right.name := by
    refine List.pairwise_map.mpr (sorted.imp ?_)
    intro left right below
    rw [name_canonicalClaim, name_canonicalClaim]
    exact below
  change (self.canonical.claims.insertionSort fun left right =>
    left.name ≤ right.name).map canonicalClaim = self.canonical.claims
  rw [named.insertionSort_eq]
  change ((self.claims.insertionSort fun left right =>
    left.name ≤ right.name).map canonicalClaim).map canonicalClaim =
    (self.claims.insertionSort fun left right =>
      left.name ≤ right.name).map canonicalClaim
  rw [List.map_map]
  exact List.map_congr_left fun claim _ => canonicalClaim_idempotent claim

/-- The canonical policies agree exactly if every policy kept its claim
conditions as they were. -/
theorem Valid.canonicalPolicies_eq_iff {before after : AuthConfig}
    (valid : before.Valid) (reordered : before.ReorderedAs after) :
    before.canonical.policies = after.canonical.policies ↔
      ∀ policy ∈ before.policies, ∀ other ∈ after.policies,
        policy.capability = other.capability →
          policy.claims = other.claims := by
  have sorted : List.Forall₂ PolicyDef.ReorderedAs
      before.canonical.policies after.canonical.policies :=
    reordered.policies.insertionSort PolicyDef.capability
      (fun _ _ => Iff.rfl) (fun _ _ related => related.capability)
      (fun _ left _ right => List.inj_on_of_nodup_map valid.policiesDistinct
        left right)
  have beforeMembers : ∀ policy,
      policy ∈ before.canonical.policies ↔ policy ∈ before.policies :=
    fun _ => List.mem_insertionSort _
  have afterMembers : ∀ policy,
      policy ∈ after.canonical.policies ↔ policy ∈ after.policies :=
    fun _ => List.mem_insertionSort _
  constructor
  · intro same policy member other otherMember capability
    rw [← afterMembers, ← same, beforeMembers] at otherMember
    rw [List.inj_on_of_nodup_map valid.policiesDistinct member otherMember
      capability]
  · intro kept
    have each : List.Forall₂ (· = ·) before.canonical.policies
        after.canonical.policies := by
      refine List.forall₂_iff_get.mpr ⟨sorted.length_eq, ?_⟩
      intro index bound otherBound
      have related := sorted.get bound otherBound
      exact related.eq_of_claims
        (kept _ ((beforeMembers _).mp (List.get_mem _ _)) _
          ((afterMembers _).mp (List.get_mem _ _)) related.capability)
    rwa [List.forall₂_eq_eq_eq] at each

theorem canonicalPolicies_idempotent (self : AuthConfig) :
    self.canonical.canonical.policies = self.canonical.policies :=
  insertionSort_idempotent PolicyDef.capability
    (fun left right : PolicyDef =>
      (Iff.rfl : left.capability ≤ right.capability ↔ _)) self.policies

theorem Valid.canonical_idempotent {config : AuthConfig}
    (valid : config.Valid) : config.canonical.canonical = config.canonical := by
  have providers : config.canonical.canonical.providers =
      config.canonical.providers :=
    insertionSort_le_idempotent config.providers
  have ui : config.canonical.canonical.ui = config.canonical.ui :=
    AuthUiConfig.canonical_idempotent valid.screensDistinct
  have unfolded : config.canonical.canonical =
      { config.canonical with
        providers := config.canonical.canonical.providers
        claims := config.canonical.canonical.claims
        policies := config.canonical.canonical.policies
        ui := config.canonical.canonical.ui } := rfl
  rw [unfolded, providers, canonicalClaims_idempotent,
    canonicalPolicies_idempotent, ui]

/-- Everything but the policies converges. -/
theorem Valid.canonical_eq_iff {before after : AuthConfig}
    (valid : before.Valid) (reordered : before.ReorderedAs after) :
    before.canonical = after.canonical ↔
      before.canonical.policies = after.canonical.policies := by
  constructor
  · exact congrArg AuthConfig.policies
  · intro policies
    have unfolded : ∀ config : AuthConfig, config.canonical =
        { config with
          providers := config.canonical.providers
          claims := config.canonical.claims
          policies := config.canonical.policies
          ui := config.canonical.ui } := fun _ => rfl
    have providers : before.canonical.providers = after.canonical.providers :=
      insertionSort_le_perm reordered.providers
    have ui : before.canonical.ui = after.canonical.ui :=
      AuthUiConfig.canonical_eq_of_reordered reordered.ui
    rw [unfolded before, unfolded after, providers,
      valid.canonicalClaims_eq reordered, policies, ui, reordered.multiTenant,
      reordered.isolation, reordered.agents, reordered.experience,
      reordered.passwordPolicy, reordered.storage, reordered.mail]

/-- The two declarations have one canonical form and one fingerprint, and the
canonical form is its own. -/
structure Converges (before after : AuthConfig) : Prop where
  canonical : before.canonical = after.canonical
  fingerprint : before.fingerprint = after.fingerprint
  idempotent : before.canonical.canonical = before.canonical

theorem converges_iff {before after : AuthConfig}
    (accepted : before.validate = .ok ())
    (reordered : before.ReorderedAs after) :
    before.Converges after ↔
      ∀ policy ∈ before.policies, ∀ other ∈ after.policies,
        policy.capability = other.capability →
          policy.claims = other.claims := by
  have valid := validate_eq_ok_iff.mp accepted
  rw [← valid.canonicalPolicies_eq_iff reordered,
    ← valid.canonical_eq_iff reordered]
  constructor
  · exact Converges.canonical
  · intro canonical
    refine ⟨canonical, ?_, valid.canonical_idempotent⟩
    unfold fingerprint
    rw [canonical]

/-! ## Two departments in two orders -/

def departmentsConfig (providers departments : List String) : AuthConfig :=
  { AuthConfig.default with
    providers
    claims := [{ name := "department", kind := .enum ["finance", "legal"] }]
    policies :=
      [{ capability := "report.read"
         tenantCurrent := false
         resource := none
         action := some "read"
         claims := [{ claim := "department", values := departments }] }] }

theorem departmentsConfig_reorderedAs
    {providers providers' departments departments' : List String}
    (providersPermuted : providers.Perm providers')
    (departmentsPermuted : departments.Perm departments') :
    (departmentsConfig providers departments).ReorderedAs
      (departmentsConfig providers' departments') where
  multiTenant := rfl
  providers := providersPermuted
  claims := .refl (fun claim => ⟨rfl, .same claim.kind⟩) _
  isolation := rfl
  agents := rfl
  policies := by
    refine ⟨_, .refl _, .cons ⟨rfl, rfl, rfl, rfl, ?_⟩ .nil⟩
    exact ⟨_, .refl _, .cons ⟨rfl, departmentsPermuted⟩ .nil⟩
  ui := ⟨rfl, rfl, rfl, .refl _⟩
  experience := rfl
  passwordPolicy := rfl
  storage := rfl
  mail := rfl

/-- Reordered providers converge. -/
theorem converges_iff_providers :
    (departmentsConfig ["oidc", "local"] ["finance", "legal"]).Converges
      (departmentsConfig ["local", "oidc"] ["finance", "legal"]) := by
  refine (converges_iff (by decide +kernel)
    (departmentsConfig_reorderedAs (.swap _ _ _) (.refl _))).mpr ?_
  intro policy member other otherMember _
  rw [List.mem_singleton.mp member, List.mem_singleton.mp otherMember]

/-- Reordered values do not. -/
theorem reorderedDepartments_not_converges :
    (departmentsConfig ["local"] ["finance", "legal"]).validate = .ok () ∧
    (departmentsConfig ["local"] ["finance", "legal"]).ReorderedAs
      (departmentsConfig ["local"] ["legal", "finance"]) ∧
    ¬(departmentsConfig ["local"] ["finance", "legal"]).Converges
      (departmentsConfig ["local"] ["legal", "finance"]) := by
  refine ⟨by decide +kernel,
    departmentsConfig_reorderedAs (.refl _) (.swap _ _ _), ?_⟩
  intro converges
  have policies := congrArg AuthConfig.policies converges.canonical
  revert policies
  decide +kernel

end AuthConfig

end AuthBoundry
