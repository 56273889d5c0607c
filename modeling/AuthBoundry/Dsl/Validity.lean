import AuthBoundry.Dsl.Model

/-!
# Accepted declarations

What validation guarantees.  Each list whose order carries no meaning names its
entries once, under the key by which the canonical form sorts it.
-/

namespace AuthBoundry

open Library
open Library.Stateful

theorem firstDuplicate_eq_none_iff {α : Type} [DecidableEq α]
    {seen names : List α} :
    firstDuplicate seen names = none ↔
      names.Nodup ∧ ∀ name ∈ names, name ∉ seen := by
  induction names generalizing seen with
  | nil => simp [firstDuplicate]
  | cons name names induction =>
      rw [firstDuplicate, List.nodup_cons]
      by_cases known : name ∈ seen
      · simp [known]
      · rw [if_neg known, induction]
        constructor
        · rintro ⟨distinct, fresh⟩
          refine ⟨⟨fun member => ?_, distinct⟩, ?_⟩
          · exact fresh name member List.mem_cons_self
          · intro other member
            rcases List.mem_cons.mp member with rfl | member
            · exact known
            · exact fun seenBefore =>
                fresh other member (List.mem_cons_of_mem _ seenBefore)
        · rintro ⟨⟨apart, distinct⟩, fresh⟩
          refine ⟨distinct, ?_⟩
          intro other member seenBefore
          rcases List.mem_cons.mp seenBefore with rfl | seenBefore
          · exact apart member
          · exact fresh other (List.mem_cons_of_mem _ member) seenBefore

namespace AuthUiConfig

theorem validate_eq_ok_iff {self : AuthUiConfig} :
    self.validate = .ok () ↔
      (self.screens.map UiScreenOverride.screen).Nodup ∧
        isBlank self.theme.name = false := by
  unfold validate
  have duplicates := @firstDuplicate_eq_none_iff _ _ []
    (self.screens.map UiScreenOverride.screen)
  simp only [List.not_mem_nil, not_false_eq_true, implies_true, and_true]
    at duplicates
  cases repeated : firstDuplicate []
      (self.screens.map UiScreenOverride.screen) with
  | some screen =>
      have repeats : ¬(self.screens.map UiScreenOverride.screen).Nodup := by
        rw [← duplicates, repeated]
        exact Option.some_ne_none screen
      simp [repeats]
  | none => simp [duplicates.mp repeated]

end AuthUiConfig

namespace AuthConfig

theorem rejectDuplicates_eq_ok_iff {values : List String} {message : String} :
    rejectDuplicates values message = .ok () ↔ values.Nodup := by
  have duplicates := @firstDuplicate_eq_none_iff _ _ [] values
  simp only [List.not_mem_nil, not_false_eq_true, implies_true, and_true]
    at duplicates
  rw [← duplicates, rejectDuplicates]
  cases firstDuplicate [] values with
  | some value => simp
  | none => simp

/-- An enum lists at least one value, and each of them once. -/
def ListsVariants (kind : ClaimKind) : Prop :=
  ∀ values, kind = .enum values → values ≠ [] ∧ values.Nodup

theorem validateClaims_cons_eq_ok_iff {seen : List String}
    {claim : ClaimDef} {claims : List ClaimDef} :
    validateClaims seen (claim :: claims) = .ok () ↔
      isBlank claim.name = false ∧ claim.name ∉ seen ∧
        ListsVariants claim.kind ∧
        validateClaims (claim.name :: seen) claims = .ok () := by
  rw [validateClaims]
  by_cases blank : isBlank claim.name = true
  · simp [blank]
  · by_cases known : claim.name ∈ seen
    · simp [blank, known]
    · rw [if_neg blank, if_neg known]
      cases kind : claim.kind with
      | enum values =>
          cases values with
          | nil => simp [ListsVariants, except_error_bind]
          | cons value values =>
              simp [ListsVariants, blank, known, except_check_bind_eq_ok_iff,
                rejectDuplicates_eq_ok_iff]
      | string => simp [ListsVariants, blank, known, except_ok_bind]
      | integer => simp [ListsVariants, blank, known, except_ok_bind]
      | boolean => simp [ListsVariants, blank, known, except_ok_bind]

theorem validateClaims_eq_ok_iff {seen : List String}
    {claims : List ClaimDef} :
    validateClaims seen claims = .ok () ↔
      (∀ claim ∈ claims, isBlank claim.name = false ∧
        ListsVariants claim.kind) ∧
      (claims.map ClaimDef.name).Nodup ∧
      ∀ claim ∈ claims, claim.name ∉ seen := by
  induction claims generalizing seen with
  | nil => simp [validateClaims]
  | cons claim claims induction =>
      rw [validateClaims_cons_eq_ok_iff, induction]
      simp only [List.mem_cons, forall_eq_or_imp, List.map_cons,
        List.nodup_cons, List.mem_map, not_exists, not_and, not_or]
      constructor
      · rintro ⟨named, known, lists, each, distinct, fresh⟩
        exact ⟨⟨⟨named, lists⟩, each⟩,
          ⟨fun other member => (fresh other member).1, distinct⟩, known,
          fun other member => (fresh other member).2⟩
      · rintro ⟨⟨⟨named, lists⟩, each⟩, ⟨apart, distinct⟩, known, fresh⟩
        exact ⟨named, known, lists, each, distinct, fun other member =>
          ⟨apart other member, fresh other member⟩⟩

theorem validatePolicies_eq_ok_iff {seen : List String}
    {policies : List PolicyDef} :
    validatePolicies seen policies = .ok () ↔
      (∀ policy ∈ policies, isBlank policy.capability = false) ∧
      (policies.map PolicyDef.capability).Nodup ∧
      ∀ policy ∈ policies, policy.capability ∉ seen := by
  induction policies generalizing seen with
  | nil => simp [validatePolicies]
  | cons policy policies induction =>
      rw [validatePolicies]
      by_cases blank : isBlank policy.capability = true
      · simp [blank]
      · rw [if_neg blank]
        by_cases known : policy.capability ∈ seen
        · simp [known]
        · rw [if_neg known, induction]
          simp only [List.mem_cons, forall_eq_or_imp, List.map_cons,
            List.nodup_cons, List.mem_map, not_exists, not_and, not_or]
          constructor
          · rintro ⟨each, distinct, fresh⟩
            exact ⟨⟨by simpa using blank, each⟩,
              ⟨fun other member => (fresh other member).1, distinct⟩, known,
              fun other member => (fresh other member).2⟩
          · rintro ⟨⟨_, each⟩, ⟨apart, distinct⟩, _, fresh⟩
            exact ⟨each, distinct, fun other member =>
              ⟨apart other member, fresh other member⟩⟩

/-- What an accepted declaration satisfies. -/
structure Valid (config : AuthConfig) : Prop where
  providersDeclared : config.providers ≠ []
  providersDistinct : config.providers.Nodup
  providersNamed : ∀ provider ∈ config.providers, isBlank provider = false
  claimsNamed : ∀ claim ∈ config.claims, isBlank claim.name = false
  claimsDistinct : (config.claims.map ClaimDef.name).Nodup
  variantsListed : ∀ claim ∈ config.claims, ListsVariants claim.kind
  policiesNamed : ∀ policy ∈ config.policies, isBlank policy.capability = false
  policiesDistinct : (config.policies.map PolicyDef.capability).Nodup
  screensDistinct : (config.ui.screens.map UiScreenOverride.screen).Nodup
  themeNamed : isBlank config.ui.theme.name = false
  experienceValid : config.experience.validate = .ok ()
  passwordPolicyValid : config.passwordPolicy.validate = .ok ()
  storageValid : config.storage.validate = .ok ()
  mailValid : ∀ mail, config.mail = some mail → mail.validate = .ok ()

theorem validate_eq_ok_iff {self : AuthConfig} :
    self.validate = .ok () ↔ self.Valid := by
  unfold validate
  simp only [except_check_bind_eq_ok_iff, refuseIf_eq_ok_iff,
    rejectDuplicates_eq_ok_iff, validateClaims_eq_ok_iff,
    validatePolicies_eq_ok_iff, AuthUiConfig.validate_eq_ok_iff,
    List.isEmpty_eq_false_iff, List.any_eq_false,
    Bool.not_eq_true, List.not_mem_nil, not_false_eq_true, implies_true,
    and_true]
  constructor
  · rintro ⟨declared, distinct, named, ⟨claims, claimNames⟩,
      ⟨policies, policyNames⟩, ⟨screens, theme⟩, experience, password, storage,
      mail⟩
    exact
      { providersDeclared := declared
        providersDistinct := distinct
        providersNamed := named
        claimsNamed := fun claim member => (claims claim member).1
        claimsDistinct := claimNames
        variantsListed := fun claim member => (claims claim member).2
        policiesNamed := policies
        policiesDistinct := policyNames
        screensDistinct := screens
        themeNamed := theme
        experienceValid := experience
        passwordPolicyValid := password
        storageValid := storage
        mailValid := by
          intro found declaredMail
          rw [declaredMail] at mail
          exact mail }
  · intro valid
    refine ⟨valid.providersDeclared, valid.providersDistinct,
      valid.providersNamed,
      ⟨fun claim member =>
          ⟨valid.claimsNamed claim member, valid.variantsListed claim member⟩,
        valid.claimsDistinct⟩,
      ⟨valid.policiesNamed, valid.policiesDistinct⟩,
      ⟨valid.screensDistinct, valid.themeNamed⟩, valid.experienceValid,
      valid.passwordPolicyValid, valid.storageValid, ?_⟩
    cases declaredMail : self.mail with
    | none => rfl
    | some mail => exact valid.mailValid mail declaredMail

end AuthConfig

end AuthBoundry
