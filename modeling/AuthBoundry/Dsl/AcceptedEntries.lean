import AuthBoundry.Dsl.BlockOrders

/-!
# Accepted entries

The entries of an auth block are accepted when each name stands once, each
entry is read as a valid setting, and no two entries disagree about tenants.
The order of the entries plays no part in it.
-/

namespace AuthBoundry

open Library

/-! ## Settings of an auth block -/

/-- The names of a setting of an auth block. -/
def AuthSetting.spellings : AuthSetting → List String
  | .tenant _ => ["multi_tenant", "tenant"]
  | .providers _ => ["providers"]
  | .isolation _ => ["isolation"]
  | .claims _ => ["claims"]
  | .policies _ => ["policy"]
  | .password _ => ["password", "password_policy"]
  | .storage _ => ["storage"]
  | .experience _ => ["experience"]
  | .agents _ => ["agents"]
  | .ui _ => ["ui"]

theorem readAuth_spelling (key : String) (value : Value)
    (setting : AuthSetting) (reads : readAuth key value = .ok setting) :
    key ∈ setting.spellings := by
  unfold readAuth at reads
  split at reads
  case h_13 => cases reads
  all_goals
    obtain ⟨_, _, found⟩ := except_bind_eq_ok_iff.mp reads
    try obtain ⟨_, _, found⟩ := except_bind_eq_ok_iff.mp found
    cases found
    simp [AuthSetting.spellings]

theorem AuthConfig.put_commute (config : AuthConfig)
    (first second : AuthSetting)
    (different : first.ctorIdx ≠ second.ctorIdx) :
    (config.put first).put second = (config.put second).put first := by
  cases first <;> cases second <;>
    first
    | exact absurd rfl different
    | rfl

/-! ## What a setting has to be -/

/-- What reading a setting has already made sure of. -/
def AuthSetting.Checked : AuthSetting → Prop
  | .providers names => names ≠ [] ∧ ∀ name ∈ names, isBlank name = false
  | .password rules => rules.validate = .ok ()
  | .storage places => places.validate = .ok ()
  | .experience states => states.validate = .ok ()
  | .ui look =>
      (look.screens.map UiScreenOverride.screen).Nodup ∧
        isBlank look.theme.name = false
  | _ => True

/-- What the check of a contract asks of a setting besides. -/
def AuthSetting.Valid : AuthSetting → Prop
  | .providers names => names.Nodup
  | .claims defs => AuthConfig.validateClaims [] defs = .ok ()
  | .policies defs => AuthConfig.validatePolicies [] defs = .ok ()
  | _ => True

theorem expectProviders_checked {value : Value} {names : List String}
    (reads : expectProviders value = .ok names) :
    (AuthSetting.providers names).Checked := by
  cases value with
  | list items =>
      simp only [expectProviders] at reads
      split at reads
      · cases reads
      · next declared =>
        cases reads
        constructor
        · simpa using declared
        · intro provider member
          simpa using (List.mem_filter.mp member).2
  | _ => cases reads

theorem parseFields_block {σ γ : Type} {block : String}
    {read : String → Value → Except AuthDslError σ} {put : γ → σ → γ}
    {check : γ → Except AuthConfigError Unit} {finish : γ → γ}
    {config result : γ} {value : Value}
    (reads : parseFields block read put check finish config value =
      .ok result) :
    ∃ entries, value = .block entries := by
  cases value with
  | block entries => exact ⟨entries, rfl⟩
  | _ => cases reads

theorem parseFields_checked {σ γ : Type} {block : String}
    {read : String → Value → Except AuthDslError σ} {put : γ → σ → γ}
    {check : γ → Except AuthConfigError Unit} {finish : γ → γ}
    {config result : γ} {value : Value}
    (reads : parseFields block read put check finish config value =
      .ok result) :
    ∃ checked, check checked = .ok () ∧ finish checked = result := by
  obtain ⟨entries, rfl⟩ := parseFields_block reads
  obtain ⟨_, settings, _, checked, finished⟩ := parseFields_eq_ok_iff.mp reads
  exact ⟨_, checked, finished⟩

theorem parseUi_checked {value : Value} {ui : AuthUiConfig}
    (reads : parseUi value = .ok ui) : (AuthSetting.ui ui).Checked := by
  obtain ⟨written, checked, rfl⟩ := parseFields_checked reads
  obtain ⟨distinct, named⟩ := AuthUiConfig.validate_eq_ok_iff.mp checked
  have sorted := List.perm_insertionSort
    (fun left right => (compare left right).isLE) written.screens
  have screens : written.canonical.screens = written.screens.insertionSort
      fun left right => (compare left right).isLE :=
    dedupAdjacent_eq_self (sorted.nodup_iff.mpr distinct.of_map)
  refine ⟨?_, named⟩
  rw [screens]
  exact (sorted.map UiScreenOverride.screen).nodup_iff.mpr distinct

theorem readAuth_checked {key : String} {value : Value}
    {setting : AuthSetting} (reads : readAuth key value = .ok setting) :
    setting.Checked := by
  unfold readAuth at reads
  split at reads
  case h_4 =>
    obtain ⟨_, _, inner⟩ := except_bind_eq_ok_iff.mp reads
    obtain ⟨_, _, found⟩ := except_bind_eq_ok_iff.mp inner
    cases found
    exact True.intro
  case h_13 => cases reads
  all_goals
    obtain ⟨_, inner, found⟩ := except_bind_eq_ok_iff.mp reads
    cases found
  case h_3 => exact expectProviders_checked inner
  case h_12 => exact parseUi_checked inner
  case h_7 | h_8 | h_9 | h_10 =>
    obtain ⟨_, checked, rfl⟩ := parseFields_checked inner
    exact checked
  all_goals exact True.intro

/-! ## Tenants -/

/-- Every declaration of tenants says the same. -/
def OneTenancy (before : Option Bool) (settings : List AuthSetting) : Prop :=
  ∀ one two, before = some one ∨ .tenant one ∈ settings →
    .tenant two ∈ settings → one = two

theorem oneTenancy_cons_tenant {before : Option Bool} {declared : Bool}
    {settings : List AuthSetting} :
    OneTenancy before (.tenant declared :: settings) ↔
      before.any (· != declared) = false ∧
        OneTenancy (some declared) settings := by
  constructor
  · intro same
    constructor
    · cases before with
      | none => rfl
      | some one =>
          have known := same one declared (.inl rfl) List.mem_cons_self
          simp [known]
    · intro one two said member
      apply same one two ?_ (List.mem_cons_of_mem _ member)
      rcases said with said | said
      · cases said
        exact .inr List.mem_cons_self
      · exact .inr (List.mem_cons_of_mem _ said)
  · intro ⟨agrees, same⟩ one two said member
    have declaredIs : ∀ one, before = some one ∨
        .tenant one ∈ AuthSetting.tenant declared :: settings →
          one = declared := by
      intro one said
      rcases said with said | said
      · subst said
        simpa using agrees
      · rcases List.mem_cons.mp said with said | said
        · cases said
          rfl
        · exact (same declared one (.inl rfl) said).symm
    rw [declaredIs one said, declaredIs two (.inr member)]

theorem oneTenancy_cons {before : Option Bool} {setting : AuthSetting}
    {settings : List AuthSetting}
    (other : ∀ declared, setting ≠ .tenant declared) :
    OneTenancy before (setting :: settings) ↔ OneTenancy before settings := by
  have kept : ∀ declared, .tenant declared ∈ setting :: settings ↔
      .tenant declared ∈ settings := by
    intro declared
    rw [List.mem_cons]
    exact or_iff_right (other declared).symm
  simp only [OneTenancy, kept]

theorem foldlM_reading_iff {settings : List AuthSetting}
    {start : Reading} {config : AuthConfig} :
    (∃ declaration, settings.foldlM Reading.put start =
        .ok { config, tenantDeclaration := declaration }) ↔
      OneTenancy start.tenantDeclaration settings ∧
        settings.foldl AuthConfig.put start.config = config := by
  induction settings generalizing start with
  | nil =>
      obtain ⟨started, declaration⟩ := start
      simp [OneTenancy, pure, Except.pure]
  | cons setting settings induction =>
      rw [List.foldlM_cons, List.foldl_cons]
      cases setting with
      | tenant declared =>
          rw [oneTenancy_cons_tenant, Reading.put]
          cases start.tenantDeclaration.any (· != declared) with
          | true => simp [except_error_bind]
          | false => simp [except_ok_bind, induction]
      | _ =>
          rw [oneTenancy_cons (by intro declared; simp)]
          exact induction

/-! ## Accepted entries -/

namespace AuthConfig

theorem withLocal_put {config : AuthConfig} {setting : AuthSetting}
    (checked : setting.Checked) :
    (config.put setting).withLocal = config.withLocal.put setting := by
  cases empty : config.providers.isEmpty with
  | true =>
      cases setting with
      | providers names => simp [withLocal, put, empty, checked.1]
      | _ => simp [withLocal, put, empty]
  | false =>
      cases setting with
      | providers names => simp [withLocal, put, empty, checked.1]
      | _ => simp [withLocal, put, empty]

theorem mail_foldl (config : AuthConfig) (settings : List AuthSetting) :
    (settings.foldl put config).mail = config.mail := by
  induction settings generalizing config with
  | nil => rfl
  | cons setting settings induction =>
      rw [List.foldl_cons, induction]
      cases setting <;> rfl

theorem withLocal_foldl {settings : List AuthSetting}
    (checked : ∀ setting ∈ settings, setting.Checked) (config : AuthConfig) :
    (settings.foldl put config).withLocal =
      settings.foldl put config.withLocal := by
  induction settings generalizing config with
  | nil => rfl
  | cons setting settings induction =>
      rw [List.foldl_cons, List.foldl_cons,
        induction fun other member =>
          checked other (List.mem_cons_of_mem _ member),
        withLocal_put (checked setting List.mem_cons_self)]

theorem Valid.put {config : AuthConfig} (valid : config.Valid)
    {setting : AuthSetting} (checked : setting.Checked)
    (asked : setting.Valid) : (config.put setting).Valid := by
  cases setting with
  | providers names =>
      exact { valid with
        providersDeclared := checked.1
        providersDistinct := asked
        providersNamed := checked.2 }
  | claims defs =>
      obtain ⟨each, distinct, _⟩ := validateClaims_eq_ok_iff.mp asked
      exact { valid with
        claimsNamed := fun claim member => (each claim member).1
        claimsDistinct := distinct
        variantsListed := fun claim member => (each claim member).2 }
  | policies defs =>
      obtain ⟨named, distinct, _⟩ := validatePolicies_eq_ok_iff.mp asked
      exact { valid with
        policiesNamed := named
        policiesDistinct := distinct }
  | password rules => exact { valid with passwordPolicyValid := checked }
  | storage places => exact { valid with storageValid := checked }
  | experience states => exact { valid with experienceValid := checked }
  | ui look =>
      exact { valid with
        screensDistinct := checked.1
        themeNamed := checked.2 }
  | tenant => exact { valid with }
  | isolation => exact { valid with }
  | agents => exact { valid with }

theorem Valid.foldl {settings : List AuthSetting}
    (checked : ∀ setting ∈ settings, setting.Checked)
    (asked : ∀ setting ∈ settings, setting.Valid) {config : AuthConfig}
    (valid : config.Valid) : (settings.foldl AuthConfig.put config).Valid := by
  induction settings generalizing config with
  | nil => exact valid
  | cons setting settings induction =>
      apply induction
      · exact fun other member => checked other (List.mem_cons_of_mem _ member)
      · exact fun other member => asked other (List.mem_cons_of_mem _ member)
      · exact valid.put (checked setting List.mem_cons_self)
          (asked setting List.mem_cons_self)

/-- What the check of a contract asks for beyond what was read. -/
def outline (self : AuthConfig) :
    List String × List ClaimDef × List PolicyDef :=
  (self.providers, self.claims, self.policies)

def putOutline (seen : List String × List ClaimDef × List PolicyDef) :
    AuthSetting → List String × List ClaimDef × List PolicyDef
  | .providers names => (names, seen.2)
  | .claims defs => (seen.1, defs, seen.2.2)
  | .policies defs => (seen.1, seen.2.1, defs)
  | _ => seen

theorem outline_put (config : AuthConfig) (setting : AuthSetting) :
    (config.put setting).outline = putOutline config.outline setting := by
  cases setting <;> rfl

theorem Valid.of_outline {config : AuthConfig} (valid : config.Valid)
    {setting : AuthSetting}
    {seen : List String × List ClaimDef × List PolicyDef}
    (shows : config.outline = putOutline seen setting) : setting.Valid := by
  cases setting with
  | providers names =>
      have shown : config.providers = names := congrArg Prod.fst shows
      subst shown
      exact valid.providersDistinct
  | claims defs =>
      have shown : config.claims = defs :=
        congrArg (fun outline => outline.2.1) shows
      subst shown
      apply validateClaims_eq_ok_iff.mpr
      refine ⟨?_, valid.claimsDistinct, fun _ _ => List.not_mem_nil⟩
      intro claim member
      exact ⟨valid.claimsNamed claim member, valid.variantsListed claim member⟩
  | policies defs =>
      have shown : config.policies = defs :=
        congrArg (fun outline => outline.2.2) shows
      subst shown
      exact validatePolicies_eq_ok_iff.mpr ⟨valid.policiesNamed,
        valid.policiesDistinct, fun _ _ => List.not_mem_nil⟩
  | _ => trivial

/-- Every setting of an accepted contract is seen by its check. -/
theorem Valid.asked {entries : Entries} {settings : List AuthSetting}
    (once : NamedOnce entries) (each : Reads readAuth entries settings)
    {config : AuthConfig}
    (valid : (settings.foldl AuthConfig.put config).Valid) :
    ∀ setting ∈ settings, setting.Valid := by
  intro setting member
  obtain ⟨rest, permuted⟩ := exists_perm_concat_of_mem member
  have outlines : (settings.foldl AuthConfig.put config).outline =
      ((rest ++ [setting]).foldl AuthConfig.put config).outline := by
    apply view_foldl_eq_of_perm outline_put permuted
    intro first firstMember second secondMember seen
    have lone := fun name => @Reads.eq_of_lone _ _ _ _ _ readAuth_spelling
      each once _ _ firstMember secondMember name
    cases first with
    | providers names =>
        cases second with
        | providers others => cases lone _ rfl rfl; rfl
        | _ => rfl
    | claims defs =>
        cases second with
        | claims others => cases lone _ rfl rfl; rfl
        | _ => rfl
    | policies defs =>
        cases second with
        | policies others => cases lone _ rfl rfl; rfl
        | _ => rfl
    | _ => cases second <;> rfl
  rw [List.foldl_append, List.foldl_cons, List.foldl_nil, outline_put]
    at outlines
  exact valid.of_outline outlines

theorem valid_withLocal : AuthConfig.default.withLocal.Valid := by
  apply validate_eq_ok_iff.mp
  decide +kernel

end AuthConfig

/-- Entries and a mail block that are accepted together. -/
structure Sound (entries : Entries)
    (mail : Except AuthDslError (Option MailConfig)) : Prop where
  once : NamedOnce entries
  readable : ∀ entry ∈ entries, ∃ setting,
    readAuth entry.1 entry.2 = .ok setting ∧ setting.Valid
  tenancy : ∀ first ∈ entries, ∀ second ∈ entries, ∀ one two,
    readAuth first.1 first.2 = .ok (.tenant one) →
      readAuth second.1 second.2 = .ok (.tenant two) → one = two
  mail : ∃ contract, mail = .ok contract ∧
    ∀ declared, contract = some declared → declared.validate = .ok ()

section Accepted

variable {entries : Entries} {settings : List AuthSetting}
  {mail : Except AuthDslError (Option MailConfig)}

theorem Reads.checked (each : Reads readAuth entries settings) :
    ∀ setting ∈ settings, setting.Checked := by
  intro setting member
  obtain ⟨entry, _, reads⟩ := each.exists_entry member
  exact readAuth_checked reads

theorem Reads.oneTenancy_iff (each : Reads readAuth entries settings) :
    OneTenancy none settings ↔
      ∀ first ∈ entries, ∀ second ∈ entries, ∀ one two,
        readAuth first.1 first.2 = .ok (.tenant one) →
          readAuth second.1 second.2 = .ok (.tenant two) → one = two := by
  constructor
  · intro same first firstMember second secondMember one two readsOne readsTwo
    obtain ⟨left, leftMember, readsLeft⟩ := each.exists_setting firstMember
    obtain ⟨right, rightMember, readsRight⟩ := each.exists_setting secondMember
    rw [readsOne] at readsLeft
    rw [readsTwo] at readsRight
    cases readsLeft
    cases readsRight
    exact same one two (.inr leftMember) rightMember
  · intro same one two said member
    rcases said with said | said
    · cases said
    · obtain ⟨first, firstMember, readsOne⟩ := each.exists_entry said
      obtain ⟨second, secondMember, readsTwo⟩ := each.exists_entry member
      exact same first firstMember second secondMember one two readsOne
        readsTwo

def contractOf (settings : List AuthSetting) (mail : Option MailConfig) :
    AuthConfig :=
  { (settings.foldl AuthConfig.put .default).withLocal with mail }

theorem declared_eq_ok_iff {config : AuthConfig} :
    declared entries mail = .ok config ↔
      NamedOnce entries ∧ ∃ settings, Reads readAuth entries settings ∧
        OneTenancy none settings ∧ ∃ contract, mail = .ok contract ∧
          (contractOf settings contract).Valid ∧
          contractOf settings contract = config := by
  unfold declared
  simp only [except_bind_eq_ok_iff, except_mapError_eq_ok_iff,
    readFields_eq_ok_iff, List.not_mem_nil, not_false_eq_true, implies_true,
    and_true]
  constructor
  · intro ⟨⟨read, declaration⟩, ⟨once, settings, each, reads⟩, contract, given,
      _, checked, found⟩
    obtain ⟨tenancy, folds⟩ := foldlM_reading_iff.mp ⟨declaration, reads⟩
    subst folds
    cases found
    exact ⟨once, settings, each, tenancy, contract, given,
      AuthConfig.validate_eq_ok_iff.mp checked, rfl⟩
  · intro ⟨once, settings, each, tenancy, contract, given, valid, found⟩
    obtain ⟨declaration, reads⟩ :=
      (@foldlM_reading_iff settings Reading.start _).mpr ⟨tenancy, rfl⟩
    subst found
    exact ⟨_, ⟨once, settings, each, reads⟩, contract, given, (),
      AuthConfig.validate_eq_ok_iff.mpr valid, rfl⟩

theorem contractOf_valid_iff (once : NamedOnce entries)
    (each : Reads readAuth entries settings) {contract : Option MailConfig} :
    (contractOf settings contract).Valid ↔
      (∀ setting ∈ settings, setting.Valid) ∧
        ∀ declared, contract = some declared → declared.validate = .ok () := by
  unfold contractOf
  rw [AuthConfig.withLocal_foldl each.checked]
  constructor
  · intro valid
    refine ⟨?_, valid.mailValid⟩
    have bare : (settings.foldl AuthConfig.put
        AuthConfig.default.withLocal).Valid :=
      { valid with
        mailValid := by
          intro declared found
          rw [AuthConfig.mail_foldl] at found
          cases found }
    exact bare.asked once each
  · intro ⟨asked, mailValid⟩
    have valid := AuthConfig.Valid.foldl each.checked asked
      AuthConfig.valid_withLocal
    exact { valid with mailValid := mailValid }

/-- What is accepted does not depend on the order. -/
theorem sound_iff :
    Sound entries mail ↔ ∃ config, declared entries mail = .ok config := by
  constructor
  · intro sound
    obtain ⟨settings, each⟩ := @Reads.of_each _ readAuth entries (by
      intro entry member
      obtain ⟨setting, reads, _⟩ := sound.readable entry member
      exact ⟨setting, reads⟩)
    obtain ⟨contract, given, mailValid⟩ := sound.mail
    have asked : ∀ setting ∈ settings, setting.Valid := by
      intro setting member
      obtain ⟨entry, entryMember, reads⟩ := each.exists_entry member
      obtain ⟨again, readsAgain, valid⟩ := sound.readable entry entryMember
      rw [reads] at readsAgain
      cases readsAgain
      exact valid
    exact ⟨_, declared_eq_ok_iff.mpr ⟨sound.once, settings, each,
      each.oneTenancy_iff.mpr sound.tenancy, contract, given,
      (contractOf_valid_iff sound.once each).mpr ⟨asked, mailValid⟩, rfl⟩⟩
  · intro ⟨config, accepted⟩
    obtain ⟨once, settings, each, tenancy, contract, given, valid, _⟩ :=
      declared_eq_ok_iff.mp accepted
    obtain ⟨asked, mailValid⟩ := (contractOf_valid_iff once each).mp valid
    refine ⟨once, ?_, each.oneTenancy_iff.mp tenancy, contract, given,
      mailValid⟩
    intro entry member
    obtain ⟨setting, settingMember, reads⟩ := each.exists_setting member
    exact ⟨setting, reads, asked setting settingMember⟩

end Accepted

end AuthBoundry
