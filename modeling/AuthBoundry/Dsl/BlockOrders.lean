import AuthBoundry.Dsl.Canonical
import AuthBoundry.Dsl.ReadFields

/-!
# Blocks in any order

The fields of a storage block and of a ui block can stand in any order.  In a
password block and in an experience block a setting with two names can be given
twice, and then the order decides.
-/

namespace AuthBoundry

open Library

/-! ## Storage -/

def StorageField.name : StorageField → String
  | .authority => "authority"
  | .audit => "audit"
  | .reporting => "reporting"

def StorageSetting.spellings (setting : StorageSetting) : List String :=
  [setting.field.name]

theorem readStorage_spelling (key : String) (value : Value)
    (setting : StorageSetting) (reads : readStorage key value = .ok setting) :
    key ∈ setting.spellings := by
  rw [readStorage, except_bind_eq_ok_iff] at reads
  obtain ⟨provider, _, found⟩ := reads
  split at found
  case h_4 => cases found
  all_goals
    cases found
    exact List.mem_singleton_self _

theorem StorageConfig.put_slots :
    Slots StorageSetting.field StorageConfig.put := by
  constructor
  · intro config ⟨first, one⟩ ⟨second, two⟩ different
    cases first <;> cases second <;>
      first
      | exact absurd rfl different
      | rfl
  · intro left right ⟨first, one⟩ ⟨second, two⟩ same shown
    cases same
    cases first with
    | authority => cases congrArg StorageConfig.authority shown; rfl
    | audit => cases congrArg StorageConfig.audit shown; rfl
    | reporting => cases congrArg StorageConfig.reporting shown; rfl

theorem agree_storage {entries : Entries} {settings : List StorageSetting}
    (once : NamedOnce entries) (each : Reads readStorage entries settings) :
    Agree StorageSetting.field settings := by
  intro one oneMember two twoMember same
  apply each.eq_of_lone readStorage_spelling once oneMember twoMember rfl
  rw [StorageSetting.spellings, same]

/-- The fields of a storage block can stand in any order. -/
theorem parseStorage_perm {entries others : Entries}
    (perm : entries.Perm others) {storage : StorageConfig}
    (accepted : parseStorage (.block entries) = .ok storage) :
    parseStorage (.block others) = .ok storage := by
  have orders := parseFields_perm_iff StorageConfig.put_slots accepted
  obtain ⟨once, settings, each, _⟩ := parseFields_eq_ok_iff.mp accepted
  exact orders.mpr (each.agree_iff.mp (agree_storage once each)) others perm

/-! ## Passwords -/

/-- The names of a setting of a password block. -/
def PasswordSetting.spellings : PasswordSetting → List String
  | .minLength _ => ["min_length"]
  | .maxLength _ => ["max_length"]
  | .requireUppercase _ => ["require_uppercase"]
  | .requireLowercase _ => ["require_lowercase"]
  | .requireNumber _ => ["require_number"]
  | .requireSpecialCharacter _ => ["require_special_character"]
  | .passwordExpirationDays _ =>
      ["expiration_days", "password_expiration_days"]
  | .passwordHistoryCount _ => ["history_count", "password_history_count"]
  | .allowPasswordChange _ => ["allow_password_change"]
  | .allowPasswordReset _ => ["allow_password_reset"]

theorem readPassword_spelling (key : String) (value : Value)
    (setting : PasswordSetting)
    (reads : readPassword key value = .ok setting) :
    key ∈ setting.spellings := by
  unfold readPassword at reads
  split at reads
  case h_13 => cases reads
  all_goals
    obtain ⟨_, _, found⟩ := except_bind_eq_ok_iff.mp reads
    cases found
    simp [PasswordSetting.spellings]

namespace PasswordPolicy

theorem put_slots : Slots PasswordSetting.ctorIdx put := by
  constructor
  · intro config first second different
    cases first <;> cases second <;>
      first
      | exact absurd rfl different
      | rfl
  · intro left right first second same shown
    cases first <;> cases second <;> cases same <;>
      simp_all [put]

/-- What the check of a password policy looks at. -/
def lengths (self : PasswordPolicy) : Nat × Nat :=
  (self.minLength, self.maxLength)

def putLength (seen : Nat × Nat) : PasswordSetting → Nat × Nat
  | .minLength length => (length, seen.2)
  | .maxLength length => (seen.1, length)
  | _ => seen

theorem lengths_put (self : PasswordPolicy) (setting : PasswordSetting) :
    (self.put setting).lengths = putLength self.lengths setting := by
  cases setting <;> rfl

theorem validate_eq_of_lengths {left right : PasswordPolicy}
    (same : left.lengths = right.lengths) :
    left.validate = right.validate := by
  unfold lengths at same
  obtain ⟨minLength, maxLength⟩ := Prod.mk.inj same
  rw [validate, validate, minLength, maxLength]

theorem checksAlike : ChecksAlike readPassword put validate default := by
  intro entries settings moved once each permuted
  apply validate_eq_of_lengths
  apply view_foldl_eq_of_perm lengths_put permuted
  intro first firstMember second secondMember seen
  have lone := fun name => @Reads.eq_of_lone _ _ _ _ _ readPassword_spelling
    each once _ _ firstMember secondMember name
  cases first with
  | minLength length =>
      cases second with
      | minLength other => cases lone _ rfl rfl; rfl
      | _ => rfl
  | maxLength length =>
      cases second with
      | maxLength other => cases lone _ rfl rfl; rfl
      | _ => rfl
  | _ => rfl

end PasswordPolicy

/-- The order of a password block does not matter exactly when no setting is
given twice with different values. -/
theorem parsePassword_perm_iff {entries : Entries} {policy : PasswordPolicy}
    (accepted : parsePassword (.block entries) = .ok policy) :
    (∀ others, entries.Perm others →
        parsePassword (.block others) = .ok policy) ↔
      AgreeIn readPassword PasswordSetting.ctorIdx entries :=
  parseFields_perm_iff PasswordPolicy.put_slots accepted

/-! ## Experience -/

/-- The names of a capability. -/
def AuthExperienceCapability.spellings : AuthExperienceCapability → List String
  | .deviceManagement => ["devices", "device_management"]
  | .sessionManagement => ["sessions", "session_management"]
  | .tenantSwitching => ["tenant_switching", "tenant_switcher"]
  | capability => [capability.asStr]

theorem AuthExperienceCapability.parse_spelling {key : String}
    {capability : AuthExperienceCapability}
    (parsed : parse key = some capability) : key ∈ capability.spellings := by
  unfold parse at parsed
  split at parsed
  case h_20 => cases parsed
  all_goals
    cases parsed
    simp [spellings, asStr]

theorem readExperience_spelling (key : String) (value : Value)
    (setting : ExperienceSetting)
    (reads : readExperience key value = .ok setting) :
    key ∈ setting.capability.spellings := by
  unfold readExperience at reads
  split at reads
  · cases reads
  · next capability parsed =>
    obtain ⟨scalar, _, found⟩ := except_bind_eq_ok_iff.mp reads
    split at found
    · cases found
      exact AuthExperienceCapability.parse_spelling parsed
    · cases found

namespace AuthExperience

theorem put_slots : Slots ExperienceSetting.capability set := by
  constructor
  · intro config ⟨first, one⟩ ⟨second, two⟩ different
    cases first <;> cases second <;>
      first
      | exact absurd rfl different
      | rfl
  · intro left right ⟨first, one⟩ ⟨second, two⟩ same shown
    cases same
    have states := congrArg (fun experience => experience.state first) shown
    cases first <;> cases states <;> rfl

/-- What the check of an experience looks at. -/
def ways (self : AuthExperience) : ExperienceState × ExperienceState :=
  (self.signIn, self.signUp)

def setWay (seen : ExperienceState × ExperienceState)
    (setting : ExperienceSetting) : ExperienceState × ExperienceState :=
  match setting.capability with
  | .signIn => (setting.state, seen.2)
  | .signUp => (seen.1, setting.state)
  | _ => seen

theorem ways_set (self : AuthExperience) (setting : ExperienceSetting) :
    (self.set setting).ways = setWay self.ways setting := by
  obtain ⟨capability, state⟩ := setting
  cases capability <;> rfl

theorem validate_eq_of_ways {left right : AuthExperience}
    (same : left.ways = right.ways) : left.validate = right.validate := by
  unfold ways at same
  obtain ⟨signIn, signUp⟩ := Prod.mk.inj same
  rw [validate, validate, signIn, signUp]

theorem checksAlike : ChecksAlike readExperience set validate default := by
  intro entries settings moved once each permuted
  apply validate_eq_of_ways
  apply view_foldl_eq_of_perm ways_set permuted
  intro ⟨first, one⟩ firstMember ⟨second, two⟩ secondMember seen
  have lone := fun name => @Reads.eq_of_lone _ _ _ _ _ readExperience_spelling
    each once _ _ firstMember secondMember name
  cases first with
  | signIn =>
      cases second with
      | signIn => cases lone _ rfl rfl; rfl
      | _ => rfl
  | signUp =>
      cases second with
      | signUp => cases lone _ rfl rfl; rfl
      | _ => rfl
  | _ => rfl

end AuthExperience

/-- The order of an experience block does not matter exactly when no capability
is given twice with different states. -/
theorem parseExperience_perm_iff {entries : Entries}
    {experience : AuthExperience}
    (accepted : parseExperience (.block entries) = .ok experience) :
    (∀ others, entries.Perm others →
        parseExperience (.block others) = .ok experience) ↔
      AgreeIn readExperience ExperienceSetting.capability entries :=
  parseFields_perm_iff AuthExperience.put_slots accepted

/-! ## Ui -/

def UiSetting.spellings : UiSetting → List String
  | .theme _ => ["theme"]
  | .mode _ => ["mode"]
  | .screen declared => [declared.screen.asStr]

def UiSetting.screen? : UiSetting → Option UiScreenOverride
  | .screen declared => some declared
  | _ => none

theorem UiScreen.parse_eq_some {key : String} {screen : UiScreen}
    (parsed : parse key = some screen) : key = screen.asStr := by
  unfold parse at parsed
  split at parsed
  case h_17 => cases parsed
  all_goals
    cases parsed
    rfl

theorem readScreen_spelling {key : String} {value : Value}
    {setting : UiSetting} (reads : readScreen key value = .ok setting) :
    key ∈ setting.spellings := by
  unfold readScreen at reads
  split at reads
  · cases reads
  · next screen parsed =>
    have named := UiScreen.parse_eq_some parsed
    obtain ⟨scalar, _, found⟩ := except_bind_eq_ok_iff.mp reads
    split at found
    case h_3 => cases found
    all_goals
      cases found
      exact List.mem_singleton.mpr named

theorem readUi_spelling (key : String) (value : Value) (setting : UiSetting)
    (reads : readUi key value = .ok setting) : key ∈ setting.spellings := by
  unfold readUi at reads
  split at reads
  · next theme =>
    obtain ⟨name, _, found⟩ := except_bind_eq_ok_iff.mp reads
    cases found
    simpa [UiSetting.spellings] using theme
  · split at reads
    · next mode =>
      obtain ⟨name, _, found⟩ := except_bind_eq_ok_iff.mp reads
      split at found
      · cases found
        simpa [UiSetting.spellings] using mode
      · cases found
    · exact readScreen_spelling reads

namespace AuthUiConfig

/-- What a ui block sets once. -/
def look (self : AuthUiConfig) : ExperienceRenderer × AuthUiMode × UiTheme :=
  (self.renderer, self.mode, self.theme)

def putLook (seen : ExperienceRenderer × AuthUiMode × UiTheme) :
    UiSetting → ExperienceRenderer × AuthUiMode × UiTheme
  | .theme name => (seen.1, seen.2.1, { name })
  | .mode renderer => (renderer, seen.2)
  | .screen _ => seen

theorem look_put (self : AuthUiConfig) (setting : UiSetting) :
    (self.put setting).look = putLook self.look setting := by
  cases setting <;> rfl

theorem screens_foldl (self : AuthUiConfig) (settings : List UiSetting) :
    (settings.foldl put self).screens =
      self.screens ++ settings.filterMap UiSetting.screen? := by
  induction settings generalizing self with
  | nil => simp
  | cons setting settings induction =>
      rw [List.foldl_cons, induction]
      cases setting <;> simp [put, UiSetting.screen?, List.filterMap_cons]

/-- In another order a ui block lists its screens in another order. -/
theorem reorderedAs_foldl {entries : Entries}
    {settings moved : List UiSetting} (once : NamedOnce entries)
    (each : Reads readUi entries settings) (permuted : settings.Perm moved)
    (self : AuthUiConfig) :
    (settings.foldl put self).ReorderedAs (moved.foldl put self) := by
  have looks : (settings.foldl put self).look =
      (moved.foldl put self).look := by
    apply view_foldl_eq_of_perm look_put permuted
    intro first firstMember second secondMember seen
    have lone := fun name => @Reads.eq_of_lone _ _ _ _ _ readUi_spelling
      each once _ _ firstMember secondMember name
    cases first with
    | theme name =>
        cases second with
        | theme other => cases lone _ rfl rfl; rfl
        | _ => rfl
    | mode renderer =>
        cases second with
        | mode other => cases lone _ rfl rfl; rfl
        | _ => rfl
    | screen declared => cases second <;> rfl
  unfold look at looks
  obtain ⟨renderer, rest⟩ := Prod.mk.inj looks
  obtain ⟨mode, theme⟩ := Prod.mk.inj rest
  refine ⟨renderer, mode, theme, ?_⟩
  rw [screens_foldl, screens_foldl]
  exact (permuted.filterMap UiSetting.screen?).append_left self.screens

theorem ReorderedAs.validate {before after : AuthUiConfig}
    (reordered : before.ReorderedAs after)
    (valid : before.validate = .ok ()) : after.validate = .ok () := by
  obtain ⟨distinct, named⟩ := validate_eq_ok_iff.mp valid
  apply validate_eq_ok_iff.mpr
  rw [← reordered.theme]
  exact ⟨(reordered.screens.map _).nodup_iff.mp distinct, named⟩

end AuthUiConfig

/-- The fields of a ui block can stand in any order. -/
theorem parseUi_perm {entries others : Entries} (perm : entries.Perm others)
    {ui : AuthUiConfig} (accepted : parseUi (.block entries) = .ok ui) :
    parseUi (.block others) = .ok ui := by
  obtain ⟨once, settings, each, checked, rfl⟩ :=
    parseFields_eq_ok_iff.mp accepted
  obtain ⟨moved, permuted, reads⟩ := each.perm perm
  have reordered := AuthUiConfig.reorderedAs_foldl once each permuted
    AuthUiConfig.default
  exact parseFields_eq_ok_iff.mpr ⟨once.perm perm, moved, reads,
    reordered.validate checked,
    (AuthUiConfig.canonical_eq_of_reordered reordered).symm⟩

end AuthBoundry
