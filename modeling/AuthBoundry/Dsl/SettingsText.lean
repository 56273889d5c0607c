import AuthBoundry.Dsl.Canonical
import AuthBoundry.Library.Readable

/-!
# The canonical text of the settings

Experiences, the password policy, storage, mail and the user interface as they
are written into the text that is hashed.  Each can be read back before what
follows it, free texts under the condition that they do not look like
themselves with the next label behind them.
-/

namespace AuthBoundry

open Library

theorem not_mem_toString_bool (value : Bool) :
    ';' ∉ (toString value).toList := by
  cases value <;> decide

theorem toString_bool_inj (left right : Bool)
    (same : toString left = toString right) : left = right := by
  revert same
  cases left <;> cases right <;> decide

/-! ## Experiences -/

namespace ExperienceState

theorem not_mem_asStr (self : ExperienceState) : ',' ∉ self.asStr.toList := by
  cases self <;> decide

theorem asStr_inj (left right : ExperienceState)
    (same : left.asStr = right.asStr) : left = right := by
  revert same
  cases left <;> cases right <;> decide

end ExperienceState

namespace AuthExperience

def stateText (self : AuthExperience)
    (capability : AuthExperienceCapability) : List Char :=
  labelled (capability.asStr ++ ":") ',' (self.state capability).asStr

theorem toList_writeCanonical (self : AuthExperience) :
    self.writeCanonical.toList =
      "experience=".toList ++
        (AuthExperienceCapability.all.flatMap self.stateText ++ [';']) := by
  unfold writeCanonical stateText labelled
  simp only [String.toList_append, String.toList_join, List.flatMap_map,
    List.append_assoc]
  rfl

theorem stateText_inj {left right : AuthExperience}
    {capabilities : List AuthExperienceCapability} {rest rest' : List Char}
    (same : capabilities.flatMap left.stateText ++ rest =
      capabilities.flatMap right.stateText ++ rest') :
    (∀ capability ∈ capabilities,
      left.state capability = right.state capability) ∧ rest = rest' := by
  induction capabilities with
  | nil => exact ⟨nofun, same⟩
  | cons capability capabilities induction =>
      simp only [List.flatMap_cons, List.append_assoc] at same
      obtain ⟨state, same⟩ := Readable.shown (capability.asStr ++ ":") ','
        ExperienceState.not_mem_asStr ExperienceState.asStr_inj
        trivial trivial trivial trivial same
      obtain ⟨states, rests⟩ := induction same
      exact ⟨List.forall_mem_cons.mpr ⟨state, states⟩, rests⟩

theorem ext_state {left right : AuthExperience}
    (same : ∀ capability, left.state capability = right.state capability) :
    left = right := by
  obtain ⟨⟩ := left
  obtain ⟨⟩ := right
  simp only [mk.injEq]
  exact ⟨same .signIn, same .signUp, same .signOut, same .password,
    same .passwordReset, same .passwordChange, same .externalIdentity,
    same .accountLinking, same .emailVerification, same .mfa, same .passkeys,
    same .deviceManagement, same .sessionManagement, same .profile,
    same .tenantSwitching, same .recovery⟩

theorem readable : Readable (fun _ => True) (fun _ => True)
    fun self : AuthExperience => self.writeCanonical.toList := by
  intro left right rest rest' _ _ _ _ same
  simp only [toList_writeCanonical, List.append_assoc] at same
  obtain ⟨states, rests⟩ := stateText_inj (List.append_cancel_left same)
  refine ⟨ext_state fun capability => states capability ?_,
    (List.cons_eq_cons.mp rests).2⟩
  cases capability <;> decide

end AuthExperience

/-! ## The password policy -/

namespace PasswordPolicy

def expirationText (days : Option Nat) : String :=
  (days.map toString).getD "null"

theorem not_mem_expirationText (days : Option Nat) :
    ';' ∉ (expirationText days).toList := by
  cases days with
  | none => decide
  | some days => exact not_mem_decimal rfl days

theorem expirationText_inj (left right : Option Nat)
    (same : expirationText left = expirationText right) : left = right := by
  have word : ∀ days : Nat, toString days ≠ "null" := by
    intro days same
    have letter : 'n' ∈ (toString days).toList := by
      rw [same]
      decide
    exact not_mem_decimal rfl days letter
  cases left with
  | none =>
      cases right with
      | none => rfl
      | some days => exact absurd same.symm (word days)
  | some days =>
      cases right with
      | none => exact absurd same (word days)
      | some days' => rw [decimal_inj same]

theorem toList_writeCanonical (self : PasswordPolicy) :
    self.writeCanonical.toList =
      labelled "pwd_policy=min:" ';' (toString self.minLength) ++
      (labelled "max:" ';' (toString self.maxLength) ++
      (labelled "upper:" ';' (toString self.requireUppercase) ++
      (labelled "lower:" ';' (toString self.requireLowercase) ++
      (labelled "number:" ';' (toString self.requireNumber) ++
      (labelled "special:" ';' (toString self.requireSpecialCharacter) ++
      (labelled "expiration:" ';'
        (expirationText self.passwordExpirationDays) ++
      (labelled "history:" ';' (toString self.passwordHistoryCount) ++
      (labelled "change:" ';' (toString self.allowPasswordChange) ++
      labelled "reset:" ';' (toString self.allowPasswordReset))))))))) := by
  unfold writeCanonical labelled
  simp only [String.toList_append, List.append_assoc, toString]
  rfl

theorem readable_number (label : String) :
    Readable (fun _ => True) (fun _ => True)
      fun value : Nat => labelled label ';' (toString value) :=
  Readable.shown label ';' (not_mem_decimal rfl) fun _ _ => decimal_inj

theorem readable_flag (label : String) :
    Readable (fun _ => True) (fun _ => True)
      fun value : Bool => labelled label ';' (toString value) :=
  Readable.shown label ';' not_mem_toString_bool toString_bool_inj

theorem readable : Readable (fun _ => True) (fun _ => True)
    fun self : PasswordPolicy => self.writeCanonical.toList := by
  intro left right rest rest' _ _ _ _ same
  simp only [toList_writeCanonical, List.append_assoc] at same
  obtain ⟨minimum, same⟩ := readable_number _ trivial trivial trivial trivial same
  obtain ⟨maximum, same⟩ := readable_number _ trivial trivial trivial trivial same
  obtain ⟨upper, same⟩ := readable_flag _ trivial trivial trivial trivial same
  obtain ⟨lower, same⟩ := readable_flag _ trivial trivial trivial trivial same
  obtain ⟨number, same⟩ := readable_flag _ trivial trivial trivial trivial same
  obtain ⟨special, same⟩ := readable_flag _ trivial trivial trivial trivial same
  obtain ⟨expiration, same⟩ := Readable.shown "expiration:" ';'
    not_mem_expirationText expirationText_inj trivial trivial trivial trivial
    same
  obtain ⟨history, same⟩ := readable_number _ trivial trivial trivial trivial same
  obtain ⟨change, same⟩ := readable_flag _ trivial trivial trivial trivial same
  obtain ⟨reset, rests⟩ := readable_flag _ trivial trivial trivial trivial same
  obtain ⟨⟩ := left
  obtain ⟨⟩ := right
  simp only [mk.injEq]
  exact ⟨⟨minimum, maximum, upper, lower, number, special, expiration, history,
    change, reset⟩, rests⟩

end PasswordPolicy

/-! ## Storage and mail -/

/-- No provider looks like itself with the next label behind it. -/
structure StorageConfig.Plain (config : StorageConfig) : Prop where
  authority : Closed ',' ["audit:".toList] config.authority.toList
  audit : Closed ',' ["reporting:".toList] config.audit.toList
  reporting : Closed ';' ["mail=".toList] config.reporting.toList

namespace StorageConfig

theorem toList_writeCanonical (self : StorageConfig) :
    self.writeCanonical.toList =
      labelled "storage=authority:" ',' self.authority ++
      (labelled "audit:" ',' self.audit ++
      labelled "reporting:" ';' self.reporting) := by
  unfold writeCanonical labelled
  simp only [String.toList_append, List.append_assoc, toString]
  rfl

theorem readable : Readable (EndsBefore ["mail=".toList]) Plain
    fun self : StorageConfig => self.writeCanonical.toList := by
  intro left right rest rest' leftPlain rightPlain after after' same
  simp only [toList_writeCanonical, List.append_assoc] at same
  have labelNext : ∀ (label text : String) (closing : Char) (rest : List Char),
      EndsBefore [label.toList] (labelled label closing text ++ rest) :=
    fun label text closing rest =>
      .inr ⟨_, List.mem_singleton_self _, prefix_labelled label closing text rest⟩
  obtain ⟨authority, same⟩ := Readable.labelled_closed "storage=authority:" ','
    (by decide) leftPlain.authority rightPlain.authority
    (labelNext _ _ _ _) (labelNext _ _ _ _) same
  obtain ⟨audit, same⟩ := Readable.labelled_closed "audit:" ','
    (by decide) leftPlain.audit rightPlain.audit
    (labelNext _ _ _ _) (labelNext _ _ _ _) same
  obtain ⟨reporting, rests⟩ := Readable.labelled_closed "reporting:" ';'
    (by decide) leftPlain.reporting rightPlain.reporting after after' same
  obtain ⟨⟩ := left
  obtain ⟨⟩ := right
  simp only [mk.injEq]
  exact ⟨⟨authority, audit, reporting⟩, rests⟩

end StorageConfig

namespace MailConfig

def entryLabels : List (List Char) := ["identity:".toList, "template:".toList]

/-- A name without the separator, and a text that contains no end of an entry
with the beginning of another behind it. -/
def PlainEntry (entry : String × String) : Prop :=
  '=' ∉ entry.1.toList ∧ Closed ';' entryLabels entry.2.toList

structure Plain (config : MailConfig) : Prop where
  identities : ∀ entry ∈ config.identities.toList, PlainEntry entry
  templates : ∀ entry ∈ config.templates.toList, PlainEntry entry

def entryText (label : String) (entry : String × String) : List Char :=
  labelled label '=' entry.1 ++ labelled "" ';' entry.2

theorem toList_writeCanonical (self : MailConfig) :
    self.writeCanonical.toList =
      "mail=".toList ++
        (self.identities.toList.flatMap (entryText "identity:") ++
          self.templates.toList.flatMap (entryText "template:")) := by
  unfold writeCanonical entryText labelled
  simp only [String.toList_append, String.toList_join, List.flatMap_map,
    List.append_assoc, toString]
  rfl

theorem readable_entry (label : String) :
    Readable (EndsBefore entryLabels) PlainEntry (entryText label) := by
  intro left right rest rest' leftPlain rightPlain after after' same
  simp only [entryText, List.append_assoc] at same
  obtain ⟨name, same⟩ := Readable.labelled label '=' leftPlain.1 rightPlain.1
    trivial trivial same
  obtain ⟨text, rests⟩ := Readable.labelled_closed "" ';' (by decide)
    leftPlain.2 rightPlain.2 after after' same
  exact ⟨Prod.ext name text, rests⟩

theorem prefix_entryText (label : String) (entry : String × String)
    (rest : List Char) : label.toList <+: entryText label entry ++ rest := by
  rw [entryText, List.append_assoc]
  exact prefix_labelled label '=' entry.1 _

theorem writeCanonical_inj {left right : MailConfig} (leftPlain : left.Plain)
    (rightPlain : right.Plain)
    (same : left.writeCanonical.toList = right.writeCanonical.toList) :
    left = right := by
  have templates : Readable (fun rest => rest = [])
      (fun entries => ∀ entry ∈ entries, PlainEntry entry)
      fun entries : List (String × String) => entries.flatMap (entryText "template:") := by
    refine (readable_entry "template:").list ?_ (fun _ none => .inl none) ?_
    · intro entry rest _ none
      have begins := prefix_entryText "template:" entry rest
      rw [none] at begins
      exact absurd begins (by decide)
    · intro entry rest _
      exact .inr ⟨_, by decide, prefix_entryText "template:" entry rest⟩
  have identities : Readable (EndsBefore ["template:".toList])
      (fun entries => ∀ entry ∈ entries, PlainEntry entry)
      fun entries : List (String × String) => entries.flatMap (entryText "identity:") := by
    refine (readable_entry "identity:").list ?_ ?_ ?_
    · rintro entry rest _ (none | ⟨tag, member, tagged⟩)
      · have begins := prefix_entryText "identity:" entry rest
        rw [none] at begins
        exact absurd begins (by decide)
      · rw [List.mem_singleton.mp member] at tagged
        exact absurd (List.cons_prefix_cons.mp tagged).1 (by decide)
    · rintro rest (none | ⟨tag, member, tagged⟩)
      · exact .inl none
      · exact .inr ⟨tag, List.mem_cons_of_mem _ member, tagged⟩
    · intro entry rest _
      exact .inr ⟨_, by decide, prefix_entryText "identity:" entry rest⟩
  have ends : ∀ entries : List (String × String),
      EndsBefore ["template:".toList]
        (entries.flatMap (entryText "template:") ++ []) := by
    intro entries
    cases entries with
    | nil => exact .inl rfl
    | cons entry entries =>
        rw [List.flatMap_cons, List.append_assoc]
        exact .inr ⟨_, List.mem_singleton_self _, prefix_entryText _ _ _⟩
  rw [toList_writeCanonical, toList_writeCanonical] at same
  obtain ⟨sameIdentities, same⟩ := identities leftPlain.identities
    rightPlain.identities (ends _) (ends _)
    (by simpa using List.append_cancel_left same)
  obtain ⟨sameTemplates, _⟩ := templates leftPlain.templates
    rightPlain.templates rfl rfl same
  obtain ⟨leftIdentities, leftTemplates⟩ := left
  obtain ⟨rightIdentities, rightTemplates⟩ := right
  simp only [mk.injEq]
  exact ⟨Std.ExtTreeMap.toList_inj.mp sameIdentities,
    Std.ExtTreeMap.toList_inj.mp sameTemplates⟩

end MailConfig

/-! ## Screens and themes -/

theorem ExperienceRenderer.not_mem_asStr (self : ExperienceRenderer) :
    ';' ∉ self.asStr.toList := by
  cases self <;> decide

theorem ExperienceRenderer.asStr_inj (left right : ExperienceRenderer)
    (same : left.asStr = right.asStr) : left = right := by
  revert same
  cases left <;> cases right <;> decide

namespace UiScreenOverride

def text (self : UiScreenOverride) : List Char :=
  labelled "" '=' self.screen.asStr ++ labelled "" ',' self.mode.asStr

theorem readable : Readable (fun _ => True) (fun _ => True) text := by
  have screens : Readable (fun _ => True) (fun _ => True)
      fun screen : UiScreen => labelled "" '=' screen.asStr := by
    refine Readable.shown "" '=' ?_ ?_
    · intro screen
      cases screen <;> decide
    · intro left right same
      revert same
      cases left <;> cases right <;> decide
  have modes : Readable (fun _ => True) (fun _ => True)
      fun mode : AuthUiMode => labelled "" ',' mode.asStr := by
    refine Readable.shown "" ',' ?_ ?_
    · intro mode
      cases mode <;> decide
    · intro left right same
      revert same
      cases left <;> cases right <;> decide
  intro left right rest rest' _ _ _ _ same
  simp only [text, List.append_assoc] at same
  obtain ⟨screen, same⟩ := screens trivial trivial trivial trivial same
  obtain ⟨mode, rests⟩ := modes trivial trivial trivial trivial same
  obtain ⟨⟩ := left
  obtain ⟨⟩ := right
  simp only [mk.injEq]
  exact ⟨⟨screen, mode⟩, rests⟩

theorem not_separator_prefix_text (self : UiScreenOverride)
    (rest : List Char) : ¬[';'] <+: self.text ++ rest := by
  intro begins
  have inside : [';'] <+: self.screen.asStr.toList :=
    @prefix_of_separated Char '=' _ _ (labelled "" ',' self.mode.asStr ++ rest)
      (by decide) (by simpa [text, labelled] using begins)
  revert inside
  cases self.screen <;> decide

end UiScreenOverride

namespace AuthUiConfig

/-- The theme does not look like itself with the screens behind it. -/
def Plain (self : AuthUiConfig) : Prop :=
  Closed ';' ["screens:".toList] self.theme.name.toList

theorem toList_writeCanonical (self : AuthUiConfig) :
    self.writeCanonical.toList =
      labelled "ui=mode:" ';' self.renderer.asStr ++
      (labelled "theme:" ';' self.theme.name ++
      ("screens:".toList ++
        (self.screens.flatMap UiScreenOverride.text ++ [';']))) := by
  unfold writeCanonical UiScreenOverride.text labelled
  simp only [String.toList_append, String.toList_join, List.flatMap_map,
    List.append_assoc, toString]
  rfl

theorem ext_fields {left right : AuthUiConfig}
    (renderer : left.renderer = right.renderer) (mode : left.mode = right.mode)
    (theme : left.theme.name = right.theme.name)
    (screens : left.screens = right.screens) : left = right := by
  obtain ⟨_, _, ⟨_⟩, _⟩ := left
  obtain ⟨_, _, ⟨_⟩, _⟩ := right
  simp only [mk.injEq]
  exact ⟨renderer, mode, congrArg UiTheme.mk theme, screens⟩

/-- The mode itself is not written: the canonical form takes it from the
screens. -/
theorem canonical_writeCanonical_inj {left right : AuthUiConfig}
    {rest rest' : List Char} (leftPlain : left.Plain)
    (rightPlain : right.Plain)
    (same : left.canonical.writeCanonical.toList ++ rest =
      right.canonical.writeCanonical.toList ++ rest') :
    left.canonical = right.canonical ∧ rest = rest' := by
  have screensReadable : Readable (fun rest => [';'] <+: rest)
      (fun screens => ∀ screen ∈ screens, True)
      fun screens : List UiScreenOverride =>
        screens.flatMap UiScreenOverride.text :=
    UiScreenOverride.readable.list
      (fun screen rest _ => screen.not_separator_prefix_text rest)
      (fun _ _ => trivial) fun _ _ _ => trivial
  have mode : ∀ ui : AuthUiConfig, ui.canonical.mode =
      if ui.canonical.screens.any fun screen => screen.mode == .custom then
        .custom
      else
        .default := fun _ => rfl
  simp only [toList_writeCanonical, List.append_assoc] at same
  obtain ⟨renderer, same⟩ := Readable.shown "ui=mode:" ';'
    ExperienceRenderer.not_mem_asStr ExperienceRenderer.asStr_inj
    trivial trivial trivial trivial same
  obtain ⟨theme, same⟩ := Readable.labelled_closed "theme:" ';' (by decide)
    leftPlain rightPlain
    (.inr ⟨_, List.mem_singleton_self _, List.prefix_append _ _⟩)
    (.inr ⟨_, List.mem_singleton_self _, List.prefix_append _ _⟩) same
  obtain ⟨screens, same⟩ := screensReadable (fun _ _ => trivial)
    (fun _ _ => trivial) (List.prefix_append _ _) (List.prefix_append _ _)
    (List.append_cancel_left same)
  refine ⟨?_, List.append_cancel_left same⟩
  have sameMode : left.canonical.mode = right.canonical.mode := by
    rw [mode left, mode right, screens]
  exact ext_fields renderer sameMode theme screens

end AuthUiConfig

end AuthBoundry
