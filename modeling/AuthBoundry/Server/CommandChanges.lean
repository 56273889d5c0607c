import AuthBoundry.Server.CommandBodies

/-!
# Changes proposed from the command line

Which change the arguments ask for, and which arguments reach the control plane
as the change they ask for.
-/

namespace AuthBoundry

open Library
open scoped Library.Listed

namespace Cli

/-! ## What the arguments ask for -/

/-- A count is given, or it is the one that stands when it is not. -/
def AsksCount (args : List String) (flag : String) (unset count : Nat) : Prop :=
  match optionValue args flag with
  | some written => parseU64 written = some count
  | none => count = unset

/-- A flag is switched on or off, not both, or stands as it is. -/
structure AsksFlag (args : List String) (switchOn switchOff : String)
    (unset value : Bool) : Prop where
  on : args.contains switchOn = true → value = true
  off : args.contains switchOff = true → value = false
  neither : args.contains switchOn = false →
    args.contains switchOff = false → value = unset

structure AsksPolicy (args : List String) (policy : PasswordPolicy) : Prop where
  minLength : AsksCount args "--min-length" 12 policy.minLength
  maxLength : AsksCount args "--max-length" 128 policy.maxLength
  history : AsksCount args "--history-count" 5 policy.passwordHistoryCount
  expiration : ∀ written, optionValue args "--expiration-days" = some written →
    ∃ days, policy.passwordExpirationDays = some days ∧
      parseU64 written = some days ∧ days < 2 ^ 32
  noExpiration : args.contains "--no-expiration" = true →
    policy.passwordExpirationDays = none
  unlimited : optionValue args "--expiration-days" = none →
    policy.passwordExpirationDays = none
  uppercase : AsksFlag args "--require-uppercase" "--no-uppercase" false
    policy.requireUppercase
  lowercase : AsksFlag args "--require-lowercase" "--no-lowercase" false
    policy.requireLowercase
  number : AsksFlag args "--require-number" "--no-number" false
    policy.requireNumber
  special : AsksFlag args "--require-special-character"
    "--no-special-character" false policy.requireSpecialCharacter
  change : AsksFlag args "--allow-password-change" "--no-password-change" true
    policy.allowPasswordChange
  reset : AsksFlag args "--allow-password-reset" "--no-password-reset" true
    policy.allowPasswordReset

/-- The arguments of `propose` ask for the change. -/
def Asks (changeType : String) (args : List String) : AuthorityChange → Prop
  | .protectRoute method path capability =>
      changeType = "protect-route" ∧
        (∃ written, optionValue args "--method" = some written ∧
          methodNamed written = .ok method) ∧
        optionValue args "--path" = some path ∧
        optionValue args "--capability" = some capability
  | .unprotectRoute method path =>
      changeType = "unprotect-route" ∧
        (∃ written, optionValue args "--method" = some written ∧
          methodNamed written = .ok method) ∧
        optionValue args "--path" = some path
  | .setCapabilityPolicy capability policy =>
      changeType = "set-policy" ∧
        optionValue args "--capability" = some capability ∧
        optionValue args "--policy" = some policy.id.value ∧ policy.rules = []
  | .setProviderEnabled provider enabled =>
      changeType = (if enabled then "enable-provider" else "disable-provider") ∧
        optionValue args "--provider" = some provider
  | .setPasswordPolicy policy =>
      changeType = "password-policy" ∧ AsksPolicy args policy
  | .revert _ => False

/-! ## What reaches the control plane -/

def Avoids (text : String) (words : List String) : Prop :=
  ∀ word ∈ words, ¬ word.toList <:+: text.toList

/-- The count is written as digits alone that 64 signed bits hold. -/
def PlainCount (written : String) (count : Nat) : Prop :=
  written.toList.head? ≠ some '+' ∧ count ≤ 9223372036854775807

structure PlainPolicy (args : List String) (policy : PasswordPolicy) : Prop where
  minLength : ∀ written, optionValue args "--min-length" = some written →
    PlainCount written policy.minLength ∨ policy.minLength = 12
  maxLength : ∀ written, optionValue args "--max-length" = some written →
    PlainCount written policy.maxLength ∨ policy.maxLength = 128
  history : ∀ written, optionValue args "--history-count" = some written →
    PlainCount written policy.passwordHistoryCount ∨
      policy.passwordHistoryCount = 5
  expiration : ∀ written, optionValue args "--expiration-days" = some written →
    written.toList.head? ≠ some '+'
  valid : policy.validate = .ok ()

/-- The arguments need no escape and are not taken for another change. -/
def PlainArguments (args : List String) : AuthorityChange → Prop
  | .protectRoute _ path capability =>
      NeedsNoEscape path ∧ NeedsNoEscape capability
  | .unprotectRoute _ _ => False
  | .setCapabilityPolicy capability policy =>
      NeedsNoEscape capability ∧ NeedsNoEscape policy.id.value ∧
        Avoids capability ["protect_route"] ∧
        Avoids policy.id.value ["protect_route"]
  | .setProviderEnabled provider enabled =>
      NeedsNoEscape provider ∧
        Avoids provider
          ["protect_route", "set_policy", "set_capability_policy"] ∧
        (enabled = false → Avoids provider ["enable_provider"])
  | .setPasswordPolicy policy => PlainPolicy args policy
  | .revert _ => False

/-! ## Quoted fields -/

def quoted (text : String) : JsonText := .string (spelling text)

theorem quoted_text (text : String) :
    String.ofList (quoted text).text = "\"" ++ escape text ++ "\"" := by
  apply String.toList_injective
  have mark : "\"".toList = ['"'] := rfl
  simp [quoted, JsonText.text, Spelling.quoted, spelling_text, mark]

theorem fieldText_quoted (field text : String) :
    fieldText (field, quoted text) = quotedField field text := by
  rw [fieldText, quoted_text, bareField, quotedField]
  apply String.toList_injective
  have opening : "\": \"".toList = "\": ".toList ++ "\"".toList := rfl
  simp [opening]

theorem fieldText_type {change : String} (plain : NeedsNoEscape change) :
    fieldText ("type", quoted change) = typeField change := by
  have unescaped : escape change = change := by
    apply String.toList_injective
    rw [← spelling_text, spelling_text_of_plain plain]
  rw [fieldText, quoted_text, unescaped, typeField]

theorem quoted_value (text : String) : (quoted text).value = .string text := by
  rw [quoted, JsonText.value, spelling_value, String.ofList_toList]

theorem unescaped_quoted_iff (text : String) :
    Unescaped (quoted text) ↔ NeedsNoEscape text :=
  spelling_raw_iff text

theorem mentions_quoted_iff {text : String} (plain : NeedsNoEscape text)
    (word : List Char) :
    Mentions word (quoted text).strings ↔ word <:+: text.toList := by
  rw [quoted, JsonText.strings, mentions_cons_iff,
    or_iff_left not_mentions_nil, spelling_text_of_plain plain]

theorem needsNoEscape_of_methodNamed {written : String} {method : Method}
    (named : methodNamed written = .ok method) : NeedsNoEscape written := by
  constructor
  · exact not_mem_of_methodNamed named (by decide)
      fun method => by cases method <;> decide
  · exact not_mem_of_methodNamed named (by decide)
      fun method => by cases method <;> decide

/-! ## Bodies as documents -/

/-- The body that proposes a change with the fields. -/
abbrev request (kind : String) (fields : List Field) : Document :=
  document ("type", quoted kind) fields

/-- The names of the fields differ and need no escape; the values are flat. -/
structure WellFormed (kind : String) (fields : List Field) : Prop where
  kindPlain : NeedsNoEscape kind
  plain : ∀ field ∈ fields, NeedsNoEscape field.1
  flat : ∀ field ∈ fields, field.2.entries = []
  nodup : ("type" :: fields.map Prod.fst).Nodup

namespace WellFormed

variable {kind : String} {fields : List Field}

theorem of_names (names : List String) (named : fields.map Prod.fst = names)
    (kindPlain : NeedsNoEscape kind)
    (plain : ∀ name ∈ names, NeedsNoEscape name)
    (nodup : ("type" :: names).Nodup)
    (flat : ∀ field ∈ fields, field.2.entries = []) :
    WellFormed kind fields where
  kindPlain := kindPlain
  plain field member := by
    apply plain
    rw [← named]
    exact List.mem_map_of_mem member
  flat := flat
  nodup := by rwa [named]

theorem allPlain (wellFormed : WellFormed kind fields) :
    ∀ field ∈ ("type", quoted kind) :: fields, NeedsNoEscape field.1 := by
  have typePlain : NeedsNoEscape "type" := by decide
  exact List.forall_mem_cons.mpr ⟨typePlain, wellFormed.plain⟩

theorem allFlat (wellFormed : WellFormed kind fields) :
    ∀ field ∈ ("type", quoted kind) :: fields, field.2.entries = [] :=
  List.forall_mem_cons.mpr ⟨rfl, wellFormed.flat⟩

theorem distinct (wellFormed : WellFormed kind fields) :
    (request kind fields).Distinct := by
  apply Document.distinct_of_value
  · rw [document_names wellFormed.allFlat]
    exact wellFormed.nodup
  · rw [document_names wellFormed.allFlat]
    intro name member
    obtain ⟨field, inside, rfl⟩ := List.mem_map.mp member
    exact (wellFormed.allPlain field inside).1

theorem stated (wellFormed : WellFormed kind fields) {field : Field}
    (member : field ∈ fields) :
    (field.1, field.2.value) ∈ (request kind fields).value.entries := by
  rw [document_stated wellFormed.allFlat]
  exact List.mem_cons_of_mem _ (List.mem_map_of_mem member)

theorem stated_quoted (wellFormed : WellFormed kind fields)
    {name text : String} (member : (name, quoted text) ∈ fields) :
    (name, .string text) ∈ (request kind fields).value.entries := by
  have stated := wellFormed.stated member
  rwa [quoted_value] at stated

/-- Nothing else is stated. -/
theorem unstated (wellFormed : WellFormed kind fields) {name : String}
    (other : name ≠ "type") (absent : name ∉ fields.map Prod.fst) :
    name ∉ (request kind fields).value.entries.map Prod.fst := by
  rw [document_names wellFormed.allFlat, List.map_cons, List.mem_cons, not_or]
  exact ⟨other, absent⟩

theorem shows_iff (wellFormed : WellFormed kind fields) {field : Field}
    (member : field ∈ fields) {holds : Entry → Prop} :
    (request kind fields).Shows field.1 holds ↔
      holds (fieldEntry [.space] field) :=
  document_shows_iff wellFormed.allFlat wellFormed.distinct member
    (wellFormed.plain field member)

theorem showsText_iff (wellFormed : WellFormed kind fields) (name text : String)
    (member : (name, quoted text) ∈ fields) :
    ShowsText (request kind fields) name ↔ NeedsNoEscape text := by
  rw [ShowsText, wellFormed.shows_iff member]
  exact unescaped_quoted_iff text

/-- A keyword is in the kind of the change, in a name or in a value. -/
theorem mentions_iff (wellFormed : WellFormed kind fields) (word : String) :
    Says (request kind fields) word ↔
      word.toList <:+: "type".toList ∨ word.toList <:+: kind.toList ∨
        ∃ field ∈ fields, word.toList <:+: field.1.toList ∨
          Mentions word.toList field.2.strings := by
  have typePlain : NeedsNoEscape "type" := by decide
  rw [document_says_iff, List.exists_mem_cons_iff,
    spelling_text_of_plain typePlain,
    mentions_quoted_iff wellFormed.kindPlain, or_assoc]
  refine or_congr_right (or_congr_right ?_)
  constructor
  · rintro ⟨field, member, said⟩
    rw [spelling_text_of_plain (wellFormed.plain field member)] at said
    exact ⟨field, member, said⟩
  · rintro ⟨field, member, said⟩
    rw [← spelling_text_of_plain (wellFormed.plain field member)] at said
    exact ⟨field, member, said⟩

/-- A keyword of none of the names is in a value or nowhere. -/
theorem not_says_iff (wellFormed : WellFormed kind fields)
    {names : List String} (named : fields.map Prod.fst = names)
    {word : String}
    (silent : ∀ text ∈ "type" :: kind :: names,
      ¬ word.toList <:+: text.toList) :
    ¬ Says (request kind fields) word ↔
      ∀ field ∈ fields, ¬ Mentions word.toList field.2.strings := by
  obtain ⟨notType, notOthers⟩ := List.forall_mem_cons.mp silent
  obtain ⟨notKind, notNames⟩ := List.forall_mem_cons.mp notOthers
  rw [← named] at notNames
  rw [wellFormed.mentions_iff, or_iff_right notType, or_iff_right notKind]
  constructor
  · intro unsaid field member said
    exact unsaid ⟨field, member, .inr said⟩
  · rintro unsaid ⟨field, member, inName | said⟩
    · exact notNames field.1 (List.mem_map_of_mem member) inName
    · exact unsaid field member said

theorem parse_iff (wellFormed : WellFormed kind fields)
    {change : AuthorityChange} (states : States (request kind fields) change)
    {body : String}
    (same : body = braced (typeField kind :: fields.map fieldText)) :
    parseAuthorityChange body = .ok change ↔
      Legible (request kind fields) change := by
  have text : body = String.ofList (request kind fields).text := by
    rw [document_text _ _ wellFormed.allPlain, String.ofList_toList,
      List.map_cons, fieldText_type wellFormed.kindPlain, same]
  rw [text]
  exact parseAuthorityChange_document_iff wellFormed.distinct states

end WellFormed

/-! ## Routes, policies and providers -/

theorem not_read_as_unprotectRoute (body : String) (method : Method)
    (path : String) :
    parseAuthorityChange body ≠ .ok (.unprotectRoute method path) := by
  intro read
  exact (parseAuthorityChange_eq_ok_iff body _).mp read

abbrev protectRouteFields (method path capability : String) : List Field :=
  [("method", quoted method), ("path", quoted path),
    ("capability", quoted capability)]

theorem protectRoute_parse_iff {args : List String} {changeType body : String}
    {method : Method} {path capability : String}
    (asks : Asks changeType args (.protectRoute method path capability))
    (built : proposalBody changeType args = .ok body) :
    parseAuthorityChange body = .ok (.protectRoute method path capability) ↔
      NeedsNoEscape path ∧ NeedsNoEscape capability := by
  obtain ⟨rfl, ⟨written, methodGiven, named⟩, pathGiven, capabilityGiven⟩ :=
    asks
  have wellFormed : WellFormed "protect_route"
      (protectRouteFields written path capability) :=
    .of_names ["method", "path", "capability"] rfl (by decide) (by decide)
      (by decide) (by simp [quoted, JsonText.entries])
  have states : States
      (request "protect_route" (protectRouteFields written path capability))
      (.protectRoute method path capability) :=
    ⟨⟨written, named, wellFormed.stated_quoted (by simp)⟩,
      wellFormed.stated_quoted (by simp), wellFormed.stated_quoted (by simp)⟩
  have same : body = braced (typeField "protect_route" ::
      (protectRouteFields written path capability).map fieldText) := by
    simp only [proposalBody, getOption, methodGiven, pathGiven,
      capabilityGiven, except_ok_bind] at built
    simp only [List.map_cons, List.map_nil, fieldText_quoted]
    exact (Except.ok.inj built).symm
  have said := (wellFormed.mentions_iff "protect_route").mpr
    (.inr (.inl (List.infix_refl _)))
  have plain := needsNoEscape_of_methodNamed named
  rw [wellFormed.parse_iff states same, Legible, SaysFirst, WritesPlainly,
    wellFormed.showsText_iff "method" written (by simp),
    wellFormed.showsText_iff "path" path (by simp),
    wellFormed.showsText_iff "capability" capability (by simp)]
  simp only [said, plain, true_and]

abbrev policyFields (capability policy : String) : List Field :=
  [("capability", quoted capability), ("policy", quoted policy)]

theorem setCapabilityPolicy_parse_iff {args : List String}
    {changeType body : String} {capability : String} {policy : Policy}
    (asks : Asks changeType args (.setCapabilityPolicy capability policy))
    (built : proposalBody changeType args = .ok body) :
    parseAuthorityChange body = .ok (.setCapabilityPolicy capability policy) ↔
      NeedsNoEscape capability ∧ NeedsNoEscape policy.id.value ∧
        Avoids capability ["protect_route"] ∧
        Avoids policy.id.value ["protect_route"] := by
  obtain ⟨rfl, capabilityGiven, policyGiven, withoutRules⟩ := asks
  have wellFormed : WellFormed "set_policy"
      (policyFields capability policy.id.value) :=
    .of_names ["capability", "policy"] rfl (by decide) (by decide)
      (by decide) (by simp [quoted, JsonText.entries])
  have states : States
      (request "set_policy" (policyFields capability policy.id.value))
      (.setCapabilityPolicy capability policy) :=
    ⟨wellFormed.stated_quoted (by simp), wellFormed.stated_quoted (by simp),
      withoutRules, wellFormed.unstated (by decide) (by simp),
      wellFormed.unstated (by decide) (by simp)⟩
  have same : body = braced (typeField "set_policy" ::
      (policyFields capability policy.id.value).map fieldText) := by
    simp only [proposalBody, getOption, capabilityGiven, policyGiven,
      except_ok_bind] at built
    simp only [List.map_cons, List.map_nil, fieldText_quoted]
    exact (Except.ok.inj built).symm
  have said := (wellFormed.mentions_iff "set_policy").mpr
    (.inr (.inl (List.infix_refl _)))
  rw [wellFormed.parse_iff states same, Legible, SaysFirst, WritesPlainly,
    wellFormed.not_says_iff (rfl : _ = ["capability", "policy"]) (by decide),
    wellFormed.showsText_iff "capability" capability (by simp),
    wellFormed.showsText_iff "policy" policy.id.value (by simp)]
  simp only [said, true_or, and_true, List.forall_mem_cons, Avoids,
    List.not_mem_nil, false_imp_iff, implies_true]
  constructor
  · rintro ⟨⟨inCapability, inPolicy⟩, capabilityPlain, policyPlain⟩
    rw [mentions_quoted_iff capabilityPlain] at inCapability
    rw [mentions_quoted_iff policyPlain] at inPolicy
    exact ⟨capabilityPlain, policyPlain, inCapability, inPolicy⟩
  · rintro ⟨capabilityPlain, policyPlain, inCapability, inPolicy⟩
    rw [← mentions_quoted_iff capabilityPlain] at inCapability
    rw [← mentions_quoted_iff policyPlain] at inPolicy
    exact ⟨⟨inCapability, inPolicy⟩, capabilityPlain, policyPlain⟩

abbrev providerFields (provider : String) (enabled : Bool) : List Field :=
  [("provider", quoted provider), ("enabled", .bool enabled)]

def providerKind (enabled : Bool) : String :=
  if enabled then "enable_provider" else "disable_provider"

theorem providerBody_wellFormed (provider : String) (enabled : Bool) :
    WellFormed (providerKind enabled) (providerFields provider enabled) :=
  .of_names ["provider", "enabled"] rfl (by cases enabled <;> decide)
    (by decide) (by decide) (by simp [quoted, JsonText.entries])

theorem proposalBody_provider {args : List String} {changeType body : String}
    {provider : String} {enabled : Bool}
    (asks : Asks changeType args (.setProviderEnabled provider enabled))
    (built : proposalBody changeType args = .ok body) :
    body = braced (typeField (providerKind enabled) ::
      (providerFields provider enabled).map fieldText) := by
  obtain ⟨rfl, given⟩ := asks
  simp only [List.map_cons, List.map_nil, fieldText_quoted]
  cases enabled with
  | true =>
      simp only [proposalBody, getOption, given, except_ok_bind, if_true]
        at built
      exact (Except.ok.inj built).symm
  | false =>
      simp only [proposalBody, getOption, given, except_ok_bind,
        Bool.false_eq_true, if_false] at built
      exact (Except.ok.inj built).symm

/-- A keyword of another change is in the name of the provider or nowhere. -/
theorem providerBody_not_says_iff {provider : String}
    (plain : NeedsNoEscape provider) (enabled : Bool) {word : String}
    (silent : ∀ text ∈ ["type", providerKind enabled, "provider", "enabled"],
      ¬ word.toList <:+: text.toList) :
    ¬ Says (request (providerKind enabled) (providerFields provider enabled))
        word ↔
      ¬ word.toList <:+: provider.toList := by
  have flag : ¬ Mentions word.toList (JsonText.bool enabled).strings :=
    not_mentions_nil
  rw [(providerBody_wellFormed provider enabled).not_says_iff
    (rfl : _ = ["provider", "enabled"]) silent]
  simp only [List.forall_mem_cons, List.not_mem_nil, false_imp_iff,
    implies_true, and_true, mentions_quoted_iff plain, flag,
    not_false_eq_true]

theorem providerBody_enabled_iff (provider : String) (enabled : Bool) :
    (request (providerKind enabled) (providerFields provider enabled)).Shows
        "enabled" (Literal (.bool true)) ↔
      enabled = true := by
  have member : ("enabled", JsonText.bool enabled) ∈
      providerFields provider enabled := by simp
  rw [(providerBody_wellFormed provider enabled).shows_iff member, Literal]
  cases enabled <;> simp [fieldEntry, key]

theorem setProviderEnabled_parse_iff {args : List String}
    {changeType body : String} {provider : String} {enabled : Bool}
    (asks : Asks changeType args (.setProviderEnabled provider enabled))
    (built : proposalBody changeType args = .ok body) :
    parseAuthorityChange body = .ok (.setProviderEnabled provider enabled) ↔
      NeedsNoEscape provider ∧
        Avoids provider
          ["protect_route", "set_policy", "set_capability_policy"] ∧
        (enabled = false → Avoids provider ["enable_provider"]) := by
  have wellFormed := providerBody_wellFormed provider enabled
  have states : States
      (request (providerKind enabled) (providerFields provider enabled))
      (.setProviderEnabled provider enabled) :=
    ⟨wellFormed.stated_quoted (by simp),
      wellFormed.stated
        (by simp : ("enabled", JsonText.bool enabled) ∈ _)⟩
  have said := (wellFormed.mentions_iff (providerKind enabled)).mpr
    (.inr (.inl (List.infix_refl _)))
  rw [wellFormed.parse_iff states (proposalBody_provider asks built), Legible,
    SaysFirst, WritesPlainly, providerBody_enabled_iff,
    wellFormed.showsText_iff "provider" provider (by simp)]
  by_cases plain : NeedsNoEscape provider
  · have unsaid : ∀ word ∈ ["protect_route", "set_policy",
        "set_capability_policy"],
        ¬ Says (request (providerKind enabled)
            (providerFields provider enabled)) word ↔
          ¬ word.toList <:+: provider.toList := by
      intro word member
      refine providerBody_not_says_iff plain enabled ?_
      revert word
      cases enabled <;> decide
    obtain ⟨protects, sets, setsCapability, -⟩ := by
      simpa only [List.forall_mem_cons] using unsaid
    simp only [protects, sets, setsCapability, plain, Avoids,
      List.forall_mem_cons, List.not_mem_nil, false_imp_iff, implies_true,
      and_true, true_and]
    cases enabled with
    | true =>
        have enables : Says (request (providerKind true)
            (providerFields provider true)) "enable_provider" := said
        simp only [enables, or_true, true_or, and_true, Bool.true_eq_false,
          false_imp_iff]
    | false =>
        have disables : Says (request (providerKind false)
            (providerFields provider false)) "disable_provider" := said
        have enables := providerBody_not_says_iff plain false
          (by decide : ∀ text ∈ ["type", providerKind false, "provider",
            "enabled"], ¬ "enable_provider".toList <:+: text.toList)
        simp only [disables, or_true, and_true, Bool.false_eq_true, false_or,
          false_iff, enables, forall_const]
  · simp only [plain, false_and, and_false]

end Cli

end AuthBoundry
