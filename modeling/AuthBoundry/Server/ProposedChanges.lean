import AuthBoundry.Server.CommandPolicies

/-!
# Proposed changes

The texts that stand for a change, and the bodies the command line builds for
it, are read as the change exactly when they are legible.  Asking to unprotect
a route never is.
-/

namespace AuthBoundry

open Library
open scoped Library.Listed

def WithoutRules : AuthorityChange → Prop
  | .setCapabilityPolicy _ policy => policy.rules = []
  | _ => True

/-- The names of the members of a change, in order. -/
def memberNames : AuthorityChange → List String
  | .protectRoute _ _ _ => ["type", "method", "path", "capability"]
  | .unprotectRoute _ _ => ["type", "method", "path"]
  | .setCapabilityPolicy _ _ => ["type", "capability", "policy"]
  | .setProviderEnabled _ _ => ["type", "provider", "enabled"]
  | .setPasswordPolicy _ =>
      ["type", "policy", "min_length", "max_length", "require_uppercase",
        "require_lowercase", "require_number", "require_special_character",
        "expiration_days", "history_count"]
  | .revert _ => ["type", "change_id"]

theorem passwordPolicy_entries (policy : PasswordPolicy) :
    (changeToJson (.setPasswordPolicy policy)).entries =
      [("type", .string "set_password_policy"),
        ("policy", passwordPolicyJsonValue policy),
        ("min_length", .number (asF64 policy.minLength)),
        ("max_length", .number (asF64 policy.maxLength)),
        ("require_uppercase", .bool policy.requireUppercase),
        ("require_lowercase", .bool policy.requireLowercase),
        ("require_number", .bool policy.requireNumber),
        ("require_special_character", .bool policy.requireSpecialCharacter),
        ("expiration_days",
          (policy.passwordExpirationDays.map
            fun days => JsonValue.number (asF64 days)).getD .null),
        ("history_count", .number (asF64 policy.passwordHistoryCount))] := by
  obtain ⟨_, _, _, _, _, _, expiration, _, _, _⟩ := policy
  cases expiration <;> rfl

theorem changeToJson_names (change : AuthorityChange) :
    (changeToJson change).entries.map Prod.fst = memberNames change := by
  cases change with
  | setPasswordPolicy policy =>
      rw [passwordPolicy_entries]
      rfl
  | _ => rfl

theorem memberNames_nodup (change : AuthorityChange) :
    (memberNames change).Nodup := by
  cases change <;> rw [memberNames] <;> decide

theorem memberNames_quoteless (change : AuthorityChange) :
    ∀ name ∈ memberNames change, '"' ∉ name.toList := by
  cases change <;> rw [memberNames] <;> decide

section Texts

variable {document : Document} {change : AuthorityChange}

theorem distinct_of_changeToJson
    (stands : document.value = changeToJson change) : document.Distinct := by
  apply Document.distinct_of_value
  · rw [stands, changeToJson_names]
    exact memberNames_nodup change
  · rw [stands, changeToJson_names]
    exact memberNames_quoteless change

theorem states_of_changeToJson (withoutRules : WithoutRules change)
    (stands : document.value = changeToJson change) :
    States document change := by
  have names : document.value.entries.map Prod.fst = memberNames change := by
    rw [stands, changeToJson_names]
  cases change with
  | protectRoute method path capability =>
      rw [States, stands]
      refine ⟨⟨method.asStr, methodNamed_asStr method, ?_⟩, ?_, ?_⟩ <;>
        simp [changeToJson, JsonValue.entries, JsonValue.memberEntries]
  | unprotectRoute method path => trivial
  | setCapabilityPolicy capability policy =>
      rw [States, names, stands, memberNames]
      refine ⟨?_, ?_, withoutRules, by decide, by decide⟩ <;>
        simp [changeToJson, JsonValue.entries, JsonValue.memberEntries]
  | setProviderEnabled provider enabled =>
      rw [States, stands]
      constructor <;>
        simp [changeToJson, JsonValue.entries, JsonValue.memberEntries]
  | setPasswordPolicy policy =>
      exact
        { uppercase := .inl (by simp [stands, passwordPolicy_entries])
          lowercase := .inl (by simp [stands, passwordPolicy_entries])
          number := .inl (by simp [stands, passwordPolicy_entries])
          special := .inl (by simp [stands, passwordPolicy_entries])
          change := .inr (by rw [names, memberNames]; decide)
          reset := .inr (by rw [names, memberNames]; decide)
          expires := fun days limit =>
            ⟨asF64 days, by simp [stands, passwordPolicy_entries, limit]⟩
          unlimited := fun limit =>
            .inl (by simp [stands, passwordPolicy_entries, limit])
          noOtherExpiration := by rw [names, memberNames]; decide
          noOtherHistory := by rw [names, memberNames]; decide }
  | revert changeId =>
      rw [States, stands]
      simp [changeToJson, JsonValue.entries, JsonValue.memberEntries]

theorem parseAuthorityChange_text_iff (withoutRules : WithoutRules change)
    (stands : document.value = changeToJson change) :
    parseAuthorityChange (String.ofList document.text) = .ok change ↔
      Legible document change :=
  parseAuthorityChange_document_iff (distinct_of_changeToJson stands)
    (states_of_changeToJson withoutRules stands)

end Texts

/-- A body of the command line is read as asked for when it needs no escape. -/
theorem Cli.parseAuthorityChange_body_iff {change : AuthorityChange}
    {changeType body : String} {args : List String}
    (asks : Cli.Asks changeType args change)
    (built : Cli.proposalBody changeType args = .ok body) :
    parseAuthorityChange body = .ok change ↔ Cli.PlainArguments args change := by
  cases change with
  | protectRoute method path capability =>
      exact Cli.protectRoute_parse_iff asks built
  | unprotectRoute method path =>
      exact iff_of_false (Cli.not_read_as_unprotectRoute body method path) id
  | setCapabilityPolicy capability policy =>
      exact Cli.setCapabilityPolicy_parse_iff asks built
  | setProviderEnabled provider enabled =>
      exact Cli.setProviderEnabled_parse_iff asks built
  | setPasswordPolicy policy => exact Cli.setPasswordPolicy_parse_iff asks built
  | revert changeId => exact asks.elim

/-! ## Both writers -/

/--
Whatever is written for a change is read as the change exactly when the text is
legible, and when the arguments it was built from are plain.
-/
theorem proposedChange_read_iff (change : AuthorityChange) :
    (∀ document : Document,
      WithoutRules change → document.value = changeToJson change →
        (parseAuthorityChange (String.ofList document.text) = .ok change ↔
          Legible document change)) ∧
      ∀ (changeType : String) (args : List String) (body : String),
        Cli.Asks changeType args change →
        Cli.proposalBody changeType args = .ok body →
          (parseAuthorityChange body = .ok change ↔
            Cli.PlainArguments args change) :=
  ⟨fun _ withoutRules stands =>
      parseAuthorityChange_text_iff withoutRules stands,
    fun _ _ _ asks built => Cli.parseAuthorityChange_body_iff asks built⟩

def compactKey (name : String) : KeyText :=
  { before := [], name := Cli.spelling name, gap := [], pad := [] }

/-- A request to enable a provider, written without any blank. -/
def compactEnable : Document :=
  { before := []
    body := .object <|
      .more (compactKey "type") (Cli.quoted "set_provider_enabled") [] <|
      .more (compactKey "provider") (Cli.quoted "password") [] <|
      .last (compactKey "enabled") (.bool true) []
    after := [] }

theorem compactEnable_value :
    compactEnable.value =
      changeToJson (.setProviderEnabled "password" true) := by
  simp [compactEnable, compactKey, Document.value, JsonText.value,
    MemberTexts.values, Cli.quoted_value, Cli.spelling_value, changeToJson]

theorem proposedChange_misread :
    (compactEnable.value = changeToJson (.setProviderEnabled "password" true) ∧
      parseAuthorityChange (String.ofList compactEnable.text) =
        .ok (.setProviderEnabled "password" false)) ∧
      ∃ body, Cli.proposalBody "unprotect-route"
          ["--method", "GET", "--path", "/admin"] = .ok body ∧
        parseAuthorityChange body = .error "missing capability" := by
  refine ⟨⟨compactEnable_value, ?_⟩, _, rfl, ?_⟩
  · rw [parseAuthorityChange_eq_ok_iff, String.toList_ofList, ReadAs]
    simp only [Bool.or_eq_true, ← Bool.not_eq_true, bodyContains_iff]
    exact ⟨by decide +kernel, by decide +kernel, by decide +kernel, rfl,
      by decide +kernel⟩
  · rfl

/-- A request to protect a route and one to enable a provider, as asked for. -/
theorem proposedChange_read :
    parseAuthorityChange (String.ofList (Cli.request "protect_route"
        (Cli.protectRouteFields "GET" "/reports" "read")).text) =
      .ok (.protectRoute .get "/reports" "read") ∧
      ∃ body, Cli.proposalBody "enable-provider" ["--provider", "password"] =
          .ok body ∧
        parseAuthorityChange body =
          .ok (.setProviderEnabled "password" true) := by
  have wellFormed : Cli.WellFormed "protect_route"
      (Cli.protectRouteFields "GET" "/reports" "read") :=
    .of_names ["method", "path", "capability"] rfl (by decide) (by decide)
      (by decide) (by simp [Cli.quoted, JsonText.entries])
  have stands : (Cli.request "protect_route"
      (Cli.protectRouteFields "GET" "/reports" "read")).value =
        changeToJson (.protectRoute .get "/reports" "read") := by
    simp [Cli.document, Document.value, JsonText.value, Cli.members_values,
      Cli.quoted_value, changeToJson, Method.asStr]
  have legible : Legible (Cli.request "protect_route"
      (Cli.protectRouteFields "GET" "/reports" "read"))
      (.protectRoute .get "/reports" "read") :=
    ⟨(wellFormed.mentions_iff "protect_route").mpr
        (.inr (.inl (List.infix_refl _))),
      (wellFormed.showsText_iff "method" "GET" (by simp)).mpr (by decide),
      (wellFormed.showsText_iff "path" "/reports" (by simp)).mpr (by decide),
      (wellFormed.showsText_iff "capability" "read" (by simp)).mpr (by decide)⟩
  have avoids : Cli.Avoids "password"
      ["protect_route", "set_policy", "set_capability_policy"] := by
    rw [Cli.Avoids]
    decide
  refine ⟨((proposedChange_read_iff
      (.protectRoute .get "/reports" "read")).1 _ trivial stands).mpr legible,
    _, rfl, ((proposedChange_read_iff
      (.setProviderEnabled "password" true)).2 "enable-provider"
      ["--provider", "password"] _ ⟨rfl, rfl⟩ rfl).mpr
      ⟨by decide, avoids, ?_⟩⟩
  intro impossible
  cases impossible

end AuthBoundry
