import AuthBoundry.Server.ChangeJson
import AuthBoundry.Server.FieldReadings

/-!
# Which change a body is read as

Every way of reading a body is inverted once.  A text that stands for a change
is then read as that change exactly when it is legible: the keyword of the
change is the first that any string is spelled with, and the members are
written the way the reader searches for them.
-/

namespace AuthBoundry

open Library
open scoped Library.Listed

/-! ## The reader inverted -/

theorem requireField_eq_ok_iff {body : List Char} {field value : String} :
    requireField body field = .ok value ↔
      extractQuotedField body field = some value := by
  rw [requireField]
  cases extractQuotedField body field <;> simp

def ReadAs (body : List Char) : AuthorityChange → Prop
  | .protectRoute method path capability =>
      bodyContains body "protect_route" = true ∧
        (∃ written, extractQuotedField body "method" = some written ∧
          methodNamed written = .ok method) ∧
        extractQuotedField body "path" = some path ∧
        extractQuotedField body "capability" = some capability
  | .unprotectRoute _ _ => False
  | .setCapabilityPolicy capability policy =>
      bodyContains body "protect_route" = false ∧
        (bodyContains body "set_policy" ||
          bodyContains body "set_capability_policy") = true ∧
        extractQuotedField body "capability" = some capability ∧
        extractQuotedField body "policy" = some policy.id.value ∧
        policy.rules = rulesOfRoles capability
          ((extractQuotedField body "roles").or
            (extractQuotedField body "role"))
  | .setProviderEnabled provider enabled =>
      bodyContains body "protect_route" = false ∧
        (bodyContains body "set_policy" ||
          bodyContains body "set_capability_policy") = false ∧
        (bodyContains body "set_provider_enabled" ||
          bodyContains body "enable_provider" ||
          bodyContains body "disable_provider") = true ∧
        extractQuotedField body "provider" = some provider ∧
        (bodyContains body "\"enabled\": true" ||
          bodyContains body "enable_provider") = enabled
  | .setPasswordPolicy policy =>
      bodyContains body "protect_route" = false ∧
        (bodyContains body "set_policy" ||
          bodyContains body "set_capability_policy") = false ∧
        (bodyContains body "set_provider_enabled" ||
          bodyContains body "enable_provider" ||
          bodyContains body "disable_provider") = false ∧
        bodyContains body "password_policy" = true ∧
        passwordPolicyFromBody body = .ok policy
  | .revert changeId =>
      bodyContains body "protect_route" = false ∧
        (bodyContains body "set_policy" ||
          bodyContains body "set_capability_policy") = false ∧
        (bodyContains body "set_provider_enabled" ||
          bodyContains body "enable_provider" ||
          bodyContains body "disable_provider") = false ∧
        bodyContains body "password_policy" = false ∧
        bodyContains body "revert" = true ∧
        extractQuotedField body "change_id" = some changeId

theorem bodyContains_of_infix {body : List Char} {shorter longer : String}
    (inside : shorter.toList <:+: longer.toList)
    (found : bodyContains body longer = true) :
    bodyContains body shorter = true :=
  (bodyContains_iff body shorter).mpr
    (inside.trans ((bodyContains_iff body longer).mp found))

theorem parseAuthorityChange_eq_ok_iff (request : String)
    (change : AuthorityChange) :
    parseAuthorityChange request = .ok change ↔
      ReadAs request.toList change := by
  have shadowed : bodyContains request.toList "unprotect_route" = true →
      bodyContains request.toList "protect_route" = true :=
    bodyContains_of_infix (by decide)
  have covered : bodyContains request.toList "set_password_policy" = true →
      bodyContains request.toList "password_policy" = true :=
    bodyContains_of_infix (by decide)
  rw [parseAuthorityChange]
  generalize request.toList = body at shadowed covered ⊢
  cases protects : bodyContains body "protect_route" with
  | true =>
      simp only [if_true, except_bind_eq_ok_iff, requireField_eq_ok_iff]
      cases change <;> simp [ReadAs, protects, pure, Except.pure]
  | false =>
      have unprotects : bodyContains body "unprotect_route" = false :=
        Bool.eq_false_iff.mpr fun found => by
          rw [protects] at shadowed
          exact absurd (shadowed found) Bool.false_ne_true
      cases policies : bodyContains body "set_policy" ||
          bodyContains body "set_capability_policy" with
      | true =>
          simp only [unprotects, if_true, Bool.false_eq_true, if_false,
            except_bind_eq_ok_iff, requireField_eq_ok_iff]
          cases change with
          | setCapabilityPolicy capability policy =>
              obtain ⟨⟨policyId⟩, rules⟩ := policy
              simp [ReadAs, protects, policies, pure, Except.pure, eq_comm]
          | _ => simp [ReadAs, protects, policies, pure, Except.pure]
      | false =>
          cases providers : bodyContains body "set_provider_enabled" ||
              bodyContains body "enable_provider" ||
              bodyContains body "disable_provider" with
          | true =>
              simp only [unprotects, if_true, Bool.false_eq_true, if_false,
                except_bind_eq_ok_iff, requireField_eq_ok_iff]
              cases change <;> simp [ReadAs, protects, policies, providers,
                pure, Except.pure]
          | false =>
              have passwords : (bodyContains body "password_policy" ||
                  bodyContains body "set_password_policy") =
                    bodyContains body "password_policy" :=
                Bool.or_eq_left_iff_imp.mpr covered
              simp only [unprotects, passwords, Bool.false_eq_true, if_false]
              cases password : bodyContains body "password_policy" with
              | true =>
                  simp only [if_true, except_bind_eq_ok_iff]
                  cases change <;> simp [ReadAs, protects, policies, providers,
                    password, pure, Except.pure]
              | false =>
                  cases reverts : bodyContains body "revert" with
                  | true =>
                      simp only [if_true, if_false, Bool.false_eq_true,
                        except_bind_eq_ok_iff, requireField_eq_ok_iff]
                      cases change <;> simp [ReadAs, protects, policies,
                        providers, password, reverts, pure, Except.pure]
                  | false =>
                      cases change <;> simp [ReadAs, protects, policies,
                        providers, password, reverts]

/-! ## Password policies inverted -/

theorem passwordPolicyFromBody_eq_ok_iff (body : List Char)
    (policy : PasswordPolicy) :
    passwordPolicyFromBody body = .ok policy ↔
      countOr (extractNumberField body "min_length") (2 ^ 64)
          "invalid min_length" 12 = .ok policy.minLength ∧
        countOr (extractNumberField body "max_length") (2 ^ 64)
          "invalid max_length" 128 = .ok policy.maxLength ∧
        expirationDays body = .ok policy.passwordExpirationDays ∧
        countOr ((extractNumberField body "history_count").or
            (extractNumberField body "password_history_count")) (2 ^ 64)
          "invalid history_count" 5 = .ok policy.passwordHistoryCount ∧
        ((extractBoolField body "require_uppercase").getD false =
            policy.requireUppercase ∧
          (extractBoolField body "require_lowercase").getD false =
            policy.requireLowercase ∧
          (extractBoolField body "require_number").getD false =
            policy.requireNumber ∧
          (extractBoolField body "require_special_character").getD false =
            policy.requireSpecialCharacter ∧
          (extractBoolField body "allow_password_change").getD true =
            policy.allowPasswordChange ∧
          (extractBoolField body "allow_password_reset").getD true =
            policy.allowPasswordReset) ∧
        policy.validate = .ok () := by
  simp only [passwordPolicyFromBody, except_bind_eq_ok_iff,
    except_mapError_eq_ok_iff, PasswordPolicy.default]
  constructor
  · rintro ⟨minLength, minimum, maxLength, maximum, days, expires, count,
      history, done, valid, same⟩
    obtain rfl := Except.ok.inj same
    exact ⟨minimum, maximum, expires, history, ⟨rfl, rfl, rfl, rfl, rfl, rfl⟩,
      valid⟩
  · rintro ⟨minimum, maximum, expires, history,
      ⟨upper, lower, number, special, changes, resets⟩, valid⟩
    refine ⟨_, minimum, _, maximum, _, expires, _, history, (), ?_, ?_⟩
    · rw [upper, lower, number, special, changes, resets]
      exact valid
    · rw [upper, lower, number, special, changes, resets]
      rfl

/-! ## Methods inverted -/

theorem methodNamed_eq_ok {written : String} {method : Method}
    (named : methodNamed written = .ok method) :
    toAsciiUppercase written = some method.asStr := by
  rw [methodNamed] at named
  split at named
  case h_8 => cases named
  all_goals
    obtain rfl := Except.ok.inj named
    assumption

theorem methodNamed_asStr (method : Method) :
    methodNamed method.asStr = .ok method := by
  cases method <;> rfl

theorem not_mem_of_methodNamed {written : String} {method : Method}
    (named : methodNamed written = .ok method) {character : Char}
    (caseless : upperAscii character = some [character])
    (absent : ∀ method : Method, character ∉ method.asStr.toList) :
    character ∉ written.toList := by
  have upper := methodNamed_eq_ok named
  rw [toAsciiUppercase] at upper
  obtain ⟨pieces, mapped, same⟩ := Option.map_eq_some_iff.mp upper
  have flat : pieces.flatten = method.asStr.toList := by
    rw [← same, String.toList_ofList]
  have inPieces : ∀ (text : List Char) (pieces : List (List Char)),
      text.mapM upperAscii = some pieces → character ∈ text →
        [character] ∈ pieces := by
    intro text
    induction text with
    | nil => exact fun pieces _ member => absurd member List.not_mem_nil
    | cons first text inductionHypothesis =>
        intro pieces mapped member
        rw [List.mapM_cons] at mapped
        obtain ⟨head, headUpper, rest⟩ := Option.bind_eq_some_iff.mp mapped
        obtain ⟨tail, tailUpper, equal⟩ := Option.bind_eq_some_iff.mp rest
        obtain rfl := Option.some.inj equal
        rcases List.mem_cons.mp member with rfl | later
        · rw [caseless] at headUpper
          obtain rfl := Option.some.inj headUpper
          exact List.mem_cons_self
        · exact List.mem_cons_of_mem _
            (inductionHypothesis tail tailUpper later)
  intro member
  apply absent method
  rw [← flat]
  exact List.mem_flatten_of_mem (inPieces _ _ mapped member)
    (List.mem_singleton.mpr rfl)

/-! ## Members of a document -/

/-- No character of the string is escaped. -/
def Unescaped : JsonText → Prop
  | .string spelling => spelling.Raw
  | _ => False

section Members

variable {document : Document}

/-- The member of that name is written plainly, and so is its string. -/
def ShowsText (document : Document) (field : String) : Prop :=
  document.Shows field fun entry => Unescaped entry.value

/-- Some string is spelled with the word. -/
def Says (document : Document) (word : String) : Prop :=
  Mentions word.toList document.strings

theorem exists_string {text : JsonText} {value : String}
    (stands : text.value = .string value) :
    ∃ spelling : Spelling, text = .string spelling ∧
      String.ofList spelling.value = value := by
  cases text with
  | string spelling =>
      rw [JsonText.value] at stands
      exact ⟨spelling, rfl, JsonValue.string.inj stands⟩
  | _ => simp [JsonText.value] at stands

/-- A string is read as what it stands for when nothing in it is escaped. -/
theorem quotedText_eq_some_iff {text : JsonText} {value : String}
    (stands : text.value = .string value) :
    quotedText text = some value ↔ Unescaped text := by
  obtain ⟨spelling, rfl, rfl⟩ := exists_string stands
  rw [quotedText, Option.some_inj, String.ofList_inj,
    Spelling.upToQuote_text_iff, Unescaped]

theorem extractQuotedField_stated_iff (distinct : document.Distinct)
    {field : String} (isField : IsField field) {value : String}
    (stated : (field, .string value) ∈ document.value.entries) :
    extractQuotedField document.text field = some value ↔
      ShowsText document field := by
  rw [extractQuotedField_eq_some_iff distinct isField]
  exact Document.shows_congr_of_stated distinct stated
    fun entry stands => quotedText_eq_some_iff stands

theorem exists_methodNamed_iff (distinct : document.Distinct)
    {written : String} {method : Method}
    (named : methodNamed written = .ok method)
    (stated : ("method", .string written) ∈ document.value.entries) :
    (∃ read, extractQuotedField document.text "method" = some read ∧
        methodNamed read = .ok method) ↔
      ShowsText document "method" := by
  have isField : IsField "method" := by decide
  constructor
  · rintro ⟨read, extracted, methodRead⟩
    have shown := (extractQuotedField_eq_some_iff distinct isField read).mp
      extracted
    refine shown.imp_of_stated distinct stated fun entry stands equal => ?_
    obtain ⟨spelling, same, -⟩ := exists_string stands
    rw [same, quotedText, Option.some_inj] at equal
    have slashless : '\\' ∉ read.toList :=
      not_mem_of_methodNamed methodRead (by decide)
        (fun method => by cases method <;> decide)
    rw [← equal, String.toList_ofList] at slashless
    rw [same]
    exact Spelling.raw_of_slashless_upToQuote slashless
  · intro shown
    exact ⟨written,
      (extractQuotedField_stated_iff distinct isField stated).mpr shown, named⟩

theorem extractQuotedField_unstated (distinct : document.Distinct)
    {field : String} (isField : IsField field)
    (unstated : field ∉ document.value.entries.map Prod.fst) :
    extractQuotedField document.text field = none := by
  refine Option.eq_none_iff_forall_ne_some.mpr fun value read => ?_
  exact Document.not_shows_of_unstated unstated
    ((extractQuotedField_eq_some_iff distinct isField value).mp read)

theorem extractNumberField_unstated (distinct : document.Distinct)
    {field : String} (isField : IsField field)
    (unstated : field ∉ document.value.entries.map Prod.fst) :
    extractNumberField document.text field = none := by
  refine Option.eq_none_iff_forall_ne_some.mpr fun value read => ?_
  exact Document.not_shows_of_unstated unstated
    ((extractNumberField_eq_some_iff distinct isField value).mp read)

theorem extractBoolField_unstated (distinct : document.Distinct)
    {field : String} (isField : IsField field)
    (unstated : field ∉ document.value.entries.map Prod.fst) :
    extractBoolField document.text field = none := by
  refine Option.eq_none_iff_forall_ne_some.mpr fun value read => ?_
  exact Document.not_shows_of_unstated unstated
    ((extractBoolField_eq_some_iff distinct isField value).mp read)

/-- The member of that name is written plainly. -/
def ShowsPlainly (document : Document) (field : String) : Prop :=
  document.Shows field fun _ => True

/-- A flag is read, or it is the one that stands without being read. -/
theorem extractBoolField_stated_iff (distinct : document.Distinct)
    {field : String} (isField : IsField field) {value : Bool}
    (stated : (field, .bool value) ∈ document.value.entries) (unset : Bool) :
    (extractBoolField document.text field).getD unset = value ↔
      ShowsPlainly document field ∨ value = unset := by
  have isBool : ∀ entry : Entry, entry.value.value = .bool value →
      boolText entry.value = some value := by
    intro entry stands
    cases same : entry.value with
    | bool found =>
        rw [same, JsonText.value] at stands
        exact congrArg some (JsonValue.bool.inj stands)
    | _ => simp [same, JsonText.value] at stands
  have shown : ShowsPlainly document field ↔
      extractBoolField document.text field = some value := by
    rw [extractBoolField_eq_some_iff distinct isField]
    exact Document.shows_congr_of_stated distinct stated
      fun entry stands => by simp [isBool entry stands]
  cases read : extractBoolField document.text field with
  | none =>
      rw [read] at shown
      simp [shown, eq_comm]
  | some found =>
      have isFound := (extractBoolField_eq_some_iff distinct isField found).mp
        read
      have foundValue : found = value := by
        have same : document.Shows field fun _ => found = value :=
          isFound.imp_of_stated distinct stated fun entry stands equal => by
            rw [isBool entry stands] at equal
            exact (Option.some.inj equal).symm
        obtain ⟨_, _, _, _, equal⟩ := same
        exact equal
      rw [read, foundValue] at shown
      simp [shown, foundValue]

theorem not_showsPlainly_of_unstated {field : String}
    (unstated : field ∉ document.value.entries.map Prod.fst) :
    ¬ ShowsPlainly document field :=
  Document.not_shows_of_unstated unstated

def StatesFlag (document : Document) (field : String) (value : Bool) : Prop :=
  (field, .bool value) ∈ document.value.entries ∨
    field ∉ document.value.entries.map Prod.fst

theorem extractBoolField_getD_iff (distinct : document.Distinct)
    {field : String} (isField : IsField field) {value : Bool}
    (states : StatesFlag document field value) (unset : Bool) :
    (extractBoolField document.text field).getD unset = value ↔
      ShowsPlainly document field ∨ value = unset := by
  rcases states with stated | unstated
  · exact extractBoolField_stated_iff distinct isField stated unset
  · rw [extractBoolField_unstated distinct isField unstated]
    simp [not_showsPlainly_of_unstated unstated, eq_comm]

/-- The count is read, or it is the one that stands when none is read. -/
def Tells (document : Document) (field : String) (unset count : Nat) : Prop :=
  (document.Shows field fun entry =>
      numberText entry.value = some (count : ℤ)) ∨
    (∀ read : ℤ, ¬ document.Shows field fun entry =>
      numberText entry.value = some read) ∧ count = unset

theorem numberText_le {text : JsonText} {read : ℤ}
    (reads : numberText text = some read) : read ≤ 9223372036854775807 := by
  cases text with
  | number numeral =>
      simp only [numberText, wholePart] at reads
      split at reads
      · cases reads
      · split at reads
        · next bounds =>
            obtain rfl := Option.some.inj reads
            exact bounds.2
        · cases reads
  | _ => cases reads

theorem countOr_eq_ok_iff (distinct : document.Distinct)
    {field : String} (isField : IsField field) (error : String)
    (unset count : Nat) :
    countOr (extractNumberField document.text field) (2 ^ 64) error unset =
        .ok count ↔
      Tells document field unset count := by
  cases read : extractNumberField document.text field with
  | none =>
      have unread : ∀ value : ℤ, ¬ document.Shows field fun entry =>
          numberText entry.value = some value := by
        intro value shown
        rw [← extractNumberField_eq_some_iff distinct isField, read] at shown
        cases shown
      simp [countOr, Tells, unread, eq_comm]
  | some value =>
      have shown := (extractNumberField_eq_some_iff distinct isField value).mp
        read
      have bound : value ≤ 9223372036854775807 := by
        obtain ⟨entry, -, -, -, reads⟩ := shown
        exact numberText_le reads
      have told : Tells document field unset count ↔ value = count := by
        rw [Tells, ← extractNumberField_eq_some_iff distinct isField, read,
          Option.some_inj]
        constructor
        · rintro (same | ⟨unread, -⟩)
          · exact same
          · exact absurd shown (unread value)
        · exact .inl
      rw [told, countOr]
      split
      · next bounds =>
          rw [Except.ok.injEq]
          omega
      · next outside =>
          constructor
          · intro impossible
            cases impossible
          · intro same
            omega

theorem expirationDays_none (distinct : document.Distinct)
    (unread : extractNumberField document.text "expiration_days" = none)
    (unstated : "password_expiration_days" ∉
      document.value.entries.map Prod.fst) :
    expirationDays document.text = .ok none := by
  have isOther : IsField "password_expiration_days" := by decide
  have alsoUnread := extractNumberField_unstated distinct isOther unstated
  rw [expirationDays, unread, alsoUnread]
  split <;> rfl

theorem exists_numeral {text : JsonText} {value : ℚ}
    (stands : text.value = .number value) :
    ∃ numeral : Numeral, text = .number numeral := by
  cases text with
  | number numeral => exact ⟨numeral, rfl⟩
  | _ => simp [JsonText.value] at stands

theorem expirationDays_some_iff (distinct : document.Distinct) {value : ℚ}
    (stated : ("expiration_days", .number value) ∈ document.value.entries)
    (unstated : "password_expiration_days" ∉
      document.value.entries.map Prod.fst) (days : Nat) :
    expirationDays document.text = .ok (some days) ↔
      (document.Shows "expiration_days" fun entry =>
        numberText entry.value = some (days : ℤ)) ∧ days < 2 ^ 32 := by
  have isField : IsField "expiration_days" := by decide
  have isOther : IsField "password_expiration_days" := by decide
  have alsoUnread := extractNumberField_unstated distinct isOther unstated
  have notNull : bodyContains document.text "\"expiration_days\": null" =
      false := by
    refine Bool.eq_false_iff.mpr fun found => ?_
    have shown := (bodyContains_literal_iff distinct isField (.inl rfl)
      (by decide)).mp found
    have impossible : document.Shows "expiration_days" fun _ => False :=
      shown.imp_of_stated distinct stated fun entry stands literal => by
        obtain ⟨numeral, same⟩ := exists_numeral stands
        have isNull : entry.value = .null := literal.2
        rw [same] at isNull
        cases isNull
    obtain ⟨_, _, _, _, contradiction⟩ := impossible
    exact contradiction
  have notNullEither :
      bodyContains document.text "\"password_expiration_days\": null" =
        false := by
    refine Bool.eq_false_iff.mpr fun found => ?_
    exact Document.not_shows_of_unstated unstated
      ((bodyContains_literal_iff distinct isOther (.inl rfl)
        (by decide)).mp found)
  rw [expirationDays, notNull, notNullEither, alsoUnread, Option.or_none,
    ← extractNumberField_eq_some_iff distinct isField]
  cases read : extractNumberField document.text "expiration_days" with
  | none => simp [PasswordPolicy.default]
  | some found =>
      simp only [Bool.or_self, Bool.false_eq_true, if_false, countOr]
      split
      · next bounds =>
          change Except.ok (some found.toNat) = Except.ok (some days) ↔ _
          rw [Except.ok.injEq, Option.some_inj, Option.some_inj]
          omega
      · next outside =>
          change Except.error _ = Except.ok _ ↔ _
          rw [Option.some_inj]
          constructor
          · intro impossible
            cases impossible
          · rintro ⟨rfl, small⟩
            omega

end Members

/-! ## Legible documents -/

section Legible

variable {document : Document}

/-- The words that decide which change is read. -/
def changeKeywords : List String :=
  ["protect_route", "set_policy", "set_capability_policy",
    "set_provider_enabled", "enable_provider", "disable_provider",
    "password_policy", "revert"]

theorem keyword_of_mem {word : String} (member : word ∈ changeKeywords) :
    Keyword word.toList := by
  have lettered : ∀ word ∈ changeKeywords, Lettered word.toList := by decide
  have notNull : ∀ word ∈ changeKeywords,
      ¬ word.toList <:+: JsonText.null.text := by decide
  have notBool : ∀ word ∈ changeKeywords, ∀ value,
      ¬ word.toList <:+: (JsonText.bool value).text := by decide
  have notNumber : ∀ word ∈ changeKeywords, ∃ character ∈ word.toList,
      character ∉ numeralChars := by decide
  exact ⟨lettered word member, notNull word member, notBool word member,
    notNumber word member⟩

theorem bodyContains_iff_says {word : String}
    (member : word ∈ changeKeywords) :
    bodyContains document.text word = true ↔ Says document word :=
  bodyContains_keyword_iff (keyword_of_mem member)

theorem bodyContains_eq_false_iff {word : String}
    (member : word ∈ changeKeywords) :
    bodyContains document.text word = false ↔ ¬ Says document word := by
  rw [← bodyContains_iff_says member, Bool.not_eq_true]

/-- The members that a change needs, as far as the data has them. -/
structure StatesPolicy (document : Document) (policy : PasswordPolicy) :
    Prop where
  uppercase :
    StatesFlag document "require_uppercase" policy.requireUppercase
  lowercase :
    StatesFlag document "require_lowercase" policy.requireLowercase
  number : StatesFlag document "require_number" policy.requireNumber
  special : StatesFlag document "require_special_character"
    policy.requireSpecialCharacter
  change :
    StatesFlag document "allow_password_change" policy.allowPasswordChange
  reset :
    StatesFlag document "allow_password_reset" policy.allowPasswordReset
  expires : ∀ days, policy.passwordExpirationDays = some days →
    ∃ value, ("expiration_days", .number value) ∈ document.value.entries
  unlimited : policy.passwordExpirationDays = none →
    ("expiration_days", .null) ∈ document.value.entries ∨
      "expiration_days" ∉ document.value.entries.map Prod.fst
  noOtherExpiration :
    "password_expiration_days" ∉ document.value.entries.map Prod.fst
  noOtherHistory :
    "password_history_count" ∉ document.value.entries.map Prod.fst

/-- The data has what the change needs, under the names of the change. -/
def States (document : Document) : AuthorityChange → Prop
  | .protectRoute method path capability =>
      (∃ written, methodNamed written = .ok method ∧
        ("method", .string written) ∈ document.value.entries) ∧
        ("path", .string path) ∈ document.value.entries ∧
        ("capability", .string capability) ∈ document.value.entries
  | .unprotectRoute _ _ => True
  | .setCapabilityPolicy capability policy =>
      ("capability", .string capability) ∈ document.value.entries ∧
        ("policy", .string policy.id.value) ∈ document.value.entries ∧
        policy.rules = [] ∧
        "roles" ∉ document.value.entries.map Prod.fst ∧
        "role" ∉ document.value.entries.map Prod.fst
  | .setProviderEnabled provider enabled =>
      ("provider", .string provider) ∈ document.value.entries ∧
        ("enabled", .bool enabled) ∈ document.value.entries
  | .setPasswordPolicy policy => StatesPolicy document policy
  | .revert changeId =>
      ("change_id", .string changeId) ∈ document.value.entries

/-- The password policy a text stands for is the one that is read from it. -/
structure LegiblePolicy (document : Document) (policy : PasswordPolicy) :
    Prop where
  minLength : Tells document "min_length" 12 policy.minLength
  maxLength : Tells document "max_length" 128 policy.maxLength
  expiration : ∀ days, policy.passwordExpirationDays = some days →
    (document.Shows "expiration_days" fun entry =>
      numberText entry.value = some (days : ℤ)) ∧ days < 2 ^ 32
  history : Tells document "history_count" 5 policy.passwordHistoryCount
  uppercase : ShowsPlainly document "require_uppercase" ∨
    policy.requireUppercase = false
  lowercase : ShowsPlainly document "require_lowercase" ∨
    policy.requireLowercase = false
  number : ShowsPlainly document "require_number" ∨
    policy.requireNumber = false
  special : ShowsPlainly document "require_special_character" ∨
    policy.requireSpecialCharacter = false
  change : ShowsPlainly document "allow_password_change" ∨
    policy.allowPasswordChange = true
  reset : ShowsPlainly document "allow_password_reset" ∨
    policy.allowPasswordReset = true
  valid : policy.validate = .ok ()

/-- The first keyword that is said belongs to the change, of those in order. -/
def SaysFirst (document : Document) : AuthorityChange → Prop
  | .protectRoute _ _ _ => Says document "protect_route"
  | .unprotectRoute _ _ => False
  | .setCapabilityPolicy _ _ =>
      ¬ Says document "protect_route" ∧
        (Says document "set_policy" ∨ Says document "set_capability_policy")
  | .setProviderEnabled _ _ =>
      ¬ Says document "protect_route" ∧ ¬ Says document "set_policy" ∧
        ¬ Says document "set_capability_policy" ∧
        (Says document "set_provider_enabled" ∨
          Says document "enable_provider" ∨ Says document "disable_provider")
  | .setPasswordPolicy _ =>
      ¬ Says document "protect_route" ∧ ¬ Says document "set_policy" ∧
        ¬ Says document "set_capability_policy" ∧
        ¬ Says document "set_provider_enabled" ∧
        ¬ Says document "enable_provider" ∧
        ¬ Says document "disable_provider" ∧ Says document "password_policy"
  | .revert _ =>
      ¬ Says document "protect_route" ∧ ¬ Says document "set_policy" ∧
        ¬ Says document "set_capability_policy" ∧
        ¬ Says document "set_provider_enabled" ∧
        ¬ Says document "enable_provider" ∧
        ¬ Says document "disable_provider" ∧
        ¬ Says document "password_policy" ∧ Says document "revert"

/-- The members of the change are written the way they are searched for. -/
def WritesPlainly (document : Document) : AuthorityChange → Prop
  | .protectRoute _ _ _ =>
      ShowsText document "method" ∧ ShowsText document "path" ∧
        ShowsText document "capability"
  | .unprotectRoute _ _ => True
  | .setCapabilityPolicy _ _ =>
      ShowsText document "capability" ∧ ShowsText document "policy"
  | .setProviderEnabled _ enabled =>
      ShowsText document "provider" ∧
        (enabled = true ↔
          document.Shows "enabled" (Literal (.bool true)) ∨
            Says document "enable_provider")
  | .setPasswordPolicy policy => LegiblePolicy document policy
  | .revert _ => ShowsText document "change_id"

/-- What the reader needs of a text that states a change. -/
def Legible (document : Document) (change : AuthorityChange) : Prop :=
  SaysFirst document change ∧ WritesPlainly document change

theorem passwordPolicyFromBody_iff (distinct : document.Distinct)
    {policy : PasswordPolicy} (states : StatesPolicy document policy) :
    passwordPolicyFromBody document.text = .ok policy ↔
      LegiblePolicy document policy := by
  have noHistory := extractNumberField_unstated distinct
    (by decide : IsField "password_history_count") states.noOtherHistory
  have expiration : expirationDays document.text =
      .ok policy.passwordExpirationDays ↔
        ∀ days, policy.passwordExpirationDays = some days →
          (document.Shows "expiration_days" fun entry =>
            numberText entry.value = some (days : ℤ)) ∧ days < 2 ^ 32 := by
    cases limit : policy.passwordExpirationDays with
    | none =>
        have unread :
            extractNumberField document.text "expiration_days" = none := by
          refine Option.eq_none_iff_forall_ne_some.mpr fun value read => ?_
          have shown := (extractNumberField_eq_some_iff distinct (by decide)
            value).mp read
          rcases states.unlimited limit with stated | unstated
          · have impossible : document.Shows "expiration_days" fun _ => False :=
              shown.imp_of_stated distinct stated fun entry stands reads => by
                cases same : entry.value with
                | number numeral => simp [same, JsonText.value] at stands
                | _ => simp [same, numberText] at reads
            obtain ⟨_, _, _, _, contradiction⟩ := impossible
            exact contradiction
          · exact Document.not_shows_of_unstated unstated shown
        rw [expirationDays_none distinct unread states.noOtherExpiration]
        simp
    | some days =>
        obtain ⟨value, stated⟩ := states.expires days limit
        rw [expirationDays_some_iff distinct stated states.noOtherExpiration]
        simp
  rw [passwordPolicyFromBody_eq_ok_iff, noHistory, Option.or_none,
    countOr_eq_ok_iff distinct (by decide),
    countOr_eq_ok_iff distinct (by decide),
    countOr_eq_ok_iff distinct (by decide), expiration,
    extractBoolField_getD_iff distinct (by decide) states.uppercase,
    extractBoolField_getD_iff distinct (by decide) states.lowercase,
    extractBoolField_getD_iff distinct (by decide) states.number,
    extractBoolField_getD_iff distinct (by decide) states.special,
    extractBoolField_getD_iff distinct (by decide) states.change,
    extractBoolField_getD_iff distinct (by decide) states.reset]
  constructor
  · rintro ⟨minLength, maxLength, expires, history,
      ⟨uppercase, lowercase, number, special, change, reset⟩, valid⟩
    exact ⟨minLength, maxLength, expires, history, uppercase, lowercase,
      number, special, change, reset, valid⟩
  · rintro ⟨minLength, maxLength, expires, history, uppercase, lowercase,
      number, special, change, reset, valid⟩
    exact ⟨minLength, maxLength, expires, history,
      ⟨uppercase, lowercase, number, special, change, reset⟩, valid⟩

theorem parseAuthorityChange_document_iff (distinct : document.Distinct)
    {change : AuthorityChange} (states : States document change) :
    parseAuthorityChange (String.ofList document.text) = .ok change ↔
      Legible document change := by
  rw [parseAuthorityChange_eq_ok_iff, String.toList_ofList, Legible]
  cases change with
  | protectRoute method path capability =>
      obtain ⟨⟨written, named, methodStated⟩, pathStated, capabilityStated⟩ :=
        states
      rw [ReadAs, SaysFirst, WritesPlainly, bodyContains_iff_says (by decide),
        exists_methodNamed_iff distinct named methodStated,
        extractQuotedField_stated_iff distinct (by decide) pathStated,
        extractQuotedField_stated_iff distinct (by decide) capabilityStated]
  | unprotectRoute method path => simp [ReadAs, SaysFirst]
  | setCapabilityPolicy capability policy =>
      obtain ⟨capabilityStated, policyStated, noRules, noRoles, noRole⟩ :=
        states
      have silent : rulesOfRoles capability none = [] := rfl
      rw [ReadAs, SaysFirst, WritesPlainly,
        bodyContains_eq_false_iff (by decide), Bool.or_eq_true,
        bodyContains_iff_says (by decide), bodyContains_iff_says (by decide),
        extractQuotedField_stated_iff distinct (by decide) capabilityStated,
        extractQuotedField_stated_iff distinct (by decide) policyStated,
        extractQuotedField_unstated distinct (by decide) noRoles,
        extractQuotedField_unstated distinct (by decide) noRole, noRules,
        Option.or_none, silent]
      simp only [and_true, and_assoc]
  | setProviderEnabled provider enabled =>
      obtain ⟨providerStated, enabledStated⟩ := states
      have literal := bodyContains_literal_iff distinct
        (by decide : IsField "enabled") (.inr rfl : IsWord (.bool true))
        (by decide : "\"enabled\": true".toList = _)
      have read : (bodyContains document.text "\"enabled\": true" ||
          bodyContains document.text "enable_provider") = enabled ↔
            (enabled = true ↔
              document.Shows "enabled" (Literal (.bool true)) ∨
                Says document "enable_provider") := by
        rw [← literal, ← bodyContains_iff_says (by decide), ← Bool.or_eq_true,
          eq_comm, Bool.eq_iff_iff]
      rw [ReadAs, SaysFirst, WritesPlainly, read,
        extractQuotedField_stated_iff distinct (by decide) providerStated]
      simp (disch := decide) only [Bool.or_eq_false_iff, Bool.or_eq_true,
        bodyContains_eq_false_iff, bodyContains_iff_says, and_assoc, or_assoc]
  | setPasswordPolicy policy =>
      rw [ReadAs, SaysFirst, WritesPlainly,
        passwordPolicyFromBody_iff distinct states]
      simp (disch := decide) only [Bool.or_eq_false_iff,
        bodyContains_eq_false_iff, bodyContains_iff_says, and_assoc]
  | revert changeId =>
      rw [ReadAs, SaysFirst, WritesPlainly,
        extractQuotedField_stated_iff distinct (by decide) states]
      simp (disch := decide) only [Bool.or_eq_false_iff,
        bodyContains_eq_false_iff, bodyContains_iff_says, and_assoc]

end Legible

end AuthBoundry
