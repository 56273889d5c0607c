import AuthBoundry.Boundary.ClientTexts
import AuthBoundry.Library.ByteStreams
import AuthBoundry.Server.DecisionJson
import AuthBoundry.Storage.AuditExport

/-!
# Texts that are read back

The server escapes the two marks and the line break.  With the audit log and
the client context there are three writers, and each of them leaves other
control characters as they are.  What they write is read back as long as no
such character is in it.
-/

namespace AuthBoundry

open Library

/-! ## The texts of the server -/

def serverStyle : JsonStyle where
  escapes := [('\\', '\\'), ('"', '"'), ('\n', 'n')]
  legal := by decide
  quote := rfl
  backslash := rfl
  gap := [.space]
  shown := fun value =>
    max (-9223372036854775808) (min 9223372036854775807 value.num)

theorem serverStyle_gap : serverStyle.gap.text = [' '] := rfl

theorem serverStyle_spell : serverStyle.spell = escapedChar := by
  funext character
  by_cases backslash : character = '\\'
  · subst backslash
    rfl
  · by_cases quotes : character = '"'
    · subst quotes
      rfl
    · by_cases newline : character = '\n'
      · subst newline
        rfl
      · have unescaped : ∀ pair ∈ serverStyle.escapes,
            pair.1 ≠ character := by
          simp [serverStyle, Ne.symm backslash, Ne.symm quotes,
            Ne.symm newline]
        rw [serverStyle.spell_of_unescaped unescaped]
        simp [escapedChar, backslash, quotes, newline]

theorem quoted_eq (text : String) :
    serverStyle.quoted text = '"' :: ((escape text).toList ++ ['"']) := by
  rw [JsonStyle.quoted, serverStyle_spell, ← toList_escape]

theorem toList_escaped (text : String) :
    ("\"" ++ escape text ++ "\"").toList = serverStyle.quoted text := by
  rw [quoted_eq]
  simp

theorem displayItems_eq_map (items : List JsonValue) :
    displayItems items = items.map displayJson := by
  induction items with
  | nil => rfl
  | cons item items induction =>
      rw [displayItems, induction, List.map_cons]

theorem displayMembers_eq_map (members : List (String × JsonValue)) :
    displayMembers members = members.map fun entry =>
      "\"" ++ escape entry.1 ++ "\": " ++ displayJson entry.2 := by
  induction members with
  | nil => rfl
  | cons entry members induction =>
      rw [displayMembers, induction, List.map_cons]

theorem toList_displayJson (value : JsonValue) :
    (displayJson value).toList = serverStyle.write value := by
  induction value using JsonValue.induction with
  | string value => exact toList_escaped value
  | number value => rfl
  | bool value => cases value <;> rfl
  | null => exact toList_null
  | array items induction =>
      have inner : (displayItems items).map String.toList =
          serverStyle.writeItems items := by
        rw [displayItems_eq_map, JsonStyle.writeItems_eq_map, List.map_map]
        exact List.map_congr_left induction
      rw [displayJson, JsonStyle.write, JsonStyle.joined, ← inner]
      simp [serverStyle_gap]
  | object members induction =>
      have inner : (displayMembers members).map String.toList =
          serverStyle.writeMembers members := by
        rw [displayMembers_eq_map, JsonStyle.writeMembers_eq_map, List.map_map]
        refine List.map_congr_left fun entry member => ?_
        have name := toList_escaped entry.1
        have value := induction entry member
        simp only [Function.comp_apply, String.toList_append] at name ⊢
        rw [JsonStyle.writeMember, JsonStyle.member, ← name, ← value,
          serverStyle_gap]
        simp
      rw [displayJson, JsonStyle.write, JsonStyle.joined, ← inner]
      simp [serverStyle_gap]

/-! ## Whole numbers -/

def IsWhole (value : JsonValue) : Prop :=
  ∀ number ∈ value.numbers, ∃ counted : Int, (counted : ℚ) = number

/-- Data whose numbers are whole, as all that the server counts or times. -/
structure WholeJson where
  value : JsonValue
  whole : IsWhole value

namespace IsWhole

theorem string (text : String) : IsWhole (.string text) := by
  simp [IsWhole, JsonValue.numbers]

theorem bool (value : Bool) : IsWhole (.bool value) := by
  simp [IsWhole, JsonValue.numbers]

theorem null : IsWhole .null := by
  simp [IsWhole, JsonValue.numbers]

theorem array {items : List JsonValue} (each : ∀ item ∈ items, IsWhole item) :
    IsWhole (.array items) := by
  unfold IsWhole
  rw [JsonValue.numbers_array, List.forall_mem_flatMap]
  exact each

theorem object {members : List (String × JsonValue)}
    (each : ∀ entry ∈ members, IsWhole entry.2) :
    IsWhole (.object members) := by
  unfold IsWhole
  rw [JsonValue.numbers_object, List.forall_mem_flatMap]
  exact each

theorem optional {α : Type} {data : α → JsonValue}
    (each : ∀ value, IsWhole (data value)) (value : Option α) :
    IsWhole ((value.map data).getD .null) := by
  cases value with
  | none => exact null
  | some value => exact each value

/-- A counter stays whole when it becomes a double. -/
theorem counted (count : Nat) : ∃ whole : Int, (whole : ℚ) = asF64 count := by
  unfold asF64
  split
  · exact ⟨count, Int.cast_natCast count⟩
  · exact ⟨_, Int.cast_natCast _⟩

theorem count (count : Nat) : IsWhole (.number (asF64 count)) := by
  simpa [IsWhole, JsonValue.numbers] using counted count

theorem time (value : Int) : IsWhole (.number (signedAsF64 value)) := by
  obtain ⟨whole, same⟩ := counted value.natAbs
  have product : ((value.sign * whole : Int) : ℚ) = signedAsF64 value := by
    rw [Int.cast_mul, same]
    rfl
  simpa [IsWhole, JsonValue.numbers] using
    (⟨_, product⟩ : ∃ counted : Int, (counted : ℚ) = signedAsF64 value)

theorem resourceScope (scope : ResourceScope) :
    IsWhole (resourceScopeJson scope) := by
  have values : ∀ value, IsWhole (claimValueJson value) := by
    intro value
    cases value with
    | integer value => exact time value
    | enum value => exact string value
    | string value => exact string value
    | boolean value => exact bool value
  refine object ?_
  simp only [List.forall_mem_cons, optional string, true_and,
    List.not_mem_nil, false_implies, implies_true, and_true]
  refine object ?_
  rw [List.forall_mem_map]
  exact fun entry _ => values entry.2

theorem decision (decision : AuthorizationEvidence) :
    IsWhole (decisionJson decision) := by
  have texts : ∀ {α : Type} (text : α → String) (items : List α),
      IsWhole (.array (items.map fun item => .string (text item))) := by
    intro α text items
    refine array ?_
    rw [List.forall_mem_map]
    exact fun item _ => string (text item)
  have condition : ∀ condition, IsWhole (conditionJson condition) := by
    intro condition
    refine object ?_
    simp only [List.forall_mem_cons, string, optionalText, optional string,
      true_and, List.not_mem_nil, false_implies, implies_true]
  have source : IsWhole (authoritySourceJson decision) := by
    unfold authoritySourceJson
    split
    · refine object ?_
      simp only [List.forall_mem_cons, string, optionalText, optional string,
        true_and, List.not_mem_nil, false_implies, implies_true]
    · refine object ?_
      simp only [List.forall_mem_cons, string, List.not_mem_nil, true_and,
        false_implies, implies_true]
    · exact null
  have conditions : IsWhole
      (.array (decision.conditions.map conditionJson)) := by
    refine array ?_
    rw [List.forall_mem_map]
    exact fun item _ => condition item
  have rules : IsWhole
      (.array (decision.matchedRules.map JsonValue.string)) :=
    texts id decision.matchedRules
  refine object ?_
  simp only [List.forall_mem_cons, string, bool, time, count, optionalText,
    optional string, optional resourceScope, source, conditions, rules,
    texts AuthorityId.value decision.delegationChain, true_and,
    List.not_mem_nil, false_implies, implies_true]

end IsWhole

/-- What the server says about a decision. -/
def decisionData (decision : AuthorizationEvidence) : WholeJson :=
  ⟨decisionJson decision, .decision decision⟩

/-! ## Displayed data -/

theorem shown_eq_iff {number : ℚ} (whole : ∃ counted : Int,
    (counted : ℚ) = number) :
    (serverStyle.shown number : ℚ) = number ↔
      -9223372036854775808 ≤ number ∧ number ≤ 9223372036854775807 := by
  obtain ⟨counted, rfl⟩ := whole
  have lower : (-9223372036854775808 : ℚ) ≤ (counted : ℚ) ↔
      -9223372036854775808 ≤ counted := by
    exact_mod_cast Iff.rfl
  have upper : (counted : ℚ) ≤ 9223372036854775807 ↔
      counted ≤ 9223372036854775807 := by
    exact_mod_cast Iff.rfl
  rw [lower, upper, Int.cast_inj]
  simp only [serverStyle, Rat.num_intCast]
  omega

theorem decodeJson_displayJson_iff (data : WholeJson) :
    decodeJson (displayJson data.value) = some data.value ↔
      (∀ text ∈ data.value.strings, serverStyle.LegibleText text) ∧
        ∀ number ∈ data.value.numbers,
          -9223372036854775808 ≤ number ∧ number ≤ 9223372036854775807 := by
  rw [serverStyle.decodeJson_eq_some_iff (toList_displayJson data.value)]
  refine and_congr_right fun _ => forall₂_congr fun number member => ?_
  exact shown_eq_iff (data.whole number member)

/-- A decision is read back under the same condition. -/
theorem decodeJson_decision_iff (decision : AuthorizationEvidence) :
    decodeJson (displayJson (decisionJson decision)) =
        some (decisionJson decision) ↔
      (∀ text ∈ (decisionJson decision).strings,
        serverStyle.LegibleText text) ∧
        ∀ number ∈ (decisionJson decision).numbers,
          -9223372036854775808 ≤ number ∧ number ≤ 9223372036854775807 :=
  decodeJson_displayJson_iff (decisionData decision)

/-! ## Refusals -/

namespace HttpResponse

/-- What the body of a refusal stands for. -/
def deniedData (status : Nat) (reason message : String) : JsonValue :=
  .object
    [("error", .string (if status == 401 then "unauthenticated" else "denied")),
      ("reason", .string reason), ("message", .string message)]

def bodyText (self : HttpResponse) : Option String := decodeUtf8 self.body

theorem denied_bodyText (status : Nat) (reason message : String) :
    ∃ text, (denied status reason message).bodyText = some text ∧
      text.toList = serverStyle.write (deniedData status reason message) := by
  refine ⟨_, decodeUtf8_eq_some_iff.mpr rfl, ?_⟩
  have start : "\x7b\"error\": \"".toList =
      '\x7b' :: (serverStyle.quoted "error" ++ [':', ' ', '"']) := by
    decide
  have middle : "\", \"reason\": \"".toList =
      ['"', ',', ' '] ++ serverStyle.quoted "reason" ++ [':', ' ', '"'] := by
    decide
  have last : "\", \"message\": \"".toList =
      ['"', ',', ' '] ++ serverStyle.quoted "message" ++ [':', ' ', '"'] := by
    decide
  have finish : "\"\x7d".toList = ['"', '\x7d'] := by decide
  have plain : ∀ error : String,
      serverStyle.quoted error = '"' :: (error.toList ++ ['"']) →
        ("\x7b\"error\": \"" ++ error ++ "\", \"reason\": \"" ++
          escape reason ++ "\", \"message\": \"" ++ escape message ++
          "\"\x7d").toList =
          serverStyle.write (.object [("error", .string error),
            ("reason", .string reason), ("message", .string message)]) := by
    intro error quoted
    repeat rw [String.toList_append]
    rw [start, middle, last, finish]
    simp [JsonStyle.write, JsonStyle.writeMembers, JsonStyle.member,
      JsonStyle.joined, serverStyle_gap, quoted, quoted_eq reason,
      quoted_eq message]
  exact plain _ (by split <;> decide)

theorem decodeJson_denied_iff (status : Nat) (reason message : String) :
    (denied status reason message).bodyText.bind decodeJson =
        some (deniedData status reason message) ↔
      serverStyle.LegibleText reason ∧ serverStyle.LegibleText message := by
  obtain ⟨text, read, written⟩ := denied_bodyText status reason message
  have names : ∀ name ∈ ["error", "reason", "message", "unauthenticated",
      "denied"], serverStyle.LegibleText name := by
    decide
  simp only [List.forall_mem_cons] at names
  have error : serverStyle.LegibleText
      (if status == 401 then "unauthenticated" else "denied") := by
    split <;> simp only [names]
  rw [read, Option.bind_some, serverStyle.decodeJson_eq_some_iff written,
    serverStyle.keeps_iff_each]
  unfold deniedData
  simp only [JsonValue.each_object_cons_iff, JsonValue.each_object_nil,
    JsonValue.each_string_iff, names, error, true_and, and_true]

end HttpResponse

/-! ## All texts -/

/--
What the writers of the audit log, of the client context and of the server
write is read back exactly when no text in it has a control character that its
writer leaves as it is, and no whole number is beyond 64 bits.  The export has
one line for each event in any case.
-/
theorem writtenJson_readBack_iff (event : AuditEvent)
    (events : List AuditEvent) (context : ClientAuthContext)
    (data : WholeJson) (status : Nat) (reason message : String) :
    (decodeJson event.canonicalJsonLine = some event.json ↔ event.Legible) ∧
    linesOf (exportJsonLines events) =
      events.map AuditEvent.canonicalJsonLine ∧
    ((linesOf (exportJsonLines events)).mapM decodeJson =
        some (events.map AuditEvent.json) ↔
      ∀ event ∈ events, event.Legible) ∧
    (decodeJson context.toJson = some context.json ↔
      ∀ text ∈ context.texts, clientStyle.LegibleText text) ∧
    (decodeJson (displayJson data.value) = some data.value ↔
      (∀ text ∈ data.value.strings, serverStyle.LegibleText text) ∧
        ∀ number ∈ data.value.numbers,
          -9223372036854775808 ≤ number ∧ number ≤ 9223372036854775807) ∧
    ((HttpResponse.denied status reason message).bodyText.bind decodeJson =
        some (HttpResponse.deniedData status reason message) ↔
      serverStyle.LegibleText reason ∧ serverStyle.LegibleText message) ∧
    Function.Injective AuditEvent.json ∧
    Function.Injective ClientAuthContext.json := by
  refine ⟨event.decodeJson_canonicalJsonLine_iff,
    linesOf_exportJsonLines events, decoded_exportJsonLines_iff events,
    context.decodeJson_toJson_iff, decodeJson_displayJson_iff data,
    HttpResponse.decodeJson_denied_iff status reason message,
    AuditEvent.json_injective, ClientAuthContext.json_injective⟩

/-- A display name with a line break in it. -/
def brokenContext : ClientAuthContext :=
  { authenticated := true
    principalId := "user:alice"
    principalKind := "human"
    tenantId := "acme"
    claims := [("display_name", "Alice\nSmith")]
    capabilities := []
    sessionExpiresAt := 3600
    delegation := none }

def brokenEvent : AuditEvent :=
  { eventId := ⟨"audit-1"⟩
    tenantId := ⟨"acme"⟩
    principalId := none
    delegatorId := none
    sessionId := none
    delegationId := none
    runId := none
    kind := .login
    timestamp := 0
    action := none
    resource := none
    decision := none
    reason := some "denied\x08"
    authorityRevision := none
    contractFingerprint := none
    durability := .required
    metadata := ∅ }

/-- None of these texts is JSON, although two of the characters would have
been escaped by another writer. -/
theorem brokenTexts_unreadable :
    decodeJson brokenContext.toJson = none ∧
      decodeJson brokenEvent.canonicalJsonLine = none ∧
      (HttpResponse.denied 403 "route" "a\tb").bodyText.bind decodeJson =
        none := by
  refine ⟨?_, ?_, ?_⟩
  · rw [clientStyle.decodeJson_of_written brokenContext.toList_toJson]
    rfl
  · rw [auditStyle.decodeJson_of_written brokenEvent.toList_canonicalJsonLine]
    rfl
  · obtain ⟨text, read, written⟩ :=
      HttpResponse.denied_bodyText 403 "route" "a\tb"
    rw [read, Option.bind_some, serverStyle.decodeJson_of_written written]
    rfl

end AuthBoundry
