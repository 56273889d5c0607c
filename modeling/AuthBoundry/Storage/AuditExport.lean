import AuthBoundry.Library.JsonWriter
import AuthBoundry.Storage.Memory

/-!
# The exported audit log

The text of one event, and the export in which every event has a line of its
own.
-/

namespace AuthBoundry

open Library

/-! ## Texts -/

def AuditEventKind.asStr : AuditEventKind → String
  | .login => "authentication.login"
  | .logout => "authentication.logout"
  | .sessionCreated => "session.created"
  | .sessionRevoked => "session.revoked"
  | .accountLinked => "identity.account_linked"
  | .claimsUpdated => "identity.claims_updated"
  | .authorizationGranted => "authorization.granted"
  | .authorizationDenied => "authorization.denied"
  | .delegationCreated => "delegation.created"
  | .delegationRevoked => "delegation.revoked"
  | .agentCreated => "agent.created"
  | .agentSuspended => "agent.suspended"
  | .agentRevoked => "agent.revoked"
  | .agentRunCreated => "run.created"
  | .agentRunCancelled => "run.cancelled"

def AuditDurability.asStr : AuditDurability → String
  | .required => "required"
  | .bestEffort => "best_effort"
  | .optional => "optional"

namespace AuditEvent

def jsonChar (character : Char) : List Char :=
  if character == '\\' then ['\\', '\\']
  else if character == '"' then ['\\', '"']
  else if character == '\n' then ['\\', 'n']
  else if character == '\r' then ['\\', 'r']
  else if character == '\t' then ['\\', 't']
  else [character]

def jsonString (value : String) : String :=
  "\"" ++ String.ofList (value.toList.flatMap jsonChar) ++ "\""

def optionalJsonString (value : Option String) : String :=
  (value.map jsonString).getD "null"

/-- The members of the text, in the order in which they are written. -/
def fields (self : AuditEvent) : List (String × String) :=
  let metadata := ",".intercalate <| self.metadata.toList.map
    fun (key, value) => jsonString key ++ ":" ++ jsonString value
  [("id", jsonString self.eventId.value),
    ("timestamp", toString self.timestamp),
    ("tenant", jsonString self.tenantId.value),
    ("kind", jsonString self.kind.asStr),
    ("durability", jsonString self.durability.asStr),
    ("principal",
      optionalJsonString (self.principalId.map AuthorityId.value)),
    ("delegator",
      optionalJsonString (self.delegatorId.map AuthorityId.value)),
    ("session_id",
      optionalJsonString (self.sessionId.map AuthorityId.value)),
    ("delegation_id",
      optionalJsonString (self.delegationId.map AuthorityId.value)),
    ("run_id", optionalJsonString (self.runId.map AuthorityId.value)),
    ("action", optionalJsonString self.action),
    ("resource", optionalJsonString self.resource),
    ("decision", optionalJsonString self.decision),
    ("reason", optionalJsonString self.reason),
    ("authority_revision",
      (self.authorityRevision.map toString).getD "null"),
    ("contract_fingerprint", optionalJsonString self.contractFingerprint),
    ("metadata", "\x7b" ++ metadata ++ "\x7d")]

def canonicalJsonLine (self : AuditEvent) : String :=
  "\x7b" ++ ",".intercalate (self.fields.map fun (key, value) =>
    jsonString key ++ ":" ++ value) ++ "\x7d"

end AuditEvent

def exportJsonLines (events : List AuditEvent) : String :=
  let out := "\n".intercalate (events.map AuditEvent.canonicalJsonLine)
  if out.isEmpty then out else out ++ "\n"

/-! ## What the texts stand for -/

/-- Tabs and line breaks are escaped too, and nothing is padded. -/
def auditStyle : JsonStyle where
  escapes := [('\\', '\\'), ('"', '"'), ('\n', 'n'), ('\r', 'r'), ('\t', 't')]
  legal := by decide
  quote := rfl
  backslash := rfl
  gap := []
  shown := fun value => value.num

theorem auditStyle_oneLine : auditStyle.OneLine := ⟨rfl, List.not_mem_nil⟩

namespace AuditEvent

theorem auditStyle_spell : auditStyle.spell = jsonChar := by
  funext character
  by_cases backslash : character = '\\'
  · subst backslash
    rfl
  · by_cases quotes : character = '"'
    · subst quotes
      rfl
    · by_cases newline : character = '\n'
      · subst newline
        rfl
      · by_cases carriageReturn : character = '\r'
        · subst carriageReturn
          rfl
        · by_cases tab : character = '\t'
          · subst tab
            rfl
          · have unescaped : ∀ pair ∈ auditStyle.escapes,
                pair.1 ≠ character := by
              simp [auditStyle, Ne.symm backslash, Ne.symm quotes,
                Ne.symm newline, Ne.symm carriageReturn, Ne.symm tab]
            rw [auditStyle.spell_of_unescaped unescaped]
            simp [jsonChar, backslash, quotes, newline, carriageReturn, tab]

theorem toList_jsonString (value : String) :
    (jsonString value).toList = auditStyle.quoted value := by
  rw [JsonStyle.quoted, auditStyle_spell]
  simp [jsonString]

theorem toList_optionalJsonString (value : Option String) :
    (optionalJsonString value).toList =
      auditStyle.write (nullable .string value) := by
  rw [JsonStyle.write_nullable]
  cases value with
  | none => exact toList_null
  | some present => exact toList_jsonString present

theorem toList_timestamp (timestamp : Int) :
    (toString timestamp).toList = auditStyle.write (.number timestamp) := by
  simp [JsonStyle.write, auditStyle]

theorem toList_revision (revision : Option Nat) :
    ((revision.map toString).getD "null").toList =
      auditStyle.write
        (nullable (fun revision : Nat => .number revision) revision) := by
  rw [JsonStyle.write_nullable]
  cases revision with
  | none => exact toList_null
  | some revision => exact toList_timestamp revision

theorem toList_metadata (metadata : List (String × String)) :
    ("\x7b" ++ ",".intercalate (metadata.map fun (key, value) =>
      jsonString key ++ ":" ++ jsonString value) ++ "\x7d").toList =
      auditStyle.write (.object
        (metadata.map fun (key, value) => (key, .string value))) := by
  rw [JsonStyle.write, JsonStyle.writeMembers_eq_map, List.map_map]
  simp [JsonStyle.joined, JsonStyle.writeMember, JsonStyle.member,
    JsonStyle.write, toList_jsonString, auditStyle, Blanks.text,
    Function.comp_def]

/-- The fields of an event as data. -/
def members (self : AuditEvent) : List (String × JsonValue) :=
  [("id", .string self.eventId.value),
    ("timestamp", .number self.timestamp),
    ("tenant", .string self.tenantId.value),
    ("kind", .string self.kind.asStr),
    ("durability", .string self.durability.asStr),
    ("principal", nullable .string (self.principalId.map AuthorityId.value)),
    ("delegator", nullable .string (self.delegatorId.map AuthorityId.value)),
    ("session_id", nullable .string (self.sessionId.map AuthorityId.value)),
    ("delegation_id",
      nullable .string (self.delegationId.map AuthorityId.value)),
    ("run_id", nullable .string (self.runId.map AuthorityId.value)),
    ("action", nullable .string self.action),
    ("resource", nullable .string self.resource),
    ("decision", nullable .string self.decision),
    ("reason", nullable .string self.reason),
    ("authority_revision",
      nullable (fun revision : Nat => .number revision) self.authorityRevision),
    ("contract_fingerprint", nullable .string self.contractFingerprint),
    ("metadata", .object
      (self.metadata.toList.map fun (key, value) => (key, .string value)))]

def json (self : AuditEvent) : JsonValue := .object self.members

def texts (self : AuditEvent) : List String :=
  [self.eventId.value, self.tenantId.value] ++
    (self.principalId.map AuthorityId.value).toList ++
    (self.delegatorId.map AuthorityId.value).toList ++
    (self.sessionId.map AuthorityId.value).toList ++
    (self.delegationId.map AuthorityId.value).toList ++
    (self.runId.map AuthorityId.value).toList ++ self.action.toList ++
    self.resource.toList ++ self.decision.toList ++ self.reason.toList ++
    self.contractFingerprint.toList ++
    self.metadata.toList.flatMap fun (key, value) => [key, value]

/-- Every text of the event can be read from its line. -/
def Legible (self : AuditEvent) : Prop :=
  ∀ text ∈ self.texts, auditStyle.LegibleText text

theorem fields_written (self : AuditEvent) :
    List.Forall₂ (fun field entry =>
      field.1 = entry.1 ∧ field.2 = auditStyle.write entry.2)
      (self.fields.map fun field => (field.1, field.2.toList))
      self.members := by
  unfold fields members
  simp only [List.map_cons, List.map_nil, List.forall₂_cons,
    List.forall₂_nil_right_iff, true_and, and_true]
  exact ⟨toList_jsonString _, toList_timestamp _, toList_jsonString _,
    toList_jsonString _, toList_jsonString _, toList_optionalJsonString _,
    toList_optionalJsonString _, toList_optionalJsonString _,
    toList_optionalJsonString _, toList_optionalJsonString _,
    toList_optionalJsonString _, toList_optionalJsonString _,
    toList_optionalJsonString _, toList_optionalJsonString _,
    toList_revision _, toList_optionalJsonString _, toList_metadata _⟩

theorem toList_canonicalJsonLine (self : AuditEvent) :
    self.canonicalJsonLine.toList = auditStyle.write self.json := by
  have written := auditStyle.writeMembers_of_forall₂ self.fields_written
  rw [json, JsonStyle.write, ← written]
  simp [canonicalJsonLine, JsonStyle.joined, JsonStyle.member,
    toList_jsonString, auditStyle, Blanks.text, Function.comp_def]

/-! ## What can be read back -/

theorem keeps_json_iff (self : AuditEvent) :
    auditStyle.Keeps self.json ↔ self.Legible := by
  have kinds : ∀ kind : AuditEventKind,
      auditStyle.LegibleText kind.asStr := by
    intro kind
    cases kind <;> decide
  have durabilities : ∀ durability : AuditDurability,
      auditStyle.LegibleText durability.asStr := by
    intro durability
    cases durability <;> decide
  have names : ∀ name ∈ ["id", "timestamp", "tenant", "kind", "durability",
      "principal", "delegator", "session_id", "delegation_id", "run_id",
      "action", "resource", "decision", "reason", "authority_revision",
      "contract_fingerprint", "metadata"], auditStyle.LegibleText name := by
    decide
  simp only [List.forall_mem_cons] at names
  have shown : ∀ whole : Int, (auditStyle.shown whole : ℚ) = whole := by
    simp [auditStyle]
  have revision : (nullable (fun revision : Nat => .number revision)
      self.authorityRevision).Each auditStyle.LegibleText
        fun number => (auditStyle.shown number : ℚ) = number := by
    rw [JsonValue.each_nullable_iff]
    intro present _
    rw [JsonValue.each_number_iff]
    exact shown present
  rw [auditStyle.keeps_iff_each]
  unfold json members Legible texts
  simp only [JsonValue.each_object_cons_iff, JsonValue.each_object_nil,
    JsonValue.each_string_iff, JsonValue.each_number_iff,
    JsonValue.each_textMembers_iff, JsonValue.each_nullableText_iff, shown,
    revision, kinds, durabilities, names, List.forall_mem_append,
    List.forall_mem_cons, Option.mem_toList, Option.mem_def,
    List.not_mem_nil, false_implies, implies_true, true_and, and_true,
    and_assoc]

/-- A line is read back exactly when every text of the event is legible. -/
theorem decodeJson_canonicalJsonLine_iff (self : AuditEvent) :
    decodeJson self.canonicalJsonLine = some self.json ↔ self.Legible := by
  rw [auditStyle.decodeJson_eq_some_iff self.toList_canonicalJsonLine,
    keeps_json_iff]

/-! ## Events are told apart by what their lines stand for -/

theorem authorityId_value_injective (kind : IdKind) :
    Function.Injective (@AuthorityId.value kind) := by
  rintro ⟨left⟩ ⟨right⟩ same
  exact congrArg _ same

theorem kindStr_injective : Function.Injective AuditEventKind.asStr := by
  intro left right same
  cases left <;> cases right <;>
    first | rfl | exact absurd same (by decide)

theorem durabilityStr_injective :
    Function.Injective AuditDurability.asStr := by
  intro left right same
  cases left <;> cases right <;>
    first | rfl | exact absurd same (by decide)

theorem nullableId_injective (kind : IdKind) :
    Function.Injective fun id : Option (AuthorityId kind) =>
      nullable JsonValue.string (id.map AuthorityId.value) :=
  nullableText_injective.comp
    (Option.map_injective (authorityId_value_injective kind))

theorem nullableRevision_injective :
    Function.Injective (nullable fun revision : Nat => .number revision) :=
  nullable_injective
    (fun _ _ same => Nat.cast_injective (JsonValue.number.inj same))
    fun _ => JsonValue.noConfusion

theorem metadata_injective : Function.Injective
    fun metadata : KeyedMap String String => JsonValue.object
      (metadata.toList.map fun (key, value) => (key, .string value)) := by
  intro left right same
  exact Std.ExtTreeMap.toList_inj.mp (textMembers_injective same)

theorem json_injective : Function.Injective json := by
  intro left right same
  have listed := JsonValue.object.inj same
  simp only [members, List.cons.injEq, Prod.mk.injEq, true_and, and_true,
    JsonValue.string.injEq, JsonValue.number.injEq] at listed
  obtain ⟨id, timestamp, tenant, kind, durability, principal, delegator,
    session, delegation, run, action, resource, decision, reason, revision,
    fingerprint, metadata⟩ := listed
  cases left
  cases right
  rw [AuditEvent.mk.injEq]
  exact ⟨authorityId_value_injective _ id,
    authorityId_value_injective _ tenant, nullableId_injective _ principal,
    nullableId_injective _ delegator, nullableId_injective _ session,
    nullableId_injective _ delegation, nullableId_injective _ run,
    kindStr_injective kind, Int.cast_injective timestamp,
    nullableText_injective action, nullableText_injective resource,
    nullableText_injective decision, nullableText_injective reason,
    nullableRevision_injective revision, nullableText_injective fingerprint,
    durabilityStr_injective durability, metadata_injective metadata⟩

end AuditEvent

/-! ## Lines -/

def linesOf (text : String) : List String :=
  (terminated '\n' text.toList).map String.ofList

theorem linesOf_exportJsonLines (events : List AuditEvent) :
    linesOf (exportJsonLines events) =
      events.map AuditEvent.canonicalJsonLine := by
  have plain : ∀ piece ∈ (events.map AuditEvent.canonicalJsonLine).map
      String.toList, '\n' ∉ piece := by
    intro piece member
    obtain ⟨line, listed, rfl⟩ := List.mem_map.mp member
    obtain ⟨event, _, rfl⟩ := List.mem_map.mp listed
    rw [event.toList_canonicalJsonLine]
    exact auditStyle_oneLine.notMem_write event.json
  have lineBreak : "\n".toList = ['\n'] := rfl
  cases events with
  | nil => rfl
  | cons event events =>
      have written : ¬("\n".intercalate ((event :: events).map
          AuditEvent.canonicalJsonLine)).isEmpty = true := by
        rw [String.isEmpty_iff, ← String.toList_inj, String.toList_intercalate]
        intro empty
        have shorter := @Library.length_le_intercalate _ "\n".toList
          (((event :: events).map AuditEvent.canonicalJsonLine).map
            String.toList) event.canonicalJsonLine.toList (by simp)
        rw [empty, event.toList_canonicalJsonLine] at shorter
        have opened := (auditStyle.opened_write event.json).ne_nil
        exact opened (List.eq_nil_of_length_eq_zero (Nat.le_zero.mp shorter))
      have pieces := terminated_intercalate plain (by simp)
      unfold exportJsonLines linesOf
      dsimp only
      rw [if_neg written, String.toList_append, String.toList_intercalate,
        lineBreak, pieces, List.map_map]
      simp [Function.comp_def]

theorem decoded_exportJsonLines_iff (events : List AuditEvent) :
    (linesOf (exportJsonLines events)).mapM decodeJson =
        some (events.map AuditEvent.json) ↔
      ∀ event ∈ events, event.Legible := by
  rw [linesOf_exportJsonLines, mapM_map_eq_some_map_iff]
  exact forall₂_congr fun event _ => event.decodeJson_canonicalJsonLine_iff

end AuthBoundry
