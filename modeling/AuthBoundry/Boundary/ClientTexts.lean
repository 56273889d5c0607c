import AuthBoundry.Boundary.ClientContext
import AuthBoundry.Library.JsonWriter

/-!
# The context of a client as data

Only the two marks are escaped, so that a line break or any other control
character in a name makes the whole text unreadable.
-/

namespace AuthBoundry

open Library

def clientStyle : JsonStyle where
  escapes := [('\\', '\\'), ('"', '"')]
  legal := by decide
  quote := rfl
  backslash := rfl
  gap := [.space]
  shown := fun value => value.num

theorem clientStyle_gap : clientStyle.gap.text = [' '] := rfl

theorem unescaped {character : Char} (backslash : character ≠ '\\')
    (quotes : character ≠ '"') :
    ∀ pair ∈ clientStyle.escapes, pair.1 ≠ character := by
  simp [clientStyle, backslash.symm, quotes.symm]

theorem clientStyle_legibleText_iff (text : String) :
    clientStyle.LegibleText text ↔
      ∀ character ∈ text.toList, firstPlainCode ≤ character.toNat := by
  have each : ∀ character, clientStyle.Legible character ↔
      firstPlainCode ≤ character.toNat := by
    intro character
    refine or_iff_right_of_imp fun escaped => ?_
    by_cases backslash : character = '\\'
    · subst backslash
      decide
    · by_cases quotes : character = '"'
      · subst quotes
        decide
      · rw [clientStyle.lookup_of_unescaped
          (unescaped backslash quotes)] at escaped
        cases escaped
  exact forall₂_congr fun character _ => each character

namespace ClientAuthContext

theorem toList_quote (value : String) :
    (quote value).toList = clientStyle.quoted value := by
  have spelled : (replaceChar '"' "\\\"" (replaceChar '\\' "\\\\"
      value)).toList = value.toList.flatMap clientStyle.spell := by
    unfold replaceChar
    simp only [String.toList_ofList, List.flatMap_assoc]
    apply List.flatMap_congr
    intro character _
    by_cases backslash : character = '\\'
    · subst backslash
      rfl
    · by_cases quotes : character = '"'
      · subst quotes
        rfl
      · rw [clientStyle.spell_of_unescaped (unescaped backslash quotes)]
        simp [backslash, quotes]
  rw [JsonStyle.quoted, ← spelled]
  simp [quote]

theorem toList_quoteList (values : List String) :
    (quoteList values).toList =
      clientStyle.joined (clientStyle.writeItems (values.map .string)) := by
  rw [JsonStyle.writeItems_eq_map, List.map_map]
  simp [quoteList, JsonStyle.joined, JsonStyle.write, toList_quote,
    clientStyle, Blanks.text, Blank.char, Function.comp_def]

def delegationData (delegation : ClientDelegation) : JsonValue :=
  .object
    [("id", .string delegation.id),
      ("delegated_by", .string delegation.delegatedBy),
      ("capabilities", .array (delegation.capabilities.map .string))]

def json (self : ClientAuthContext) : JsonValue :=
  .object
    [("authenticated", .bool self.authenticated),
      ("principal", .object
        [("id", .string self.principalId),
          ("kind", .string self.principalKind)]),
      ("tenant", .object [("id", .string self.tenantId)]),
      ("claims", .object
        (self.claims.map fun (name, value) => (name, .string value))),
      ("capabilities", .array (self.capabilities.map .string)),
      ("session", .object [("expires_at", .number self.sessionExpiresAt)]),
      ("delegation", nullable delegationData self.delegation)]

theorem toList_claims (claims : List (String × String)) :
    (", ".intercalate (claims.map fun (name, value) =>
      quote name ++ ": " ++ quote value)).toList =
      clientStyle.joined (clientStyle.writeMembers
        (claims.map fun (name, value) => (name, .string value))) := by
  rw [JsonStyle.writeMembers_eq_map, List.map_map]
  simp [JsonStyle.joined, JsonStyle.writeMember, JsonStyle.member,
    JsonStyle.write, toList_quote, clientStyle, Blanks.text, Blank.char,
    Function.comp_def]

theorem toList_delegationJson (delegation : Option ClientDelegation) :
    (delegationJson delegation).toList =
      clientStyle.write (nullable delegationData delegation) := by
  rw [JsonStyle.write_nullable]
  cases delegation with
  | none => decide
  | some delegation =>
      have id : "\x7b\"id\": ".toList =
          '\x7b' :: (clientStyle.quoted "id" ++ [':', ' ']) := by decide
      have delegatedBy : ", \"delegated_by\": ".toList =
          [',', ' '] ++ clientStyle.quoted "delegated_by" ++ [':', ' '] := by
        decide
      have capabilities : ", \"capabilities\": [".toList =
          [',', ' '] ++ clientStyle.quoted "capabilities" ++
            [':', ' ', '['] := by
        decide
      have finish : "]\x7d".toList = [']', '\x7d'] := by decide
      simp only [delegationJson, String.toList_append, id, delegatedBy,
        capabilities, finish, toList_quote, toList_quoteList]
      simp [delegationData, JsonStyle.write, JsonStyle.writeMembers,
        JsonStyle.member, JsonStyle.joined, clientStyle_gap]

theorem toList_toJson (self : ClientAuthContext) :
    self.toJson.toList = clientStyle.write self.json := by
  have authenticated : "\x7b\"authenticated\": ".toList =
      '\x7b' :: (clientStyle.quoted "authenticated" ++ [':', ' ']) := by
    decide
  have principal : ", \"principal\": \x7b\"id\": ".toList =
      [',', ' '] ++ clientStyle.quoted "principal" ++ [':', ' ', '\x7b'] ++
        clientStyle.quoted "id" ++ [':', ' '] := by
    decide
  have kind : ", \"kind\": ".toList =
      [',', ' '] ++ clientStyle.quoted "kind" ++ [':', ' '] := by
    decide
  have tenant : "\x7d, \"tenant\": \x7b\"id\": ".toList =
      ['\x7d', ',', ' '] ++ clientStyle.quoted "tenant" ++
        [':', ' ', '\x7b'] ++ clientStyle.quoted "id" ++ [':', ' '] := by
    decide
  have claims : "\x7d, \"claims\": \x7b".toList =
      ['\x7d', ',', ' '] ++ clientStyle.quoted "claims" ++
        [':', ' ', '\x7b'] := by
    decide
  have capabilities : "\x7d, \"capabilities\": [".toList =
      ['\x7d', ',', ' '] ++ clientStyle.quoted "capabilities" ++
        [':', ' ', '['] := by
    decide
  have session : "], \"session\": \x7b\"expires_at\": ".toList =
      [']', ',', ' '] ++ clientStyle.quoted "session" ++ [':', ' ', '\x7b'] ++
        clientStyle.quoted "expires_at" ++ [':', ' '] := by
    decide
  have delegation : "\x7d, \"delegation\": ".toList =
      ['\x7d', ',', ' '] ++ clientStyle.quoted "delegation" ++
        [':', ' '] := by
    decide
  have finish : "\x7d".toList = ['\x7d'] := by decide
  have expires : clientStyle.shown self.sessionExpiresAt =
      self.sessionExpiresAt :=
    Rat.num_intCast _
  unfold toJson
  dsimp only
  repeat rw [String.toList_append]
  rw [authenticated, principal, kind, tenant, claims, capabilities, session,
    delegation, finish, toList_quote, toList_quote, toList_quote,
    toList_claims, toList_quoteList, toList_delegationJson]
  simp [json, JsonStyle.write, JsonStyle.writeMembers, JsonStyle.member,
    JsonStyle.joined, clientStyle_gap, expires]

/-! ## What can be read back -/

def texts (self : ClientAuthContext) : List String :=
  [self.principalId, self.principalKind, self.tenantId] ++
    (self.claims.flatMap fun (name, value) => [name, value]) ++
    self.capabilities ++
    self.delegation.toList.flatMap fun delegation =>
      [delegation.id, delegation.delegatedBy] ++ delegation.capabilities

/-- The names of the members. -/
def memberNames : List String :=
  ["authenticated", "principal", "id", "kind", "tenant", "claims",
    "capabilities", "session", "expires_at", "delegation", "delegated_by"]

section Each

variable {holds : String → Prop} {number : ℚ → Prop}

theorem each_delegationData_iff (names : ∀ name ∈ memberNames, holds name)
    (delegation : ClientDelegation) :
    (delegationData delegation).Each holds number ↔
      ∀ text ∈ [delegation.id, delegation.delegatedBy] ++
        delegation.capabilities, holds text := by
  unfold memberNames at names
  simp only [List.forall_mem_cons] at names
  unfold delegationData
  simp only [JsonValue.each_object_cons_iff, JsonValue.each_object_nil,
    JsonValue.each_string_iff, JsonValue.each_texts_iff, names,
    List.forall_mem_append, List.forall_mem_cons, List.not_mem_nil,
    false_implies, implies_true, true_and, and_true, and_assoc]

theorem each_json_iff (names : ∀ name ∈ memberNames, holds name)
    (self : ClientAuthContext) :
    self.json.Each holds number ↔
      (∀ text ∈ self.texts, holds text) ∧ number self.sessionExpiresAt := by
  have delegation :
      (nullable delegationData self.delegation).Each holds number ↔
        ∀ text ∈ self.delegation.toList.flatMap fun delegation =>
            [delegation.id, delegation.delegatedBy] ++
              delegation.capabilities,
          holds text := by
    rw [JsonValue.each_nullable_iff, List.forall_mem_flatMap]
    simp only [Option.mem_toList, Option.mem_def,
      each_delegationData_iff names]
  unfold memberNames at names
  simp only [List.forall_mem_cons] at names
  unfold json texts
  rw [List.forall_mem_append, ← delegation]
  simp only [JsonValue.each_object_cons_iff, JsonValue.each_object_nil,
    JsonValue.each_string_iff, JsonValue.each_number_iff,
    JsonValue.each_texts_iff, JsonValue.each_textMembers_iff,
    JsonValue.each_bool, names, List.forall_mem_append, List.forall_mem_cons,
    List.not_mem_nil, false_implies, implies_true, true_and, and_true,
    and_assoc]
  rw [and_comm (a := number _)]

end Each

theorem keeps_json_iff (self : ClientAuthContext) :
    clientStyle.Keeps self.json ↔
      ∀ text ∈ self.texts, clientStyle.LegibleText text := by
  have names : ∀ name ∈ memberNames, clientStyle.LegibleText name := by
    decide
  have expires : (clientStyle.shown self.sessionExpiresAt : ℚ) =
      self.sessionExpiresAt := by
    simp [clientStyle]
  rw [clientStyle.keeps_iff_each, each_json_iff names, and_iff_left expires]

theorem decodeJson_toJson_iff (self : ClientAuthContext) :
    decodeJson self.toJson = some self.json ↔
      ∀ text ∈ self.texts, clientStyle.LegibleText text := by
  rw [clientStyle.decodeJson_eq_some_iff self.toList_toJson, keeps_json_iff]

/-! ## Contexts are told apart by what their texts stand for -/

theorem delegationData_injective : Function.Injective delegationData := by
  intro left right same
  have listed := JsonValue.object.inj same
  simp only [List.cons.injEq, Prod.mk.injEq, true_and, and_true,
    JsonValue.string.injEq] at listed
  obtain ⟨id, delegatedBy, capabilities⟩ := listed
  cases left
  cases right
  rw [ClientDelegation.mk.injEq]
  exact ⟨id, delegatedBy, texts_injective capabilities⟩

theorem json_injective : Function.Injective json := by
  intro left right same
  have listed := JsonValue.object.inj same
  simp only [List.cons.injEq, Prod.mk.injEq, true_and, and_true,
    JsonValue.string.injEq, JsonValue.bool.injEq, JsonValue.number.injEq,
    JsonValue.object.injEq] at listed
  obtain ⟨authenticated, ⟨principal, kind⟩, tenant, claims, capabilities,
    expires, delegation⟩ := listed
  cases left
  cases right
  rw [ClientAuthContext.mk.injEq]
  exact ⟨authenticated, principal, kind, tenant,
    textMembers_injective (congrArg JsonValue.object claims),
    texts_injective capabilities,
    Int.cast_injective expires,
    nullable_injective delegationData_injective
      (fun _ => JsonValue.noConfusion) delegation⟩

end ClientAuthContext

end AuthBoundry
