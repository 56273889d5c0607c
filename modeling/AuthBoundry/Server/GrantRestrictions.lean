import AuthBoundry.Runtime.Evidence
import AuthBoundry.Runtime.ScopeFields
import AuthBoundry.Server.CommandChanges
import AuthBoundry.Server.Grants

/-!
# Restrictions that a body states

A body restricts the delegation or the run that it asks for by members of its
own: capabilities, fields of the resource, an end.  The handlers do not read
the members but search the text, and what the search does not find restricts
nothing.  Here it is settled which bodies are heeded: those in which the first
member that is met under a name says what each member of the name says, and
for a delegation those without any restriction of the resource.
-/

namespace AuthBoundry

open Library

/-! ## What a member states -/

/-- The names under which a body restricts a field of the resource. -/
def ScopeField.names : ScopeField → List String
  | .resourceType => ["resource_type"]
  | .resourceId => ["resource_id"]
  | .tenant => ["resource_tenant", "tenant_scope"]
  | .status => ["status"]
  | .department => ["department"]

/-- The names under which a body restricts the capabilities. -/
def capabilityNames : List String := ["capability", "capabilities"]

def textCapabilities (text : String) : List Capability :=
  (text :: listedTexts text).map AuthorityId.mk

def statedCapabilities : JsonValue → List Capability
  | .string text => textCapabilities text
  | .array items =>
      (items.filterMap fun item =>
        match item with
        | .string text => some text
        | _ => none).map AuthorityId.mk
  | _ => []

/-- The time that a number or the digits of a text stand for. -/
def statedTime : JsonValue → Option ℚ
  | .number value => some value
  | .string text => (parseI64 text).map fun value => (value : ℚ)
  | _ => none

/-- The body has such a member; `null` restricts nothing. -/
structure Restricts (document : Document) (name : String) (value : JsonValue) :
    Prop where
  stated : (name, value) ∈ document.value.members
  notNull : value ≠ .null

/-! ## Restrictions that are enforced -/

/-- What the member asks for holds of whatever the grant is used for. -/
structure Grant.Enforces (grant : Grant) (name : String) (value : JsonValue) :
    Prop where
  capabilities : name ∈ capabilityNames →
    ∀ capability ∈ grant.capabilities, capability ∈ statedCapabilities value
  resource : ∀ field : ScopeField, name ∈ field.names →
    ∃ text, value = .string text ∧
      ∀ request attributes, grant.matchesResource request attributes = true →
        field.SatisfiedBy text request.resource attributes
  expires : name = "expires_at" →
    ∃ time, statedTime value = some time ∧
      ∃ expiry, grant.expiresAt = some expiry ∧ (expiry : ℚ) ≤ time

/-- Whatever was granted in between is restricted as the body states. -/
def Restrained (document : Document) (before after : AuthMesh) : Prop :=
  ∀ grant : Grant, grant.Created before after →
    ∀ name value, Restricts document name value → grant.Enforces name value

/-! ## Restrictions that are met -/

/-- The text of the first member that is met under a name. -/
def textMet (document : Document) (field : String) : Option String :=
  (document.met field).bind fun entry => quotedText entry.value

def numberMet (document : Document) (field : String) : Option ℤ :=
  (document.met field).bind fun entry => numberText entry.value

namespace GrantCall

def capabilitiesMet (call : GrantCall) (document : Document) :
    List Capability :=
  match call with
  | .delegation =>
      ((textMet document "capability").map AuthorityId.mk).toList
  | .run _ =>
      (((textMet document "capabilities").or
        (textMet document "capability")).map fun text =>
          (listedTexts text).map AuthorityId.mk).getD []

def MeetsField (call : GrantCall) (document : Document) (field : ScopeField)
    (text : String) : Prop :=
  match call, field with
  | .delegation, field => field = .resourceId ∧ text = "*"
  | .run _, .resourceType => textMet document "resource_type" = some text
  | .run _, .resourceId =>
      text = "*" ∨
        (textMet document "resource_type").isSome = true ∧
          textMet document "resource_id" = some text
  | .run _, .tenant =>
      (textMet document "resource_tenant").or
        (textMet document "tenant_scope") = some text
  | .run _, .status => textMet document "status" = some text
  | .run _, .department => textMet document "department" = some text

/-- The members that are met say what this member says. -/
structure Heeds (call : GrantCall) (document : Document) (name : String)
    (value : JsonValue) : Prop where
  capabilities : name ∈ capabilityNames →
    ∀ capability ∈ call.capabilitiesMet document,
      capability ∈ statedCapabilities value
  resource : ∀ field : ScopeField, name ∈ field.names →
    ∃ text, value = .string text ∧ call.MeetsField document field text
  expires : name = "expires_at" →
    ∃ time, statedTime value = some time ∧
      ∃ expiry, numberMet document "expires_at" = some expiry ∧
        (expiry : ℚ) ≤ time

end GrantCall

/-! ## What the search finds -/

section Readings

variable (document : Document)

theorem extractQuotedField_met {field : String} (isField : IsField field) :
    extractQuotedField document.text field = textMet document field :=
  extractQuotedField_eq document isField

theorem extractNumberField_met {field : String} (isField : IsField field) :
    extractNumberField document.text field = numberMet document field :=
  extractNumberField_eq document isField

theorem GrantCall.capabilities_met (call : GrantCall) :
    call.capabilities document.text = call.capabilitiesMet document := by
  have single := extractQuotedField_met document
    (show IsField "capability" by decide)
  have several := extractQuotedField_met document
    (show IsField "capabilities" by decide)
  cases call with
  | delegation => rw [capabilities, capabilitiesMet, single]
  | run path =>
      rw [capabilities, capabilitiesMet, capabilityFields, single, several]

end Readings

namespace ResourceScope

variable {scope : ResourceScope}

@[simp] theorem withText_resourceType (key : String) (value : Option String) :
    (scope.withText key value).resourceType = scope.resourceType := by
  cases value <;> rfl

@[simp] theorem withText_resourceId (key : String) (value : Option String) :
    (scope.withText key value).resourceId = scope.resourceId := by
  cases value <;> rfl

theorem withText_attribute (key name : String) (value : Option String) :
    (scope.withText key value).attributes[name]? =
      if key = name then
        (value.map ClaimValue.enum).or scope.attributes[name]?
      else
        scope.attributes[name]? := by
  cases value with
  | none =>
      rw [withText]
      split <;> rfl
  | some value =>
      rw [withText]
      exact KeyedMap.getElem?_insert_eq _ _ _ _

theorem Textual.withText (textual : scope.Textual) {key : String}
    (other : key ≠ "tenant_id") (value : Option String) :
    (scope.withText key value).Textual := by
  intro name stored found
  rw [withText_attribute] at found
  by_cases same : key = name
  · rw [if_pos same] at found
    cases value with
    | none => exact textual name stored found
    | some text =>
        obtain rfl := Option.some.inj found
        exact ⟨same ▸ other, text, rfl⟩
  · rw [if_neg same] at found
    exact textual name stored found

theorem namedScope_eq (resourceType resourceId : Option String) :
    (namedScope resourceType resourceId).resourceType = resourceType ∧
      (namedScope resourceType resourceId).resourceId =
        resourceType.bind (fun _ => resourceId) ∧
      (namedScope resourceType resourceId).attributes = ∅ := by
  cases resourceType <;> cases resourceId <;> exact ⟨rfl, rfl, rfl⟩

theorem textual_of_attributes (none : scope.attributes = ∅) :
    scope.Textual := by
  intro key value found
  rw [none] at found
  simp at found

end ResourceScope

namespace GrantCall

theorem resourceScope_textual (call : GrantCall) (body : List Char) :
    (call.resourceScope body).Textual := by
  cases call with
  | delegation => exact ResourceScope.textual_of_attributes rfl
  | run path =>
      have named := ResourceScope.namedScope_eq
        (extractQuotedField body "resource_type")
        (extractQuotedField body "resource_id")
      have base := ResourceScope.textual_of_attributes named.2.2
      exact ((base.withText (by decide) _).withText (by decide) _).withText
        (by decide) _

theorem resourceScope_demands_iff (call : GrantCall) (document : Document)
    (field : ScopeField) (text : String) :
    (call.resourceScope document.text).Demands field text ↔
      call.MeetsField document field text := by
  cases call with
  | delegation =>
      cases field <;>
        simp [resourceScope, ResourceScope.Demands, ResourceScope.any,
          MeetsField]
  | run path =>
      obtain ⟨types, ids, attributes⟩ := ResourceScope.namedScope_eq
        (textMet document "resource_type") (textMet document "resource_id")
      rw [resourceScope, resourceScopeFromBody]
      simp only [extractQuotedField_met document
          (show IsField "resource_type" by decide),
        extractQuotedField_met document (show IsField "resource_id" by decide),
        extractQuotedField_met document
          (show IsField "resource_tenant" by decide),
        extractQuotedField_met document
          (show IsField "tenant_scope" by decide),
        extractQuotedField_met document (show IsField "status" by decide),
        extractQuotedField_met document (show IsField "department" by decide)]
      cases field with
      | resourceType => simp [ResourceScope.Demands, MeetsField, types]
      | resourceId =>
          simp only [ResourceScope.Demands, MeetsField,
            ResourceScope.withText_resourceId, ids]
          cases textMet document "resource_type" <;> simp
      | _ =>
          simp [ResourceScope.Demands, MeetsField,
            ResourceScope.withText_attribute, attributes]

/-- A grant enforces a member exactly when the members that are met say it. -/
theorem Makes.enforces_iff {call : GrantCall} {request : HttpRequest}
    {before after : AuthMesh} {grant : Grant} {document : Document}
    (makes : call.Makes request before after grant)
    (body : request.body = String.ofList document.text) (name : String)
    (value : JsonValue) :
    grant.Enforces name value ↔ call.Heeds document name value := by
  obtain ⟨_, capabilities, scope, expires⟩ := makes
  rw [body, String.toList_ofList] at capabilities scope expires
  rw [call.capabilities_met] at capabilities
  rw [extractNumberField_met document
    (show IsField "expires_at" by decide)] at expires
  have resource : ∀ field text,
      (∀ request attributes, grant.matchesResource request attributes = true →
        field.SatisfiedBy text request.resource attributes) ↔
          call.MeetsField document field text := by
    intro field text
    rw [← call.resourceScope_demands_iff, ← scope,
      ResourceScope.demands_iff (scope ▸ call.resourceScope_textual _)]
    simp only [grant.matchesResource_eq]
  constructor
  · rintro ⟨ofCapabilities, ofResource, ofExpiry⟩
    rw [capabilities] at ofCapabilities
    rw [expires] at ofExpiry
    simp only [resource] at ofResource
    exact ⟨ofCapabilities, ofResource, ofExpiry⟩
  · rintro ⟨ofCapabilities, ofResource, ofExpiry⟩
    rw [← capabilities] at ofCapabilities
    rw [← expires] at ofExpiry
    simp only [← resource] at ofResource
    exact ⟨ofCapabilities, ofResource, ofExpiry⟩

theorem Makes.restrained_iff {call : GrantCall} {request : HttpRequest}
    {before after : AuthMesh} {grant : Grant} {document : Document}
    (makes : call.Makes request before after grant)
    (body : request.body = String.ofList document.text) :
    Restrained document before after ↔
      ∀ name value, Restricts document name value →
        call.Heeds document name value := by
  simp only [Restrained, makes.created, forall_eq, makes.enforces_iff body]

/--
Whatever delegation or run is asked for with a text of data and granted: it is
restricted as the members of the text state exactly when the members that a
search of the text meets first say the same.
-/
theorem perform_restrained_iff {server : GrantServer} {call : GrantCall}
    {request : HttpRequest} {mesh : AuthMesh} {document : Document}
    (body : request.body = String.ofList document.text)
    (success : (call.perform server request mesh).1.IsOk) :
    Restrained document mesh (call.perform server request mesh).2 ↔
      ∀ name value, Restricts document name value →
        call.Heeds document name value := by
  obtain ⟨grant, makes⟩ := perform_makes success
  exact makes.restrained_iff body

end GrantCall

/-! ## Two delegations -/

def grantServer : GrantServer :=
  { environment := acmeEnvironment
    clock := fun _ => 2
    revision := 0
    fingerprint := "" }

/-- A request for a delegation from the administrator to the worker. -/
def delegationBody (restriction : Cli.Field) : Document :=
  Cli.document ("id", Cli.quoted "dlg_a")
    [("delegator", Cli.quoted (acmeId "alice").value),
      ("delegate", Cli.quoted (acmeId "worker").value),
      ("capability", Cli.quoted "invoice.read"), restriction]

def delegationRequest (document : Document) : HttpRequest :=
  { method := .post
    path := "/_authboundry/delegations"
    query := (∅ : KeyedMap String String).insert "tenant" "acme"
    headers := ∅
    cookies := ∅
    body := String.ofList document.text }

theorem delegationBody_members (restriction : Cli.Field) :
    (delegationBody restriction).value.members =
      [("id", .string "dlg_a"),
        ("delegator", .string (acmeId "alice").value),
        ("delegate", .string (acmeId "worker").value),
        ("capability", .string "invoice.read"),
        (restriction.1, restriction.2.value)] := by
  simp [delegationBody, Cli.document, Document.value, JsonText.value,
    JsonValue.members, Cli.members_values, Cli.quoted_value]

/-- Only the names of restrictions are listened for. -/
theorem GrantCall.heeds_of_silent {call : GrantCall} {document : Document}
    {name : String} {value : JsonValue} (noCapability : name ∉ capabilityNames)
    (noField : ∀ field : ScopeField, name ∉ field.names)
    (noEnd : name ≠ "expires_at") : call.Heeds document name value :=
  { capabilities := fun named => absurd named noCapability
    resource := fun field named => absurd named (noField field)
    expires := fun named => absurd named noEnd }

def endingBody : Document :=
  delegationBody
    ("expires_at",
      .number
        { sign := .unsigned
          whole := [9, 0]
          written := List.cons_ne_nil _ _
          fraction := []
          exponent := none })

theorem endingBody_heeded (name : String) (value : JsonValue)
    (restricts : Restricts endingBody name value) :
    GrantCall.delegation.Heeds endingBody name value := by
  have stated := restricts.stated
  rw [endingBody, delegationBody_members] at stated
  simp only [List.mem_cons, Prod.mk.injEq, List.not_mem_nil, or_false]
    at stated
  rcases stated with ⟨rfl, _⟩ | ⟨rfl, _⟩ | ⟨rfl, _⟩ | ⟨rfl, rfl⟩ | ⟨rfl, rfl⟩
  · exact GrantCall.heeds_of_silent (by decide)
      (fun field => by cases field <;> decide) (by decide)
  · exact GrantCall.heeds_of_silent (by decide)
      (fun field => by cases field <;> decide) (by decide)
  · exact GrantCall.heeds_of_silent (by decide)
      (fun field => by cases field <;> decide) (by decide)
  · refine
      { capabilities := fun _ capability member => ?_
        resource := fun field named => absurd named ?_
        expires := fun named => absurd named (by decide) }
    · have met : GrantCall.delegation.capabilitiesMet endingBody =
          [⟨"invoice.read"⟩] := by decide +kernel
      rw [met, List.mem_singleton] at member
      rw [member]
      exact List.mem_cons_self
    · cases field <;> decide
  · refine
      { capabilities := fun named => absurd named (by decide)
        resource := fun field named => absurd named ?_
        expires := fun _ => ⟨90, ?_, 90, ?_, le_refl _⟩ }
    · cases field <;> decide
    · decide +kernel
    · decide +kernel

theorem endingDelegation_restrained :
    Restrained endingBody staffedMesh
      (GrantCall.delegation.perform grantServer (delegationRequest endingBody)
        staffedMesh).2 := by
  have success : (GrantCall.delegation.perform grantServer
      (delegationRequest endingBody) staffedMesh).1.IsOk := by
    rw [ControlResponse.IsOk]
    decide +kernel
  exact (GrantCall.perform_restrained_iff rfl success).mpr endingBody_heeded

def limitedBody : Document :=
  delegationBody ("resource_type", Cli.quoted "invoice")

theorem limitedDelegation_unrestrained :
    (GrantCall.delegation.perform grantServer (delegationRequest limitedBody)
        staffedMesh).1.IsOk ∧
      ¬Restrained limitedBody staffedMesh
        (GrantCall.delegation.perform grantServer
          (delegationRequest limitedBody) staffedMesh).2 := by
  have success : (GrantCall.delegation.perform grantServer
      (delegationRequest limitedBody) staffedMesh).1.IsOk := by
    rw [ControlResponse.IsOk]
    decide +kernel
  have restricts : Restricts limitedBody "resource_type"
      (.string "invoice") := by
    constructor
    · rw [limitedBody, delegationBody_members]
      simp [Cli.quoted_value]
    · simp
  refine ⟨success, fun restrained => ?_⟩
  obtain ⟨grant, makes⟩ := GrantCall.perform_makes success
  have heeds := (makes.restrained_iff rfl).mp restrained _ _ restricts
  obtain ⟨text, _, meets⟩ := heeds.resource .resourceType
    List.mem_cons_self
  cases meets.1

end AuthBoundry
