import AuthBoundry.Runtime.Authorize

/-!
# What a scope demands of a resource

A scope demands texts of single fields of the resource that a request is for.
It matches only requests that meet a restriction exactly when the restriction
is one of its demands: a scope that does not name a field matches whatever the
field is.
-/

namespace AuthBoundry

open Library

/-- What a restriction may be about. -/
inductive ScopeField where
  | resourceType
  | resourceId
  | tenant
  | status
  | department
  deriving DecidableEq, Repr

def ScopeField.SatisfiedBy (field : ScopeField) (text : String)
    (resource : Option ResourceRef) (attributes : Option ResourceAttributes) :
    Prop :=
  match field with
  | .resourceType => ∃ found ∈ resource, found.resourceType = text
  | .resourceId => text = "*" ∨ ∃ found ∈ resource, found.resourceId = text
  | .tenant => ∃ found ∈ resource, found.tenantId.value = text
  | .status => ∃ found ∈ attributes, found.values["status"]? = some (.enum text)
  | .department =>
      ∃ found ∈ attributes, found.values["department"]? = some (.enum text)

namespace ResourceScope

def Demands (self : ResourceScope) (field : ScopeField) (text : String) :
    Prop :=
  match field with
  | .resourceType => self.resourceType = some text
  | .resourceId => text = "*" ∨ self.resourceId = some text
  | .tenant => self.attributes["tenant"]? = some (.enum text)
  | .status => self.attributes["status"]? = some (.enum text)
  | .department => self.attributes["department"]? = some (.enum text)

/-- Only texts are demanded, and the tenant under its one name. -/
def Textual (self : ResourceScope) : Prop :=
  ∀ (key : String) value, self.attributes[key]? = some value →
    key ≠ "tenant_id" ∧ ∃ text, value = .enum text

/-- A demand of one attribute is met. -/
def MeetsAttribute (resource : ResourceRef)
    (attributes : Option ResourceAttributes) (key : String)
    (expected : ClaimValue) : Prop :=
  if key = "tenant" ∨ key = "tenant_id" then
    matchesTenant expected resource.tenantId.value = true
  else
    (attributes.bind fun found => found.values[key]?) = some expected

end ResourceScope

section Matching

variable {scope : ResourceScope} {request : AuthorizationRequest}
  {attributes : Option ResourceAttributes}

theorem resourceScopeMatches_iff :
    resourceScopeMatches scope request attributes = true ↔
      scope.isUnconstrained = true ∨
        ∃ resource, request.resource = some resource ∧
          (∀ resourceType, scope.resourceType = some resourceType →
            resourceType = resource.resourceType) ∧
          (∀ resourceId, scope.resourceId = some resourceId →
            resourceId = "*" ∨ resourceId = resource.resourceId) ∧
          ∀ (key : String) expected, scope.attributes[key]? = some expected →
            ResourceScope.MeetsAttribute resource attributes key expected := by
  rw [resourceScopeMatches]
  by_cases free : scope.isUnconstrained = true
  · simp [free]
  · rw [if_neg free, or_iff_right free]
    cases request.resource with
    | none => simp
    | some resource =>
        have meetsIff : ∀ (key : String) (expected : ClaimValue),
            (if key == "tenant" || key == "tenant_id" then
                matchesTenant expected resource.tenantId.value
              else
                (attributes.bind fun attributes =>
                  attributes.values[key]?) == some expected) = true ↔
              ResourceScope.MeetsAttribute resource attributes key
                expected := by
          intro key expected
          rw [ResourceScope.MeetsAttribute]
          by_cases named : key = "tenant" ∨ key = "tenant_id"
          · simp [named]
          · simp [named]
        simp only [Bool.and_eq_true, and_assoc, List.all_eq_true, Prod.forall,
          Std.ExtTreeMap.mem_toList_iff_getElem?_eq_some, meetsIff]
        cases scope.resourceType <;> cases scope.resourceId <;> simp

theorem matchesTenant_enum_iff {text tenantId : String} :
    matchesTenant (.enum text) tenantId = true ↔ text = tenantId :=
  beq_iff_eq

theorem ResourceScope.Demands.constrained {field : ScopeField} {text : String}
    (demands : scope.Demands field text)
    (wildcardless : field = .resourceId → text ≠ "*") :
    ¬ scope.isUnconstrained = true := by
  intro free
  simp only [ResourceScope.isUnconstrained, Bool.and_eq_true,
    Option.isNone_iff_eq_none, Std.ExtTreeMap.isEmpty_iff] at free
  obtain ⟨⟨noType, noId⟩, noAttributes⟩ := free
  cases field with
  | resourceType =>
      rw [Demands, noType] at demands
      cases demands
  | resourceId =>
      rcases demands with wildcard | named
      · exact wildcardless rfl wildcard
      · rw [noId] at named
        cases named
  | _ =>
      rw [Demands, noAttributes] at demands
      simp at demands

theorem ResourceScope.Demands.satisfied {field : ScopeField} {text : String}
    (demands : scope.Demands field text)
    (matched : resourceScopeMatches scope request attributes = true) :
    field.SatisfiedBy text request.resource attributes := by
  by_cases wildcard : field = .resourceId ∧ text = "*"
  · obtain ⟨rfl, same⟩ := wildcard
    exact .inl same
  · have constrained := demands.constrained
      fun isId same => wildcard ⟨isId, same⟩
    obtain ⟨resource, found, types, ids, meets⟩ :=
      (resourceScopeMatches_iff.mp matched).resolve_left constrained
    cases field with
    | resourceType => exact ⟨resource, found, (types text demands).symm⟩
    | resourceId =>
        rcases demands with same | named
        · exact .inl same
        · exact (ids text named).imp_right fun same =>
            ⟨resource, found, same.symm⟩
    | tenant =>
        have met := meets "tenant" _ demands
        rw [MeetsAttribute, if_pos (.inl rfl), matchesTenant_enum_iff] at met
        exact ⟨resource, found, met.symm⟩
    | status =>
        have met := meets "status" _ demands
        rw [MeetsAttribute, if_neg (by decide)] at met
        exact Option.bind_eq_some_iff.mp met
    | department =>
        have met := meets "department" _ demands
        rw [MeetsAttribute, if_neg (by decide)] at met
        exact Option.bind_eq_some_iff.mp met

end Matching

/-! ## A request that meets the demands only -/

namespace ResourceScope

/-- A text that is not the given one. -/
def otherThan (text : String) : String := text ++ "?"

theorem otherThan_ne (text : String) : otherThan text ≠ text := by
  intro same
  have lengths := congrArg String.length same
  simp [otherThan] at lengths

def demandedTenant (self : ResourceScope) : Option String :=
  match self.attributes["tenant"]? with
  | some (.enum text) => some text
  | _ => none

def probe (self : ResourceScope) (text : String) : ResourceRef :=
  { resourceType := self.resourceType.getD (otherThan text)
    resourceId :=
      (self.resourceId.filter (· != "*")).getD (otherThan text)
    tenantId := ⟨self.demandedTenant.getD (otherThan text)⟩ }

def probeRequest (self : ResourceScope) (text : String) :
    AuthorizationRequest :=
  { principal := ⟨""⟩
    tenant := ⟨""⟩
    capability := ⟨""⟩
    action := ⟨""⟩
    resource := some (self.probe text)
    context := .default }

def probeAttributes (self : ResourceScope) : ResourceAttributes :=
  { tenantId := none, values := self.attributes }

variable {scope : ResourceScope}

theorem demandedTenant_eq_some_iff {text : String} :
    scope.demandedTenant = some text ↔
      scope.attributes["tenant"]? = some (.enum text) := by
  rw [demandedTenant]
  cases scope.attributes["tenant"]? with
  | none => simp
  | some value => cases value <;> simp

theorem resourceScopeMatches_probe (textual : scope.Textual) (text : String) :
    resourceScopeMatches scope (scope.probeRequest text)
      (some scope.probeAttributes) = true := by
  refine resourceScopeMatches_iff.mpr
    (.inr ⟨scope.probe text, rfl, ?_, ?_, ?_⟩)
  · intro resourceType named
    simp [probe, named]
  · intro resourceId named
    by_cases wildcard : resourceId = "*"
    · exact .inl wildcard
    · right
      simp [probe, named, Option.filter, wildcard]
  · intro key expected demanded
    obtain ⟨notOther, text, rfl⟩ := textual key expected demanded
    rw [MeetsAttribute]
    by_cases isTenant : key = "tenant"
    · subst isTenant
      have tenant := demandedTenant_eq_some_iff.mpr demanded
      rw [if_pos (.inl rfl), matchesTenant_enum_iff]
      simp [probe, tenant]
    · rw [if_neg (by simp [isTenant, notOther])]
      exact demanded

/-- What is met by default is the text that was to be avoided. -/
theorem eq_some_of_getD {found : Option String} {text : String}
    (same : found.getD (otherThan text) = text) : found = some text := by
  cases found with
  | none => exact absurd same (otherThan_ne text)
  | some value => exact congrArg some same

theorem demands_of_probe {field : ScopeField} {text : String}
    (satisfied : field.SatisfiedBy text (scope.probeRequest text).resource
      (some scope.probeAttributes)) : scope.Demands field text := by
  cases field with
  | resourceType =>
      obtain ⟨found, same, typed⟩ := satisfied
      obtain rfl := Option.some.inj same
      exact eq_some_of_getD typed
  | resourceId =>
      refine satisfied.imp_right ?_
      rintro ⟨found, same, named⟩
      obtain rfl := Option.some.inj same
      have kept := eq_some_of_getD named
      exact (Option.filter_eq_some_iff.mp kept).1
  | tenant =>
      obtain ⟨found, same, owned⟩ := satisfied
      obtain rfl := Option.some.inj same
      exact demandedTenant_eq_some_iff.mp (eq_some_of_getD owned)
  | status =>
      obtain ⟨found, same, stored⟩ := satisfied
      obtain rfl := Option.some.inj same
      exact stored
  | department =>
      obtain ⟨found, same, stored⟩ := satisfied
      obtain rfl := Option.some.inj same
      exact stored

theorem demands_iff (textual : scope.Textual) {field : ScopeField}
    {text : String} :
    scope.Demands field text ↔
      ∀ request attributes,
        resourceScopeMatches scope request attributes = true →
          field.SatisfiedBy text request.resource attributes := by
  constructor
  · intro demands request attributes matched
    exact demands.satisfied matched
  · intro satisfied
    apply demands_of_probe
    exact satisfied _ _ (resourceScopeMatches_probe textual text)

end ResourceScope

end AuthBoundry
