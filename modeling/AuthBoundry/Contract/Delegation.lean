import AuthBoundry.Contract.Ids

/-!
# Delegations and their resource scopes

A delegation hands some capabilities of its delegator to a delegate, for the
resources its scope selects and while it is neither revoked nor outside its
period.
-/

namespace AuthBoundry

open Library

inductive ClaimValue where
  | enum (value : String)
  | string (value : String)
  | integer (value : Int)
  | boolean (value : Bool)
  deriving DecidableEq, Repr

/-- What a delegation or a run may touch.  An absent field constrains nothing. -/
structure ResourceScope where
  resourceType : Option String
  resourceId : Option String
  attributes : KeyedMap String ClaimValue
  deriving DecidableEq

namespace ResourceScope

def any : ResourceScope :=
  { resourceType := none, resourceId := none, attributes := ∅ }

def resource (resourceType : String) : ResourceScope :=
  { resourceType := some resourceType, resourceId := none, attributes := ∅ }

def exact (resourceType resourceId : String) : ResourceScope :=
  { resourceType := some resourceType
    resourceId := some resourceId
    attributes := ∅ }

def isUnconstrained (self : ResourceScope) : Bool :=
  self.resourceType.isNone && self.resourceId.isNone && self.attributes.isEmpty

def isSubsetOf (self parent : ResourceScope) : Bool :=
  (match parent.resourceType with
    | some parentType => self.resourceType == some parentType
    | none => true) &&
  (match parent.resourceId with
    | some parentId => self.resourceId == some parentId
    | none => true) &&
  parent.attributes.toList.all
    (fun (key, value) => self.attributes[key]? == some value)

/-- Every field the parent constrains is constrained to the same value. -/
theorem isSubsetOf_iff {self parent : ResourceScope} :
    self.isSubsetOf parent = true ↔
      (∀ parentType, parent.resourceType = some parentType →
        self.resourceType = some parentType) ∧
      (∀ parentId, parent.resourceId = some parentId →
        self.resourceId = some parentId) ∧
      (∀ (key : String) value, parent.attributes[key]? = some value →
        self.attributes[key]? = some value) := by
  have attributesIff :
      parent.attributes.toList.all
          (fun (key, value) => self.attributes[key]? == some value) = true ↔
        ∀ (key : String) value, parent.attributes[key]? = some value →
          self.attributes[key]? = some value := by
    simp only [List.all_eq_true, beq_iff_eq, Prod.forall,
      Std.ExtTreeMap.mem_toList_iff_getElem?_eq_some]
  unfold isSubsetOf
  rw [Bool.and_eq_true, Bool.and_eq_true, attributesIff, and_assoc]
  cases parent.resourceType <;> cases parent.resourceId <;> simp

theorem isSubsetOf_refl (self : ResourceScope) :
    self.isSubsetOf self = true :=
  isSubsetOf_iff.mpr
    ⟨fun _ same => same, fun _ same => same, fun _ _ same => same⟩

theorem isSubsetOf_trans {inner middle outer : ResourceScope}
    (first : inner.isSubsetOf middle = true)
    (second : middle.isSubsetOf outer = true) :
    inner.isSubsetOf outer = true := by
  obtain ⟨innerType, innerId, innerAttributes⟩ := isSubsetOf_iff.mp first
  obtain ⟨outerType, outerId, outerAttributes⟩ := isSubsetOf_iff.mp second
  refine isSubsetOf_iff.mpr ⟨?_, ?_, ?_⟩
  · intro parentType constrained
    exact innerType parentType (outerType parentType constrained)
  · intro parentId constrained
    exact innerId parentId (outerId parentId constrained)
  · intro key value constrained
    exact innerAttributes key value (outerAttributes key value constrained)

/-- A scope inside a constrained one is itself constrained. -/
theorem isUnconstrained_of_isSubsetOf {self parent : ResourceScope}
    (subset : self.isSubsetOf parent = true)
    (unconstrained : self.isUnconstrained = true) :
    parent.isUnconstrained = true := by
  obtain ⟨types, ids, attributes⟩ := isSubsetOf_iff.mp subset
  unfold isUnconstrained at unconstrained ⊢
  simp only [Bool.and_eq_true, Option.isNone_iff_eq_none] at unconstrained ⊢
  obtain ⟨⟨noType, noId⟩, noAttributes⟩ := unconstrained
  refine ⟨⟨?_, ?_⟩, ?_⟩
  · cases parentType : parent.resourceType with
    | none => rfl
    | some value => simp [types value parentType] at noType
  · cases parentId : parent.resourceId with
    | none => rfl
    | some value => simp [ids value parentId] at noId
  · rw [Std.ExtTreeMap.isEmpty_iff] at noAttributes ⊢
    rw [Std.ExtTreeMap.eq_empty_iff_forall_not_mem]
    intro key member
    have stored := attributes key _
      (Std.ExtTreeMap.getElem?_eq_some_getElem member)
    rw [noAttributes] at stored
    simp at stored

end ResourceScope

inductive DelegationStatus where
  | active
  | pending
  | expired
  | revoked
  deriving DecidableEq, Repr

structure Delegation where
  id : DelegationId
  delegator : PrincipalId
  delegate : PrincipalId
  tenantId : TenantId
  capabilities : List Capability
  resourceScope : ResourceScope
  issuedAt : Int
  expiresAt : Option Int
  revokedAt : Option Int
  chain : List DelegationId
  deriving DecidableEq

namespace Delegation

def statusAt (self : Delegation) (now : Int) : DelegationStatus :=
  if self.revokedAt.isSome then
    .revoked
  else if self.issuedAt > now then
    .pending
  else if (self.expiresAt.map fun expiresAt => decide (now ≥ expiresAt)).getD
      false then
    .expired
  else
    .active

def isValidAt (self : Delegation) (now : Int) : Bool :=
  self.statusAt now == .active

theorem isValidAt_iff {self : Delegation} {now : Int} :
    self.isValidAt now = true ↔
      self.revokedAt = none ∧ self.issuedAt ≤ now ∧
        ∀ expiresAt, self.expiresAt = some expiresAt → now < expiresAt := by
  unfold isValidAt statusAt
  cases self.revokedAt with
  | some revokedAt => simp
  | none =>
      cases self.expiresAt with
      | none =>
          by_cases pending : self.issuedAt > now
          · simp [pending]
          · simp [pending, Int.not_lt.mp pending]
      | some expiresAt =>
          by_cases pending : self.issuedAt > now
          · simp [pending]
          · by_cases expired : now ≥ expiresAt
            · simp [pending, expired, Int.not_lt.mpr expired]
            · simp [pending, Int.not_le.mp expired, Int.not_lt.mp pending]

/-- What expires at `expiresAt` does not outlive `parent`. -/
def expiresWithin (expiresAt : Option Int) (parent : Delegation) : Bool :=
  match parent.expiresAt, expiresAt with
  | none, _ => true
  | some _, none => false
  | some parentExpiry, some expiry => decide (expiry ≤ parentExpiry)

/-- A period from `issuedAt` to `expiresAt` lies inside that of `parent`. -/
def periodWithin (issuedAt : Int) (expiresAt : Option Int)
    (parent : Delegation) : Bool :=
  decide (parent.issuedAt ≤ issuedAt) && expiresWithin expiresAt parent

theorem expiresWithin_iff {expiresAt : Option Int} {parent : Delegation} :
    expiresWithin expiresAt parent = true ↔
      ∀ parentExpiry, parent.expiresAt = some parentExpiry →
        ∃ expiry, expiresAt = some expiry ∧ expiry ≤ parentExpiry := by
  unfold expiresWithin
  cases parent.expiresAt with
  | none => simp
  | some parentExpiry =>
      cases expiresAt with
      | none => simp
      | some expiry => simp

theorem periodWithin_iff {issuedAt : Int} {expiresAt : Option Int}
    {parent : Delegation} :
    periodWithin issuedAt expiresAt parent = true ↔
      parent.issuedAt ≤ issuedAt ∧
        ∀ parentExpiry, parent.expiresAt = some parentExpiry →
          ∃ expiry, expiresAt = some expiry ∧ expiry ≤ parentExpiry := by
  unfold periodWithin
  rw [Bool.and_eq_true, decide_eq_true_iff, expiresWithin_iff]

theorem periodWithin_trans {issuedAt : Int} {expiresAt : Option Int}
    {middle outer : Delegation}
    (inner : periodWithin issuedAt expiresAt middle = true)
    (within : periodWithin middle.issuedAt middle.expiresAt outer = true) :
    periodWithin issuedAt expiresAt outer = true := by
  rw [periodWithin_iff] at inner within ⊢
  refine ⟨le_trans within.1 inner.1, ?_⟩
  intro outerExpiry bounded
  obtain ⟨middleExpiry, middleBounded, middleWithin⟩ :=
    within.2 outerExpiry bounded
  obtain ⟨expiry, expires, innerWithin⟩ := inner.2 middleExpiry middleBounded
  exact ⟨expiry, expires, le_trans innerWithin middleWithin⟩

theorem isValidAt_of_periodWithin {self parent : Delegation} {now : Int}
    (within : periodWithin self.issuedAt self.expiresAt parent = true)
    (unrevoked : parent.revokedAt = none) (valid : self.isValidAt now = true) :
    parent.isValidAt now = true := by
  rw [periodWithin_iff] at within
  rw [isValidAt_iff] at valid ⊢
  refine ⟨unrevoked, le_trans within.1 valid.2.1, ?_⟩
  intro parentExpiry bounded
  obtain ⟨expiry, expires, expiryWithin⟩ := within.2 parentExpiry bounded
  exact lt_of_lt_of_le (valid.2.2 expiry expires) expiryWithin

end Delegation

end AuthBoundry
