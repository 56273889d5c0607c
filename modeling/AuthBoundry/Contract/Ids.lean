import AuthBoundry.Library.KeyedMap

/-!
# Authority identifiers

Every identifier is a string of its own type.  Identifiers of one kind are
ordered as their strings, and that order is the one in which a store lists
its records.
-/

namespace AuthBoundry

/-- What an identifier names. -/
inductive IdKind where
  | tenant
  | principal
  | identity
  | session
  | policy
  | storageRoot
  | providerName
  | providerSubject
  | capability
  | delegation
  | auditEvent
  | run
  | task
  | executionCredential
  deriving DecidableEq, Repr

/-- An authority identifier. -/
structure AuthorityId (kind : IdKind) where
  value : String
  deriving DecidableEq, Repr

abbrev TenantId := AuthorityId .tenant
abbrev PrincipalId := AuthorityId .principal
abbrev IdentityId := AuthorityId .identity
abbrev SessionId := AuthorityId .session
abbrev PolicyId := AuthorityId .policy
abbrev StorageRootId := AuthorityId .storageRoot
abbrev ProviderName := AuthorityId .providerName
abbrev ProviderSubject := AuthorityId .providerSubject
abbrev Capability := AuthorityId .capability
abbrev DelegationId := AuthorityId .delegation
abbrev AuditEventId := AuthorityId .auditEvent
abbrev RunId := AuthorityId .run
abbrev TaskId := AuthorityId .task
abbrev ExecutionCredentialId := AuthorityId .executionCredential

namespace AuthorityId

variable {kind : IdKind}

instance : ToString (AuthorityId kind) := ⟨AuthorityId.value⟩

instance : Ord (AuthorityId kind) := ⟨compareOn AuthorityId.value⟩

instance : Std.TransOrd (AuthorityId kind) :=
  inferInstanceAs (Std.TransCmp (compareOn AuthorityId.value))

instance : Std.LawfulEqOrd (AuthorityId kind) where
  eq_of_compare {left right} same := by
    cases left
    cases right
    exact congrArg AuthorityId.mk (Std.LawfulEqOrd.eq_of_compare same)

instance : LE (AuthorityId kind) := ⟨fun left right => left.value ≤ right.value⟩

instance (left right : AuthorityId kind) : Decidable (left ≤ right) :=
  inferInstanceAs (Decidable (left.value ≤ right.value))

theorem precedes_refl (id : AuthorityId kind) : id ≤ id :=
  le_refl id.value

theorem precedes_trans {first second third : AuthorityId kind}
    (before : first ≤ second) (after : second ≤ third) : first ≤ third := by
  have valueBefore : first.value ≤ second.value := before
  have valueAfter : second.value ≤ third.value := after
  exact valueBefore.trans valueAfter

theorem precedes_total (left right : AuthorityId kind) :
    left ≤ right ∨ right ≤ left :=
  le_total left.value right.value

theorem precedes_antisymm {left right : AuthorityId kind}
    (before : left ≤ right) (after : right ≤ left) : left = right := by
  cases left
  cases right
  have values : _ = _ := le_antisymm (α := String) before after
  exact congrArg AuthorityId.mk values

end AuthorityId

end AuthBoundry
