import AuthBoundry.Boundary.ProposalFailures
import AuthBoundry.Library.Encoding

/-!
# What an approval is bound to

The token of an approval is a hash of the proposed change.  Which proposal
proposed the change, and at which revision, is not hashed.
-/

namespace AuthBoundry

open Library
open Library.Stateful

/-- A text is hashed as its bytes and a byte that is in no text. -/
def hashText (text : String) : List UInt8 :=
  utf8 text ++ [0xFF]

def PasswordPolicy.revisionFingerprint (self : PasswordPolicy) : String :=
  hex16 (stableHash self.writeCanonical)

namespace AuthorityChange

-- The debug text of a policy is as the compiler derives it.
variable (debugPolicy : Policy → String)

def hashInput : AuthorityChange → List UInt8
  | .protectRoute method path capability =>
      hashText "ProtectRoute" ++ (hashText method.asStr ++
        (hashText path ++ hashText capability))
  | .unprotectRoute method path =>
      hashText "UnprotectRoute" ++ (hashText method.asStr ++ hashText path)
  | .setCapabilityPolicy capability policy =>
      hashText "SetCapabilityPolicy" ++ (hashText capability ++
        hashText (debugPolicy policy))
  | .setProviderEnabled provider enabled =>
      hashText "SetProviderEnabled" ++ (hashText provider ++
        [if enabled then 1 else 0])
  | .setPasswordPolicy policy =>
      hashText "SetPasswordPolicy" ++ hashText policy.revisionFingerprint
  | .revert changeId => hashText "Revert" ++ hashText changeId

def stableHash (finish : List UInt8 → UInt64) (change : AuthorityChange) :
    UInt64 :=
  finish (change.hashInput debugPolicy)

/-- The changes are of one kind and agree in everything that is hashed. -/
def HashedAlike : AuthorityChange → AuthorityChange → Prop
  | .protectRoute method path capability,
      .protectRoute method' path' capability' =>
      method = method' ∧ path = path' ∧ capability = capability'
  | .unprotectRoute method path, .unprotectRoute method' path' =>
      method = method' ∧ path = path'
  | .setCapabilityPolicy capability policy,
      .setCapabilityPolicy capability' policy' =>
      capability = capability' ∧ debugPolicy policy = debugPolicy policy'
  | .setProviderEnabled provider enabled,
      .setProviderEnabled provider' enabled' =>
      provider = provider' ∧ enabled = enabled'
  | .setPasswordPolicy policy, .setPasswordPolicy policy' =>
      policy.revisionFingerprint = policy'.revisionFingerprint
  | .revert changeId, .revert changeId' => changeId = changeId'
  | _, _ => False

end AuthorityChange

/-! ## Reading the input back -/

theorem hashText_append_inj {left right : String} {rest rest' : List UInt8}
    (same : hashText left ++ rest = hashText right ++ rest') :
    left = right ∧ rest = rest' := by
  simp only [hashText, List.append_assoc, List.singleton_append] at same
  obtain ⟨bytes, rests⟩ :=
    append_separator_inj (not_mem_utf8 left) (not_mem_utf8 right) same
  exact ⟨utf8_inj bytes, rests⟩

theorem hashText_inj {left right : String}
    (same : hashText left = hashText right) : left = right := by
  have padded : hashText left ++ [] = hashText right ++ [] := by
    rw [same]
  exact (hashText_append_inj padded).1

namespace AuthorityChange

variable {debugPolicy : Policy → String} {left right : AuthorityChange}

theorem hashInput_eq_iff :
    left.hashInput debugPolicy = right.hashInput debugPolicy ↔
      left.HashedAlike debugPolicy right := by
  constructor
  · intro same
    cases left <;> cases right <;>
      obtain ⟨kind, fields⟩ := hashText_append_inj same
    case protectRoute.protectRoute =>
      obtain ⟨methods, fields⟩ := hashText_append_inj fields
      obtain ⟨paths, fields⟩ := hashText_append_inj fields
      exact ⟨Method.asStr_inj methods, paths, hashText_inj fields⟩
    case unprotectRoute.unprotectRoute =>
      obtain ⟨methods, fields⟩ := hashText_append_inj fields
      exact ⟨Method.asStr_inj methods, hashText_inj fields⟩
    case setCapabilityPolicy.setCapabilityPolicy =>
      obtain ⟨capabilities, fields⟩ := hashText_append_inj fields
      exact ⟨capabilities, hashText_inj fields⟩
    case setProviderEnabled.setProviderEnabled enabled _ enabled' =>
      obtain ⟨providers, fields⟩ := hashText_append_inj fields
      refine ⟨providers, ?_⟩
      cases enabled <;> cases enabled' <;> first | rfl | simp at fields
    case setPasswordPolicy.setPasswordPolicy => exact hashText_inj fields
    case revert.revert => exact hashText_inj fields
    all_goals simp at kind
  · intro alike
    cases left <;> cases right <;> simp_all [HashedAlike, hashInput]

end AuthorityChange

/-! ## Verification -/

namespace Approval

variable {hashChange : AuthorityChange → UInt64} {first second : ChangeProposal}

theorem verify_forProposal_iff :
    (forProposal hashChange first).verify hashChange second = true ↔
      hashChange first.change = hashChange second.change := by
  simp only [verify, forProposal, beq_iff_eq]
  constructor
  · intro same
    have digits := congrArg String.toList same
    simp only [String.toList_append, List.append_cancel_left_eq] at digits
    exact UInt64.toNat_inj.mp (decimal_inj (String.toList_inj.mp digits))
  · intro same
    rw [same]

/-- An approval that was given for the first proposal does not pass for the
second. -/
def Binds (hashChange : AuthorityChange → UInt64)
    (first second : ChangeProposal) : Prop :=
  first.id ≠ second.id →
    (forProposal hashChange first).verify hashChange second = false

/-- As long as the hasher tells its inputs apart, an approval is bound to its
proposal exactly if the other proposal is of another change. -/
theorem binds_iff {debugPolicy : Policy → String}
    {finish : List UInt8 → UInt64}
    (injective : Set.InjOn finish
      {first.change.hashInput debugPolicy,
        second.change.hashInput debugPolicy}) :
    Binds (AuthorityChange.stableHash debugPolicy finish) first second ↔
      (first.id ≠ second.id →
        ¬first.change.HashedAlike debugPolicy second.change) := by
  have verified_iff :
      (forProposal (AuthorityChange.stableHash debugPolicy finish)
          first).verify (AuthorityChange.stableHash debugPolicy finish)
        second = true ↔ first.change.HashedAlike debugPolicy second.change := by
    rw [verify_forProposal_iff, ← AuthorityChange.hashInput_eq_iff]
    exact injective.eq_iff (Set.mem_insert _ _)
      (Set.mem_insert_of_mem _ (Set.mem_singleton _))
  unfold Binds
  rw [← Bool.not_eq_true, verified_iff]

end Approval

/-! ## A change that is proposed twice -/

/-- A proposal to switch the local provider, made at a given revision. -/
def localProposal (id : String) (enabled : Bool) (revision : Nat) :
    ChangeProposal :=
  { id
    change := .setProviderEnabled "local" enabled
    preview := { before := .ofState .new, after := .ofState .new }
    revision }

theorem binds_iff_opposite :
    Approval.Binds (AuthorityChange.stableHash (fun _ => "") fnv1a)
        (localProposal "proposal-1" false 0)
        (localProposal "proposal-2" true 0) ↔
      ("proposal-1" ≠ "proposal-2" →
        ¬(localProposal "proposal-1" false 0).change.HashedAlike (fun _ => "")
          (localProposal "proposal-2" true 0).change) := by
  apply Approval.binds_iff
  rw [Set.injOn_pair]
  intro same
  exact absurd same (by decide +kernel)

/-- The provider was disabled once and is enabled again; the approval of then
still passes for a new proposal to disable it. -/
theorem repeatedChange_not_bound :
    ¬∃ debugPolicy finish,
      Approval.Binds (AuthorityChange.stableHash debugPolicy finish)
        (localProposal "proposal-1" false 0)
        (localProposal "proposal-3" false 2) := by
  rintro ⟨debugPolicy, finish, bound⟩
  have refused := bound (by decide)
  rw [← Bool.not_eq_true, Approval.verify_forProposal_iff] at refused
  exact refused rfl

end AuthBoundry
