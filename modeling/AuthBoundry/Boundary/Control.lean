import AuthBoundry.Authz.Policy
import AuthBoundry.Boundary.Request
import AuthBoundry.Dsl.Model

/-!
# Live authority state

The contract says what exists; the live state says what is permitted now.
-/

namespace AuthBoundry

open Library

structure RouteId where
  method : Method
  path : String
  deriving DecidableEq, Repr

namespace RouteId

def key (self : RouteId) : Method × String := (self.method, self.path)

instance : Ord RouteId := ⟨compareOn key⟩

instance : Std.TransOrd RouteId :=
  inferInstanceAs (Std.TransCmp (compareOn key))

instance : Std.LawfulEqOrd RouteId where
  eq_of_compare {left right} same := by
    have keys : left.key = right.key := Std.LawfulEqOrd.eq_of_compare same
    obtain ⟨methods, paths⟩ := Prod.mk.inj keys
    cases left
    cases right
    simp_all

end RouteId

structure RouteProtection where
  capability : Option String
  deriving DecidableEq, Repr

structure ProviderState where
  enabled : Bool
  deriving DecidableEq, Repr

structure LiveAuthorityState where
  routeProtection : KeyedMap RouteId RouteProtection
  capabilityPolicies : KeyedMap String Policy
  providerState : KeyedMap String ProviderState
  passwordPolicy : Option PasswordPolicy
  revision : Nat

def LiveAuthorityState.new : LiveAuthorityState :=
  { routeProtection := ∅
    capabilityPolicies := ∅
    providerState := ∅
    passwordPolicy := none
    revision := 0 }

inductive AuthorityChange where
  | protectRoute (method : Method) (path capability : String)
  | unprotectRoute (method : Method) (path : String)
  | setCapabilityPolicy (capability : String) (policy : Policy)
  | setProviderEnabled (provider : String) (enabled : Bool)
  | setPasswordPolicy (policy : PasswordPolicy)
  | revert (changeId : String)

/-- The state after a change, or why there is none. -/
def applyChange (current : LiveAuthorityState) (change : AuthorityChange) :
    Except String LiveAuthorityState :=
  let next := { current with revision := current.revision + 1 }
  match change with
  | .protectRoute method path capability =>
      .ok { next with
        routeProtection := next.routeProtection.insert { method, path }
          { capability := some capability } }
  | .unprotectRoute method path =>
      .ok { next with
        routeProtection := next.routeProtection.erase { method, path } }
  | .setCapabilityPolicy capability policy =>
      .ok { next with
        capabilityPolicies :=
          next.capabilityPolicies.insert capability policy }
  | .setProviderEnabled provider enabled =>
      .ok { next with
        providerState := next.providerState.insert provider { enabled } }
  | .setPasswordPolicy policy =>
      match policy.validate with
      | .error err => .error err.message
      | .ok () => .ok { next with passwordPolicy := some policy }
  | .revert _ => .error "revert requires an applied change record"

end AuthBoundry
