import AuthBoundry.Runtime.Identities

/-!
# Whose session it is

A session carries the id of an identity, and that id is made of the tenant, the
connector and the subject of the identity.  In every run the index of the
identities leads to ids that are made so; a session therefore tells the account
that it was opened for.
-/

namespace AuthBoundry

open Library
open Library.Stateful

namespace MemoryIdentityStore

/-- Every identity is filed under the id that its key makes. -/
structure FiledAsLinked (store : MemoryIdentityStore) : Prop where
  indexed : ∀ (key : IdentityKey) id, store.byProvider[key]? = some id →
    id = identityIdFor key
  keyed : KeyedMap.KeyedBy Identity.id store.identities

namespace FiledAsLinked

variable {self : MemoryIdentityStore}

theorem recorded (filed : self.FiledAsLinked) (key : IdentityKey)
    (claims : Claims) : (self.recorded key claims).FiledAsLinked where
  indexed := KeyedMap.forall_insert rfl filed.indexed
  keyed := filed.keyed.insert (linkedIdentity key claims)

theorem found (filed : self.FiledAsLinked) {tenant : TenantContext}
    {external : ExternalIdentity} {identity : Identity}
    (found : self.findIdentity tenant ⟨external.connector⟩
      ⟨external.subject⟩ = .ok (some identity)) :
    identity.id = identityIdFor (identityKey tenant external) := by
  unfold findIdentity at found
  split at found
  · rename_i id indexed
    have stored := (getScoped_eq_some_iff.mp found).1
    rw [filed.keyed id identity stored]
    exact filed.indexed (identityKey tenant external) id indexed
  · cases found

end FiledAsLinked

end MemoryIdentityStore

namespace AuthMesh

variable {self : AuthMesh}

/-- Every call files the identities it records under the ids of their keys. -/
theorem filedAsLinked_perform
    (filed : self.stores.identities.FiledAsLinked) (call : MeshCall) :
    (self.perform call).stores.identities.FiledAsLinked := by
  have change := (perform_records self call).accounts
  change AccountsChange self call (self.perform call).stores.identities
    (self.perform call).stores.principals at change
  generalize (self.perform call).stores.identities = identities,
    (self.perform call).stores.principals = principals at change ⊢
  cases change with
  | unchanged => exact filed
  | signedUp tenantId response registration tenant external claims =>
      exact filed.recorded (identityKey tenant external) claims
  | linked tenantId principalId response tenant external principal known =>
      unfold withBinding
      cases known with
      | some identity =>
          dsimp only [withMissingIdentity]
          split <;> exact filed
      | none =>
          dsimp only [withMissingIdentity]
          have recorded :=
            filed.recorded (identityKey tenant external) principal.claims
          split <;> exact recorded
  | stopped => exact filed

theorem filedAsLinked (reached : system.Reachable self) :
    self.stores.identities.FiledAsLinked := by
  apply TransitionSystem.ReachableUnder.invariant _ _ reached
    (motive := fun state => state.stores.identities.FiledAsLinked)
  · intro fresh isFresh
    rw [isFresh.stores_eq]
    constructor
    · intro key id indexed
      simp [MeshStores.new, MemoryIdentityStore.new] at indexed
    · exact KeyedMap.KeyedBy.empty
  · intro state call _ _ filed
    exact filedAsLinked_perform filed call

end AuthMesh

/-! ## Accounts of the local directory -/

def Session.OfAccount (self : Session) (connector username : String) : Prop :=
  self.identityId = identityIdFor (self.tenantId, ⟨connector⟩, ⟨username⟩)

theorem Session.OfAccount.unique {session : Session}
    {connector username other : String}
    (owner : session.OfAccount connector username)
    (same : session.OfAccount connector other) : username = other := by
  have ids := congrArg AuthorityId.value (owner.symm.trans same)
  exact (String.append_right_inj _).mp ids

end AuthBoundry
