import Mathlib.Logic.Relation
import AuthBoundry.Runtime.Decisions
import AuthBoundry.Runtime.System

/-!
# Liveness of delegation chains

A delegated grant lists the delegations its authority was handed down along.
The evaluators look at the last one only, so that an ancestor may be revoked or
expired; and the list itself names one parent of an agent's delegation and none
of a service's.  The ancestors of every grant are live in those runs in which
authority that is held through a delegation is handed on by agents only, from
the parent that the chain names and within its period, and nothing is revoked
before what was re-delegated from it.
-/

namespace AuthBoundry

open Library
open Library.Stateful

namespace AuthMesh

/-- The delegation is stored in the tenant, unrevoked and valid. -/
def LiveIn (self : AuthMesh) (tenant : TenantContext) (now : Int)
    (id : DelegationId) : Prop :=
  ∃ delegation, self.delegationMap[id]? = some delegation ∧
    delegation.tenantId = tenant.tenantId ∧ delegation.revokedAt = none ∧
    delegation.isValidAt now = true

def ChainLive (self : AuthMesh) (tenant : TenantContext) (now : Int)
    (grant : GrantedCapability) : Prop :=
  ∀ id ∈ grant.delegationChain, self.LiveIn tenant now id

/-! ## Parents -/

/-- The delegation through which a principal holds a capability that it
delegates: for an agent the first valid one of the capability, for anybody else
the same one unless a rule of the policy grants the capability anyway. -/
def heldThrough (environment : Environment) (self : AuthMesh)
    (tenantId : String) (delegatorId : PrincipalId) (capability : Capability)
    (now : Int) : Option Delegation := do
  let tenant ← (self.tenant tenantId).toOption
  let delegator ← (self.principal tenant delegatorId).toOption
  let policy ← (self.policy tenant).toOption
  if delegator.kind != .agent &&
      (claimRule environment.systemTime policy delegator capability).isSome then
    none
  else
    firstValid (self.delegationsFor tenant delegator.id) capability now

/-- The call makes a delegation of a capability that its delegator holds
through another one. -/
inductive Redelegates (self : AuthMesh) (call : MeshCall) :
    DelegationId → DelegationId → Prop where
  | made (tenantId : String) (request : DelegationRequest)
      (capability : Capability) (parent : Delegation)
      (operation : call.operation = .delegate tenantId request)
      (fresh : self.delegationMap[request.id]? = none)
      (stored : (self.perform call).delegationMap[request.id]? ≠ none)
      (member : capability ∈ request.capabilities)
      (through : self.heldThrough call.environment tenantId request.delegator
        capability call.now = some parent) :
      Redelegates self call request.id parent.id

/-- In the course of the calls the one delegation was re-delegated from the
other. -/
def Redelegated (start : AuthMesh) (calls : List MeshCall)
    (id parentId : DelegationId) : Prop :=
  ∃ early call late, calls = early ++ call :: late ∧
    (system.run start early).Redelegates call id parentId

/-! ## Calls that keep chains live -/

/-- No unrevoked delegation of the tenant was handed down from this one. -/
def revokesLeaf (self : AuthMesh) (tenantId : String)
    (delegationId : DelegationId) : Bool :=
  match self.tenant tenantId with
  | .error _ => true
  | .ok tenant =>
      self.delegationMap.values.all fun delegation =>
        delegation.tenantId != tenant.tenantId ||
          delegation.revokedAt.isSome ||
          !delegation.chain.contains delegationId

/-- The delegation an agent's request will be chained to. -/
def chainParent (self : AuthMesh) (tenantId : String)
    (request : DelegationRequest) (now : Int) : Option Delegation := do
  let tenant ← (self.tenant tenantId).toOption
  let delegator ← (self.principal tenant request.delegator).toOption
  if delegator.kind == .agent then
    let capability ← request.capabilities.head?
    firstValid (self.delegationsFor tenant delegator.id) capability now
  else
    none

/-- Whatever the delegator holds through a delegation, it holds through the one
that its request will be chained to, and the request stays within its
period. -/
def delegatesWithin (environment : Environment) (self : AuthMesh)
    (tenantId : String) (request : DelegationRequest) (now : Int) : Bool :=
  request.capabilities.all fun capability =>
    (self.heldThrough environment tenantId request.delegator capability
      now).all fun parent =>
        self.chainParent tenantId request now == some parent &&
          Delegation.periodWithin request.issuedAt request.expiresAt parent

def keepsChainsLive (self : AuthMesh) (call : MeshCall) : Bool :=
  match call.operation with
  | .revokeDelegation tenantId delegationId =>
      self.revokesLeaf tenantId delegationId
  | .delegate tenantId request =>
      self.delegatesWithin call.environment tenantId request call.now
  | _ => true

/-- Every ancestor of a stored delegation is stored in its tenant, spans its
period and is unrevoked unless the delegation itself is revoked. -/
def Grounded (delegations : KeyedMap DelegationId Delegation)
    (delegation : Delegation) : Prop :=
  ∀ id ∈ delegation.chain, ∃ ancestor,
    delegations[id]? = some ancestor ∧
      ancestor.tenantId = delegation.tenantId ∧
      Delegation.periodWithin delegation.issuedAt delegation.expiresAt
        ancestor = true ∧
      (delegation.revokedAt = none → ancestor.revokedAt = none)

def ChainsGrounded (delegations : KeyedMap DelegationId Delegation) : Prop :=
  ∀ (key : DelegationId) delegation,
    delegations[key]? = some delegation → Grounded delegations delegation

theorem Grounded.insert_fresh {delegations : KeyedMap DelegationId Delegation}
    {delegation stored : Delegation}
    (grounded : Grounded delegations delegation)
    (fresh : delegations[stored.id]? = none) :
    Grounded (delegations.insert stored.id stored) delegation := by
  intro id member
  obtain ⟨ancestor, found, facts⟩ := grounded id member
  exact ⟨ancestor, KeyedMap.getElem?_insert_of_fresh fresh found, facts⟩

/-- What the checks of `delegate` say about an agent's new delegation. -/
theorem checkedDelegation_parent {environment : Environment} {self : AuthMesh}
    {tenantId : String} {tenant : TenantContext} {request : DelegationRequest}
    {now : Int} {delegation : Delegation}
    (keyed : KeyedMap.KeyedBy Delegation.id self.delegationMap)
    (tenantFound : self.tenant tenantId = .ok tenant)
    (outcome : self.checkedDelegation environment tenant request now =
      .ok delegation) :
    ∃ delegator, self.principal tenant request.delegator = .ok delegator ∧
      ((delegator.kind ≠ .agent ∧ delegation.chain = []) ∨
        (delegator.kind = .agent ∧ ∃ parent,
          self.chainParent tenantId request now = some parent ∧
          self.delegationMap[parent.id]? = some parent ∧
          parent.tenantId = tenant.tenantId ∧
          parent.delegate = delegator.id ∧
          parent.isValidAt now = true ∧
          delegation.resourceScope.isSubsetOf parent.resourceScope = true ∧
          delegation.chain = parent.chain ++ [parent.id])) := by
  obtain ⟨delegator, _, _, _, chain, grounds, rfl⟩ :=
    checkedDelegation_ok outcome
  refine ⟨delegator, grounds.delegatorStored, ?_⟩
  by_cases agent : delegator.kind = .agent
  · right
    refine ⟨agent, ?_⟩
    cases capabilities : request.capabilities with
    | nil => exact (grounds.nonempty capabilities).elim
    | cons capability rest =>
        have checked := grounds.checked
        rw [capabilities] at checked
        obtain ⟨parent, found, narrowed, chained⟩ :=
          checkCapabilities_chain agent checked
        obtain ⟨member, valid, _⟩ := firstValid_eq_some found
        obtain ⟨stored, inTenant, addressed⟩ :=
          (MemoryDelegationStore.mem_listDelegationsForDelegate keyed).mp
            member
        have chainedTo : self.chainParent tenantId request now =
            some parent := by
          simp [chainParent, tenantFound, grounds.delegatorStored, agent,
            capabilities, found, Except.toOption]
        exact ⟨parent, chainedTo, stored, inTenant, addressed, valid, narrowed,
          chained⟩
  · left
    exact ⟨agent, checkCapabilities_root agent grounds.checked⟩

theorem exists_heldThrough {self : AuthMesh} {environment : Environment}
    {tenantId : String} {tenant : TenantContext} {request : DelegationRequest}
    {now : Int} {delegation parent : Delegation}
    (tenantFound : self.tenant tenantId = .ok tenant)
    (checked : self.checkedDelegation environment tenant request now =
      .ok delegation)
    (chainedTo : self.chainParent tenantId request now = some parent) :
    ∃ capability ∈ request.capabilities,
      self.heldThrough environment tenantId request.delegator capability now =
        some parent := by
  obtain ⟨delegator, _, policy, _, _, grounds, _⟩ := checkedDelegation_ok checked
  have delegatorStored := grounds.delegatorStored
  have policyFound := grounds.policyFound
  simp only [chainParent, tenantFound, delegatorStored, Except.toOption,
    Option.bind_eq_bind, Option.bind_some] at chainedTo
  split at chainedTo
  · rename_i agent
    obtain ⟨capability, isFirst, found⟩ := Option.bind_eq_some_iff.mp chainedTo
    refine ⟨capability, List.mem_of_head? isFirst, ?_⟩
    simp only [heldThrough, tenantFound, delegatorStored, policyFound,
      Except.toOption, Option.bind_eq_bind, Option.bind_some]
    rw [if_neg (by simp [beq_iff_eq.mp agent])]
    exact found
  · cases chainedTo

theorem within_of_delegatesWithin {self : AuthMesh} {environment : Environment}
    {tenantId : String} {tenant : TenantContext} {request : DelegationRequest}
    {now : Int} {delegation parent : Delegation}
    (tenantFound : self.tenant tenantId = .ok tenant)
    (checked : self.checkedDelegation environment tenant request now =
      .ok delegation)
    (permitted :
      self.delegatesWithin environment tenantId request now = true)
    (chainedTo : self.chainParent tenantId request now = some parent) :
    Delegation.periodWithin request.issuedAt request.expiresAt parent =
      true := by
  obtain ⟨capability, member, through⟩ :=
    exists_heldThrough tenantFound checked chainedTo
  have each := List.all_eq_true.mp permitted capability member
  rw [through, Option.all_some, Bool.and_eq_true] at each
  exact each.2

theorem grounded_created {self : AuthMesh} {environment : Environment}
    {tenantId : String} {tenant : TenantContext} {request : DelegationRequest}
    {now : Int} {delegation : Delegation}
    (keyed : KeyedMap.KeyedBy Delegation.id self.delegationMap)
    (grounded : ChainsGrounded self.delegationMap)
    (permitted : self.delegatesWithin environment tenantId request now = true)
    (tenantFound : self.tenant tenantId = .ok tenant)
    (checked : self.checkedDelegation environment tenant request now =
      .ok delegation) :
    Grounded self.delegationMap delegation := by
  have requested : delegation.tenantId = tenant.tenantId ∧
      delegation.issuedAt = request.issuedAt ∧
      delegation.expiresAt = request.expiresAt := by
    obtain ⟨_, _, _, _, _, _, rfl⟩ := checkedDelegation_ok checked
    exact ⟨rfl, rfl, rfl⟩
  obtain ⟨delegator, delegatorStored, chained⟩ :=
    checkedDelegation_parent keyed tenantFound checked
  rcases chained with ⟨_, root⟩ |
    ⟨_, parent, chainedTo, stored, inTenant, _, valid, _, chain⟩
  · intro id member
    simp [root] at member
  · have within : Delegation.periodWithin delegation.issuedAt
        delegation.expiresAt parent = true := by
      rw [requested.2.1, requested.2.2]
      exact within_of_delegatesWithin tenantFound checked permitted chainedTo
    have unrevoked : parent.revokedAt = none :=
      (Delegation.isValidAt_iff.mp valid).1
    intro id member
    rw [chain] at member
    rcases List.mem_append.mp member with above | last
    · obtain ⟨ancestor, ancestorStored, ancestorTenant, ancestorWithin,
        ancestorLive⟩ := grounded parent.id parent stored id above
      refine ⟨ancestor, ancestorStored, ?_, ?_, ?_⟩
      · rw [ancestorTenant, inTenant, requested.1]
      · exact Delegation.periodWithin_trans within ancestorWithin
      · intro _
        exact ancestorLive unrevoked
    · rw [List.mem_singleton] at last
      subst last
      refine ⟨parent, stored, ?_, within, fun _ => unrevoked⟩
      rw [inTenant, requested.1]

theorem grounded_revoked {self : AuthMesh} {tenantId : String}
    {tenant : TenantContext} {delegationId : DelegationId}
    {revoked : Delegation} {now : Int}
    (grounded : ChainsGrounded self.delegationMap)
    (permitted : self.revokesLeaf tenantId delegationId = true)
    (tenantFound : self.tenant tenantId = .ok tenant)
    (stored : self.delegationMap[delegationId]? = some revoked)
    (inTenant : revoked.tenantId = tenant.tenantId) :
    ChainsGrounded
      (self.delegationMap.insert delegationId
        { revoked with revokedAt := some now }) := by
  have leaf : ∀ (key : DelegationId) delegation,
      self.delegationMap[key]? = some delegation →
      delegation.tenantId = tenant.tenantId → delegation.revokedAt = none →
      delegationId ∉ delegation.chain := by
    intro key delegation found sameTenant unrevoked contained
    simp only [revokesLeaf, tenantFound, List.all_eq_true] at permitted
    have listed := permitted delegation
      (KeyedMap.mem_values_iff.mpr ⟨key, found⟩)
    simp [sameTenant, unrevoked, contained] at listed
  -- The ancestors of an old delegation survive with their fields.
  have survives : ∀ (key : DelegationId) delegation,
      self.delegationMap[key]? = some delegation →
      Grounded
        (self.delegationMap.insert delegationId
          { revoked with revokedAt := some now }) delegation := by
    intro key delegation found id member
    obtain ⟨ancestor, ancestorStored, ancestorTenant, within, live⟩ :=
      grounded key delegation found id member
    by_cases same : delegationId = id
    · subst same
      rw [stored] at ancestorStored
      cases ancestorStored
      refine ⟨{ revoked with revokedAt := some now }, ?_, ancestorTenant,
        within, ?_⟩
      · exact Std.ExtTreeMap.getElem?_insert_self
      · intro unrevoked
        have sameTenant : delegation.tenantId = tenant.tenantId := by
          rw [← ancestorTenant, inTenant]
        exact (leaf key delegation found sameTenant unrevoked member).elim
    · refine ⟨ancestor, ?_, ancestorTenant, within, live⟩
      rw [KeyedMap.getElem?_insert_of_ne _ _ same]
      exact ancestorStored
  apply KeyedMap.forall_insert
  · intro id member
    obtain ⟨ancestor, ancestorStored, ancestorTenant, within, _⟩ :=
      survives delegationId revoked stored id member
    refine ⟨ancestor, ancestorStored, ancestorTenant, within, ?_⟩
    intro unrevoked
    cases unrevoked
  · exact survives

theorem chainsGrounded_perform {self : AuthMesh} {call : MeshCall}
    (keyed : KeyedMap.KeyedBy Delegation.id self.delegationMap)
    (grounded : ChainsGrounded self.delegationMap)
    (permitted : self.keepsChainsLive call = true) :
    ChainsGrounded (self.perform call).delegationMap := by
  have change := perform_delegationMap self call
  generalize (self.perform call).delegationMap = after at change ⊢
  cases change with
  | unchanged => exact grounded
  | created tenantId request tenant delegation operation tenantFound checked
      fresh _ =>
      simp only [keepsChainsLive, operation] at permitted
      have created := grounded_created keyed grounded permitted tenantFound
        checked
      apply KeyedMap.forall_insert
      · exact created.insert_fresh fresh
      · intro key stored found
        exact (grounded key stored found).insert_fresh fresh
  | revoked tenantId delegationId tenant delegation operation tenantFound
      stored inTenant =>
      simp only [keepsChainsLive, operation] at permitted
      exact grounded_revoked grounded permitted tenantFound stored
        inTenant

theorem chainsGrounded {self : AuthMesh}
    (run : system.ReachableUnder
      (fun state call => state.keepsChainsLive call = true) self) :
    ChainsGrounded self.delegationMap := by
  refine run.invariant (motive := fun state : AuthMesh =>
    ChainsGrounded state.delegationMap) ?_ ?_
  · intro state fresh key delegation found
    rw [Fresh.delegationMap_eq fresh] at found
    simp at found
  · intro state call before permitted grounded
    exact chainsGrounded_perform (delegationMap_keyed before.reachable)
      grounded permitted

theorem chainLive_of_covers {self : AuthMesh} {tenant : TenantContext}
    {principal : Principal} {policy : Policy} {source : Delegation}
    {capability : Capability} {now : Int}
    (keyed : KeyedMap.KeyedBy Delegation.id self.delegationMap)
    (grounded : ChainsGrounded self.delegationMap)
    (listed : source ∈ self.delegationsFor tenant principal.id)
    (covers : source.Covers tenant principal capability now) :
    self.ChainLive tenant now
      (delegatedGrant policy principal tenant source capability) := by
  obtain ⟨stored, _, _⟩ :=
    (MemoryDelegationStore.mem_listDelegationsForDelegate keyed).mp listed
  intro id member
  rcases List.mem_append.mp member with above | last
  · obtain ⟨ancestor, ancestorStored, ancestorTenant, within, live⟩ :=
      grounded source.id source stored id above
    have unrevoked := live covers.unrevoked
    refine ⟨ancestor, ancestorStored, ?_, unrevoked, ?_⟩
    · rw [ancestorTenant, covers.sameTenant]
    · exact Delegation.isValidAt_of_periodWithin within unrevoked covers.valid
  · rw [List.mem_singleton] at last
    subst last
    exact ⟨source, stored, covers.sameTenant, covers.unrevoked, covers.valid⟩

/-! ## Chains list what was handed down -/

/-- The chain of the one delegation is that of the other, extended by it. -/
def Linked (delegations : KeyedMap DelegationId Delegation)
    (id parentId : DelegationId) : Prop :=
  ∃ delegation parent, delegations[id]? = some delegation ∧
    delegations[parentId]? = some parent ∧
    delegation.chain = parent.chain ++ [parentId]

theorem chain_perform {self : AuthMesh} (call : MeshCall) {id : DelegationId}
    {delegation : Delegation}
    (stored : self.delegationMap[id]? = some delegation) :
    ∃ later, (self.perform call).delegationMap[id]? = some later ∧
      later.chain = delegation.chain := by
  have change := perform_delegationMap self call
  generalize (self.perform call).delegationMap = after at change ⊢
  cases change with
  | unchanged => exact ⟨delegation, stored, rfl⟩
  | created _ _ _ _ _ _ _ fresh _ =>
      exact ⟨delegation, KeyedMap.getElem?_insert_of_fresh fresh stored, rfl⟩
  | revoked _ delegationId _ revoked _ _ found _ =>
      by_cases same : delegationId = id
      · rw [← same, found] at stored
        cases stored
        rw [same]
        exact ⟨_, Std.ExtTreeMap.getElem?_insert_self, rfl⟩
      · refine ⟨delegation, ?_, rfl⟩
        rw [KeyedMap.getElem?_insert_of_ne _ _ same]
        exact stored

theorem Linked.perform {self : AuthMesh} {id parentId : DelegationId}
    (linked : Linked self.delegationMap id parentId) (call : MeshCall) :
    Linked (self.perform call).delegationMap id parentId := by
  obtain ⟨delegation, parent, stored, parentStored, chained⟩ := linked
  obtain ⟨later, storedLater, same⟩ := chain_perform call stored
  obtain ⟨parentLater, parentStoredLater, parentSame⟩ :=
    chain_perform call parentStored
  refine ⟨later, parentLater, storedLater, parentStoredLater, ?_⟩
  rw [same, parentSame, chained]

theorem Linked.run {self : AuthMesh} {id parentId : DelegationId}
    (linked : Linked self.delegationMap id parentId) (calls : List MeshCall) :
    Linked (system.run self calls).delegationMap id parentId := by
  induction calls generalizing self with
  | nil => exact linked
  | cons call calls induction => exact induction (linked.perform call)

theorem linked_of_redelegates {self : AuthMesh} {call : MeshCall}
    {id parentId : DelegationId}
    (keyed : KeyedMap.KeyedBy Delegation.id self.delegationMap)
    (permitted : self.keepsChainsLive call = true)
    (redelegates : self.Redelegates call id parentId) :
    Linked (self.perform call).delegationMap id parentId := by
  obtain ⟨tenantId, request, capability, parent, operation, fresh, stored,
    member, through⟩ := redelegates
  have change := perform_delegationMap self call
  generalize (self.perform call).delegationMap = after at change stored ⊢
  cases change with
  | unchanged => exact (stored fresh).elim
  | revoked _ _ _ _ revokes =>
      rw [operation] at revokes
      cases revokes
  | created _ _ tenant delegation delegates tenantFound checked unused _ =>
      rw [operation] at delegates
      cases delegates
      simp only [keepsChainsLive, operation] at permitted
      have each := List.all_eq_true.mp permitted capability member
      rw [through, Option.all_some, Bool.and_eq_true, beq_iff_eq] at each
      have chainedTo := each.1
      have sameId : delegation.id = request.id := by
        obtain ⟨_, _, _, _, _, _, rfl⟩ := checkedDelegation_ok checked
        rfl
      obtain ⟨delegator, delegatorStored, chained⟩ :=
        checkedDelegation_parent keyed tenantFound checked
      rcases chained with ⟨other, _⟩ |
        ⟨_, found, again, parentStored, _, _, _, _, chain⟩
      · -- Only an agent's request is chained to anything.
        simp [chainParent, tenantFound, delegatorStored, other,
          Except.toOption] at chainedTo
      · rw [chainedTo] at again
        cases again
        refine ⟨delegation, parent, ?_, ?_, chain⟩
        · rw [← sameId]
          exact Std.ExtTreeMap.getElem?_insert_self
        · exact KeyedMap.getElem?_insert_of_fresh unused parentStored

theorem linked_of_redelegated {start : AuthMesh} (fresh : start.Fresh)
    {calls : List MeshCall}
    (follows : system.Follows
      (fun state call => state.keepsChainsLive call = true) start calls)
    {id parentId : DelegationId}
    (redelegated : Redelegated start calls id parentId) :
    Linked (system.run start calls).delegationMap id parentId := by
  obtain ⟨early, call, late, rfl, redelegates⟩ := redelegated
  obtain ⟨before, permitted, _⟩ :=
    TransitionSystem.follows_append_iff.mp follows
  have reached := (TransitionSystem.ReachableUnder.start fresh).run before
  have made := linked_of_redelegates (delegationMap_keyed reached.reachable)
    permitted redelegates
  rw [TransitionSystem.run_append]
  exact made.run late

/-- The chain of a delegation lists everything it was handed down from. -/
theorem mem_chain_of_ancestor {start : AuthMesh} (fresh : start.Fresh)
    {calls : List MeshCall}
    (follows : system.Follows
      (fun state call => state.keepsChainsLive call = true) start calls)
    {id ancestor : DelegationId}
    (descends : Relation.TransGen (Redelegated start calls) id ancestor) :
    ∃ delegation,
      (system.run start calls).delegationMap[id]? = some delegation ∧
        ancestor ∈ delegation.chain := by
  induction descends using Relation.TransGen.head_induction_on with
  | single redelegated =>
      obtain ⟨delegation, parent, stored, _, chained⟩ :=
        linked_of_redelegated fresh follows redelegated
      refine ⟨delegation, stored, ?_⟩
      rw [chained]
      exact List.mem_append_right _ (List.mem_singleton_self ancestor)
  | head redelegated _ induction =>
      obtain ⟨delegation, parent, stored, parentStored, chained⟩ :=
        linked_of_redelegated fresh follows redelegated
      obtain ⟨found, again, member⟩ := induction
      rw [parentStored] at again
      cases again
      refine ⟨delegation, stored, ?_⟩
      rw [chained]
      exact List.mem_append_left _ member

theorem delegatedGrant_source {self : AuthMesh} {environment : Environment}
    {context : RuntimeContext} {now : Int} {authorityRevision : Nat}
    {grant : GrantedCapability}
    (delegated : grant.authority = .delegated)
    (allowed :
      (∃ capability,
        (self.authorizeWithAuthorityRevision environment context capability
          now authorityRevision).1.grant = some grant) ∨
      ∃ request resourceAttributes,
        (self.authorizeRequestWithAuthorityRevision environment context
          request resourceAttributes now authorityRevision).1.grant =
            some grant) :
    ∃ policy source capability,
      source ∈ self.delegationsFor context.tenant context.principal.id ∧
        source.Covers context.tenant context.principal capability now ∧
        grant = delegatedGrant policy context.principal context.tenant source
          capability := by
  have picked : ∀ {capability : Capability} {source : Delegation},
      pickDelegation
          (self.delegationsFor context.tenant context.principal.id)
          capability now = some source →
        source.Covers context.tenant context.principal capability now →
        source ∈ self.delegationsFor context.tenant context.principal.id := by
    intro capability source offered covers
    exact (firstValid_eq_some
      (pickDelegation_valid_iff.mp ⟨offered, covers.valid⟩)).1
  rcases allowed with ⟨capability, granted⟩ | ⟨request, attributes, granted⟩
  · obtain ⟨_, policy, _, grounds⟩ := authorize_grant_iff.mp granted
    cases grounds with
    | claim rule => simp [claimGrant] at delegated
    | delegated source _ _ _ offered covers =>
        exact ⟨policy, source, capability, picked offered covers, covers, rfl⟩
  · obtain ⟨_, policy, _, grounds⟩ := authorizeRequest_grant_iff.mp granted
    cases grounds with
    | claim rule => simp [claimGrant] at delegated
    | delegated source _ _ _ offered covers _ =>
        exact ⟨policy, source, request.capability, picked offered covers,
          covers, rfl⟩

/-- In every run of permitted calls, every delegated grant rests on a live
chain, and everything that its delegation was handed down from is live. -/
theorem delegatedGrant_chainLive {start : AuthMesh} (fresh : start.Fresh)
    {calls : List MeshCall}
    (follows : system.Follows
      (fun state call => state.keepsChainsLive call = true) start calls)
    {environment : Environment} {context : RuntimeContext} {now : Int}
    {authorityRevision : Nat} {grant : GrantedCapability}
    (delegated : grant.authority = .delegated)
    (allowed :
      (∃ capability,
        ((system.run start calls).authorizeWithAuthorityRevision environment
          context capability now authorityRevision).1.grant = some grant) ∨
      ∃ request resourceAttributes,
        ((system.run start calls).authorizeRequestWithAuthorityRevision
          environment context request resourceAttributes now
          authorityRevision).1.grant = some grant) :
    (system.run start calls).ChainLive context.tenant now grant ∧
      ∀ id ancestor, grant.delegationId = some id →
        Relation.TransGen (Redelegated start calls) id ancestor →
          (system.run start calls).LiveIn context.tenant now ancestor := by
  have run := (TransitionSystem.ReachableUnder.start fresh).run follows
  have keyed := delegationMap_keyed run.reachable
  obtain ⟨policy, source, capability, listed, covers, rfl⟩ :=
    delegatedGrant_source delegated allowed
  have live : (system.run start calls).ChainLive context.tenant now
      (delegatedGrant policy context.principal context.tenant source
        capability) :=
    chainLive_of_covers keyed (chainsGrounded run) listed covers
  refine ⟨live, ?_⟩
  intro id ancestor isSource descends
  cases isSource
  have stored : (system.run start calls).delegationMap[source.id]? =
      some source :=
    ((MemoryDelegationStore.mem_listDelegationsForDelegate keyed).mp
      listed).1
  obtain ⟨found, again, member⟩ :=
    mem_chain_of_ancestor fresh follows descends
  rw [stored] at again
  cases again
  exact live ancestor (List.mem_append_left _ member)

end AuthMesh

/-! ## A chain of two -/

def chainCalls : List MeshCall :=
  acmeCalls [readRule] ++
    [handOver "dlg_manager" "alice" "manager" [⟨"invoice.read"⟩] .any,
      handOver "dlg_worker" "manager" "worker" [⟨"invoice.read"⟩] .any]

def chainMesh : AuthMesh := AuthMesh.system.run emptyMesh chainCalls

theorem chainCalls_follow :
    AuthMesh.system.Follows
      (fun state call => state.keepsChainsLive call = true) emptyMesh
      chainCalls := by
  decide +kernel

/-- What the manager asks to hand on. -/
def managerRequest : DelegationRequest :=
  { id := ⟨"dlg_worker"⟩
    delegator := acmeId "manager"
    delegate := acmeId "worker"
    capabilities := [⟨"invoice.read"⟩]
    resourceScope := .any
    issuedAt := 2
    expiresAt := none }

/-- What the manager handed on was re-delegated from what Alice handed it. -/
theorem chainCalls_redelegated :
    AuthMesh.Redelegated emptyMesh chainCalls ⟨"dlg_worker"⟩
      ⟨"dlg_manager"⟩ := by
  have held : ∃ parent : Delegation,
      (AuthMesh.system.run emptyMesh (chainCalls.take 6)).heldThrough
          acmeEnvironment "acme" (acmeId "manager") ⟨"invoice.read"⟩ 2 =
        some parent ∧ parent.id = ⟨"dlg_manager"⟩ :=
    Option.map_eq_some_iff.mp (by decide +kernel)
  have absent : (AuthMesh.system.run emptyMesh
      (chainCalls.take 6)).delegationMap[managerRequest.id]? = none := by
    decide +kernel
  have present : ((AuthMesh.system.run emptyMesh (chainCalls.take 6)).perform
      (acmeCall 2 (.delegate "acme" managerRequest))).delegationMap[
        managerRequest.id]? ≠ none := by
    decide +kernel
  obtain ⟨parent, through, named⟩ := held
  have made : (AuthMesh.system.run emptyMesh (chainCalls.take 6)).Redelegates
      (acmeCall 2 (.delegate "acme" managerRequest)) managerRequest.id
      parent.id :=
    .made "acme" managerRequest ⟨"invoice.read"⟩ parent rfl absent present
      (List.mem_singleton_self _) through
  rw [named] at made
  exact ⟨chainCalls.take 6, acmeCall 2 (.delegate "acme" managerRequest), [],
    rfl, made⟩

theorem delegatedGrant_chainLive_worker :
    ∃ grant : GrantedCapability,
      grant.delegationChain = [⟨"dlg_manager"⟩, ⟨"dlg_worker"⟩] ∧
        chainMesh.ChainLive acme 10 grant ∧
        chainMesh.LiveIn acme 10 ⟨"dlg_manager"⟩ := by
  have decided : ∃ grant,
      (chainMesh.authorizeWithAuthorityRevision acmeEnvironment
        (agentContext "worker") ⟨"invoice.read"⟩ 10 0).1.grant = some grant ∧
      (grant.authority, grant.delegationChain, grant.delegationId) =
        (.delegated, [⟨"dlg_manager"⟩, ⟨"dlg_worker"⟩],
          some ⟨"dlg_worker"⟩) :=
    Option.map_eq_some_iff.mp (by decide +kernel)
  obtain ⟨grant, granted, described⟩ := decided
  simp only [Prod.mk.injEq] at described
  obtain ⟨delegated, chain, source⟩ := described
  have live := AuthMesh.delegatedGrant_chainLive emptyMesh_fresh
    chainCalls_follow delegated (Or.inl ⟨⟨"invoice.read"⟩, granted⟩)
  exact ⟨grant, chain, live.1, live.2 ⟨"dlg_worker"⟩ ⟨"dlg_manager"⟩ source
    (.single chainCalls_redelegated)⟩

def revokedMesh : AuthMesh :=
  AuthMesh.system.run emptyMesh
    (chainCalls ++
      [acmeCall 3 (.revokeDelegation "acme" ⟨"dlg_manager"⟩)])

/-- The worker keeps reading invoices on a revoked delegation. -/
theorem revokedMesh_not_chainLive :
    AuthMesh.system.Reachable revokedMesh ∧
      ∃ grant,
        (revokedMesh.authorize acmeEnvironment (agentContext "worker")
          ⟨"invoice.read"⟩ 10).1.grant = some grant ∧
        grant.authority = .delegated ∧
        ¬revokedMesh.ChainLive acme 10 grant := by
  have decided : ∃ grant,
      (revokedMesh.authorize acmeEnvironment (agentContext "worker")
        ⟨"invoice.read"⟩ 10).1.grant = some grant ∧
      (grant.authority, grant.delegationChain) =
        (.delegated, [⟨"dlg_manager"⟩, ⟨"dlg_worker"⟩]) :=
    Option.map_eq_some_iff.mp (by decide +kernel)
  have revoked : ∃ parent : Delegation,
      revokedMesh.delegationMap[(⟨"dlg_manager"⟩ : DelegationId)]? =
        some parent ∧ parent.revokedAt = some 3 :=
    Option.map_eq_some_iff.mp (by decide +kernel)
  obtain ⟨grant, granted, described⟩ := decided
  obtain ⟨delegated, chain⟩ := Prod.mk.inj described
  obtain ⟨parent, stored, revokedAt⟩ := revoked
  refine ⟨.run (.start emptyMesh_fresh) _, grant, granted, delegated, ?_⟩
  intro live
  obtain ⟨ancestor, found, _, unrevoked, _⟩ :=
    live ⟨"dlg_manager"⟩ (by simp [chain])
  rw [stored] at found
  cases found
  rw [revokedAt] at unrevoked
  cases unrevoked

end AuthBoundry
