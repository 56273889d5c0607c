import AuthBoundry.Runtime.Mesh

/-!
# Delegating and revoking

Delegating checks the request against the delegator's envelope and, for an
agent, looks up a parent delegation for each capability.  The lookup may find a
different parent each time; the recorded chain is that of the first one.
-/

namespace AuthBoundry

open Library
open Library.Stateful

def firstValid (delegations : List Delegation) (capability : Capability)
    (now : Int) : Option Delegation :=
  delegations.find? fun delegation =>
    delegation.isValidAt now && delegation.capabilities.contains capability

structure DelegationRequest where
  id : DelegationId
  delegator : PrincipalId
  delegate : PrincipalId
  capabilities : List Capability
  resourceScope : ResourceScope
  issuedAt : Int
  expiresAt : Option Int
  deriving DecidableEq

def delegationRefused (err : StorageError) : AuthError :=
  { stage := .delegationManagement
    message := err.message
    denial := .invalidDelegation }

def exceedsAuthority (delegator : PrincipalId) (capability : Capability) :
    AuthError :=
  { stage := .delegationManagement
    message := s!"delegator `{delegator}` does not hold `{capability}`"
    denial := .delegationExceedsAuthority }

namespace AuthMesh

/-- The loop over the requested capabilities, with the chain found so far. -/
def checkCapabilities (delegator : Principal)
    (delegatorDelegations : List Delegation)
    (delegatorEnvelope : CapabilityEnvelope) (request : DelegationRequest)
    (now : Int) :
    List Capability → List DelegationId → Except AuthError (List DelegationId)
  | [], chain => .ok chain
  | capability :: capabilities, chain =>
      if !delegatorEnvelope.allows capability then
        .error (exceedsAuthority request.delegator capability)
      else if delegator.kind == .agent then
        match firstValid delegatorDelegations capability now with
        | none => .error (exceedsAuthority request.delegator capability)
        | some parent =>
            if !request.resourceScope.isSubsetOf parent.resourceScope then
              .error
                { stage := .delegationManagement
                  message :=
                    "delegation scope must narrow the delegator's authority"
                  denial := .delegationScopeDenied }
            else
              checkCapabilities delegator delegatorDelegations
                delegatorEnvelope request now capabilities
                (if chain.isEmpty then parent.chain ++ [parent.id] else chain)
      else
        checkCapabilities delegator delegatorDelegations delegatorEnvelope
          request now capabilities chain

def requestedDelegation (tenant : TenantContext) (request : DelegationRequest)
    (chain : List DelegationId) : Delegation :=
  { id := request.id
    delegator := request.delegator
    delegate := request.delegate
    tenantId := tenant.tenantId
    capabilities := request.capabilities
    resourceScope := request.resourceScope
    issuedAt := request.issuedAt
    expiresAt := request.expiresAt
    revokedAt := none
    chain }

/-- Everything `delegate` checks before it writes. -/
def checkedDelegation (environment : Environment) (self : AuthMesh)
    (tenant : TenantContext) (request : DelegationRequest) (now : Int) :
    Except AuthError Delegation := do
  refuseIf (!self.config.agents)
    { stage := .delegationManagement
      message := "delegation requires `agents = true`"
      denial := .invalidDelegation }
  refuseIf request.capabilities.isEmpty
    (delegationError "delegation must be capability-scoped")
  refuseIf
    ((request.expiresAt.map fun expiresAt =>
      decide (expiresAt ≤ request.issuedAt) || decide (expiresAt ≤ now)).getD
        false)
    (delegationError "delegation expires before it can be used")
  let delegator ← self.principal tenant request.delegator
  let delegate ← self.principal tenant request.delegate
  refuseIf (delegate.kind == .human)
    (delegationError "delegation targets an agent or a service")
  assertPrincipalIsUsable delegate
  let policy ← self.policy tenant
  let delegatorDelegations := self.delegationsFor tenant delegator.id
  match evaluateWithDelegations environment.systemTime policy delegator tenant
      delegatorDelegations now with
  | .error err =>
      .error
        { stage := .policyEvaluation
          message := err.message
          denial := .policyNotFound }
  | .ok delegatorEnvelope => do
      let chain ← checkCapabilities delegator delegatorDelegations
        delegatorEnvelope request now request.capabilities []
      .ok (requestedDelegation tenant request chain)

def delegate (environment : Environment) (tenantId : String)
    (request : DelegationRequest) (now : Int) : MeshM Delegation := do
  let tenant ← inspect fun self => self.tenant tenantId
  let checked ← inspect fun self =>
    self.checkedDelegation environment tenant request now
  let delegation ← writeDelegations delegationRefused fun delegations =>
    delegations.createDelegation checked
  audit environment tenant
    ((((AuditRecord.new .delegationCreated).principal
      delegation.delegate).delegation delegation.id).addMeta "delegator"
      delegation.delegator.value) now
  pure delegation

def revokeDelegation (environment : Environment) (tenantId : String)
    (delegationId : DelegationId) (now : Int) : MeshM Unit := do
  let tenant ← inspect fun self => self.tenant tenantId
  writeDelegations delegationRefused fun delegations =>
    delegations.revokeDelegation tenant delegationId now
  audit environment tenant
    ((AuditRecord.new .delegationRevoked).delegation delegationId) now

/-! ## What the checks establish -/

theorem firstValid_eq_some {delegations : List Delegation}
    {capability : Capability} {now : Int} {found : Delegation}
    (search : firstValid delegations capability now = some found) :
    found ∈ delegations ∧ found.isValidAt now = true ∧
      capability ∈ found.capabilities := by
  have accepted := List.find?_some search
  simp only [Bool.and_eq_true, List.contains_iff_mem] at accepted
  exact ⟨List.mem_of_find?_eq_some search, accepted.1, accepted.2⟩

section Checks

variable {delegator : Principal} {delegations : List Delegation}
  {envelope : CapabilityEnvelope} {request : DelegationRequest} {now : Int}

/-- One turn of the loop that does not fail. -/
theorem checkCapabilities_cons_ok {capability : Capability}
    {capabilities : List Capability} {chain result : List DelegationId}
    (outcome : checkCapabilities delegator delegations envelope request now
      (capability :: capabilities) chain = .ok result) :
    envelope.allows capability = true ∧
      ((delegator.kind ≠ .agent ∧
          checkCapabilities delegator delegations envelope request now
            capabilities chain = .ok result) ∨
        (delegator.kind = .agent ∧ ∃ parent,
          firstValid delegations capability now = some parent ∧
          request.resourceScope.isSubsetOf parent.resourceScope = true ∧
          checkCapabilities delegator delegations envelope request now
            capabilities
            (if chain.isEmpty then parent.chain ++ [parent.id] else chain) =
              .ok result)) := by
  unfold checkCapabilities at outcome
  split at outcome
  · cases outcome
  · rename_i allowed
    refine ⟨by simpa using allowed, ?_⟩
    split at outcome
    · rename_i agent
      split at outcome
      · cases outcome
      · rename_i parent found
        split at outcome
        · cases outcome
        · rename_i narrowed
          exact Or.inr ⟨by simpa using agent, parent, found,
            by simpa using narrowed, outcome⟩
    · rename_i other
      exact Or.inl ⟨by simpa using other, outcome⟩

theorem checkCapabilities_allows {capabilities : List Capability}
    {chain result : List DelegationId}
    (outcome : checkCapabilities delegator delegations envelope request now
      capabilities chain = .ok result) :
    ∀ capability ∈ capabilities, envelope.allows capability = true := by
  induction capabilities generalizing chain with
  | nil => simp
  | cons head capabilities induction =>
      obtain ⟨allowed, continued⟩ := checkCapabilities_cons_ok outcome
      intro capability member
      rcases List.mem_cons.mp member with same | later
      · rw [same]
        exact allowed
      · rcases continued with ⟨_, rest⟩ | ⟨_, _, _, _, rest⟩
        · exact induction rest capability later
        · exact induction rest capability later

theorem checkCapabilities_parent (agent : delegator.kind = .agent)
    {capabilities : List Capability} {chain result : List DelegationId}
    (outcome : checkCapabilities delegator delegations envelope request now
      capabilities chain = .ok result) :
    ∀ capability ∈ capabilities, ∃ parent,
      firstValid delegations capability now = some parent ∧
        request.resourceScope.isSubsetOf parent.resourceScope = true := by
  induction capabilities generalizing chain with
  | nil => simp
  | cons head capabilities induction =>
      obtain ⟨_, continued⟩ := checkCapabilities_cons_ok outcome
      rcases continued with ⟨other, _⟩ | ⟨_, parent, found, narrowed, rest⟩
      · exact (other agent).elim
      · intro capability member
        rcases List.mem_cons.mp member with same | later
        · rw [same]
          exact ⟨parent, found, narrowed⟩
        · exact induction rest capability later

/-- A chain that was found is kept. -/
theorem checkCapabilities_keeps {capabilities : List Capability}
    {chain result : List DelegationId} (known : chain ≠ [])
    (outcome : checkCapabilities delegator delegations envelope request now
      capabilities chain = .ok result) : result = chain := by
  induction capabilities with
  | nil =>
      cases outcome
      rfl
  | cons head capabilities induction =>
      have unchanged : chain.isEmpty = false := by simp [known]
      obtain ⟨_, continued⟩ := checkCapabilities_cons_ok outcome
      rcases continued with ⟨_, rest⟩ | ⟨_, parent, _, _, rest⟩
      · exact induction rest
      · rw [unchanged] at rest
        exact induction rest

theorem checkCapabilities_chain (agent : delegator.kind = .agent)
    {first : Capability} {capabilities : List Capability}
    {result : List DelegationId}
    (outcome : checkCapabilities delegator delegations envelope request now
      (first :: capabilities) [] = .ok result) :
    ∃ parent, firstValid delegations first now = some parent ∧
      request.resourceScope.isSubsetOf parent.resourceScope = true ∧
      result = parent.chain ++ [parent.id] := by
  obtain ⟨_, continued⟩ := checkCapabilities_cons_ok outcome
  rcases continued with ⟨other, _⟩ | ⟨_, parent, found, narrowed, rest⟩
  · exact (other agent).elim
  · exact ⟨parent, found, narrowed, checkCapabilities_keeps (by simp) rest⟩

theorem checkCapabilities_root (other : delegator.kind ≠ .agent)
    {capabilities : List Capability} {chain result : List DelegationId}
    (outcome : checkCapabilities delegator delegations envelope request now
      capabilities chain = .ok result) : result = chain := by
  induction capabilities with
  | nil =>
      cases outcome
      rfl
  | cons head capabilities induction =>
      obtain ⟨_, continued⟩ := checkCapabilities_cons_ok outcome
      rcases continued with ⟨_, rest⟩ | ⟨agent, _⟩
      · exact induction rest
      · exact (other agent).elim

end Checks

/-- What a request was granted on: the principals and the policy it was read
against, the envelope and the chain. -/
structure DelegationGrounds (environment : Environment) (mesh : AuthMesh)
    (tenant : TenantContext) (request : DelegationRequest) (now : Int)
    (delegator delegate : Principal) (policy : Policy)
    (envelope : CapabilityEnvelope) (chain : List DelegationId) : Prop where
  nonempty : request.capabilities ≠ []
  unexpired : ∀ expiresAt, request.expiresAt = some expiresAt →
    now < expiresAt
  delegatorStored : mesh.principal tenant request.delegator = .ok delegator
  delegateStored : mesh.principal tenant request.delegate = .ok delegate
  notHuman : delegate.kind ≠ .human
  usable : assertPrincipalIsUsable delegate = .ok ()
  policyFound : mesh.policy tenant = .ok policy
  evaluated : evaluateWithDelegations environment.systemTime policy delegator
    tenant (mesh.delegationsFor tenant delegator.id) now = .ok envelope
  checked : checkCapabilities delegator
    (mesh.delegationsFor tenant delegator.id) envelope request now
    request.capabilities [] = .ok chain

theorem checkedDelegation_ok {environment : Environment} {self : AuthMesh}
    {tenant : TenantContext} {request : DelegationRequest} {now : Int}
    {delegation : Delegation}
    (outcome : self.checkedDelegation environment tenant request now =
      .ok delegation) :
    ∃ delegator delegate policy envelope chain,
      DelegationGrounds environment self tenant request now delegator delegate
        policy envelope chain ∧
      delegation = requestedDelegation tenant request chain := by
  obtain ⟨_, _, outcome⟩ := except_bind_eq_ok_iff.mp outcome
  obtain ⟨_, nonempty, outcome⟩ := except_bind_eq_ok_iff.mp outcome
  obtain ⟨_, unexpired, outcome⟩ := except_bind_eq_ok_iff.mp outcome
  obtain ⟨delegator, delegatorStored, outcome⟩ :=
    except_bind_eq_ok_iff.mp outcome
  obtain ⟨delegate, delegateStored, outcome⟩ :=
    except_bind_eq_ok_iff.mp outcome
  obtain ⟨_, notHuman, outcome⟩ := except_bind_eq_ok_iff.mp outcome
  obtain ⟨_, usable, outcome⟩ := except_bind_eq_ok_iff.mp outcome
  obtain ⟨policy, policyFound, outcome⟩ := except_bind_eq_ok_iff.mp outcome
  cases evaluated : evaluateWithDelegations environment.systemTime policy
      delegator tenant (self.delegationsFor tenant delegator.id) now with
  | error err => simp [evaluated] at outcome
  | ok envelope =>
      simp only [evaluated] at outcome
      obtain ⟨chain, checked, outcome⟩ := except_bind_eq_ok_iff.mp outcome
      cases outcome
      rw [refuseIf_eq_ok_iff] at nonempty unexpired notHuman
      have later : ∀ expiresAt, request.expiresAt = some expiresAt →
          now < expiresAt := by
        intro expiresAt expires
        simp only [expires, Option.map_some, Option.getD_some,
          Bool.or_eq_false_iff, decide_eq_false_iff_not] at unexpired
        exact Int.not_le.mp unexpired.2
      refine ⟨delegator, delegate, policy, envelope, chain, ?_, rfl⟩
      exact
        { nonempty := by simpa using nonempty
          unexpired := later
          delegatorStored
          delegateStored
          notHuman := by simpa using notHuman
          usable
          policyFound
          evaluated
          checked }

end AuthMesh

end AuthBoundry
