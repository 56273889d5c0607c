import AuthBoundry.Boundary.LivePolicies
import AuthBoundry.Runtime.Recording

/-!
# Unrecorded grants

Every grant that comes from the mesh is recorded.  A grant that comes from a
live policy is not: it never reaches the mesh.
-/

namespace AuthBoundry

open Library
open Library.Stateful

/-- The calls that ask the boundary for a decision. -/
inductive DecisionCall where
  | authorize (context : AuthContext) (capability : String)
  | authorizeResource (context : AuthContext) (request : AuthorizationRequest)
  | authorizeRunResource (context : AuthContext) (runId : RunId)
      (request : AuthorizationRequest)
  | enforce (request : BoundaryRequest) (capability : String)

namespace AuthPortRuntime

section Calls

variable (environment : Environment) (self : AuthPortRuntime) (now : Int)

/-- The call allows a capability to the principal of a context. -/
inductive Grants : DecisionCall → AuthContext → Capability →
    AuthorizationDecision → AuthPortRuntime → Prop where
  | authorize {context : AuthContext} {capability : String}
      {decision : AuthorizationDecision} {after : AuthPortRuntime}
      (returns : authorize environment context capability now self =
        .ok decision after)
      (allowed : decision.isAllowed = true) :
      Grants (.authorize context capability) context ⟨capability⟩ decision
        after
  | authorizeResource {context : AuthContext} {request : AuthorizationRequest}
      {decision : AuthorizationDecision} {after : AuthPortRuntime}
      (returns : authorizeResource environment context request now self =
        .ok decision after)
      (allowed : decision.isAllowed = true) :
      Grants (.authorizeResource context request) context request.capability
        decision after
  | authorizeRunResource {context : AuthContext} {runId : RunId}
      {request : AuthorizationRequest} {decision : AuthorizationDecision}
      {after : AuthPortRuntime}
      (returns : authorizeRunResource environment context runId request now
        self = .ok decision after)
      (allowed : decision.isAllowed = true) :
      Grants (.authorizeRunResource context runId request) context
        request.capability decision after
  | enforce {request : BoundaryRequest} {capability : String}
      {context : AuthContext} {decision : AuthorizationDecision}
      {after : AuthPortRuntime}
      (returns : enforce environment request (.capability capability) now
        self = .ok (some context) after)
      (carries : context.decision = some decision) :
      Grants (.enforce request capability) context ⟨capability⟩ decision after

/-- Whatever the call allows was recorded by it, once, under the id that the
decision carries; a decision that cannot be recorded is none that allows. -/
def RecordsGrants (call : DecisionCall) : Prop :=
  ∀ context capability decision after,
    Grants environment self now call context capability decision after →
      AuthMesh.GrantRecorded environment self.mesh after.mesh context.runtime
        capability decision

def LiveGrants (context : AuthContext) (capability : String) : Prop :=
  isBlank capability = false ∧ ∃ live,
    self.authority.capabilityPolicies[capability]? = some live ∧
      Accepted live context.principal context.tenant ∧
      HoldsBy environment.systemTime live context.principal context.tenant
        context.delegation ⟨capability⟩ now

def GrantsByLivePolicy : DecisionCall → Prop
  | .authorize context capability =>
      LiveGrants environment self now context capability
  | .authorizeResource _ _ => False
  | .authorizeRunResource _ _ _ => False
  | .enforce request capability => ∃ context,
      self.authenticate environment request now = .ok context ∧
        authorizationRequest context.runtime capability request = none ∧
        LiveGrants environment self now context capability

end Calls

variable {environment : Environment} {self after : AuthPortRuntime}
  {now : Int} {context : AuthContext} {capability : String}
  {decision : AuthorizationDecision}

/-- A decision by name is recorded unless a live policy takes it. -/
theorem authorize_recorded
    (returns : authorize environment context capability now self =
      .ok decision after)
    (allowed : decision.isAllowed = true)
    (recorded : ¬LiveGrants environment self now context capability) :
    AuthMesh.GrantRecorded environment self.mesh after.mesh context.runtime
      ⟨capability⟩ decision := by
  unfold authorize at returns
  by_cases blank : isBlank capability = true
  · simp [blank] at returns
  · rw [if_neg blank] at returns
    cases overlay : self.authority.capabilityPolicies[capability]? with
    | some live =>
        rw [overlay] at returns
        cases returns
        have held := evaluateCapability_isAllowed_iff.mp allowed
        exact (recorded
          ⟨by simpa using blank, live, overlay, held⟩).elim
    | none =>
        rw [overlay] at returns
        cases returns
        exact AuthMesh.authorize_recorded allowed

/-- A grant by a live policy leaves the audit trail as it is. -/
theorem authorize_unrecorded
    (granted : LiveGrants environment self now context capability) :
    ∃ decision, authorize environment context capability now self =
        .ok decision self ∧
      decision.isAllowed = true := by
  obtain ⟨named, live, overlay, held⟩ := granted
  refine ⟨_, ?_, evaluateCapability_isAllowed_iff.mpr held⟩
  unfold authorize
  rw [if_neg (by simp [named]), overlay]

theorem not_grantRecorded_self {mesh : AuthMesh} {context : RuntimeContext}
    {capability : Capability} :
    ¬AuthMesh.GrantRecorded environment mesh mesh context capability
      decision := by
  intro recorded
  obtain ⟨event, appended, _⟩ := recorded.recorded
  simp at appended

theorem authorizeResource_recorded {request : AuthorizationRequest}
    (returns : authorizeResource environment context request now self =
      .ok decision after)
    (allowed : decision.isAllowed = true) :
    AuthMesh.GrantRecorded environment self.mesh after.mesh context.runtime
      request.capability decision := by
  unfold authorizeResource at returns
  split at returns
  · cases returns
  · cases returns
    exact AuthMesh.authorizeRequest_recorded allowed

theorem authorizeRunResource_recorded {runId : RunId}
    {request : AuthorizationRequest}
    (returns : authorizeRunResource environment context runId request now
      self = .ok decision after)
    (allowed : decision.isAllowed = true) :
    AuthMesh.GrantRecorded environment self.mesh after.mesh context.runtime
      request.capability decision := by
  unfold authorizeRunResource at returns
  split at returns
  · cases returns
  · cases returns
    exact AuthMesh.authorizeRunRequest_recorded allowed

/-- What `enforce` allows by resource is recorded. -/
theorem decide_recorded {request : BoundaryRequest}
    (returns : decide environment context capability request now self =
      .ok decision after)
    (allowed : decision.isAllowed = true)
    (recorded : authorizationRequest context.runtime capability request =
        none →
      ¬LiveGrants environment self now context capability) :
    AuthMesh.GrantRecorded environment self.mesh after.mesh context.runtime
      ⟨capability⟩ decision := by
  unfold decide at returns
  cases targeted : authorizationRequest context.runtime capability request with
  | none =>
      rw [targeted] at returns
      exact authorize_recorded returns allowed (recorded targeted)
  | some authRequest =>
      rw [targeted] at returns
      obtain ⟨named, middle, inspected, continued⟩ := bind_eq_ok_iff.mp returns
      obtain ⟨_, same⟩ := inspect_eq_ok_iff.mp inspected
      rw [same] at continued
      rw [← authorizationRequest_capability targeted]
      cases named with
      | none => exact authorizeResource_recorded continued allowed
      | some runId => exact authorizeRunResource_recorded continued allowed

/-- Every grant is recorded exactly if no live policy grants by name. -/
theorem recordsGrants_iff {call : DecisionCall} :
    RecordsGrants environment self now call ↔
      ¬GrantsByLivePolicy environment self now call := by
  constructor
  · intro records byLive
    cases call with
    | authorize context capability =>
        obtain ⟨decision, returns, allowed⟩ := authorize_unrecorded byLive
        exact not_grantRecorded_self
          (records _ _ _ _ (.authorize returns allowed))
    | authorizeResource context request => exact byLive
    | authorizeRunResource context runId request => exact byLive
    | enforce request capability =>
        obtain ⟨context, authenticated, untargeted, granted⟩ := byLive
        obtain ⟨decision, returns, allowed⟩ := authorize_unrecorded granted
        have decided : decide environment context capability request now
            self = .ok decision self := by
          unfold decide
          rw [untargeted]
          exact returns
        have admitted := enforce_capability_eq_ok_iff.mpr
          ⟨context, decision, authenticated, decided, allowed, rfl⟩
        exact not_grantRecorded_self
          (records _ _ _ _ (.enforce admitted rfl))
  · intro recorded context capability decision after grants
    cases grants with
    | authorize returns allowed =>
        exact authorize_recorded returns allowed recorded
    | authorizeResource returns allowed =>
        exact authorizeResource_recorded returns allowed
    | authorizeRunResource returns allowed =>
        exact authorizeRunResource_recorded returns allowed
    | enforce returns carries =>
        obtain ⟨found, settled, authenticated, decided, allowed, same⟩ :=
          enforce_capability_eq_ok_iff.mp returns
        cases same
        cases carries
        refine decide_recorded decided allowed ?_
        intro untargeted granted
        exact recorded ⟨found, authenticated, untargeted, granted⟩

end AuthPortRuntime

/-! ## A live grant -/

def grantingRuntime : AuthPortRuntime :=
  { bareRuntime readMesh with
    authority :=
      { LiveAuthorityState.new with
        capabilityPolicies :=
          LiveAuthorityState.new.capabilityPolicies.insert "invoice.read"
            (acmePolicy [readRule])
        revision := 1 } }

/-- Alice is granted reading by name, and nothing is recorded. -/
theorem grantingRuntime_not_recordsGrants :
    AuthMesh.system.Reachable readMesh ∧
      applyChange .new
          (.setCapabilityPolicy "invoice.read" (acmePolicy [readRule])) =
        .ok grantingRuntime.authority ∧
      ¬AuthPortRuntime.RecordsGrants acmeEnvironment grantingRuntime 10
        (.enforce (aliceRequest .head "/invoices/7") "invoice.read") := by
  refine ⟨.run (.start emptyMesh_fresh) _, rfl, ?_⟩
  have decided : ∃ pair : Option AuthContext × AuthPortRuntime,
      returned (AuthPortRuntime.enforce acmeEnvironment
        (aliceRequest .head "/invoices/7") (.capability "invoice.read") 10
        grantingRuntime) = some pair ∧
      (pair.1.map fun context => context.decision.isSome,
          pair.2.mesh.stores.audit.events.length) =
        (some true, grantingRuntime.mesh.stores.audit.events.length) :=
    Option.map_eq_some_iff.mp (by decide +kernel)
  obtain ⟨⟨result, after⟩, returns, described⟩ := decided
  simp only [Prod.mk.injEq] at described
  obtain ⟨carries, unchanged⟩ := described
  obtain ⟨context, rfl, decides⟩ := Option.map_eq_some_iff.mp carries
  obtain ⟨decision, carried⟩ := Option.isSome_iff_exists.mp decides
  intro records
  obtain ⟨event, appended, _⟩ := (records _ _ _ _
    (.enforce (returned_eq_some returns) carried)).recorded
  rw [appended] at unchanged
  simp at unchanged

end AuthBoundry
