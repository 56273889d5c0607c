import AuthBoundry.Runtime.Decisions

/-!
# Questions and verdicts

The three decision functions of the mesh differ in how they reach a verdict.
What they do with it is the same: it is settled, and a question that has no
verdict because the tenant has no policy is denied without a trace.
-/

namespace AuthBoundry

open Library

def AuthorizationDecision.namedCapability :
    AuthorizationDecision → Option Capability
  | .allow grant _ _ _ _ _ => some grant.capability
  | .deny _ capability _ _ _ _ _ _ => capability

def AuthorizationDecision.SpeaksOf (decision : AuthorizationDecision)
    (capability : Capability) : Prop :=
  ∀ named, decision.namedCapability = some named → named = capability

/-- A question to one of the decision functions. -/
inductive Question where
  | authorize (context : RuntimeContext) (capability : Capability)
  | authorizeRequest (context : RuntimeContext) (request : AuthorizationRequest)
      (resourceAttributes : Option ResourceAttributes)
  | authorizeRunRequest (context : RuntimeContext) (runId : RunId)
      (request : AuthorizationRequest)
      (resourceAttributes : Option ResourceAttributes)

namespace Question

def context : Question → RuntimeContext
  | .authorize context _ => context
  | .authorizeRequest context _ _ => context
  | .authorizeRunRequest context _ _ _ => context

def asked : Question → Capability
  | .authorize _ capability => capability
  | .authorizeRequest _ request _ => request.capability
  | .authorizeRunRequest _ _ request _ => request.capability

/-- The decision function the question is put to. -/
def ask (environment : Environment) (mesh : AuthMesh) (now : Int)
    (authorityRevision : Nat) : Question → AuthorizationDecision × AuthMesh
  | .authorize context capability =>
      mesh.authorizeWithAuthorityRevision environment context capability now
        authorityRevision
  | .authorizeRequest context request resourceAttributes =>
      mesh.authorizeRequestWithAuthorityRevision environment context request
        resourceAttributes now authorityRevision
  | .authorizeRunRequest context runId request resourceAttributes =>
      mesh.authorizeRunRequestWithAuthorityRevision environment context runId
        request resourceAttributes now authorityRevision

end Question

/-- What a decision function has found out before it settles it.  The context
differs from that of the question in nothing but the run. -/
structure Verdict where
  question : Question
  context : RuntimeContext
  decision : AuthorizationDecision
  inRun : ∃ run, context = { question.context with run }
  speaks : decision.SpeaksOf question.asked
  unrecorded : decision.auditEventId = none

/-! ## What the evaluators speak of -/

section Evaluators

variable {systemTime : Option Int} {policy : Policy} {principal : Principal}
  {tenant : TenantContext} {delegation : Option Delegation}
  {resourceAttributes : Option ResourceAttributes} {now : Int}

theorem speaksOf_deny (reason : DenialReason) (capability : Capability) :
    (deny reason).SpeaksOf capability := by
  intro named names
  cases names

theorem speaksOf_denyForWithConditions (request : AuthorizationRequest)
    (reason : DenialReason) (policy : Option Policy)
    (conditions : List ConditionEvidence) :
    (denyForWithConditions request reason policy conditions).SpeaksOf
      request.capability := by
  intro named names
  cases names
  rfl

theorem decideByDelegation_speaks (capability : Capability) :
    (decideByDelegation policy principal tenant delegation capability
      now).SpeaksOf capability ∧
    (decideByDelegation policy principal tenant delegation capability
      now).auditEventId = none := by
  simp only [decideByDelegation]
  repeat' split
  all_goals first
    | exact ⟨speaksOf_deny _ _, rfl⟩
    | exact ⟨fun named names => (Option.some.inj names).symm, rfl⟩

theorem evaluateCapability_speaks (capability : Capability) :
    (evaluateCapability systemTime (some policy) (some principal)
      (some tenant) delegation capability now).SpeaksOf capability ∧
    (evaluateCapability systemTime (some policy) (some principal)
      (some tenant) delegation capability now).auditEventId = none := by
  simp only [evaluateCapability]
  repeat' split
  all_goals first
    | exact ⟨speaksOf_deny _ _, rfl⟩
    | exact ⟨fun named names => (Option.some.inj names).symm, rfl⟩
    | exact decideByDelegation_speaks capability

theorem decideRequestByDelegation_speaks (request : AuthorizationRequest) :
    (decideRequestByDelegation policy principal tenant delegation request
      resourceAttributes now).SpeaksOf request.capability ∧
    (decideRequestByDelegation policy principal tenant delegation request
      resourceAttributes now).auditEventId = none := by
  simp only [decideRequestByDelegation]
  repeat' split
  all_goals first
    | exact ⟨speaksOf_denyForWithConditions _ _ _ _, rfl⟩
    | exact ⟨fun named names => (Option.some.inj names).symm, rfl⟩

theorem evaluateAuthorizationRequest_speaks (request : AuthorizationRequest) :
    (evaluateAuthorizationRequest systemTime (some policy) (some principal)
      (some tenant) delegation request resourceAttributes now).SpeaksOf
        request.capability ∧
    (evaluateAuthorizationRequest systemTime (some policy) (some principal)
      (some tenant) delegation request resourceAttributes
        now).auditEventId = none := by
  simp only [evaluateAuthorizationRequest]
  repeat' split
  all_goals first
    | exact ⟨speaksOf_denyForWithConditions _ _ _ _, rfl⟩
    | exact ⟨fun named names => (Option.some.inj names).symm, rfl⟩
    | exact decideRequestByDelegation_speaks request

end Evaluators

namespace Question

/-- The verdict on a question, which needs the tenant's policy unless the run
itself refuses. -/
def evaluate (environment : Environment) (mesh : AuthMesh) (now : Int) :
    Question → Option Verdict
  | .authorize context capability =>
      (mesh.policy context.tenant).toOption.map fun policy =>
        { question := .authorize context capability
          context
          decision :=
            evaluateCapability environment.systemTime (some policy)
              (some context.principal) (some context.tenant)
              (pickDelegation
                (mesh.delegationsFor context.tenant context.principal.id)
                capability now)
              capability now
          inRun := ⟨context.run, rfl⟩
          speaks := (evaluateCapability_speaks capability).1
          unrecorded := (evaluateCapability_speaks capability).2 }
  | .authorizeRequest context request resourceAttributes =>
      (mesh.policy context.tenant).toOption.map fun policy =>
        { question := .authorizeRequest context request resourceAttributes
          context
          decision :=
            evaluateAuthorizationRequest environment.systemTime (some policy)
              (some context.principal) (some context.tenant)
              (pickDelegation
                (mesh.delegationsFor context.tenant context.principal.id)
                request.capability now)
              request resourceAttributes now
          inRun := ⟨context.run, rfl⟩
          speaks := (evaluateAuthorizationRequest_speaks request).1
          unrecorded := (evaluateAuthorizationRequest_speaks request).2 }
  | .authorizeRunRequest context runId request resourceAttributes =>
      match mesh.checkedRunForRequest context runId request resourceAttributes
          now with
      | .ok run =>
          (mesh.policy context.tenant).toOption.map fun policy =>
            { question :=
                .authorizeRunRequest context runId request resourceAttributes
              context := context.withRun run
              decision :=
                evaluateAuthorizationRequest environment.systemTime
                  (some policy) (some context.principal) (some context.tenant)
                  (pickDelegation
                    (mesh.delegationsFor context.tenant context.principal.id)
                    request.capability now)
                  (AuthMesh.runRequest request run) resourceAttributes now
              inRun := ⟨some run, rfl⟩
              speaks := (evaluateAuthorizationRequest_speaks
                (AuthMesh.runRequest request run)).1
              unrecorded := (evaluateAuthorizationRequest_speaks
                (AuthMesh.runRequest request run)).2 }
      | .error (reason, run) =>
          some
            { question :=
                .authorizeRunRequest context runId request resourceAttributes
              context := (run.map context.withRun).getD context
              decision :=
                .deny reason (some request.capability) request.resource
                  (some request.action)
                  ((mesh.policy context.tenant).toOption.map Policy.id) [] []
                  none
              inRun := by
                cases run with
                | none => exact ⟨context.run, rfl⟩
                | some run => exact ⟨some run, rfl⟩
              speaks := fun named names => (Option.some.inj names).symm
              unrecorded := rfl }

theorem ask_eq (environment : Environment) (mesh : AuthMesh) (now : Int)
    (authorityRevision : Nat) (question : Question) :
    question.ask environment mesh now authorityRevision =
      match question.evaluate environment mesh now with
      | some verdict =>
          mesh.settleDecision environment verdict.context question.asked
            verdict.decision now authorityRevision
      | none => (deny .policyNotFound, mesh) := by
  cases question with
  | authorize context capability =>
      simp only [ask, evaluate, AuthMesh.authorizeWithAuthorityRevision]
      cases mesh.policy context.tenant <;> rfl
  | authorizeRequest context request resourceAttributes =>
      simp only [ask, evaluate, AuthMesh.authorizeRequestWithAuthorityRevision]
      cases mesh.policy context.tenant <;> rfl
  | authorizeRunRequest context runId request resourceAttributes =>
      simp only [ask, evaluate,
        AuthMesh.authorizeRunRequestWithAuthorityRevision]
      cases mesh.checkedRunForRequest context runId request resourceAttributes
          now with
      | error refusal => rfl
      | ok run =>
          have sameTenant : (context.withRun run).tenant = context.tenant :=
            rfl
          simp only [AuthMesh.authorizeRequestWithAuthorityRevision,
            sameTenant]
          cases mesh.policy context.tenant <;> rfl

theorem evaluate_question {environment : Environment} {mesh : AuthMesh}
    {now : Int} {question : Question} {verdict : Verdict}
    (found : question.evaluate environment mesh now = some verdict) :
    verdict.question = question := by
  cases question with
  | authorize context capability =>
      obtain ⟨_, _, rfl⟩ := Option.map_eq_some_iff.mp found
      rfl
  | authorizeRequest context request resourceAttributes =>
      obtain ⟨_, _, rfl⟩ := Option.map_eq_some_iff.mp found
      rfl
  | authorizeRunRequest context runId request resourceAttributes =>
      simp only [evaluate] at found
      split at found
      · obtain ⟨_, _, rfl⟩ := Option.map_eq_some_iff.mp found
        rfl
      · cases found
        rfl

end Question

end AuthBoundry
