import AuthBoundry.Runtime.Decisions

/-!
# Grants in the audit trail

A decision of the mesh that allows has left exactly one event in the audit
trail, and carries its id.
-/

namespace AuthBoundry

open Library
open Library.Stateful

namespace AuthMesh

/-- Between the two states exactly one event was recorded; it grants the
capability to the principal of the context, and the decision carries its id. -/
structure GrantRecorded (environment : Environment) (before after : AuthMesh)
    (context : RuntimeContext) (capability : Capability)
    (decision : AuthorizationDecision) : Prop where
  accepted : environment.auditFault before.auditSequence = none
  recorded : ∃ event,
    after.stores.audit.events = before.stores.audit.events ++ [event] ∧
      event.kind = .authorizationGranted ∧
      event.tenantId = context.tenant.tenantId ∧
      event.principalId = some context.principal.id ∧
      event.metadata["capability"]? = some capability.value ∧
      decision.auditEventId = some event.eventId

variable {environment : Environment} {self : AuthMesh}
  {context : RuntimeContext} {capability : Capability} {now : Int}
  {authorityRevision : Nat}

theorem decisionRecord_metadata (decision : AuthorizationDecision) :
    ∀ entry ∈ (decisionRecord context capability decision).metadata.tail,
      entry.1 ≠ "capability" := by
  intro entry member
  unfold decisionRecord at member
  simp only [List.cons_append, List.nil_append, List.tail_cons,
    List.mem_append] at member
  rcases member with ((inRun | inReason) | inResource) | inAction
  · cases running : context.run with
    | none => simp [running] at inRun
    | some run =>
        simp only [running, List.mem_cons, List.not_mem_nil, or_false] at inRun
        rcases inRun with rfl | rfl <;> simp
  · cases denied : decision.denialReason with
    | none => simp [denied] at inReason
    | some reason =>
        simp only [denied, List.mem_singleton] at inReason
        simp [inReason]
  · cases named : decisionResource decision with
    | none => simp [named] at inResource
    | some resource =>
        simp only [named, List.mem_cons, List.not_mem_nil, or_false]
          at inResource
        rcases inResource with rfl | rfl | rfl <;> simp
  · cases acted : decisionAction decision with
    | none => simp [acted] at inAction
    | some action =>
        simp only [acted, List.mem_singleton] at inAction
        simp [inAction]

theorem auditEvent_capability (decision : AuthorizationDecision) :
    (self.auditEvent context.tenant
        (decisionRecord context capability decision)
        now).metadata["capability"]? = some capability.value := by
  have others := @decisionRecord_metadata context capability decision
  have listed : (decisionRecord context capability decision).metadata =
      ("capability", capability.value) ::
        (decisionRecord context capability decision).metadata.tail := rfl
  unfold auditEvent
  rw [listed, List.foldl_cons, KeyedMap.getElem?_foldl_insert_of_ne others]
  exact Std.ExtTreeMap.getElem?_insert_self

theorem decisionKind_of_isAllowed {decision : AuthorizationDecision}
    (allowed : decision.isAllowed = true) :
    decisionKind decision = .authorizationGranted := by
  cases decision with
  | allow => rfl
  | deny => cases allowed

theorem settleDecision_recorded {decision : AuthorizationDecision}
    (allowed : (self.settleDecision environment context capability decision
      now authorityRevision).1.isAllowed = true) :
    GrantRecorded environment self
      (self.settleDecision environment context capability decision now
        authorityRevision).2 context capability
      (self.settleDecision environment context capability decision now
        authorityRevision).1 := by
  rw [settleDecision_fst] at allowed
  by_cases accepts : environment.auditFault self.auditSequence = none
  · rw [if_pos accepts, isAllowed_attachAuditEvent] at allowed
    refine ⟨accepts, self.auditEvent context.tenant
      (decisionRecord context capability decision) now, ?_, ?_, rfl, rfl,
      auditEvent_capability decision, ?_⟩
    · unfold settleDecision
      rw [recordDecision_ok accepts]
      rfl
    · exact decisionKind_of_isAllowed allowed
    · rw [settleDecision_fst, if_pos accepts]
      exact auditEventId_attachAuditEvent decision _
  · rw [if_neg accepts] at allowed
    cases allowed

/-! ## The decision functions -/

theorem authorize_recorded
    (allowed : (self.authorizeWithAuthorityRevision environment context
      capability now authorityRevision).1.isAllowed = true) :
    GrantRecorded environment self
      (self.authorizeWithAuthorityRevision environment context capability now
        authorityRevision).2 context capability
      (self.authorizeWithAuthorityRevision environment context capability now
        authorityRevision).1 := by
  unfold authorizeWithAuthorityRevision at allowed ⊢
  cases found : self.policy context.tenant with
  | error err =>
      rw [found] at allowed
      cases allowed
  | ok policy =>
      rw [found] at allowed
      exact settleDecision_recorded allowed

theorem authorizeRequest_recorded {request : AuthorizationRequest}
    {resourceAttributes : Option ResourceAttributes}
    (allowed : (self.authorizeRequestWithAuthorityRevision environment context
      request resourceAttributes now authorityRevision).1.isAllowed = true) :
    GrantRecorded environment self
      (self.authorizeRequestWithAuthorityRevision environment context request
        resourceAttributes now authorityRevision).2 context request.capability
      (self.authorizeRequestWithAuthorityRevision environment context request
        resourceAttributes now authorityRevision).1 := by
  unfold authorizeRequestWithAuthorityRevision at allowed ⊢
  cases found : self.policy context.tenant with
  | error err =>
      rw [found] at allowed
      cases allowed
  | ok policy =>
      rw [found] at allowed
      exact settleDecision_recorded allowed

theorem authorizeRunRequest_recorded {runId : RunId}
    {request : AuthorizationRequest}
    {resourceAttributes : Option ResourceAttributes}
    (allowed : (self.authorizeRunRequestWithAuthorityRevision environment
      context runId request resourceAttributes now
      authorityRevision).1.isAllowed = true) :
    GrantRecorded environment self
      (self.authorizeRunRequestWithAuthorityRevision environment context runId
        request resourceAttributes now authorityRevision).2 context
      request.capability
      (self.authorizeRunRequestWithAuthorityRevision environment context runId
        request resourceAttributes now authorityRevision).1 := by
  unfold authorizeRunRequestWithAuthorityRevision at allowed ⊢
  cases found : self.checkedRunForRequest context runId request
      resourceAttributes now with
  | ok run =>
      rw [found] at allowed
      -- The run changes neither the principal nor the tenant.
      obtain ⟨accepted, recorded⟩ := authorizeRequest_recorded allowed
      exact ⟨accepted, recorded⟩
  | error refusal =>
      rw [found] at allowed
      dsimp only at allowed
      rw [settleDecision_fst] at allowed
      split at allowed
      · cases allowed
      · cases allowed

end AuthMesh

end AuthBoundry
