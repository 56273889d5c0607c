import AuthBoundry.Runtime.Questions
import AuthBoundry.Runtime.System

/-!
# Events and evidence

A decision that is settled leaves two records: an event in the audit trail,
and evidence among the decisions the mesh remembers.  The event is read back
from text entries that are searched by key, the evidence is taken from the
decision and the context.  They name the same decision, but neither the
delegator nor the authority revision has an entry of its own, so no event
carries them.
-/

namespace AuthBoundry

open Library

def AuthorizationOutcome.text : AuthorizationOutcome → String
  | .allow => "allow"
  | .deny => "deny"

/-- An event and evidence that tell of one decision. -/
structure SameDecision (event : AuditEvent) (evidence : AuthorizationEvidence) :
    Prop where
  eventId : evidence.auditEventId = some event.eventId
  decisionId : evidence.decisionId = event.eventId.value
  tenant : event.tenantId = evidence.tenant
  principal : event.principalId = some evidence.principal
  timestamp : event.timestamp = evidence.timestamp
  outcome : event.decision = some evidence.decision.text
  resource :
    event.resource = evidence.resource.map ResourceRef.opaqueName
  run : event.runId = evidence.runId

/-- They also agree on what was asked and on whose authority. -/
structure SameAccount (decision : AuthorizationDecision) (event : AuditEvent)
    (evidence : AuthorizationEvidence) : Prop
    extends SameDecision event evidence where
  action : event.action = evidence.action.map Action.value
  delegation : event.delegationId = evidence.delegationId
  granted : ∀ grant, decision.grant = some grant →
    evidence.delegationId = grant.delegationId
  delegator : event.delegatorId = evidence.delegatedBy
  authorityRevision : event.authorityRevision = some evidence.authorityRevision

/-- Between the two states exactly one event was recorded, and this evidence
is the last that is remembered. -/
structure LeavesRecords (before after : AuthMesh) (event : AuditEvent)
    (evidence : AuthorizationEvidence) : Prop where
  logged : after.stores.audit.events = before.stores.audit.events ++ [event]
  remembered : after.decisions.getLast? = some evidence

/-! ## The entries of a record -/

section Entries

variable (context : RuntimeContext) (capability : Capability)
  (decision : AuthorizationDecision)

def decisionKeys : List String :=
  ["capability", "run_id", "task_id", "reason", "resource", "resource_type",
    "resource_tenant", "action"]

theorem decisionRecord_keys :
    ∀ entry ∈ (decisionRecord context capability decision).metadata,
      entry.1 ∈ decisionKeys := by
  intro entry member
  simp only [decisionRecord, List.mem_append, List.mem_singleton] at member
  rcases member with (((first | inRun) | inReason) | inResource) | inAction
  · simp [first, decisionKeys]
  · cases running : context.run with
    | none => simp [running] at inRun
    | some run =>
        simp only [running, List.mem_cons, List.not_mem_nil, or_false] at inRun
        rcases inRun with rfl | rfl <;> simp [decisionKeys]
  · cases denied : decision.denialReason with
    | none => simp [denied] at inReason
    | some reason =>
        simp only [denied, List.mem_singleton] at inReason
        simp [inReason, decisionKeys]
  · cases named : decisionResource decision with
    | none => simp [named] at inResource
    | some resource =>
        simp only [named, List.mem_cons, List.not_mem_nil, or_false]
          at inResource
        rcases inResource with rfl | rfl | rfl <;> simp [decisionKeys]
  · cases acted : decisionAction decision with
    | none => simp [acted] at inAction
    | some action =>
        simp only [acted, List.mem_singleton] at inAction
        simp [inAction, decisionKeys]

/-- A key that no entry has finds nothing. -/
theorem decisionRecord_lookup_none {key : String}
    (foreign : key ∉ decisionKeys) :
    ((decisionRecord context capability decision).lookup
      fun found => found == key) = none := by
  rw [AuditRecord.lookup, Option.map_eq_none_iff, List.find?_eq_none]
  intro entry member same
  have listed := decisionRecord_keys context capability decision entry member
  rw [beq_iff_eq] at same
  exact foreign (same ▸ listed)

theorem decisionRecord_lookup_run :
    ((decisionRecord context capability decision).lookup
      fun key => key == "run_id") =
        context.run.map fun run => run.id.value := by
  cases running : context.run with
  | some run => simp [decisionRecord, AuditRecord.lookup, running]
  | none =>
      cases reason : decision.denialReason <;>
        cases resource : decisionResource decision <;>
        cases action : decisionAction decision <;>
        simp [decisionRecord, AuditRecord.lookup, running, reason, resource,
          action]

theorem decisionRecord_lookup_resource :
    ((decisionRecord context capability decision).lookup
      fun key => key == "resource") =
        (decisionResource decision).map ResourceRef.opaqueName := by
  cases resource : decisionResource decision <;>
    cases running : context.run <;>
    cases reason : decision.denialReason <;>
    cases action : decisionAction decision <;>
    simp [decisionRecord, AuditRecord.lookup, running, reason, resource,
      action]

end Entries

/-! ## What the evidence says -/

section Evidence

variable {context : RuntimeContext} {capability : Capability}
  {decision : AuthorizationDecision} {now : Int} {authorityRevision : Nat}
  {contractFingerprint : String}

theorem decisionEvidence_attached (id : AuditEventId) :
    let evidence := decisionEvidence context capability
      (attachAuditEvent decision id) now authorityRevision contractFingerprint
    evidence.auditEventId = some id ∧ evidence.decisionId = id.value ∧
      evidence.tenant = context.tenant.tenantId ∧
      evidence.principal = context.principal.id ∧ evidence.timestamp = now ∧
      some evidence.decision.text =
        (match decisionKind decision with
          | .authorizationGranted => some "allow"
          | .authorizationDenied => some "deny"
          | _ => none) ∧
      evidence.resource = decisionResource decision ∧
      evidence.runId = context.run.map AgentRun.id := by
  cases decision <;> exact ⟨rfl, rfl, rfl, rfl, rfl, rfl, rfl, rfl⟩

theorem decisionEvidence_authorityRevision :
    (decisionEvidence context capability decision now authorityRevision
      contractFingerprint).authorityRevision = authorityRevision := by
  cases decision <;> rfl

end Evidence

namespace AuthMesh

variable {environment : Environment} {self : AuthMesh}
  {context : RuntimeContext} {capability : Capability}
  {decision : AuthorizationDecision} {now : Int} {authorityRevision : Nat}
  {event : AuditEvent} {evidence : AuthorizationEvidence}

theorem rememberDecision_getLast? :
    (self.rememberDecision context capability decision now
        authorityRevision).decisions.getLast? =
      some (decisionEvidence context capability decision now authorityRevision
        self.config.fingerprint) := by
  simp only [rememberDecision]
  split
  · rename_i long
    cases held : self.decisions with
    | nil => simp [held] at long
    | cons first rest => simp [List.getLast?_append]
  · simp

theorem settleDecision_leavesRecords_iff :
    LeavesRecords self (self.settleDecision environment context capability
        decision now authorityRevision).2 event evidence ↔
      environment.auditFault self.auditSequence = none ∧
        event = self.auditEvent context.tenant
          (decisionRecord context capability decision) now ∧
        evidence = decisionEvidence context capability
          (attachAuditEvent decision
            (AuthBoundry.auditEventId context.tenant self.auditSequence))
          now authorityRevision self.config.fingerprint := by
  unfold settleDecision
  cases fault : environment.auditFault self.auditSequence with
  | none =>
      have remembered := @rememberDecision_getLast?
        (self.stamped context.tenant
          (decisionRecord context capability decision) now) context capability
        (attachAuditEvent decision
          (AuthBoundry.auditEventId context.tenant self.auditSequence)) now
        authorityRevision
      rw [recordDecision_ok fault]
      constructor
      · intro leaves
        obtain ⟨logged, found⟩ := leaves
        dsimp only at logged found
        rw [remembered] at found
        have events := List.append_cancel_left logged
        exact ⟨rfl, (List.singleton_inj.mp events).symm,
          (Option.some.inj found).symm⟩
      · rintro ⟨_, rfl, rfl⟩
        exact ⟨rfl, remembered⟩
  | some failure =>
      obtain ⟨err, refused⟩ := recordDecision_error context capability decision
        now fault
      rw [refused]
      constructor
      · intro leaves
        have lengths := congrArg List.length leaves.logged
        simp at lengths
      · intro accepts
        cases accepts.1

end AuthMesh

namespace Question

variable {environment : Environment} {mesh : AuthMesh} {now : Int}
  {authorityRevision : Nat} {question : Question} {event : AuditEvent}
  {evidence : AuthorizationEvidence}

theorem ask_leavesRecords_iff :
    LeavesRecords mesh (question.ask environment mesh now authorityRevision).2
        event evidence ↔
      ∃ verdict, question.evaluate environment mesh now = some verdict ∧
        LeavesRecords mesh (mesh.settleDecision environment verdict.context
          question.asked verdict.decision now authorityRevision).2 event
          evidence := by
  rw [question.ask_eq]
  cases question.evaluate environment mesh now with
  | some verdict => simp
  | none =>
      constructor
      · intro leaves
        have lengths := congrArg List.length leaves.logged
        simp at lengths
      · rintro ⟨_, absent, _⟩
        cases absent

theorem ask_leavesRecords {verdict : Verdict}
    (evaluated : question.evaluate environment mesh now = some verdict)
    (accepts : environment.auditFault mesh.auditSequence = none) :
    ∃ event evidence, LeavesRecords mesh
      (question.ask environment mesh now authorityRevision).2 event evidence :=
  ⟨_, _, ask_leavesRecords_iff.mpr ⟨verdict, evaluated,
    AuthMesh.settleDecision_leavesRecords_iff.mpr ⟨accepts, rfl, rfl⟩⟩⟩

/-- The records name the same event, tenant, principal, time, outcome, resource
and run. -/
theorem ask_sameDecision
    (leaves : LeavesRecords mesh
      (question.ask environment mesh now authorityRevision).2 event evidence) :
    SameDecision event evidence := by
  obtain ⟨verdict, _, settled⟩ := ask_leavesRecords_iff.mp leaves
  obtain ⟨_, rfl, rfl⟩ := AuthMesh.settleDecision_leavesRecords_iff.mp settled
  obtain ⟨carried, decisionId, tenant, principal, timestamp, outcome, resource,
    run⟩ := decisionEvidence_attached (AuthBoundry.auditEventId
      verdict.context.tenant mesh.auditSequence)
  refine ⟨carried, decisionId, tenant.symm, ?_, timestamp.symm, outcome.symm,
    ?_, ?_⟩
  · rw [principal]
    rfl
  · rw [resource]
    exact decisionRecord_lookup_resource _ _ _
  · rw [run]
    have found := decisionRecord_lookup_run verdict.context question.asked
      verdict.decision
    refine (congrArg (Option.map AuthorityId.mk) found).trans ?_
    cases verdict.context.run <;> rfl

/-- Whatever was asked, the event names the capability as its action, and
neither a delegator nor an authority revision. -/
theorem ask_event
    (leaves : LeavesRecords mesh
      (question.ask environment mesh now authorityRevision).2 event evidence) :
    event.action = some question.asked.value ∧ event.delegatorId = none ∧
      event.authorityRevision = none := by
  obtain ⟨verdict, _, settled⟩ := ask_leavesRecords_iff.mp leaves
  obtain ⟨_, rfl, _⟩ := AuthMesh.settleDecision_leavesRecords_iff.mp settled
  have delegator := decisionRecord_lookup_none verdict.context question.asked
    verdict.decision (show "delegator" ∉ decisionKeys by decide)
  have revision := decisionRecord_lookup_none verdict.context question.asked
    verdict.decision (show "authority_revision" ∉ decisionKeys by decide)
  refine ⟨rfl, ?_, ?_⟩
  · simp [AuthMesh.auditEvent, delegator]
  · simp [AuthMesh.auditEvent, revision]

/-- The evidence always has an authority revision. -/
theorem ask_not_sameAccount
    (leaves : LeavesRecords mesh
      (question.ask environment mesh now authorityRevision).2 event evidence) :
    ¬SameAccount (question.ask environment mesh now authorityRevision).1 event
      evidence := by
  intro account
  have recorded := account.authorityRevision
  rw [(ask_event leaves).2.2] at recorded
  cases recorded

end Question

/-! ## A revision that is lost -/

/-- A tenant with alice, the manager and the worker. -/
def staffedMesh : AuthMesh :=
  AuthMesh.system.run emptyMesh (acmeCalls [readRule])

/-- The worker asks for a capability under the seventh revision. -/
def workerQuestion : Question :=
  .authorize (agentContext "worker") ⟨"invoice.read"⟩

theorem workerQuestion_leavesRecords :
    ∃ event evidence, LeavesRecords staffedMesh
      (workerQuestion.ask acmeEnvironment staffedMesh 10 7).2 event
      evidence := by
  have evaluates : ∃ verdict,
      workerQuestion.evaluate acmeEnvironment staffedMesh 10 = some verdict :=
    Option.isSome_iff_exists.mp (by decide +kernel)
  obtain ⟨verdict, evaluated⟩ := evaluates
  exact Question.ask_leavesRecords evaluated rfl

theorem ask_sameDecision_worker :
    ∃ event evidence, LeavesRecords staffedMesh
        (workerQuestion.ask acmeEnvironment staffedMesh 10 7).2 event
        evidence ∧
      SameDecision event evidence := by
  obtain ⟨event, evidence, leaves⟩ := workerQuestion_leavesRecords
  exact ⟨event, evidence, leaves, Question.ask_sameDecision leaves⟩

theorem ask_not_sameAccount_worker :
    ∃ event evidence, LeavesRecords staffedMesh
        (workerQuestion.ask acmeEnvironment staffedMesh 10 7).2 event
        evidence ∧
      ¬SameAccount (workerQuestion.ask acmeEnvironment staffedMesh 10 7).1
        event evidence := by
  obtain ⟨event, evidence, leaves⟩ := workerQuestion_leavesRecords
  exact ⟨event, evidence, leaves, Question.ask_not_sameAccount leaves⟩

/-- The evidence is of the seventh revision, the event of none. -/
theorem workerQuestion_not_sameAccount :
    AuthMesh.system.Reachable staffedMesh ∧
      ∃ event evidence, LeavesRecords staffedMesh
          (workerQuestion.ask acmeEnvironment staffedMesh 10 7).2 event
          evidence ∧
        evidence.authorityRevision = 7 ∧ event.authorityRevision = none ∧
        ¬SameAccount (workerQuestion.ask acmeEnvironment staffedMesh 10 7).1
          event evidence := by
  obtain ⟨event, evidence, leaves⟩ := workerQuestion_leavesRecords
  obtain ⟨verdict, _, settled⟩ := Question.ask_leavesRecords_iff.mp leaves
  obtain ⟨_, _, made⟩ := AuthMesh.settleDecision_leavesRecords_iff.mp settled
  have missing := (Question.ask_event leaves).2.2
  have revision : evidence.authorityRevision = 7 := by
    rw [made, decisionEvidence_authorityRevision]
  refine ⟨.run (.start emptyMesh_fresh) _, event, evidence, leaves, revision,
    missing, ?_⟩
  intro account
  have same := account.authorityRevision
  rw [missing] at same
  cases same

end AuthBoundry
