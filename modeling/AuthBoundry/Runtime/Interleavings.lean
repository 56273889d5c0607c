import AuthBoundry.Library.Encoding
import AuthBoundry.Library.Interleaving
import AuthBoundry.Runtime.Attenuation
import AuthBoundry.Runtime.Questions
import AuthBoundry.Runtime.Recording
import Mathlib.Data.Set.Function

/-!
# Interleaved operations and the audit counter

One operation stamps an event in one atomic step, records it in another, and a
decision reads its own id back from the counter in a third.  Operations that
run at the same time share the counter, so what a decision reads is its own
id only while no other operation has stamped an event in between.
-/

namespace AuthBoundry

open Library

/-- What an operation leaves in the audit trail: the event of one that is not
a decision, or a decision that is to be settled. -/
inductive Work where
  | report (tenant : TenantContext) (record : AuditRecord) (now : Int)
  | settle (verdict : Verdict) (now : Int) (authorityRevision : Nat)

namespace Work

def tenant : Work → TenantContext
  | .report tenant _ _ => tenant
  | .settle verdict _ _ => verdict.context.tenant

def record : Work → AuditRecord
  | .report _ record _ => record
  | .settle verdict _ _ =>
      decisionRecord verdict.context verdict.question.asked verdict.decision

def now : Work → Int
  | .report _ _ now => now
  | .settle _ now _ => now

end Work

/-- The number an operation drew from the counter, and the event it made with
it. -/
structure Stamp (work : Work) where
  sequence : Nat
  event : AuditEvent
  made : ∃ mesh : AuthMesh, mesh.auditSequence = sequence ∧
    mesh.auditEvent work.tenant work.record work.now = event

def AuthMesh.stamp (self : AuthMesh) (work : Work) : Stamp work :=
  { sequence := self.auditSequence
    event := self.auditEvent work.tenant work.record work.now
    made := ⟨self, rfl, rfl⟩ }

/-- A decision with the id it carries.  The stamp is that of its own event. -/
structure Outcome where
  verdict : Verdict
  now : Int
  authorityRevision : Nat
  stamp : Stamp (.settle verdict now authorityRevision)
  auditEventId : AuditEventId

namespace Outcome

def decision (self : Outcome) : AuthorizationDecision :=
  attachAuditEvent self.verdict.decision self.auditEventId

def question (self : Outcome) : Question :=
  self.verdict.question

end Outcome

/-- Where an operation stands between two atomic steps. -/
inductive Thread where
  | asking (environment : Environment) (question : Question) (now : Int)
      (authorityRevision : Nat)
  | auditing (environment : Environment) (work : Work)
  | stamped (environment : Environment) (work : Work) (stamp : Stamp work)
  | recorded (work : Work) (stamp : Stamp work)
  | loaded (outcome : Outcome)
  | returned (outcome : Outcome)
  | refused (work : Work)
  | unanswered (question : Question)

namespace Thread

/-- An operation that has not begun. -/
inductive Waiting : Thread → Prop where
  | asking (environment : Environment) (question : Question) (now : Int)
      (authorityRevision : Nat) :
      Waiting (.asking environment question now authorityRevision)
  | report (environment : Environment) (tenant : TenantContext)
      (record : AuditRecord) (now : Int) :
      Waiting (.auditing environment (.report tenant record now))

def sequence : Thread → Option Nat
  | .stamped _ _ stamp => some stamp.sequence
  | .recorded _ stamp => some stamp.sequence
  | .loaded outcome => some outcome.stamp.sequence
  | .returned outcome => some outcome.stamp.sequence
  | _ => none

/-- The event the operation has put into the log. -/
def logged : Thread → Option AuditEvent
  | .recorded _ stamp => some stamp.event
  | .loaded outcome => some outcome.stamp.event
  | .returned outcome => some outcome.stamp.event
  | _ => none

def outcome : Thread → Option Outcome
  | .loaded outcome => some outcome
  | .returned outcome => some outcome
  | _ => none

/-- What the caller of a decision function was told. -/
def answer : Thread → Option AuthorizationDecision
  | .returned outcome => some outcome.decision
  | .refused (.settle _ _ _) => some (deny .auditUnavailable)
  | .unanswered _ => some (deny .policyNotFound)
  | _ => none

/-- One atomic step.  Evaluating reads the stores and writes nothing; the
counter, the log and the counter again are touched in a step each. -/
def step (mesh : AuthMesh) : Thread → AuthMesh × Thread
  | .asking environment question now authorityRevision =>
      match question.evaluate environment mesh now with
      | some verdict =>
          (mesh, .auditing environment (.settle verdict now authorityRevision))
      | none => (mesh, .unanswered question)
  | .auditing environment work =>
      ({ mesh with auditSequence := mesh.auditSequence + 1 },
        .stamped environment work (mesh.stamp work))
  | .stamped environment work stamp =>
      match environment.auditFault stamp.sequence with
      | some _ => (mesh, .refused work)
      | none =>
          match mesh.stores.audit.recordEvent work.tenant stamp.event with
          | .error _ => (mesh, .refused work)
          | .ok ((), audit) =>
              ({ mesh with stores := { mesh.stores with audit } },
                .recorded work stamp)
  | .recorded (.settle verdict now authorityRevision) stamp =>
      (mesh,
        .loaded
          { verdict, now, authorityRevision, stamp
            auditEventId := mesh.lastAuditEventId verdict.context.tenant })
  | .loaded outcome =>
      (mesh.rememberDecision outcome.verdict.context outcome.question.asked
          outcome.decision outcome.now outcome.authorityRevision,
        .returned outcome)
  | finished => (mesh, finished)

end Thread

/-- Between two steps of an operation the others may write any store but the
log, to which they too only come through their own audit steps. -/
def auditProgram : ThreadProgram AuthMesh Thread MeshStores :=
  { step := Thread.step
    disturb := fun mesh stores =>
      { mesh with stores := { stores with audit := mesh.stores.audit } } }

def auditSystem :
    TransitionSystem (Interleaved AuthMesh Thread) (Turn MeshStores) :=
  auditProgram.interleaving fun state => ∀ index, (state.threads index).Waiting

/-! ## The claim on the audit trail -/

/-- The decision carries the id of the event that was recorded for it: that
event is in the log, and names the decision's principal, tenant, capability
and outcome. -/
structure Outcome.CarriesOwnEvent (outcome : Outcome) (log : MemoryAuditLog) :
    Prop where
  carried : outcome.decision.auditEventId = some outcome.stamp.event.eventId
  recorded : outcome.stamp.event ∈ log.events
  tenant : outcome.stamp.event.tenantId = outcome.question.context.tenant.tenantId
  principal :
    outcome.stamp.event.principalId = some outcome.question.context.principal.id
  asked : outcome.stamp.event.metadata["capability"]? =
    some outcome.question.asked.value
  capability : outcome.decision.SpeaksOf outcome.question.asked
  decided : outcome.stamp.event.decision =
    some (if outcome.decision.isAllowed then "allow" else "deny")

/-- Every decision carries the id of its own event, and no two decisions of
one tenant carry the same. -/
structure CarriesOwnEvents (state : Interleaved AuthMesh Thread) : Prop where
  own : ∀ index outcome, (state.threads index).outcome = some outcome →
    outcome.CarriesOwnEvent state.shared.stores.audit
  distinct : ∀ first second outcome outcome', first ≠ second →
    (state.threads first).outcome = some outcome →
    (state.threads second).outcome = some outcome' →
    outcome.question.context.tenant.tenantId =
      outcome'.question.context.tenant.tenantId →
    outcome.decision.auditEventId ≠ outcome'.decision.auditEventId

/-- What the ids of a decision's tenant are hashed from. -/
def idMaterials (state : Interleaved AuthMesh Thread) : Set String :=
  { material | ∃ index outcome sequence,
      (state.threads index).outcome = some outcome ∧
        sequence < state.shared.auditSequence ∧
        material =
          s!"{outcome.verdict.context.tenant.tenantId}|{sequence}" }

def HashesApart (state : Interleaved AuthMesh Thread) : Prop :=
  Set.InjOn stableHash (idMaterials state)

/-- A decision that is about to load its id loads it while its own number is
the last one drawn. -/
def Thread.Timely (mesh : AuthMesh) : Thread → Prop
  | .recorded (.settle _ _ _) stamp => mesh.auditSequence = stamp.sequence + 1
  | _ => True

/-- No decision loads its id after another operation has stamped an event. -/
def LoadsInTime (state : Interleaved AuthMesh Thread) : Turn MeshStores → Prop
  | .thread index => (state.threads index).Timely state.shared
  | .outside _ => True

/-! ## What a stamped event says -/

namespace Stamp

theorem eventId_eq {work : Work} (stamp : Stamp work) :
    stamp.event.eventId = auditEventId work.tenant stamp.sequence := by
  obtain ⟨mesh, drawn, made⟩ := stamp.made
  rw [← made, ← drawn]
  rfl

theorem tenantId_eq {work : Work} (stamp : Stamp work) :
    stamp.event.tenantId = work.tenant.tenantId := by
  obtain ⟨mesh, _, made⟩ := stamp.made
  rw [← made]
  rfl

variable {verdict : Verdict} {now : Int} {authorityRevision : Nat}

theorem principalId_eq (stamp : Stamp (.settle verdict now authorityRevision)) :
    stamp.event.principalId = some verdict.context.principal.id := by
  obtain ⟨mesh, _, made⟩ := stamp.made
  rw [← made]
  rfl

theorem capability_eq (stamp : Stamp (.settle verdict now authorityRevision)) :
    stamp.event.metadata["capability"]? =
      some verdict.question.asked.value := by
  obtain ⟨mesh, _, made⟩ := stamp.made
  rw [← made]
  exact AuthMesh.auditEvent_capability verdict.decision

theorem decision_eq (stamp : Stamp (.settle verdict now authorityRevision)) :
    stamp.event.decision =
      some (if verdict.decision.isAllowed then "allow" else "deny") := by
  obtain ⟨mesh, _, made⟩ := stamp.made
  rw [← made]
  cases decided : verdict.decision with
  | allow => simp [AuthMesh.auditEvent, Work.record, decisionRecord,
      decisionKind, decided, AuthorizationDecision.isAllowed]
  | deny => simp [AuthMesh.auditEvent, Work.record, decisionRecord,
      decisionKind, decided, AuthorizationDecision.isAllowed]

end Stamp

theorem Verdict.tenant_eq (verdict : Verdict) :
    verdict.context.tenant = verdict.question.context.tenant := by
  obtain ⟨run, same⟩ := verdict.inRun
  rw [same]

theorem Verdict.principal_eq (verdict : Verdict) :
    verdict.context.principal = verdict.question.context.principal := by
  obtain ⟨run, same⟩ := verdict.inRun
  rw [same]

theorem speaksOf_attachAuditEvent {decision : AuthorizationDecision}
    {capability : Capability} (speaks : decision.SpeaksOf capability)
    (id : AuditEventId) :
    (attachAuditEvent decision id).SpeaksOf capability := by
  cases decision <;> exact speaks

theorem Outcome.carriesOwnEvent_iff {outcome : Outcome} {log : MemoryAuditLog}
    (recorded : outcome.stamp.event ∈ log.events) :
    outcome.CarriesOwnEvent log ↔
      outcome.auditEventId = outcome.stamp.event.eventId := by
  constructor
  · intro carries
    have carried := carries.carried
    rw [decision, auditEventId_attachAuditEvent] at carried
    exact Option.some.inj carried
  · intro own
    refine ⟨?_, recorded, ?_, ?_, outcome.stamp.capability_eq,
      speaksOf_attachAuditEvent outcome.verdict.speaks _, ?_⟩
    · rw [decision, auditEventId_attachAuditEvent, own]
    · rw [outcome.stamp.tenantId_eq]
      exact congrArg TenantContext.tenantId outcome.verdict.tenant_eq
    · rw [outcome.stamp.principalId_eq, outcome.verdict.principal_eq]
      rfl
    · rw [outcome.stamp.decision_eq, decision, isAllowed_attachAuditEvent]

/-! ## What every interleaving keeps -/

namespace Thread

/-- The log takes an event of the operation's own tenant unless it fails. -/
theorem step_stamped (mesh : AuthMesh) (environment : Environment)
    (work : Work) (stamp : Stamp work) :
    step mesh (.stamped environment work stamp) =
      if environment.auditFault stamp.sequence = none then
        ({ mesh with stores := { mesh.stores with
            audit := { events := mesh.stores.audit.events ++ [stamp.event] } } },
          .recorded work stamp)
      else
        (mesh, .refused work) := by
  have sameTenant : (stamp.event.tenantId != work.tenant.tenantId) = false := by
    simp [stamp.tenantId_eq]
  simp only [step, MemoryAuditLog.recordEvent, sameTenant]
  cases environment.auditFault stamp.sequence with
  | none => simp
  | some failure => simp

/-- The audit trail of one state goes on in another. -/
structure TrailGrows (before after : AuthMesh) : Prop where
  counter : before.auditSequence ≤ after.auditSequence
  log : before.stores.audit.events ⊆ after.stores.audit.events

theorem trailGrows_refl (mesh : AuthMesh) : TrailGrows mesh mesh :=
  ⟨le_refl _, List.Subset.refl _⟩

theorem step_trailGrows (mesh : AuthMesh) (thread : Thread) :
    TrailGrows mesh (step mesh thread).1 := by
  cases thread with
  | asking environment question now authorityRevision =>
      simp only [step]
      split <;> exact trailGrows_refl mesh
  | auditing environment work =>
      exact ⟨Nat.le_succ _, List.Subset.refl _⟩
  | stamped environment work stamp =>
      rw [step_stamped]
      split
      · exact ⟨le_refl _, List.subset_append_left _ _⟩
      · exact trailGrows_refl mesh
  | recorded work stamp =>
      cases work <;> exact trailGrows_refl mesh
  | loaded outcome => exact ⟨le_refl _, List.Subset.refl _⟩
  | returned outcome => exact trailGrows_refl mesh
  | refused work => exact trailGrows_refl mesh
  | unanswered question => exact trailGrows_refl mesh

/-- The number a thread drew is spent, and the event it recorded is there. -/
structure Knows (mesh : AuthMesh) (thread : Thread) : Prop where
  spent : ∀ sequence, thread.sequence = some sequence →
    sequence < mesh.auditSequence
  kept : ∀ event, thread.logged = some event →
    event ∈ mesh.stores.audit.events

/-- Two threads drew different numbers. -/
def Apart (first second : Thread) : Prop :=
  ∀ sequence, first.sequence = some sequence →
    second.sequence ≠ some sequence

theorem Knows.later {before after : AuthMesh} {thread : Thread}
    (knows : Knows before thread) (grows : TrailGrows before after) :
    Knows after thread := by
  constructor
  · intro sequence drawn
    exact Nat.lt_of_lt_of_le (knows.spent sequence drawn) grows.counter
  · intro event logged
    exact grows.log (knows.kept event logged)

theorem knows_of_nothing {mesh : AuthMesh} {thread : Thread}
    (drewNone : thread.sequence = none) (loggedNone : thread.logged = none) :
    Knows mesh thread := by
  constructor
  · intro sequence drawn
    rw [drewNone] at drawn
    cases drawn
  · intro event logged
    rw [loggedNone] at logged
    cases logged

theorem Waiting.sequence {thread : Thread} (waiting : thread.Waiting) :
    thread.sequence = none := by
  cases waiting <;> rfl

theorem Waiting.outcome {thread : Thread} (waiting : thread.Waiting) :
    thread.outcome = none := by
  cases waiting <;> rfl

theorem Waiting.knows {mesh : AuthMesh} {thread : Thread}
    (waiting : thread.Waiting) : Knows mesh thread := by
  cases waiting <;> exact knows_of_nothing rfl rfl

theorem step_sequence {mesh : AuthMesh} {thread : Thread} {sequence : Nat}
    (drawn : (step mesh thread).2.sequence = some sequence) :
    thread.sequence = some sequence ∨
      sequence = mesh.auditSequence ∧
        (step mesh thread).1.auditSequence = sequence + 1 := by
  cases thread with
  | asking environment question now authorityRevision =>
      simp only [step] at drawn
      split at drawn <;> cases drawn
  | auditing environment work =>
      cases drawn
      exact .inr ⟨rfl, rfl⟩
  | stamped environment work stamp =>
      rw [step_stamped] at drawn
      split at drawn
      · exact .inl drawn
      · cases drawn
  | recorded work stamp =>
      cases work <;> exact .inl drawn
  | loaded outcome => exact .inl drawn
  | returned outcome => exact .inl drawn
  | refused work => exact .inl drawn
  | unanswered question => exact .inl drawn

/-- A step logs no event, or puts it into the log. -/
theorem step_logged {mesh : AuthMesh} {thread : Thread} {event : AuditEvent}
    (logged : (step mesh thread).2.logged = some event) :
    thread.logged = some event ∨
      event ∈ (step mesh thread).1.stores.audit.events := by
  cases thread with
  | asking environment question now authorityRevision =>
      simp only [step] at logged
      split at logged <;> cases logged
  | auditing environment work => cases logged
  | stamped environment work stamp =>
      rw [step_stamped] at logged ⊢
      split at logged
      · rename_i accepts
        cases logged
        right
        rw [if_pos accepts]
        exact List.mem_append_right _ (List.mem_singleton.mpr rfl)
      · cases logged
  | recorded work stamp =>
      cases work <;> exact .inl logged
  | loaded outcome => exact .inl logged
  | returned outcome => exact .inl logged
  | refused work => exact .inl logged
  | unanswered question => exact .inl logged

theorem Knows.step {mesh : AuthMesh} {thread : Thread}
    (knows : Knows mesh thread) :
    Knows (step mesh thread).1 (step mesh thread).2 := by
  have grows := step_trailGrows mesh thread
  constructor
  · intro sequence drawn
    rcases step_sequence drawn with before | now
    · exact Nat.lt_of_lt_of_le (knows.spent sequence before) grows.counter
    · rw [now.2]
      exact Nat.lt_succ_self sequence
  · intro event logged
    rcases step_logged logged with before | now
    · exact grows.log (knows.kept event before)
    · exact now

theorem Apart.step {mesh : AuthMesh} {thread other : Thread}
    (knows : Knows mesh other) (apart : Apart thread other) :
    Apart (step mesh thread).2 other := by
  intro sequence drawn same
  rcases step_sequence drawn with before | now
  · exact apart sequence before same
  · have spent := knows.spent sequence same
    rw [now.1] at spent
    exact Nat.lt_irrefl _ spent

end Thread

/-- In every interleaving the threads drew different numbers, and what they
recorded is in the log. -/
theorem auditSystem_invariant {state : Interleaved AuthMesh Thread}
    (reached : auditSystem.Reachable state) :
    ThreadProgram.Invariant Thread.Knows Thread.Apart state := by
  apply reached.invariant
  · intro start waiting
    constructor
    · exact fun index => (waiting index).knows
    · intro first second _ sequence drawn
      rw [(waiting first).sequence] at drawn
      cases drawn
  · intro state turn _ _ before
    change ThreadProgram.Invariant _ _ (auditProgram.next state turn)
    apply before.next
    · exact fun first second apart sequence drawn same =>
        apart sequence same drawn
    · exact fun mesh thread knows => knows.step
    · exact fun mesh thread other knows =>
        knows.later (Thread.step_trailGrows mesh thread)
    · exact fun mesh stores thread knows =>
        knows.later ⟨le_refl _, List.Subset.refl _⟩
    · exact fun mesh thread other knows apart => apart.step knows

/-! ## When a decision carries its own id -/

/-- The ids of a tenant determine the numbers they were made from. -/
def IdsInjective (tenant : TenantContext) (bound : Nat) : Prop :=
  ∀ first < bound, ∀ second < bound,
    auditEventId tenant first = auditEventId tenant second → first = second

theorem idsInjective_of_materials {tenant : TenantContext} {bound : Nat}
    {materials : Set String} (injective : Set.InjOn stableHash materials)
    (listed : ∀ sequence < bound,
      s!"{tenant.tenantId}|{sequence}" ∈ materials) :
    IdsInjective tenant bound := by
  intro first firstBelow second secondBelow same
  have hashes : stableHash s!"{tenant.tenantId}|{first}" =
      stableHash s!"{tenant.tenantId}|{second}" := by
    apply hex16_inj
    exact (String.append_right_inj "evt_").mp (congrArg AuthorityId.value same)
  have materials := injective (listed first firstBelow)
    (listed second secondBelow) hashes
  exact decimal_inj ((String.append_right_inj _).mp materials)

namespace Thread

theorem outcome_traces {thread : Thread} {outcome : Outcome}
    (carries : thread.outcome = some outcome) :
    thread.sequence = some outcome.stamp.sequence ∧
      thread.logged = some outcome.stamp.event := by
  cases thread <;> cases carries <;> exact ⟨rfl, rfl⟩

/-- The decisions of a thread carry the ids of their own events. -/
def OwnId (thread : Thread) : Prop :=
  ∀ outcome, thread.outcome = some outcome →
    outcome.auditEventId = outcome.stamp.event.eventId

theorem ownId_of_none {thread : Thread} (decides : thread.outcome = none) :
    thread.OwnId := by
  intro outcome carries
  rw [decides] at carries
  cases carries

/-- Loading the id finds the thread's own exactly when no number was drawn
since. -/
theorem loads_ownId_iff {mesh : AuthMesh} {verdict : Verdict} {now : Int}
    {authorityRevision : Nat}
    {stamp : Stamp (.settle verdict now authorityRevision)}
    (injective : IdsInjective verdict.context.tenant mesh.auditSequence)
    (spent : stamp.sequence < mesh.auditSequence) :
    OwnId (step mesh (.recorded (.settle verdict now authorityRevision)
        stamp)).2 ↔
      mesh.auditSequence = stamp.sequence + 1 := by
  have eventId : stamp.event.eventId =
      auditEventId verdict.context.tenant stamp.sequence :=
    stamp.eventId_eq
  constructor
  · intro own
    have loaded := own _ rfl
    rw [eventId] at loaded
    have last := injective (mesh.auditSequence - 1) (by omega) _ spent loaded
    omega
  · intro timely outcome carries
    cases carries
    rw [eventId]
    simp [AuthMesh.lastAuditEventId, timely]

/-- A step keeps the ids right exactly when it loads in time. -/
theorem step_ownId_iff {mesh : AuthMesh} {thread : Thread}
    (knows : Knows mesh thread)
    (injective : ∀ outcome, (step mesh thread).2.outcome = some outcome →
      IdsInjective outcome.verdict.context.tenant mesh.auditSequence) :
    (step mesh thread).2.OwnId ↔ thread.OwnId ∧ thread.Timely mesh := by
  have unstamped : ∀ thread' : Thread, thread'.outcome = none →
      thread.outcome = none → thread.Timely mesh →
      (thread'.OwnId ↔ thread.OwnId ∧ thread.Timely mesh) :=
    fun thread' after before timely => iff_of_true (ownId_of_none after)
      ⟨ownId_of_none before, timely⟩
  cases thread with
  | asking environment question now authorityRevision =>
      apply unstamped _ _ rfl trivial
      simp only [step]
      split <;> rfl
  | auditing environment work => exact unstamped _ rfl rfl trivial
  | stamped environment work stamp =>
      apply unstamped _ _ rfl trivial
      rw [step_stamped]
      split <;> rfl
  | recorded work stamp =>
      cases work with
      | report tenant record now => exact unstamped _ rfl rfl trivial
      | settle verdict now authorityRevision =>
          rw [loads_ownId_iff (injective _ rfl) (knows.spent _ rfl)]
          exact (and_iff_right (ownId_of_none rfl)).symm
  | loaded outcome => exact (and_iff_left trivial).symm
  | returned outcome => exact (and_iff_left trivial).symm
  | refused work => exact unstamped _ rfl rfl trivial
  | unanswered question => exact unstamped _ rfl rfl trivial

/-- A thread keeps the decision it has. -/
theorem step_outcome {mesh : AuthMesh} {thread : Thread} {outcome : Outcome}
    (carries : thread.outcome = some outcome) :
    (step mesh thread).2.outcome = some outcome := by
  cases thread <;> cases carries <;> rfl

end Thread

section Exactness

variable {state : Interleaved AuthMesh Thread}

def OwnIds (state : Interleaved AuthMesh Thread) : Prop :=
  ∀ index, (state.threads index).OwnId

theorem idsInjective_of_outcome {index : Nat} {outcome : Outcome}
    (apart : HashesApart state)
    (carries : (state.threads index).outcome = some outcome) :
    IdsInjective outcome.verdict.context.tenant state.shared.auditSequence :=
  idsInjective_of_materials apart fun sequence below =>
    ⟨index, outcome, sequence, carries, below, rfl⟩

theorem next_outcome (turn : Turn MeshStores) {index : Nat}
    {outcome : Outcome}
    (carries : (state.threads index).outcome = some outcome) :
    ((auditProgram.next state turn).threads index).outcome = some outcome := by
  cases turn with
  | outside stores => exact carries
  | thread other =>
      by_cases same : index = other
      · rw [← same, ThreadProgram.next_self]
        exact Thread.step_outcome carries
      · rw [ThreadProgram.next_other state same]
        exact carries

theorem next_trailGrows (turn : Turn MeshStores) :
    Thread.TrailGrows state.shared (auditProgram.next state turn).shared := by
  cases turn with
  | outside stores => exact ⟨le_refl _, List.Subset.refl _⟩
  | thread index => exact Thread.step_trailGrows _ _

theorem idMaterials_subset (turn : Turn MeshStores) :
    idMaterials state ⊆ idMaterials (auditProgram.next state turn) := by
  intro material listed
  obtain ⟨index, outcome, sequence, carries, below, rfl⟩ := listed
  exact ⟨index, outcome, sequence, next_outcome turn carries,
    Nat.lt_of_lt_of_le below (next_trailGrows turn).counter, rfl⟩

/-- It is enough that each decision carries its own id: different numbers make
different ids. -/
theorem carriesOwnEvents_iff (reached : auditSystem.Reachable state)
    (apart : HashesApart state) : CarriesOwnEvents state ↔ OwnIds state := by
  have invariant := auditSystem_invariant reached
  have recorded : ∀ index outcome,
      (state.threads index).outcome = some outcome →
        outcome.stamp.event ∈ state.shared.stores.audit.events := by
    intro index outcome carries
    have traces := Thread.outcome_traces carries
    exact (invariant.each index).kept _ traces.2
  constructor
  · intro carriesOwn index outcome carries
    exact (Outcome.carriesOwnEvent_iff (recorded index outcome carries)).mp
      (carriesOwn.own index outcome carries)
  · intro own
    constructor
    · intro index outcome carries
      exact (Outcome.carriesOwnEvent_iff (recorded index outcome carries)).mpr
        (own index outcome carries)
    · intro first second outcome outcome' different carries carries'
        sameTenant sameId
      have drawn := (Thread.outcome_traces carries).1
      have drawn' := (Thread.outcome_traces carries').1
      have ids : auditEventId outcome.verdict.context.tenant
            outcome.stamp.sequence =
          auditEventId outcome.verdict.context.tenant
            outcome'.stamp.sequence := by
        have tenants : outcome.verdict.context.tenant.tenantId =
            outcome'.verdict.context.tenant.tenantId := by
          rw [outcome.verdict.tenant_eq, outcome'.verdict.tenant_eq]
          exact sameTenant
        have ownIds : outcome.stamp.event.eventId =
            outcome'.stamp.event.eventId := by
          rw [← own first outcome carries, ← own second outcome' carries']
          simpa [Outcome.decision] using sameId
        rw [outcome.stamp.eventId_eq, outcome'.stamp.eventId_eq] at ownIds
        refine ownIds.trans ?_
        simp [auditEventId, Work.tenant, tenants]
      have numbers := idsInjective_of_outcome apart carries _
        ((invariant.each first).spent _ drawn) _
        ((invariant.each second).spent _ drawn') ids
      exact invariant.pairs first second different _ drawn
        (drawn'.trans (congrArg some numbers.symm))

/-- A turn keeps the ids right exactly when nothing loads too late in it. -/
theorem next_ownIds_iff (reached : auditSystem.Reachable state)
    (turn : Turn MeshStores)
    (apart : HashesApart (auditSystem.step state turn)) :
    OwnIds (auditSystem.step state turn) ↔
      OwnIds state ∧ LoadsInTime state turn := by
  have invariant := auditSystem_invariant reached
  cases turn with
  | outside stores => exact (and_iff_left trivial).symm
  | thread index =>
      have grows := @next_trailGrows state (.thread index)
      have stepped : ((auditProgram.next state (.thread index)).threads
            index).OwnId ↔
          (state.threads index).OwnId ∧
            (state.threads index).Timely state.shared := by
        rw [ThreadProgram.next_self]
        apply Thread.step_ownId_iff (invariant.each index)
        intro outcome carries first firstBelow second secondBelow
        have carriesNext : ((auditProgram.next state
            (.thread index)).threads index).outcome = some outcome := by
          rw [ThreadProgram.next_self]
          exact carries
        exact idsInjective_of_outcome apart carriesNext first
          (Nat.lt_of_lt_of_le firstBelow grows.counter) second
          (Nat.lt_of_lt_of_le secondBelow grows.counter)
      have elsewhere : ∀ other, other ≠ index →
          (auditSystem.step state (.thread index)).threads other =
            state.threads other := by
        intro other different
        change (auditProgram.next state (.thread index)).threads other = _
        exact ThreadProgram.next_other state different
      constructor
      · intro own
        obtain ⟨ownBefore, timely⟩ := stepped.mp (own index)
        refine ⟨?_, timely⟩
        intro other
        by_cases same : other = index
        · rw [same]
          exact ownBefore
        · rw [← elsewhere other same]
          exact own other
      · rintro ⟨own, timely⟩ other
        by_cases same : other = index
        · rw [same]
          exact stepped.mpr ⟨own index, timely⟩
        · rw [elsewhere other same]
          exact own other

/-- At the end of a run every decision carries the id of its own event, and no
two of one tenant the same, exactly when every id was loaded in time. -/
theorem carriesOwnEvents_run_iff (waiting : auditSystem.initial state)
    (turns : List (Turn MeshStores))
    (apart : HashesApart (auditSystem.run state turns)) :
    CarriesOwnEvents (auditSystem.run state turns) ↔
      auditSystem.Follows LoadsInTime state turns := by
  have start : auditSystem.Reachable state := .start waiting
  have earlier : ∀ state turn, HashesApart (auditSystem.step state turn) →
      HashesApart state :=
    fun state turn apart => Set.InjOn.mono (idMaterials_subset turn) apart
  have nothing : OwnIds state :=
    fun index => Thread.ownId_of_none (waiting index).outcome
  rw [carriesOwnEvents_iff (start.run turns) apart]
  exact TransitionSystem.run_iff_follows earlier
    (fun state turn reached apart => next_ownIds_iff reached turn apart)
    start nothing turns apart

end Exactness

/-! ## Operations that are not interleaved -/

section Alone

variable (environment : Environment) (mesh : AuthMesh) (now : Int)

theorem audit_alone (work : Work) :
    auditProgram.stepPair^[2] (mesh, .auditing environment work) =
      if environment.auditFault mesh.auditSequence = none then
        (mesh.stamped work.tenant work.record work.now,
          .recorded work (mesh.stamp work))
      else
        ({ mesh with auditSequence := mesh.auditSequence + 1 },
          .refused work) :=
  Thread.step_stamped _ environment work (mesh.stamp work)

/-- Four turns in a row settle a verdict. -/
theorem settle_alone (verdict : Verdict) (authorityRevision : Nat) :
    let last := auditProgram.stepPair^[4]
      (mesh, .auditing environment (.settle verdict now authorityRevision))
    let settled := mesh.settleDecision environment verdict.context
      verdict.question.asked verdict.decision now authorityRevision
    last.1 = settled.2 ∧ last.2.answer = some settled.1 := by
  rw [Function.iterate_add_apply auditProgram.stepPair 2 2, audit_alone]
  unfold AuthMesh.settleDecision
  cases fault : environment.auditFault mesh.auditSequence with
  | none =>
      rw [AuthMesh.recordDecision_ok fault, if_pos rfl]
      exact ⟨rfl, rfl⟩
  | some failure =>
      obtain ⟨err, refused⟩ := AuthMesh.recordDecision_error verdict.context
        verdict.question.asked verdict.decision now fault
      rw [refused, if_neg (Option.some_ne_none failure)]
      exact ⟨rfl, rfl⟩

/-- A question that is asked without interruption is answered as the decision
function answers it. -/
theorem ask_alone (state : Interleaved AuthMesh Thread) (index : Nat)
    (question : Question) (authorityRevision : Nat)
    (asks : state.threads index =
      .asking environment question now authorityRevision) :
    let last := auditSystem.run state (List.replicate 5 (.thread index))
    let answered :=
      question.ask environment state.shared now authorityRevision
    last.shared = answered.2 ∧
      (last.threads index).answer = some answered.1 := by
  have alone := auditProgram.run_alone auditSystem.initial state index 5
  have turns : auditSystem.run state (List.replicate 5 (.thread index)) = _ :=
    alone
  rw [turns, asks]
  simp only [Function.update_self]
  rw [question.ask_eq]
  cases evaluated : question.evaluate environment state.shared now with
  | none =>
      have stopped : auditProgram.stepPair
          (state.shared,
            .asking environment question now authorityRevision) =
          (state.shared, .unanswered question) := by
        simp [ThreadProgram.stepPair, auditProgram, Thread.step, evaluated]
      rw [Function.iterate_succ_apply, stopped]
      exact ⟨rfl, rfl⟩
  | some verdict =>
      have started : auditProgram.stepPair
          (state.shared,
            .asking environment question now authorityRevision) =
          (state.shared,
            .auditing environment (.settle verdict now authorityRevision)) := by
        simp [ThreadProgram.stepPair, auditProgram, Thread.step, evaluated]
      have settled := settle_alone environment state.shared now verdict
        authorityRevision
      rw [Question.evaluate_question evaluated] at settled
      rw [Function.iterate_succ_apply, started]
      exact settled

end Alone

/-! ## Tenants -/

namespace Thread

def tenantId : Thread → TenantId
  | .asking _ question _ _ => question.context.tenant.tenantId
  | .auditing _ work => work.tenant.tenantId
  | .stamped _ work _ => work.tenant.tenantId
  | .recorded work _ => work.tenant.tenantId
  | .loaded outcome => outcome.verdict.context.tenant.tenantId
  | .returned outcome => outcome.verdict.context.tenant.tenantId
  | .refused work => work.tenant.tenantId
  | .unanswered question => question.context.tenant.tenantId

theorem step_tenantId (mesh : AuthMesh) (thread : Thread) :
    (step mesh thread).2.tenantId = thread.tenantId := by
  cases thread with
  | asking environment question now authorityRevision =>
      simp only [step]
      split
      · rename_i verdict evaluated
        have sameTenant := verdict.tenant_eq
        rw [Question.evaluate_question evaluated] at sameTenant
        exact congrArg TenantContext.tenantId sameTenant
      · rfl
  | stamped environment work stamp =>
      rw [step_stamped]
      split <;> rfl
  | recorded work stamp => cases work <;> rfl
  | auditing | loaded | returned | refused | unanswered => rfl

end Thread

/-- Every operation stays in the tenant it was called for. -/
theorem run_tenantId (state : Interleaved AuthMesh Thread)
    (turns : List (Turn MeshStores)) (index : Nat) :
    ((auditSystem.run state turns).threads index).tenantId =
      (state.threads index).tenantId := by
  induction turns generalizing state with
  | nil => rfl
  | cons turn turns induction =>
      refine (induction (auditSystem.step state turn)).trans ?_
      cases turn with
      | outside stores => rfl
      | thread other =>
          change ((auditProgram.next state (.thread other)).threads
            index).tenantId = _
          by_cases same : index = other
          · rw [same, ThreadProgram.next_self]
            exact Thread.step_tenantId _ _
          · rw [ThreadProgram.next_other state same]

/-- In a run within one tenant it is enough to compare the numbers drawn. -/
theorem hashesApart_of_tenant {state : Interleaved AuthMesh Thread}
    {tenantId : TenantId}
    (oneTenant : ∀ index, (state.threads index).tenantId = tenantId)
    (distinct : ∀ first < state.shared.auditSequence,
      ∀ second < state.shared.auditSequence,
        stableHash s!"{tenantId}|{first}" =
          stableHash s!"{tenantId}|{second}" → first = second) :
    HashesApart state := by
  have named : ∀ {index : Nat} {outcome : Outcome},
      (state.threads index).outcome = some outcome →
        outcome.verdict.context.tenant.tenantId = tenantId := by
    intro index outcome carries
    rw [← oneTenant index]
    cases thread : state.threads index <;> rw [thread] at carries <;>
      cases carries <;> rfl
  rintro _ ⟨_, _, first, carries, firstBelow, rfl⟩
    _ ⟨_, _, second, carries', secondBelow, rfl⟩ same
  rw [named carries, named carries'] at same ⊢
  rw [distinct first firstBelow second secondBelow same]

/-! ## Two decisions that race -/

/-- Alice and the worker ask for the same capability at the same time. -/
def raceStart : Interleaved AuthMesh Thread :=
  { shared := secretMesh
    threads := fun index =>
      let acting := if index = 0 then alice else worker
      .asking acmeEnvironment
        (.authorize { agentContext "worker" with principal := acting }
          ⟨"invoice.read"⟩)
        10 0 }

/-- Each operation takes its turns without interruption. -/
def orderlyTurns : List (Turn MeshStores) :=
  List.replicate 5 (.thread 0) ++ List.replicate 5 (.thread 1)

/-- The worker's event is stamped before alice's decision loads its id. -/
def racingTurns : List (Turn MeshStores) :=
  List.replicate 3 (.thread 0) ++ List.replicate 3 (.thread 1) ++
    List.replicate 2 (.thread 0) ++ List.replicate 2 (.thread 1)

theorem raceStart_initial : auditSystem.initial raceStart :=
  fun _ => .asking _ _ _ _

theorem raceStart_hashesApart {turns : List (Turn MeshStores)}
    (counted : (auditSystem.run raceStart turns).shared.auditSequence = 5) :
    HashesApart (auditSystem.run raceStart turns) := by
  have distinct : ∀ first < 5, ∀ second < 5,
      stableHash s!"{acme.tenantId}|{first}" =
        stableHash s!"{acme.tenantId}|{second}" → first = second := by
    decide +kernel
  apply hashesApart_of_tenant
  · intro index
    exact run_tenantId raceStart turns index
  · rw [counted]
    exact distinct

theorem ask_alone_worker :
    (auditSystem.run raceStart (List.replicate 5 (.thread 1))).shared =
      ((Question.authorize (agentContext "worker") ⟨"invoice.read"⟩).ask
        acmeEnvironment secretMesh 10 0).2 :=
  (ask_alone acmeEnvironment 10 raceStart 1 _ 0 rfl).1

theorem carriesOwnEvents_orderly :
    CarriesOwnEvents (auditSystem.run raceStart orderlyTurns) ↔
      auditSystem.Follows LoadsInTime raceStart orderlyTurns :=
  carriesOwnEvents_run_iff raceStart_initial orderlyTurns
    (raceStart_hashesApart (by decide +kernel))

/-- Alice is allowed and the worker denied, and both decisions carry the id of
the worker's event. -/
theorem racing_not_carriesOwnEvents :
    auditSystem.initial raceStart ∧
      AuthMesh.system.Reachable raceStart.shared ∧
      HashesApart (auditSystem.run raceStart racingTurns) ∧
      ¬CarriesOwnEvents (auditSystem.run raceStart racingTurns) := by
  refine ⟨raceStart_initial, secretMesh_reachable,
    raceStart_hashesApart (by decide +kernel), ?_⟩
  intro carries
  have first : ∃ outcome : Outcome,
      ((auditSystem.run raceStart racingTurns).threads 0).outcome =
          some outcome ∧
        (outcome.decision.isAllowed,
          outcome.question.context.tenant.tenantId,
          outcome.decision.auditEventId) =
            (true, ⟨"acme"⟩, some (auditEventId acme 4)) :=
    Option.map_eq_some_iff.mp (by decide +kernel)
  have second : ∃ outcome : Outcome,
      ((auditSystem.run raceStart racingTurns).threads 1).outcome =
          some outcome ∧
        (outcome.decision.isAllowed,
          outcome.question.context.tenant.tenantId,
          outcome.decision.auditEventId) =
            (false, ⟨"acme"⟩, some (auditEventId acme 4)) :=
    Option.map_eq_some_iff.mp (by decide +kernel)
  obtain ⟨allowed, carriesAllowed, factsAllowed⟩ := first
  obtain ⟨denied, carriesDenied, factsDenied⟩ := second
  simp only [Prod.mk.injEq] at factsAllowed factsDenied
  apply carries.distinct 0 1 allowed denied (by decide) carriesAllowed
    carriesDenied
  · rw [factsAllowed.2.1, factsDenied.2.1]
  · rw [factsAllowed.2.2, factsDenied.2.2]

end AuthBoundry
