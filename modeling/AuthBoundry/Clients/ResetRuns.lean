import AuthBoundry.Clients.FeltdbPersistence

/-!
# Resets that take turns

Any number of password resets run over one database, call by call, and any call
may fail.  A reset writes the credential before it consumes the capability and
takes nothing back, so a reset is atomic, and a capability is used once, exactly
as long as no reset is stopped or overtaken between its first and its last write.
-/

namespace AuthBoundry

open Library

/-! ## What a reset has done -/

/-- A reset as it was called, and the time at which it was. -/
structure ResetCall where
  now : Int
  request : ResetRequest

namespace ResetCall

def procedure (self : ResetCall) : Felt ResetResult :=
  consumeRecoveryCapabilityAndResetPassword self.now self.request

/-- Among the exchanges is a write of the collection. -/
def Changed (asked : List FeltExchange) (name : CollectionName) : Prop :=
  ∃ exchange ∈ asked, exchange.changes = some name

def ChangedNothing (asked : List FeltExchange) : Prop :=
  ∀ name, ¬Changed asked name

def Read (self : ResetCall) (asked : List FeltExchange)
    (capability : Versioned RecoveryCapability) : Prop :=
  ⟨.get .recoveryCapability self.request.capabilityId,
    .ok (some capability)⟩ ∈ asked

def AllSucceeded (asked : List FeltExchange) : Prop :=
  ∀ exchange ∈ asked, exchange.Succeeded

def Stopped (asked : List FeltExchange) : Prop :=
  ∃ last ∈ asked.head?, ¬last.Succeeded

instance (asked : List FeltExchange) (name : CollectionName) :
    Decidable (Changed asked name) :=
  inferInstanceAs (Decidable (∃ exchange ∈ asked, _))

variable {self : ResetCall} {asked : List FeltExchange}
  {exchange : FeltExchange} {name : CollectionName}

theorem changed_cons_iff :
    Changed (exchange :: asked) name ↔
      exchange.changes = some name ∨ Changed asked name := by
  simp [Changed]

theorem Changed.later (changed : Changed asked name) :
    Changed (exchange :: asked) name :=
  changed_cons_iff.mpr (.inr changed)

theorem ChangedNothing.cons (before : ChangedNothing asked)
    (unchanging : exchange.changes = none) :
    ChangedNothing (exchange :: asked) := by
  intro name changed
  rcases changed_cons_iff.mp changed with now | earlier
  · rw [unchanging] at now
    cases now
  · exact before name earlier

theorem changedNothing_nil : ChangedNothing [] := by
  rintro name ⟨exchange, member, -⟩
  cases member

theorem Read.later {capability : Versioned RecoveryCapability}
    (read : self.Read asked capability) :
    self.Read (exchange :: asked) capability :=
  List.mem_cons_of_mem exchange read

theorem AllSucceeded.cons (before : AllSucceeded asked)
    (succeeded : exchange.Succeeded) : AllSucceeded (exchange :: asked) := by
  intro other member
  rcases List.mem_cons.mp member with rfl | earlier
  · exact succeeded
  · exact before other earlier

theorem AllSucceeded.not_stopped (all : AllSucceeded asked) :
    ¬Stopped asked := by
  rintro ⟨last, head, failed⟩
  exact failed (all last (List.mem_of_mem_head? head))

/-! ## What a reset asks -/

/-- What a reset has been answered when it makes a call: nothing has failed, the
credential is written first, for a capability that was read unconsumed, and the
capability is written as it was read, but for the time of its consumption. -/
def Asks (self : ResetCall) (asked : List FeltExchange) (call : FeltCall) :
    Prop :=
  AllSucceeded asked ∧
    match call with
    | .get .. => True
    | .updateIfVersion .credential .. | .insert .credential _ =>
        ChangedNothing asked ∧
          ∃ capability, self.Read asked capability ∧
            capability.record.consumedAt = none
    | .updateIfVersion .recoveryCapability id version record =>
        Changed asked .credential ∧ record.consumedAt = some self.now ∧
          ∃ capability, self.Read asked capability ∧ capability.id = id ∧
            capability.version = version
    | .updateIfVersion .session .. | .insert .auditEvent _ =>
        Changed asked .credential
    | _ => False

/-- A reset throws before its first write, or because a call failed. -/
def Throws (asked : List FeltExchange) (_ : String) : Prop :=
  ChangedNothing asked ∨ Stopped asked

def Keeps {α : Type} (self : ResetCall)
    (returns : List FeltExchange → α → Prop) :
    List FeltExchange → Felt α → Prop :=
  Procedure.Keeps self.Asks returns Throws

theorem keeps_await {call : FeltCall}
    {returns : List FeltExchange →
      CollectionResult CollectionName.Record call → Prop}
    (allowed : self.Asks asked call)
    (served : ∀ result, returns (⟨call, .ok result⟩ :: asked) result) :
    self.Keeps returns asked (await call) := by
  refine ⟨allowed, fun answer => ?_⟩
  cases answer with
  | error message => exact .inr ⟨_, rfl, nofun⟩
  | ok result => exact served result

/-- The capability was read, and is good for a reset. -/
structure Validated (call : ResetCall)
    (capability : Versioned RecoveryCapability) (asked : List FeltExchange) :
    Prop where
  succeeded : AllSucceeded asked
  nothing : ChangedNothing asked
  read : call.Read asked capability
  unconsumed : capability.record.consumedAt = none

/-- The credential was written. -/
structure Wrote (asked : List FeltExchange) : Prop where
  succeeded : AllSucceeded asked
  credential : Changed asked .credential

theorem Wrote.cons (wrote : Wrote asked) (succeeded : exchange.Succeeded) :
    Wrote (exchange :: asked) :=
  ⟨wrote.succeeded.cons succeeded, wrote.credential.later⟩

/-- The credential was written and the capability consumed. -/
structure Consumed (asked : List FeltExchange) : Prop extends Wrote asked where
  capability : Changed asked .recoveryCapability

theorem Consumed.cons (consumed : Consumed asked)
    (succeeded : exchange.Succeeded) : Consumed (exchange :: asked) :=
  ⟨consumed.toWrote.cons succeeded, consumed.capability.later⟩

/-- The reset was recorded too. -/
structure Committed (asked : List FeltExchange) : Prop
    extends Consumed asked where
  event : Changed asked .auditEvent

theorem Validated.write {capability : Versioned RecoveryCapability}
    (validated : self.Validated capability asked)
    (succeeded : exchange.Succeeded)
    (written : exchange.changes = some .credential) :
    Wrote (exchange :: asked) :=
  ⟨validated.succeeded.cons succeeded, changed_cons_iff.mpr (.inl written)⟩

theorem keeps_writeCredential {capability : Versioned RecoveryCapability}
    (validated : self.Validated capability asked) :
    self.Keeps (fun asked _ => Wrote asked ∧ self.Read asked capability) asked
      (writeCredential self.now self.request) := by
  have looked : self.Keeps (fun asked _ => self.Validated capability asked)
      asked (await (.get .credential self.request.identityId)) :=
    keeps_await ⟨validated.succeeded, trivial⟩ fun found =>
      ⟨validated.succeeded.cons rfl, validated.nothing.cons rfl,
        validated.read.later, validated.unconsumed⟩
  apply Procedure.Keeps.bind looked
  intro asked found validated
  have allowed : ChangedNothing asked ∧ ∃ capability,
      self.Read asked capability ∧ capability.record.consumedAt = none :=
    ⟨validated.nothing, capability, validated.read, validated.unconsumed⟩
  cases found with
  | some credential =>
      exact keeps_await ⟨validated.succeeded, allowed⟩ fun _ =>
        ⟨validated.write rfl rfl, validated.read.later⟩
  | none =>
      have inserted : ∀ record, self.Keeps (fun asked _ => Wrote asked ∧
          self.Read asked capability) asked
          (await (.insert .credential record)) := by
        intro record
        exact keeps_await ⟨validated.succeeded, allowed⟩ fun _ =>
          ⟨validated.write rfl rfl, validated.read.later⟩
      apply Procedure.Keeps.bind (inserted _)
      intro asked _ written
      exact Procedure.Keeps.pure written

theorem keeps_markConsumed {capability : Versioned RecoveryCapability}
    (wrote : Wrote asked) (read : self.Read asked capability) :
    self.Keeps (fun asked _ => Consumed asked) asked
      (markConsumed self.now capability) :=
  keeps_await ⟨wrote.succeeded, wrote.credential, rfl, capability, read, rfl,
    rfl⟩ fun _ => ⟨wrote.cons rfl, changed_cons_iff.mpr (.inl rfl)⟩

theorem keeps_revokeSession {sessionId : String} (consumed : Consumed asked) :
    self.Keeps (fun asked _ => Consumed asked) asked
      (revokeSession self.now sessionId) := by
  have looked : self.Keeps (fun asked _ => Consumed asked) asked
      (await (.get .session sessionId)) :=
    keeps_await ⟨consumed.succeeded, trivial⟩ fun _ => consumed.cons rfl
  apply Procedure.Keeps.bind looked
  intro asked found consumed
  cases found with
  | none => exact Procedure.Keeps.pure consumed
  | some session =>
      by_cases revoked : session.record.isRevoked
      · simp only [revoked]
        exact Procedure.Keeps.pure consumed
      · simp only [revoked]
        exact keeps_await ⟨consumed.succeeded, consumed.credential⟩ fun _ =>
          consumed.cons rfl

theorem keeps_revokeSessions {sessionIds : List String} (consumed : Consumed asked) :
    self.Keeps (fun asked _ => Consumed asked) asked
      (revokeSessions self.now sessionIds) := by
  induction sessionIds generalizing asked with
  | nil => exact Procedure.Keeps.pure consumed
  | cons sessionId sessionIds induction =>
      apply Procedure.Keeps.bind (keeps_revokeSession consumed)
      intro asked _ consumed
      exact induction consumed

theorem keeps_recordReset (consumed : Consumed asked) :
    self.Keeps (fun asked _ => Committed asked) asked
      (recordReset self.now self.request) := by
  have recorded : ∀ event, self.Keeps (fun asked _ => Committed asked) asked
      (await (.insert .auditEvent event)) := by
    intro event
    exact keeps_await ⟨consumed.succeeded, consumed.credential⟩ fun _ =>
      ⟨consumed.cons rfl, changed_cons_iff.mpr (.inl rfl)⟩
  apply Procedure.Keeps.bind (recorded _)
  intro asked _ committed
  exact Procedure.Keeps.pure committed

theorem keeps_resetPassword {capability : Versioned RecoveryCapability}
    (validated : self.Validated capability asked) :
    self.Keeps (fun asked _ => Committed asked) asked
      (resetPassword self.now self.request capability) := by
  apply Procedure.Keeps.bind (keeps_writeCredential validated)
  rintro asked - ⟨wrote, read⟩
  apply Procedure.Keeps.bind (keeps_markConsumed wrote read)
  intro asked _ consumed
  apply Procedure.Keeps.bind (keeps_revokeSessions consumed)
  intro asked _ consumed
  apply Procedure.Keeps.bind (keeps_recordReset consumed)
  intro asked _ committed
  exact Procedure.Keeps.pure committed

/-- Every call of a reset is made as `Asks` states. -/
theorem keeps_procedure (self : ResetCall) :
    self.Keeps (fun asked _ => Committed asked) [] self.procedure := by
  have none : AllSucceeded [] := by
    intro exchange member
    cases member
  have read : self.Keeps (fun asked found => AllSucceeded asked ∧
      ChangedNothing asked ∧
        ∀ capability, found = some capability → self.Read asked capability) []
      (getRecoveryCapability self.request.capabilityId) := by
    apply Procedure.Keeps.tryCatch (keeps_await ⟨none, trivial⟩ ?_)
    · rintro asked message thrown
      exact Procedure.Keeps.throw thrown
    · intro found
      refine ⟨none.cons rfl, changedNothing_nil.cons rfl, ?_⟩
      rintro capability rfl
      exact List.mem_cons_self
  apply Procedure.Keeps.bind read
  rintro asked found ⟨succeeded, nothing, read⟩
  cases found with
  | none => exact Procedure.Keeps.throw (.inl nothing)
  | some capability =>
      by_cases consumed : capability.record.consumedAt.isSome
      · simp only [consumed, if_true]
        exact Procedure.Keeps.throw (.inl nothing)
      · by_cases expired : capability.record.expiresAt < self.now
        · simp only [consumed, expired, if_true]
          exact Procedure.Keeps.throw (.inl nothing)
        · simp only [consumed, expired, if_false]
          have validated : self.Validated capability asked :=
            ⟨succeeded, nothing, read capability rfl,
              by simpa using consumed⟩
          apply Procedure.Keeps.tryCatch (keeps_resetPassword validated)
          intro asked message thrown
          exact Procedure.Keeps.throw thrown

end ResetCall

/-! ## Resets over one database -/

open ResetCall

abbrev ResetPool := Pool FeltDB FeltCall FeltAnswer (Except String ResetResult)

def resets (calls : Nat → ResetCall) :
    TransitionSystem ResetPool (Nat × CallEvent) :=
  Pool.interleaving Database.serve fun index => (calls index).procedure.run

/-- The database before any reset has taken a turn. -/
def resetsOn (calls : Nat → ResetCall) (store : FeltDB) : ResetPool :=
  { store
    threads := fun index =>
      { program := (calls index).procedure.run, asked := [] } }

namespace ResetPool

def asked (pool : ResetPool) (index : Nat) : List FeltExchange :=
  (pool.threads index).asked

/-- A capability is used by one reset; a reset that throws has changed nothing,
and one that returns has taken every step. -/
structure Atomic (calls : Nat → ResetCall) (pool : ResetPool) : Prop where
  singleUse : ∀ first second,
    (calls first).request.capabilityId =
      (calls second).request.capabilityId →
    Changed (pool.asked first) .credential →
    Changed (pool.asked second) .credential → first = second
  allOrNothing : ∀ index error,
    (pool.threads index).program = .done (.error error) →
    ChangedNothing (pool.asked index)
  allSteps : ∀ index result,
    (pool.threads index).program = .done (.ok result) →
    Committed (pool.asked index)

/-- A call that a reset makes neither stops the reset after its first write, nor
begins to write for a capability that is consumed, or that another reset is
about to consume. -/
structure Unhindered (calls : Nat → ResetCall) (pool : ResetPool)
    (index : Nat) (exchange : FeltExchange) : Prop where
  goesOn : Changed (pool.asked index) .credential → exchange.Succeeded
  unconsumed : exchange.changes = some .credential →
    ∃ capability, (pool.store .recoveryCapability).get
        (calls index).request.capabilityId = some capability ∧
      capability.record.consumedAt = none
  alone : exchange.changes = some .credential →
    ∀ other, (calls other).request.capabilityId =
        (calls index).request.capabilityId →
      Changed (pool.asked other) .credential →
      Changed (pool.asked other) .recoveryCapability

/-- Whoever's turn it is makes its call unhindered. -/
def Proceeds (calls : Nat → ResetCall) (pool : ResetPool)
    (turn : Nat × CallEvent) : Prop :=
  ∀ call resume, (pool.threads turn.1).program = .ask call resume →
    pool.Unhindered calls turn.1 ⟨call, (pool.store.serve call turn.2).1⟩

section Turn

variable {calls : Nat → ResetCall} {pool : ResetPool} {turn : Nat × CallEvent}
  {call : FeltCall}
  {resume : FeltAnswer call →
    Program FeltCall FeltAnswer (Except String ResetResult)}

theorem asked_step_self
    (pending : (pool.threads turn.1).program = .ask call resume) :
    asked ((resets calls).step pool turn) turn.1 =
      ⟨call, (pool.store.serve call turn.2).1⟩ :: pool.asked turn.1 := by
  change asked (pool.next Database.serve turn) turn.1 = _
  rw [Pool.next_of_ask pending]
  simp [asked]

theorem threads_step_of_ne {index : Nat} (other : index ≠ turn.1) :
    ((resets calls).step pool turn).threads index = pool.threads index := by
  simp [resets, Pool.interleaving, Pool.next, other]

theorem asked_step_of_ne {index : Nat} (other : index ≠ turn.1) :
    asked ((resets calls).step pool turn) index = pool.asked index := by
  rw [asked, threads_step_of_ne other, asked]

theorem store_step
    (pending : (pool.threads turn.1).program = .ask call resume) :
    ((resets calls).step pool turn).store =
      (pool.store.serve call turn.2).2 := by
  change (pool.next Database.serve turn).store = _
  rw [Pool.next_of_ask pending]

theorem changed_step_iff
    (pending : (pool.threads turn.1).program = .ask call resume)
    {index : Nat} {name : CollectionName} :
    Changed (asked ((resets calls).step pool turn) index) name ↔
      (index = turn.1 ∧ Exchange.changes
        (⟨call, (pool.store.serve call turn.2).1⟩ : FeltExchange) =
          some name) ∨
      Changed (pool.asked index) name := by
  by_cases own : index = turn.1
  · rw [own, asked_step_self pending, changed_cons_iff]
    simp
  · rw [asked_step_of_ne own]
    simp [own]

theorem step_of_done {result : Except String ResetResult}
    (finished : (pool.threads turn.1).program = .done result) :
    (resets calls).step pool turn = pool := by
  change pool.next Database.serve turn = pool
  exact Pool.next_of_done finished

end Turn

section Reachable

variable {calls : Nat → ResetCall} {pool : ResetPool}

theorem keeps_of_reachable (reached : (resets calls).Reachable pool)
    (index : Nat) :
    (pool.threads index).program.Keeps (calls index).Asks
      (Procedure.Ends (fun asked _ => Committed asked) Throws)
      (pool.asked index) :=
  Pool.keeps_of_reachable (fun index => (calls index).keeps_procedure)
    reached index

theorem asks_of_reachable (reached : (resets calls).Reachable pool)
    {index : Nat} {call : FeltCall}
    {resume : FeltAnswer call →
      Program FeltCall FeltAnswer (Except String ResetResult)}
    (pending : (pool.threads index).program = .ask call resume) :
    (calls index).Asks (pool.asked index) call := by
  have kept := keeps_of_reachable reached index
  rw [pending] at kept
  exact kept.1

/-- A reset whose last call failed has thrown. -/
theorem threw_of_stopped (reached : (resets calls).Reachable pool)
    {index : Nat} (stopped : Stopped (pool.asked index)) :
    ∃ error, (pool.threads index).program = .done (.error error) := by
  have kept := keeps_of_reachable reached index
  cases program : (pool.threads index).program with
  | ask call resume =>
      rw [program] at kept
      exact absurd stopped kept.1.1.not_stopped
  | done result =>
      cases result with
      | error error => exact ⟨error, rfl⟩
      | ok result =>
          rw [program] at kept
          exact absurd stopped kept.succeeded.not_stopped

theorem committed_of_reachable (reached : (resets calls).Reachable pool)
    {index : Nat} {result : ResetResult}
    (returned : (pool.threads index).program = .done (.ok result)) :
    Committed (pool.asked index) := by
  have kept := keeps_of_reachable reached index
  rw [returned] at kept
  exact kept

/-- What the resets that have taken a turn know about the capability. -/
structure Consistent (calls : Nat → ResetCall) (pool : ResetPool) : Prop where
  credentialFirst : ∀ index name, Changed (pool.asked index) name →
    Changed (pool.asked index) .credential
  current : ∀ index capability,
    (calls index).Read (pool.asked index) capability →
      capability.id = (calls index).request.capabilityId ∧
        ((pool.store .recoveryCapability).stored capability.id =
            some (capability.version, capability.record) ∨
          ∃ other, (calls other).request.capabilityId = capability.id ∧
            Changed (pool.asked other) .recoveryCapability)
  spent : ∀ index, Changed (pool.asked index) .recoveryCapability →
    ∃ version record, (pool.store .recoveryCapability).stored
        (calls index).request.capabilityId = some (version, record) ∧
      record.consumedAt ≠ none

theorem Asks.credential_of_writes {self : ResetCall}
    {asked : List FeltExchange} {call : FeltCall} {name : CollectionName}
    (asks : self.Asks asked call) (writes : call.writes = some name) :
    name = .credential ∨ Changed asked .credential := by
  obtain ⟨-, allowed⟩ := asks
  cases call with
  | get => cases writes
  | updateIfVersion written id version record =>
      obtain rfl := Option.some.inj writes
      cases written with
      | recoveryCapability => exact .inr allowed.1
      | credential => exact .inl rfl
      | session => exact .inr allowed
      | auditEvent => exact False.elim allowed
  | insert written record =>
      obtain rfl := Option.some.inj writes
      cases written with
      | recoveryCapability => exact False.elim allowed
      | credential => exact .inl rfl
      | session => exact False.elim allowed
      | auditEvent => exact .inr allowed

theorem capability_written {self : ResetCall} {asked : List FeltExchange}
    {call : FeltCall} {store : FeltDB} {event : CallEvent}
    (asks : self.Asks asked call)
    (changes : Exchange.changes
      (⟨call, (store.serve call event).1⟩ : FeltExchange) =
        some .recoveryCapability) :
    ∃ capability record, self.Read asked capability ∧
      record.consumedAt = some self.now ∧
      (store.serve call event).2 .recoveryCapability =
        (store .recoveryCapability).put capability.id
          (capability.version + 1) record := by
  obtain ⟨succeeded, writes⟩ := Exchange.changes_eq_some_iff.mp changes
  obtain ⟨-, allowed⟩ := asks
  cases call with
  | get => cases writes
  | insert written record =>
      obtain rfl : written = .recoveryCapability := Option.some.inj writes
      exact False.elim allowed
  | updateIfVersion written id version record =>
      obtain rfl : written = .recoveryCapability := Option.some.inj writes
      obtain ⟨-, consumed, capability, read, rfl, rfl⟩ := allowed
      obtain ⟨result, answered⟩ := Exchange.succeeded_iff.mp succeeded
      obtain ⟨-, -, after⟩ :=
        Database.serve_update_iff.mp (Prod.ext answered rfl)
      refine ⟨capability, record, read, consumed, ?_⟩
      exact (congrFun after.symm _).trans (Function.update_self ..)

theorem capability_read {id : String}
    {capability : Versioned RecoveryCapability} {call : FeltCall}
    {store : FeltDB} {event : CallEvent}
    (read : (⟨.get .recoveryCapability id, .ok (some capability)⟩ :
      FeltExchange) = ⟨call, (store.serve call event).1⟩) :
    capability.id = id ∧ (store .recoveryCapability).stored capability.id =
        some (capability.version, capability.record) ∧
      (store.serve call event).2 = store := by
  obtain ⟨rfl, answered⟩ := Exchange.mk.inj read
  obtain ⟨-, found, unchanged⟩ :=
    Database.serve_get_iff.mp (Prod.ext (eq_of_heq answered).symm rfl)
  obtain ⟨same, stored⟩ := Collection.get_eq_some_iff.mp found
  rw [same]
  exact ⟨rfl, stored, unchanged.symm⟩

theorem Consistent.step (consistent : Consistent calls pool)
    {turn : Nat × CallEvent} {call : FeltCall}
    {resume : FeltAnswer call →
      Program FeltCall FeltAnswer (Except String ResetResult)}
    (pending : (pool.threads turn.1).program = .ask call resume)
    (asks : (calls turn.1).Asks (pool.asked turn.1) call) :
    Consistent calls ((resets calls).step pool turn) := by
  -- The capability is left alone, or consumed by the reset whose turn it is.
  have written :
      ((resets calls).step pool turn).store .recoveryCapability =
          pool.store .recoveryCapability ∨
        Changed (asked ((resets calls).step pool turn) turn.1)
            .recoveryCapability ∧
          ∃ version record, record.consumedAt ≠ none ∧
            ((resets calls).step pool turn).store .recoveryCapability =
              (pool.store .recoveryCapability).put
                (calls turn.1).request.capabilityId version record := by
    rw [store_step pending]
    by_cases changes : Exchange.changes
      (⟨call, (pool.store.serve call turn.2).1⟩ : FeltExchange) =
        some .recoveryCapability
    · obtain ⟨capability, record, read, consumed, after⟩ :=
        capability_written asks changes
      rw [← (consistent.current turn.1 capability read).1]
      refine .inr ⟨(changed_step_iff pending).mpr (.inl ⟨rfl, changes⟩), _,
        record, ?_, after⟩
      rw [consumed]
      nofun
    · rw [← Database.serve_apply_ne_iff, not_not] at changes
      exact .inl changes
  constructor
  · intro index name changed
    rw [changed_step_iff pending] at changed ⊢
    rcases changed with ⟨rfl, changes⟩ | earlier
    · obtain ⟨-, writes⟩ := Exchange.changes_eq_some_iff.mp changes
      rcases Asks.credential_of_writes asks writes with rfl | earlier
      · exact .inl ⟨rfl, changes⟩
      · exact .inr earlier
    · exact .inr (consistent.credentialFirst index name earlier)
  · intro index capability read
    have earlier : (calls index).Read (pool.asked index) capability →
        capability.id = (calls index).request.capabilityId ∧
          ((((resets calls).step pool turn).store
              .recoveryCapability).stored capability.id =
              some (capability.version, capability.record) ∨
            ∃ other, (calls other).request.capabilityId = capability.id ∧
              Changed (asked ((resets calls).step pool turn) other)
                .recoveryCapability) := by
      intro read
      obtain ⟨same, known⟩ := consistent.current index capability read
      refine ⟨same, ?_⟩
      rcases known with stored | ⟨other, its, changed⟩
      · rcases written with untouched | ⟨changed, version, record, -, after⟩
        · rw [untouched]
          exact .inl stored
        · by_cases its : (calls turn.1).request.capabilityId = capability.id
          · exact .inr ⟨turn.1, its, changed⟩
          · rw [after, Collection.stored_put_of_ne (Ne.symm its)]
            exact .inl stored
      · exact .inr ⟨other, its, (changed_step_iff pending).mpr (.inr changed)⟩
    by_cases own : index = turn.1
    · subst own
      rw [asked_step_self pending] at read
      rcases List.mem_cons.mp read with now | before
      · obtain ⟨same, stored, unchanged⟩ := capability_read now
        rw [store_step pending, unchanged]
        exact ⟨same, .inl stored⟩
      · exact earlier before
    · rw [asked_step_of_ne own] at read
      exact earlier read
  · intro index changed
    rcases written with untouched | ⟨-, version, record, consumed, after⟩
    · rw [untouched]
      rcases (changed_step_iff pending).mp changed with ⟨rfl, changes⟩ | before
      · rw [← Database.serve_apply_ne_iff] at changes
        rw [store_step pending] at untouched
        exact absurd untouched changes
      · exact consistent.spent index before
    · rw [after]
      by_cases its : (calls index).request.capabilityId =
        (calls turn.1).request.capabilityId
      · rw [its, Collection.stored_put_self]
        exact ⟨_, _, rfl, consumed⟩
      · rw [Collection.stored_put_of_ne its]
        rcases (changed_step_iff pending).mp changed with ⟨rfl, -⟩ | before
        · exact absurd rfl its
        · exact consistent.spent index before

theorem consistent_of_reachable (reached : (resets calls).Reachable pool) :
    Consistent calls pool := by
  apply reached.invariant
  · intro pool initial
    have nothing : ∀ index, pool.asked index = [] := by
      intro index
      rw [asked, initial index]
    constructor
    · intro index name changed
      rw [nothing index] at changed
      exact absurd changed (changedNothing_nil name)
    · intro index capability read
      rw [nothing index] at read
      cases read
    · intro index changed
      rw [nothing index] at changed
      exact absurd changed (changedNothing_nil _)
  · intro pool turn before _ consistent
    cases program : (pool.threads turn.1).program with
    | done result =>
        rw [step_of_done program]
        exact consistent
    | ask call resume =>
        exact consistent.step program (asks_of_reachable before program)

theorem Consistent.stored (consistent : Consistent calls pool) {index : Nat}
    {capability : Versioned RecoveryCapability}
    (read : (calls index).Read (pool.asked index) capability)
    (unused : ∀ other, (calls other).request.capabilityId =
        (calls index).request.capabilityId →
      ¬Changed (pool.asked other) .recoveryCapability) :
    (pool.store .recoveryCapability).get
      (calls index).request.capabilityId = some capability := by
  obtain ⟨same, known⟩ := consistent.current index capability read
  rcases known with stored | ⟨other, its, changed⟩
  · rw [same] at stored
    exact Collection.get_eq_some_iff.mpr ⟨same, stored⟩
  · exact absurd changed (unused other (its.trans same))

theorem Atomic.before {turn : Nat × CallEvent}
    (atomic : Atomic calls ((resets calls).step pool turn))
    (reached : (resets calls).Reachable pool) : Atomic calls pool := by
  cases program : (pool.threads turn.1).program with
  | done result =>
      rw [step_of_done program] at atomic
      exact atomic
  | ask call resume =>
      constructor
      · intro first second same firstChanged secondChanged
        exact atomic.singleUse first second same
          ((changed_step_iff program).mpr (.inr firstChanged))
          ((changed_step_iff program).mpr (.inr secondChanged))
      · intro index error threw
        have other : index ≠ turn.1 := by
          rintro rfl
          rw [program] at threw
          cases threw
        have kept : asked ((resets calls).step pool turn) index =
          pool.asked index := asked_step_of_ne other
        rw [← kept]
        apply atomic.allOrNothing index error
        rw [threads_step_of_ne other]
        exact threw
      · intro index result returned
        exact committed_of_reachable reached returned

theorem Atomic.unhindered {turn : Nat × CallEvent} {call : FeltCall}
    {resume : FeltAnswer call →
      Program FeltCall FeltAnswer (Except String ResetResult)}
    (atomic : Atomic calls ((resets calls).step pool turn))
    (reached : (resets calls).Reachable pool)
    (pending : (pool.threads turn.1).program = .ask call resume) :
    pool.Unhindered calls turn.1
      ⟨call, (pool.store.serve call turn.2).1⟩ := by
  have consistent := consistent_of_reachable reached
  have asks := asks_of_reachable reached pending
  -- The reset whose turn it is begins to write now.
  have begins : ∀ {other : Nat},
      Exchange.changes (⟨call, (pool.store.serve call turn.2).1⟩ :
        FeltExchange) = some .credential →
      (calls other).request.capabilityId =
        (calls turn.1).request.capabilityId →
      Changed (pool.asked other) .credential → other = turn.1 := by
    intro other changes same changed
    exact atomic.singleUse other turn.1 same
      ((changed_step_iff pending).mpr (.inr changed))
      ((changed_step_iff pending).mpr (.inl ⟨rfl, changes⟩))
  have fresh : Exchange.changes (⟨call, (pool.store.serve call turn.2).1⟩ :
        FeltExchange) = some .credential →
      ChangedNothing (pool.asked turn.1) ∧ ∃ capability,
        (calls turn.1).Read (pool.asked turn.1) capability ∧
          capability.record.consumedAt = none := by
    intro changes
    obtain ⟨-, writes⟩ := Exchange.changes_eq_some_iff.mp changes
    obtain ⟨-, allowed⟩ := asks
    cases call with
    | get => cases writes
    | updateIfVersion written id version record =>
        obtain rfl : written = .credential := Option.some.inj writes
        exact allowed
    | insert written record =>
        obtain rfl : written = .credential := Option.some.inj writes
        exact allowed
  constructor
  · intro changed
    by_contra failed
    have stopped : Stopped (asked ((resets calls).step pool turn) turn.1) := by
      rw [asked_step_self pending]
      exact ⟨_, rfl, failed⟩
    obtain ⟨error, threw⟩ :=
      threw_of_stopped (reached.next turn trivial) stopped
    exact atomic.allOrNothing turn.1 error threw .credential
      ((changed_step_iff pending).mpr (.inr changed))
  · intro changes
    obtain ⟨nothing, capability, read, unconsumed⟩ := fresh changes
    refine ⟨capability, consistent.stored read ?_, unconsumed⟩
    intro other same changed
    have its := begins changes same
      (consistent.credentialFirst other _ changed)
    rw [its] at changed
    exact nothing _ changed
  · intro changes other same changed
    have its := begins changes same changed
    rw [its] at changed
    exact absurd changed ((fresh changes).1 _)

/-- The capability of a reset that begins to write was not used. -/
theorem Unhindered.unused {index : Nat} {exchange : FeltExchange}
    (unhindered : pool.Unhindered calls index exchange)
    (consistent : Consistent calls pool)
    (changes : exchange.changes = some .credential) {other : Nat}
    (same : (calls other).request.capabilityId =
      (calls index).request.capabilityId) :
    ¬Changed (pool.asked other) .credential := by
  intro changed
  obtain ⟨version, record, stored, consumed⟩ :=
    consistent.spent other (unhindered.alone changes other same changed)
  obtain ⟨capability, found, unconsumed⟩ := unhindered.unconsumed changes
  obtain ⟨-, current⟩ := Collection.get_eq_some_iff.mp found
  rw [same, current] at stored
  obtain ⟨-, rfl⟩ := Prod.mk.inj (Option.some.inj stored)
  exact consumed unconsumed

theorem Atomic.step {turn : Nat × CallEvent} {call : FeltCall}
    {resume : FeltAnswer call →
      Program FeltCall FeltAnswer (Except String ResetResult)}
    (atomic : Atomic calls pool) (reached : (resets calls).Reachable pool)
    (pending : (pool.threads turn.1).program = .ask call resume)
    (unhindered : pool.Unhindered calls turn.1
      ⟨call, (pool.store.serve call turn.2).1⟩) :
    Atomic calls ((resets calls).step pool turn) := by
  have consistent := consistent_of_reachable reached
  constructor
  · intro first second same firstChanged secondChanged
    rcases (changed_step_iff pending).mp firstChanged with
      ⟨rfl, changes⟩ | firstBefore
    · rcases (changed_step_iff pending).mp secondChanged with
        ⟨rfl, -⟩ | secondBefore
      · rfl
      · exact absurd secondBefore
          (unhindered.unused consistent changes same.symm)
    · rcases (changed_step_iff pending).mp secondChanged with
        ⟨rfl, changes⟩ | secondBefore
      · exact absurd firstBefore (unhindered.unused consistent changes same)
      · exact atomic.singleUse first second same firstBefore secondBefore
  · intro index error threw
    by_cases own : index = turn.1
    · subst own
      have kept := keeps_of_reachable (reached.next turn trivial) turn.1
      rw [threw] at kept
      rcases kept with nothing | ⟨last, isLast, failed⟩
      · exact nothing
      · rw [asked_step_self pending] at isLast ⊢
        obtain rfl := Option.some.inj isLast
        have before : ¬Changed (pool.asked turn.1) .credential :=
          fun changed => failed (unhindered.goesOn changed)
        apply ChangedNothing.cons
        · exact fun name changed =>
            before (consistent.credentialFirst turn.1 name changed)
        · exact if_neg failed
    · rw [threads_step_of_ne own] at threw
      rw [asked_step_of_ne own]
      exact atomic.allOrNothing index error threw
  · intro index result returned
    exact committed_of_reachable (reached.next turn trivial) returned

/-- A turn keeps the atomicity exactly when it hinders nobody. -/
theorem atomic_step_iff (reached : (resets calls).Reachable pool)
    {turn : Nat × CallEvent} :
    Atomic calls ((resets calls).step pool turn) ↔
      Atomic calls pool ∧ pool.Proceeds calls turn := by
  constructor
  · intro atomic
    exact ⟨atomic.before reached, fun call resume pending =>
      atomic.unhindered reached pending⟩
  · rintro ⟨atomic, proceeds⟩
    cases program : (pool.threads turn.1).program with
    | done result =>
        rw [step_of_done program]
        exact atomic
    | ask call resume =>
        exact atomic.step reached program (proceeds call resume program)

theorem atomic_resetsOn (calls : Nat → ResetCall) (store : FeltDB) :
    Atomic calls (resetsOn calls store) :=
  ⟨fun _ _ _ changed _ => absurd changed (changedNothing_nil _),
    fun _ _ _ => changedNothing_nil,
    fun _ _ returned => committed_of_reachable (.start fun _ => rfl) returned⟩

end Reachable

end ResetPool

/--
Over any database, in any order of their calls and whichever calls fail, the
resets are atomic, and use a capability once, exactly as long as each turn lets
the reset proceed.
-/
theorem resets_atomic_iff (calls : Nat → ResetCall) (store : FeltDB)
    (turns : List (Nat × CallEvent)) :
    ResetPool.Atomic calls ((resets calls).run (resetsOn calls store) turns) ↔
      (resets calls).Follows (ResetPool.Proceeds calls)
        (resetsOn calls store) turns := by
  have start : (resets calls).Reachable (resetsOn calls store) :=
    .start fun _ => rfl
  exact TransitionSystem.run_iff_follows (fun _ _ _ => trivial)
    (fun _ _ reached _ => ResetPool.atomic_step_iff reached) start
    (ResetPool.atomic_resetsOn calls store) turns trivial

def oneAccount : FeltDB
  | .recoveryCapability => Collection.empty.put "reset-1" 0
      { capabilityId := "password_reset_1", tenantId := "acme"
        identityId := "ada", kind := .passwordReset, createdAt := 90
        expiresAt := 900, consumedAt := none }
  | .credential => Collection.empty.put "ada" 0
      { identityId := "ada", passwordHash := "old", passwordChangedAt := 0 }
  | .session => Collection.empty
  | .auditEvent => Collection.empty

/-- Resets that use the one capability. -/
def sameLink (index : Nat) : ResetCall :=
  { now := 100
    request :=
      { capabilityId := "reset-1", newPasswordHash := s!"new-{index}"
        identityId := "ada", sessionIdsToRevoke := [] } }

/-- Both read the capability and write the credential, then both try to consume
the capability; no call fails by itself. -/
def overlapping : List (Nat × CallEvent) :=
  [0, 1, 0, 0, 1, 1, 0, 1].map fun index => (index, .served "")

theorem overlappingResets_not_atomic :
    let last := (resets sameLink).run (resetsOn sameLink oneAccount) overlapping
    (Changed (last.asked 0) .credential ∧ Changed (last.asked 1) .credential ∧
      ∃ error, (last.threads 1).program = .done (.error error)) ∧
      ¬ResetPool.Atomic sameLink last := by
  intro last
  have first : Changed (last.asked 0) .credential := by decide
  have second : Changed (last.asked 1) .credential := by decide
  refine ⟨⟨first, second, _, rfl⟩, ?_⟩
  intro atomic
  exact absurd (atomic.singleUse 0 1 rfl first second) (by decide)

end AuthBoundry
