import AuthBoundry.Clients.ResetRuns

/-!
# Whose password a reset sets

The identity, the sessions and the capability are separate arguments of a
reset, and the reset does not compare them: what it changes belongs to the
identity of the capability exactly when its arguments do.
-/

namespace AuthBoundry

open Library

/-! ## What the calls return -/

section Calls

variable {store after : FeltDB} {name : CollectionName}

/-- A procedure of the bridge that nothing interrupts returns. -/
abbrev Felt.Returns {α : Type} (store : FeltDB) (procedure : Felt α)
    (value : α) (after : FeltDB) : Prop :=
  Procedure.Returns Database.serve store procedure value after

theorem returns_await_iff {call : FeltCall}
    {result : CollectionResult CollectionName.Record call} :
    Felt.Returns store (await call) result after ↔
      ∃ event, store.serve call event = (.ok result, after) := by
  refine Program.runs_ask_iff.trans (exists_congr fun event => ?_)
  constructor
  · intro run
    obtain ⟨answered, unchanged⟩ := Program.runs_done_iff.mp run
    exact Prod.ext answered unchanged
  · intro served
    rw [served]
    exact .done

theorem returns_get_iff {id : String} {found : Option (Versioned name.Record)} :
    Felt.Returns store (await (.get name id)) found after ↔
      (store name).get id = found ∧ store = after := by
  rw [returns_await_iff]
  constructor
  · rintro ⟨event, served⟩
    exact (Database.serve_get_iff.mp served).2
  · intro found
    exact ⟨.served "", Database.serve_get_iff.mpr ⟨⟨"", rfl⟩, found⟩⟩

theorem returns_update_iff {id : String} {version : Nat} {record : name.Record} :
    Felt.Returns store (await (.updateIfVersion name id version record)) ()
        after ↔
      (∃ old, (store name).stored id = some (version, old)) ∧
        Function.update store name
          ((store name).put id (version + 1) record) = after := by
  rw [returns_await_iff]
  constructor
  · rintro ⟨event, served⟩
    exact (Database.serve_update_iff.mp served).2
  · intro current
    exact ⟨.served "", Database.serve_update_iff.mpr ⟨⟨"", rfl⟩, current⟩⟩

theorem returns_insert_iff {id : String} {record : name.Record} :
    Felt.Returns store (await (.insert name record)) id after ↔
      (store name).stored id = none ∧
        Function.update store name ((store name).put id 0 record) = after := by
  rw [returns_await_iff]
  constructor
  · rintro ⟨event, served⟩
    exact (Database.serve_insert_iff.mp served).2
  · intro free
    exact ⟨.served id, Database.serve_insert_iff.mpr ⟨rfl, free⟩⟩

end Calls

/-! ## What the methods return -/

section Methods

variable {now : Int} {request : ResetRequest} {store after : FeltDB}

theorem returns_getRecoveryCapability_iff {id : String}
    {found : Option (Versioned RecoveryCapability)} :
    Felt.Returns store (getRecoveryCapability id) found after ↔
      (store .recoveryCapability).get id = found ∧ store = after :=
  Procedure.returns_rethrow_iff.trans returns_get_iff

/-- Whose credential is found under an identity; a new one is its own. -/
def credentialOwner (store : FeltDB) (identityId : String) : String :=
  match (store .credential).get identityId with
  | some credential => credential.record.identityId
  | none => identityId

def Writes {R : Type} (owner : R → String) (identityId : String)
    (before after : Collection R) : Prop :=
  ∃ id version record, after = before.put id version record ∧
    after.stored id ≠ before.stored id ∧ owner record = identityId ∧
    ∀ old, before.stored id = some old → owner old.2 = identityId

theorem writeCredential_writes
    (returned : Felt.Returns store (writeCredential now request) () after) :
    ∃ written, after = Function.update store .credential written ∧
      Writes StoredCredential.identityId
        (credentialOwner store request.identityId) (store .credential)
        written := by
  obtain ⟨found, middle, looked, wrote⟩ :=
    Procedure.returns_bind_iff.mp returned
  obtain ⟨found, rfl⟩ := returns_get_iff.mp looked
  rw [credentialOwner, found]
  cases found' : (store .credential).get request.identityId with
  | some credential =>
      obtain rfl := found.symm.trans found'
      obtain ⟨⟨old, stored⟩, rfl⟩ := returns_update_iff.mp wrote
      obtain ⟨same, current⟩ := Collection.get_eq_some_iff.mp found'
      rw [same] at stored
      refine ⟨_, rfl, credential.id, credential.version + 1, _, rfl, ?_, rfl, ?_⟩
      · rw [same]
        exact Collection.stored_put_ne_of_update current
      · intro old stored
        rw [same, current] at stored
        rw [← Option.some.inj stored]
  | none =>
      obtain rfl := found.symm.trans found'
      obtain ⟨fresh, middle, inserted, done⟩ :=
        Procedure.returns_bind_iff.mp wrote
      obtain ⟨free, rfl⟩ := returns_insert_iff.mp inserted
      obtain ⟨-, rfl⟩ := Procedure.returns_pure_iff.mp done
      refine ⟨_, rfl, fresh, 0, _, rfl,
        Collection.stored_put_ne_of_insert free, rfl, ?_⟩
      intro old stored
      rw [free] at stored
      cases stored

theorem markConsumed_writes {capability : Versioned RecoveryCapability}
    (returned : Felt.Returns store (markConsumed now capability) () after) :
    ∃ written, after = Function.update store .recoveryCapability written :=
  ⟨_, (returns_update_iff.mp returned).2.symm⟩

theorem recordReset_writes
    (returned : Felt.Returns store (recordReset now request) () after) :
    ∃ written, after = Function.update store .auditEvent written := by
  obtain ⟨id, middle, inserted, done⟩ := Procedure.returns_bind_iff.mp returned
  obtain ⟨-, rfl⟩ := returns_insert_iff.mp inserted
  obtain ⟨-, rfl⟩ := Procedure.returns_pure_iff.mp done
  exact ⟨_, rfl⟩

def Live (sessions : Collection StoredSession) (id : String)
    (version : Nat) (session : StoredSession) : Prop :=
  sessions.stored id = some (version, session) ∧ session.isRevoked = false

/-- Of the listed sessions the live ones were revoked; nothing else happened. -/
def Revokes (now : Int) (sessionIds : List String)
    (before after : Collection StoredSession) : Prop :=
  ∀ id, (id ∈ sessionIds ∧ ∃ version session, Live before id version session ∧
      ∃ later, version < later ∧
        after.stored id = some (later, { session with revokedAt := some now })) ∨
    (¬(id ∈ sessionIds ∧ ∃ version session, Live before id version session) ∧
      after.stored id = before.stored id)

theorem Revokes.none {sessions : Collection StoredSession} {sessionId : String}
    (dead : ∀ version session, ¬Live sessions sessionId version session) :
    Revokes now [sessionId] sessions sessions := by
  intro id
  refine .inr ⟨?_, rfl⟩
  rintro ⟨listed, version, session, live⟩
  obtain rfl := List.mem_singleton.mp listed
  exact dead version session live

theorem Revokes.put {sessions : Collection StoredSession} {sessionId : String}
    {version : Nat} {session : StoredSession}
    (live : Live sessions sessionId version session) :
    Revokes now [sessionId] sessions (sessions.put sessionId (version + 1)
      { session with revokedAt := some now }) := by
  intro id
  by_cases same : id = sessionId
  · subst same
    exact .inl ⟨List.mem_singleton_self id, version, session, live,
      version + 1, Nat.lt_succ_self version, Collection.stored_put_self⟩
  · refine .inr ⟨?_, Collection.stored_put_of_ne same⟩
    rintro ⟨listed, -⟩
    exact same (List.mem_singleton.mp listed)

theorem revokeSession_revokes {sessionId : String}
    (returned : Felt.Returns store (revokeSession now sessionId) () after) :
    ∃ sessions, after = Function.update store .session sessions ∧
      Revokes now [sessionId] (store .session) sessions := by
  obtain ⟨found, middle, looked, wrote⟩ :=
    Procedure.returns_bind_iff.mp returned
  obtain ⟨found', rfl⟩ := returns_get_iff.mp looked
  cases found with
  | none =>
      obtain ⟨-, rfl⟩ := Procedure.returns_pure_iff.mp wrote
      refine ⟨_, (Function.update_eq_self _ _).symm, .none ?_⟩
      rintro version session ⟨stored, -⟩
      rw [Collection.get_eq_none_iff, stored] at found'
      cases found'
  | some session =>
      obtain ⟨same, current⟩ := Collection.get_eq_some_iff.mp found'
      by_cases revoked : session.record.isRevoked
      · simp only [revoked, if_true] at wrote
        obtain ⟨-, rfl⟩ := Procedure.returns_pure_iff.mp wrote
        refine ⟨_, (Function.update_eq_self _ _).symm, .none ?_⟩
        rintro version session ⟨stored, live⟩
        rw [current] at stored
        obtain ⟨-, rfl⟩ := Prod.mk.inj (Option.some.inj stored)
        rw [live] at revoked
        cases revoked
      · simp only [revoked] at wrote
        obtain ⟨-, rfl⟩ := returns_update_iff.mp wrote
        rw [same]
        exact ⟨_, rfl, .put ⟨current, by simpa using revoked⟩⟩

theorem Revokes.trans {sessionId : String} {sessionIds : List String}
    {before between last : Collection StoredSession}
    (first : Revokes now [sessionId] before between)
    (rest : Revokes now sessionIds between last) :
    Revokes now (sessionId :: sessionIds) before last := by
  intro id
  rcases first id with
    ⟨listed, version, session, live, later, newer, stored⟩ | ⟨dead, same⟩
  · obtain rfl := List.mem_singleton.mp listed
    refine .inl ⟨List.mem_cons_self, version, session, live, ?_⟩
    rcases rest id with
      ⟨-, again, others, ⟨current, -⟩, last, newest, written⟩ | ⟨-, kept⟩
    · rw [stored] at current
      obtain ⟨rfl, rfl⟩ := Prod.mk.inj (Option.some.inj current)
      exact ⟨last, Nat.lt_trans newer newest, written⟩
    · exact ⟨later, newer, kept.trans stored⟩
  · have live_iff : ∀ version session, Live between id version session ↔
        Live before id version session := by
      intro version session
      rw [Live, Live, same]
    rcases rest id with
      ⟨listed, version, session, live, later, newer, written⟩ | ⟨dead', kept⟩
    · rw [live_iff] at live
      exact .inl ⟨List.mem_cons_of_mem sessionId listed, version, session, live,
        later, newer, written⟩
    · refine .inr ⟨?_, kept.trans same⟩
      rintro ⟨listed, version, session, live⟩
      rcases List.mem_cons.mp listed with rfl | listed
      · exact dead ⟨List.mem_singleton_self id, version, session, live⟩
      · exact dead' ⟨listed, version, session, (live_iff _ _).mpr live⟩

theorem revokeSessions_revokes {sessionIds : List String}
    (returned : Felt.Returns store (revokeSessions now sessionIds) () after) :
    ∃ sessions, after = Function.update store .session sessions ∧
      Revokes now sessionIds (store .session) sessions := by
  induction sessionIds generalizing store with
  | nil =>
      obtain ⟨-, rfl⟩ := Procedure.returns_pure_iff.mp returned
      refine ⟨_, (Function.update_eq_self _ _).symm, fun id => .inr ⟨?_, rfl⟩⟩
      rintro ⟨listed, -⟩
      cases listed
  | cons sessionId sessionIds induction =>
      obtain ⟨result, middle, first, rest⟩ :=
        Procedure.returns_bind_iff.mp returned
      obtain ⟨between, rfl, revoked⟩ := revokeSession_revokes first
      obtain ⟨sessions, rfl, others⟩ := induction rest
      rw [Function.update_self] at others
      exact ⟨sessions, Function.update_idem .., revoked.trans others⟩

/-- A reset that returns has found a capability that is neither consumed nor
expired, has written one credential and revoked the listed sessions. -/
theorem reset_changes {result : ResetResult}
    (returned : Felt.Returns store
      (consumeRecoveryCapabilityAndResetPassword now request) result after) :
    ∃ capability, (store .recoveryCapability).get request.capabilityId =
        some capability ∧
      capability.record.consumedAt = none ∧
      now ≤ capability.record.expiresAt ∧
      Writes StoredCredential.identityId
        (credentialOwner store request.identityId) (store .credential)
        (after .credential) ∧
      Revokes now request.sessionIdsToRevoke (store .session)
        (after .session) := by
  obtain ⟨found, middle, looked, inside⟩ :=
    Procedure.returns_bind_iff.mp returned
  obtain ⟨found', rfl⟩ := returns_getRecoveryCapability_iff.mp looked
  cases found with
  | none => exact absurd inside Procedure.not_returns_throw
  | some capability =>
      refine ⟨capability, found', ?_⟩
      by_cases consumed : capability.record.consumedAt.isSome
      · simp only [consumed, if_true] at inside
        exact absurd inside Procedure.not_returns_throw
      by_cases expired : capability.record.expiresAt < now
      · simp only [consumed, expired, if_true] at inside
        exact absurd inside Procedure.not_returns_throw
      simp only [consumed, expired, if_false] at inside
      have steps := Procedure.returns_rethrow_iff.mp inside
      obtain ⟨_, first, wrote, steps⟩ := Procedure.returns_bind_iff.mp steps
      obtain ⟨_, second, marked, steps⟩ := Procedure.returns_bind_iff.mp steps
      obtain ⟨_, third, revoked, steps⟩ := Procedure.returns_bind_iff.mp steps
      obtain ⟨_, fourth, recorded, steps⟩ := Procedure.returns_bind_iff.mp steps
      obtain ⟨-, rfl⟩ := Procedure.returns_pure_iff.mp steps
      obtain ⟨credentials, rfl, writes⟩ := writeCredential_writes wrote
      obtain ⟨capabilities, rfl⟩ := markConsumed_writes marked
      obtain ⟨sessions, rfl, revokes⟩ := revokeSessions_revokes revoked
      obtain ⟨events, rfl⟩ := recordReset_writes recorded
      exact ⟨by simpa using consumed, Int.not_lt.mp expired, writes, revokes⟩

end Methods

/-! ## The account of the capability -/

/-- Whatever changed in a collection belonged, and belongs, to the identity. -/
def ChangesOnly {R : Type} (owner : R → String) (identityId : String)
    (before after : Collection R) : Prop :=
  ∀ id, after.stored id ≠ before.stored id → ∀ entry,
    before.stored id = some entry ∨ after.stored id = some entry →
      owner entry.2 = identityId

/-- The reset has used a fresh capability to reset passwords for the account
that the capability was created for, and for no other. -/
def ResetsItsAccount (now : Int) (request : ResetRequest)
    (before after : FeltDB) : Prop :=
  ∃ capability, (before .recoveryCapability).get request.capabilityId =
      some capability ∧
    capability.record.kind = .passwordReset ∧
    capability.record.consumedAt = none ∧
    now < capability.record.expiresAt ∧
    ChangesOnly StoredCredential.identityId capability.record.identityId
      (before .credential) (after .credential) ∧
    ChangesOnly StoredSession.identityId capability.record.identityId
      (before .session) (after .session)

/-- The arguments of a reset belong together: the capability is for resetting a
password, and it, the credential and the live ones of the sessions are of one
identity. -/
structure BelongTogether (now : Int) (request : ResetRequest) (store : FeltDB)
    (capability : RecoveryCapability) : Prop where
  kind : capability.kind = .passwordReset
  time : now ≠ capability.expiresAt
  credential : credentialOwner store request.identityId = capability.identityId
  sessions : ∀ id ∈ request.sessionIdsToRevoke, ∀ version session,
    Live (store .session) id version session →
      session.identityId = capability.identityId

theorem Writes.changesOnly_iff {R : Type} {owner : R → String}
    {writtenFor identityId : String} {before after : Collection R}
    (writes : Writes owner writtenFor before after) :
    ChangesOnly owner identityId before after ↔ writtenFor = identityId := by
  obtain ⟨id, version, record, rfl, changed, isNow, was⟩ := writes
  constructor
  · intro only
    rw [← isNow]
    exact only id changed (version, record) (.inr Collection.stored_put_self)
  · rintro rfl other changed entry stored
    by_cases same : other = id
    · subst same
      rcases stored with before | after
      · exact was entry before
      · rw [Collection.stored_put_self] at after
        rw [← Option.some.inj after]
        exact isNow
    · exact absurd (Collection.stored_put_of_ne same) changed

theorem Revokes.changesOnly_iff {now : Int} {sessionIds : List String}
    {identityId : String} {before after : Collection StoredSession}
    (revokes : Revokes now sessionIds before after) :
    ChangesOnly StoredSession.identityId identityId before after ↔
      ∀ id ∈ sessionIds, ∀ version session, Live before id version session →
        session.identityId = identityId := by
  constructor
  · intro only id listed version session live
    rcases revokes id with
      ⟨-, version', session', live', later, newer, stored⟩ | ⟨dead, -⟩
    · obtain ⟨rfl, rfl⟩ :=
        Prod.mk.inj (Option.some.inj (live.1.symm.trans live'.1))
      refine only id ?_ (version, session) (.inl live.1)
      rw [stored, live.1]
      intro same
      obtain ⟨rfl, -⟩ := Prod.mk.inj (Option.some.inj same)
      exact Nat.lt_irrefl later newer
    · exact absurd ⟨listed, version, session, live⟩ dead
  · intro owned id changed entry stored
    rcases revokes id with
      ⟨listed, version, session, live, later, -, written⟩ | ⟨-, same⟩
    · have its := owned id listed version session live
      rcases stored with before | after
      · rw [live.1] at before
        rw [← Option.some.inj before]
        exact its
      · rw [written] at after
        rw [← Option.some.inj after]
        exact its
    · exact absurd same changed

/--
A reset that succeeds resets the password of the account that its capability
was created for, and touches no other account, exactly when its arguments
belong together.
-/
theorem resetsItsAccount_iff {now : Int} {request : ResetRequest}
    {result : ResetResult} {store after : FeltDB}
    (returned : Felt.Returns store
      (consumeRecoveryCapabilityAndResetPassword now request) result after) :
    ResetsItsAccount now request store after ↔
      ∀ capability, (store .recoveryCapability).get request.capabilityId =
          some capability →
        BelongTogether now request store capability.record := by
  obtain ⟨capability, found, unconsumed, unexpired, writes, revokes⟩ :=
    reset_changes returned
  constructor
  · rintro ⟨other, found', kind, -, time, credentials, sessions⟩ third found''
    obtain rfl := Option.some.inj (found'.symm.trans found'')
    exact ⟨kind, Int.ne_of_lt time, writes.changesOnly_iff.mp credentials,
      revokes.changesOnly_iff.mp sessions⟩
  · intro together
    have belongs := together capability found
    exact ⟨capability, found, belongs.kind, unconsumed,
      Int.lt_iff_le_and_ne.mpr ⟨unexpired, belongs.time⟩,
      writes.changesOnly_iff.mpr belongs.credential,
      revokes.changesOnly_iff.mpr belongs.sessions⟩

/-- The one account is signed in on its phone, and somebody else is too. -/
def signedInAccounts : FeltDB :=
  Function.update oneAccount .session
    ((Collection.empty.put "phone" 0
        { identityId := "ada", revokedAt := none }).put "desk" 0
      { identityId := "bob", revokedAt := none })

def ownReset : ResetRequest :=
  { capabilityId := "reset-1", newPasswordHash := "new", identityId := "ada"
    sessionIdsToRevoke := ["phone"] }

/-- The one account resets its own password, and its phone is signed out. -/
theorem ownReset_resetsItsAccount :
    ∃ result after, Felt.Returns signedInAccounts
        (consumeRecoveryCapabilityAndResetPassword 100 ownReset) result
        after ∧
      ResetsItsAccount 100 ownReset signedInAccounts after ∧
      (after .session).stored "phone" =
        some (1, { identityId := "ada", revokedAt := some 100 }) := by
  have returned : ∃ result after, Felt.Returns signedInAccounts
      (consumeRecoveryCapabilityAndResetPassword 100 ownReset) result after ∧
      (after .session).stored "phone" =
        some (1, { identityId := "ada", revokedAt := some 100 }) :=
    ⟨_, _, .ask (.served "") <| .ask (.served "") <| .ask (.served "") <|
      .ask (.served "") <| .ask (.served "") <| .ask (.served "") <|
        .ask (.served "event-1") .done, rfl⟩
  obtain ⟨result, after, returned, revoked⟩ := returned
  refine ⟨result, after, returned, (resetsItsAccount_iff returned).mpr ?_,
    revoked⟩
  intro capability found
  obtain rfl := Option.some.inj found
  refine ⟨rfl, by decide, rfl, ?_⟩
  intro id listed version session live
  obtain rfl := List.mem_singleton.mp listed
  obtain ⟨-, rfl⟩ := Prod.mk.inj (Option.some.inj live.1)
  rfl

/-- A link that was sent to one identity to verify its address. -/
def verificationLink : FeltDB :=
  Function.update oneAccount .recoveryCapability
    (Collection.empty.put "link-1" 0
      { capabilityId := "email_verification_1", tenantId := "acme"
        identityId := "bob", kind := .emailVerification, createdAt := 90
        expiresAt := 900, consumedAt := none })

def foreignReset : ResetRequest :=
  { capabilityId := "link-1", newPasswordHash := "new", identityId := "ada"
    sessionIdsToRevoke := [] }

theorem foreignReset_not_resetsItsAccount :
    ∃ result after, Felt.Returns verificationLink
        (consumeRecoveryCapabilityAndResetPassword 100 foreignReset)
        result after ∧
      ¬ResetsItsAccount 100 foreignReset verificationLink after := by
  refine ⟨_, _, .ask (.served "") <| .ask (.served "") <| .ask (.served "") <|
    .ask (.served "") <| .ask (.served "event-1") .done, ?_⟩
  rintro ⟨capability, found, kind, -⟩
  obtain rfl := Option.some.inj found
  cases kind

end AuthBoundry
