import AuthBoundry.Boundary.Ceremony
import AuthBoundry.Library.Encoding
import AuthBoundry.Library.Reachability

/-!
# Runs of the challenge store

The store is called in any order: tokens are issued, consumed and revoked.  What
it holds for a token is told by the calls on that token alone: by its issue, and
by what has been called since.
-/

namespace AuthBoundry

open Library
open Library.Stateful

/-- A call on the challenge store.  The operations work on a state `σ`. -/
inductive ChallengeCall (σ : Type) where
  | issue (bytes : List UInt8) (kind : CeremonyKind) (tenant account : String)
      (expiresAt : Int)
  | consumeWith (token : String) (kind : CeremonyKind) (now : Int)
      (operation : String → String → EStateM String σ Unit)
  | revoke (token : String)

namespace ChallengeCall

variable {σ : Type}

def token : ChallengeCall σ → String
  | .issue bytes .. => tokenOfBytes bytes
  | .consumeWith token .. => token
  | .revoke token => token

def issued? : ChallengeCall σ → Option String
  | .issue bytes .. => some (tokenOfBytes bytes)
  | .consumeWith .. | .revoke _ => none

def perform (hash : String → TokenDigest) (self : ChallengeStore × σ) :
    ChallengeCall σ → ChallengeStore × σ
  | .issue bytes kind tenant account expiresAt =>
      ((self.1.issue hash bytes kind tenant account expiresAt).2, self.2)
  | .consumeWith token kind now operation =>
      finalState (ChallengeStore.consumeWith hash token kind now operation self)
  | .revoke token => (self.1.revoke hash token, self.2)

def Consumes (hash : String → TokenDigest) (self : ChallengeStore × σ) :
    ChallengeCall σ → Prop
  | .consumeWith token kind now operation =>
      Succeeds (ChallengeStore.consumeWith hash token kind now operation) self
  | .issue .. | .revoke _ => False

def Issues (token : String) (challenge : Challenge) (call : ChallengeCall σ) :
    Prop :=
  ∃ bytes, tokenOfBytes bytes = token ∧
    call = .issue bytes challenge.kind challenge.tenant challenge.account
      challenge.expiresAt

theorem Issues.issued {token : String} {challenge : Challenge}
    {call : ChallengeCall σ} (issues : call.Issues token challenge) :
    call.issued? = some token := by
  obtain ⟨bytes, rfl, rfl⟩ := issues
  rfl

theorem token_of_issued {token : String} {call : ChallengeCall σ}
    (issued : call.issued? = some token) : call.token = token := by
  cases call with
  | issue bytes kind tenant account expiresAt => exact Option.some.inj issued
  | consumeWith token kind now operation => cases issued
  | revoke token => cases issued

end ChallengeCall

def challengeCalls (σ : Type) (hash : String → TokenDigest) :
    TransitionSystem (ChallengeStore × σ) (ChallengeCall σ) where
  initial self := self.1 = .default
  step := ChallengeCall.perform hash

def issuedTokens {σ : Type} (calls : List (ChallengeCall σ)) : List String :=
  calls.filterMap ChallengeCall.issued?

section Calls

variable {σ : Type} {hash : String → TokenDigest}
  {self : ChallengeStore × σ} {call : ChallengeCall σ} {token : String}
  {kind : CeremonyKind} {now : Int}
  {operation : String → String → EStateM String σ Unit}

theorem consumes_consumeWith_iff :
    (ChallengeCall.consumeWith token kind now operation).Consumes hash self ↔
      ∃ entry, self.1.open? hash token kind now = .ok entry ∧
        Succeeds (operation entry.tenant entry.account) self.2 := by
  obtain ⟨store, rest⟩ := self
  change Succeeds (ChallengeStore.consumeWith hash token kind now operation)
    (store, rest) ↔ _
  unfold Succeeds
  rw [ChallengeStore.consumeWith_apply]
  cases store.open? hash token kind now with
  | error refusal => simp
  | ok entry =>
      simp only [Except.ok.injEq, exists_eq_left']
      cases operation entry.tenant entry.account rest with
      | error refusal final => simp
      | ok done final => simp

theorem perform_consumed {entry : Challenge}
    (opened : self.1.open? hash token kind now = .ok entry)
    (succeeds : Succeeds (operation entry.tenant entry.account) self.2) :
    (ChallengeCall.perform hash self
      (.consumeWith token kind now operation)).1 =
        self.1.markConsumed hash token entry := by
  obtain ⟨store, rest⟩ := self
  obtain ⟨value, final, ran⟩ := succeeds
  change (finalState (ChallengeStore.consumeWith hash token kind now operation
    (store, rest))).1 = _
  rw [ChallengeStore.consumeWith_apply, opened]
  dsimp only
  rw [ran]
  rfl

theorem perform_unconsumed
    (fails : ¬(ChallengeCall.consumeWith token kind now operation).Consumes
      hash self) :
    (ChallengeCall.perform hash self
      (.consumeWith token kind now operation)).1 = self.1 := by
  rw [consumes_consumeWith_iff] at fails
  obtain ⟨store, rest⟩ := self
  change (finalState (ChallengeStore.consumeWith hash token kind now operation
    (store, rest))).1 = _
  rw [ChallengeStore.consumeWith_apply]
  cases opened : store.open? hash token kind now with
  | error refusal => rfl
  | ok entry =>
      dsimp only
      cases ran : operation entry.tenant entry.account rest with
      | error refusal final => rfl
      | ok done final =>
          exact absurd ⟨entry, opened, done, final, ran⟩ fails

/-- A call on one token keeps what is held for another. -/
theorem perform_apart (injective : Function.Injective hash)
    (apart : call.token ≠ token) :
    (ChallengeCall.perform hash self call).1.entries[hash token]? =
      self.1.entries[hash token]? := by
  have digests : hash call.token ≠ hash token := fun same =>
    apart (injective same)
  cases call with
  | issue bytes kind tenant account expiresAt =>
      exact KeyedMap.getElem?_insert_of_ne _ _ digests
  | consumeWith asked kind now operation =>
      by_cases consumes : (ChallengeCall.consumeWith asked kind now
        operation).Consumes hash self
      · obtain ⟨entry, opened, succeeds⟩ := consumes_consumeWith_iff.mp consumes
        rw [perform_consumed opened succeeds]
        exact KeyedMap.getElem?_insert_of_ne _ _ digests
      · rw [perform_unconsumed consumes]
  | revoke asked =>
      change (self.1.revoke hash asked).entries[hash token]? = _
      unfold ChallengeStore.revoke
      cases self.1.entries[hash asked]? with
      | none => rfl
      | some entry => exact KeyedMap.getElem?_insert_of_ne _ _ digests

/-! ## What the calls tell of a token -/

def SparesToken (hash : String → TokenDigest) (token : String)
    (self : ChallengeStore × σ) (call : ChallengeCall σ) : Prop :=
  call.token = token → ¬call.Consumes hash self

variable {start : ChallengeStore × σ} {past calls : List (ChallengeCall σ)}

/-- What the calls tell of a token: its last issue, and whether it has been
revoked or consumed since. -/
inductive Recalls (hash : String → TokenDigest) (start : ChallengeStore × σ)
    (token : String) (calls : List (ChallengeCall σ)) :
    Option Challenge → Prop where
  | unissued (unissued : token ∉ issuedTokens calls) :
      Recalls hash start token calls none
  | issued {before since : List (ChallengeCall σ)} {issue : ChallengeCall σ}
      {challenge : Challenge} (split : calls = before ++ issue :: since)
      (issues : issue.Issues token challenge)
      (last : token ∉ issuedTokens since)
      (revoked : challenge.revoked = true ↔ .revoke token ∈ since)
      (unconsumed : challenge.consumed = false ↔
        (challengeCalls σ hash).Follows (SparesToken hash token)
          ((challengeCalls σ hash).run start (before ++ [issue])) since) :
      Recalls hash start token calls (some challenge)

theorem issuedTokens_concat :
    issuedTokens (past ++ [call]) =
      issuedTokens past ++ call.issued?.toList := by
  unfold issuedTokens
  rw [List.filterMap_append]
  cases issued : call.issued? <;> simp [issued]

theorem not_mem_issuedTokens_concat (unissued : token ∉ issuedTokens past)
    (silent : call.issued? ≠ some token) :
    token ∉ issuedTokens (past ++ [call]) := by
  rw [issuedTokens_concat, List.mem_append, not_or]
  exact ⟨unissued, fun issued => silent (Option.mem_toList.mp issued)⟩

theorem run_between {before since : List (ChallengeCall σ)}
    {issue : ChallengeCall σ} (split : past = before ++ issue :: since) :
    (challengeCalls σ hash).run
        ((challengeCalls σ hash).run start (before ++ [issue])) since =
      (challengeCalls σ hash).run start past := by
  rw [← TransitionSystem.run_append, split, List.append_assoc]
  rfl

theorem follows_sparesToken_concat_iff {before since : List (ChallengeCall σ)}
    {issue : ChallengeCall σ} (split : past = before ++ issue :: since) :
    (challengeCalls σ hash).Follows (SparesToken hash token)
        ((challengeCalls σ hash).run start (before ++ [issue]))
        (since ++ [call]) ↔
      (challengeCalls σ hash).Follows (SparesToken hash token)
          ((challengeCalls σ hash).run start (before ++ [issue])) since ∧
        SparesToken hash token ((challengeCalls σ hash).run start past)
          call := by
  rw [TransitionSystem.follows_append_iff, run_between split]
  simp [TransitionSystem.Follows]

/-- A call that neither issues, revokes nor consumes the token tells nothing
new of it. -/
theorem Recalls.silent {found : Option Challenge}
    (recalled : Recalls hash start token past found)
    (unissuing : call.issued? ≠ some token) (unrevoking : call ≠ .revoke token)
    (sparing : SparesToken hash token ((challengeCalls σ hash).run start past)
      call) : Recalls hash start token (past ++ [call]) found := by
  cases recalled with
  | unissued unissued =>
      exact .unissued (not_mem_issuedTokens_concat unissued unissuing)
  | issued split issues last revoked unconsumed =>
      refine .issued (by rw [split, List.append_assoc]; rfl) issues
        (not_mem_issuedTokens_concat last unissuing) ?_ ?_
      · rw [revoked, List.mem_append, List.mem_singleton,
          or_iff_left unrevoking.symm]
      · rw [unconsumed, follows_sparesToken_concat_iff split,
          and_iff_left sparing]

theorem Recalls.issue {challenge : Challenge}
    (issues : call.Issues token challenge)
    (unrevoked : challenge.revoked = false)
    (unconsumed : challenge.consumed = false) :
    Recalls hash start token (past ++ [call]) (some challenge) := by
  refine .issued rfl issues List.not_mem_nil ?_ ?_
  · simp [unrevoked]
  · simp [unconsumed, TransitionSystem.Follows]

/-- A revocation marks the challenge, if there is one. -/
theorem Recalls.revoke {found : Option Challenge}
    (recalled : Recalls hash start token past found) :
    Recalls hash start token (past ++ [.revoke token])
      (found.map fun challenge => { challenge with revoked := true }) := by
  have unissuing : (ChallengeCall.revoke token : ChallengeCall σ).issued? ≠
      some token := Option.some_ne_none token ∘ Eq.symm
  cases recalled with
  | unissued unissued =>
      exact .unissued (not_mem_issuedTokens_concat unissued unissuing)
  | issued split issues last revoked unconsumed =>
      refine .issued (by rw [split, List.append_assoc]; rfl) issues
        (not_mem_issuedTokens_concat last unissuing) ?_ ?_
      · simp
      · rw [follows_sparesToken_concat_iff split]
        exact unconsumed.trans (and_iff_left (fun _ => id)).symm

theorem Recalls.consume {challenge : Challenge}
    (recalled : Recalls hash start token past (some challenge))
    (consumes : (ChallengeCall.consumeWith token kind now operation).Consumes
      hash ((challengeCalls σ hash).run start past)) :
    Recalls hash start token
      (past ++ [.consumeWith token kind now operation])
      (some { challenge with consumed := true }) := by
  cases recalled with
  | issued split issues last revoked unconsumed =>
      refine .issued (by rw [split, List.append_assoc]; rfl) issues
        (not_mem_issuedTokens_concat last (Option.some_ne_none token ∘ Eq.symm))
        ?_ ?_
      · rw [List.mem_append, revoked]
        simp
      · rw [follows_sparesToken_concat_iff split]
        constructor
        · intro kept
          cases kept
        · rintro ⟨-, spares⟩
          exact absurd consumes (spares rfl)

/-- What the store holds for a token is what the calls tell of it. -/
theorem recalls_run (injective : Function.Injective hash)
    (initial : start.1 = .default) (calls : List (ChallengeCall σ))
    (token : String) :
    Recalls hash start token calls
      ((challengeCalls σ hash).run start calls).1.entries[hash token]? := by
  induction calls using List.reverseRecOn with
  | nil =>
      change Recalls hash start token [] start.1.entries[hash token]?
      rw [initial]
      exact .unissued List.not_mem_nil
  | append_singleton past call induction =>
      rw [TransitionSystem.run_concat]
      generalize held : (challengeCalls σ hash).run start past = self
        at induction ⊢
      change Recalls hash start token (past ++ [call])
        (call.perform hash self).1.entries[hash token]?
      by_cases about : call.token = token
      · subst about
        cases call with
        | issue bytes kind tenant account expiresAt =>
            change Recalls hash start (tokenOfBytes bytes) _
              (self.1.entries.insert (hash (tokenOfBytes bytes)) _)[hash
                (tokenOfBytes bytes)]?
            rw [Std.ExtTreeMap.getElem?_insert_self]
            exact .issue ⟨bytes, rfl, rfl⟩ rfl rfl
        | consumeWith token kind now operation =>
            by_cases consumes : (ChallengeCall.consumeWith token kind now
              operation).Consumes hash self
            · obtain ⟨entry, opened, succeeds⟩ :=
                consumes_consumeWith_iff.mp consumes
              rw [perform_consumed opened succeeds]
              have found := (ChallengeStore.open?_eq_ok_iff.mp opened).1
              change Recalls hash start token _
                (self.1.entries.insert (hash token) _)[hash token]?
              rw [Std.ExtTreeMap.getElem?_insert_self]
              change Recalls hash start token past self.1.entries[hash token]?
                at induction
              rw [found] at induction
              exact induction.consume (held ▸ consumes)
            · rw [perform_unconsumed consumes]
              exact induction.silent (Option.some_ne_none token ∘ Eq.symm)
                (fun same => by cases same) (fun _ => held ▸ consumes)
        | revoke token =>
            have revoked := induction.revoke
            change Recalls hash start token _
              (self.1.revoke hash token).entries[hash token]?
            change Recalls hash start token _
              (self.1.entries[hash token]?.map _) at revoked
            unfold ChallengeStore.revoke
            cases found : self.1.entries[hash token]? with
            | none =>
                rw [found] at revoked
                dsimp only
                rw [found]
                exact revoked
            | some entry =>
                rw [found] at revoked
                dsimp only
                rw [Std.ExtTreeMap.getElem?_insert_self]
                exact revoked
      · rw [perform_apart injective about]
        refine induction.silent ?_ ?_ ?_
        · intro issued
          exact about (ChallengeCall.token_of_issued issued)
        · rintro rfl
          exact about rfl
        · intro same
          exact absurd same about

/-! ## One use -/

/-- The challenge was issued for the token, which since then has been neither
revoked nor consumed. -/
def Pending (hash : String → TokenDigest) (start : ChallengeStore × σ)
    (past : List (ChallengeCall σ)) (token : String) (challenge : Challenge) :
    Prop :=
  ∃ before issue since, past = before ++ issue :: since ∧
    issue.Issues token challenge ∧ .revoke token ∉ since ∧
    (challengeCalls σ hash).Follows (SparesToken hash token)
      ((challengeCalls σ hash).run start (before ++ [issue])) since

/-- Every token that the calls issue is good for one success. -/
structure SingleUse (hash : String → TokenDigest) (start : ChallengeStore × σ)
    (calls : List (ChallengeCall σ)) : Prop where
  /-- A token that has been consumed is not consumed again. -/
  once : ∀ past first between second late,
    calls = past ++ first :: (between ++ second :: late) →
    first.token = second.token →
    first.Consumes hash ((challengeCalls σ hash).run start past) →
    ¬second.Consumes hash
      ((challengeCalls σ hash).run start (past ++ first :: between))
  /-- A token is consumed as it was issued, in time and before its
  revocation, whenever its operation succeeds. -/
  asIssued : ∀ past token kind now operation late,
    calls = past ++ .consumeWith token kind now operation :: late →
    ((ChallengeCall.consumeWith token kind now operation).Consumes hash
        ((challengeCalls σ hash).run start past) ↔
      ∃ challenge, Pending hash start past token challenge ∧
        challenge.kind = kind ∧ now < challenge.expiresAt ∧
        Succeeds (operation challenge.tenant challenge.account)
          ((challengeCalls σ hash).run start past).2)
  /-- An operation that fails leaves the store as it was. -/
  retryable : ∀ past token kind now operation late,
    calls = past ++ .consumeWith token kind now operation :: late →
    ¬(ChallengeCall.consumeWith token kind now operation).Consumes hash
      ((challengeCalls σ hash).run start past) →
    ((challengeCalls σ hash).run start
        (past ++ [.consumeWith token kind now operation])).1 =
      ((challengeCalls σ hash).run start past).1
  /-- A call on one token keeps what is held for another. -/
  apart : ∀ past call late token, calls = past ++ call :: late →
    call.token ≠ token →
    ((challengeCalls σ hash).run start (past ++ [call])).1.entries[hash
        token]? =
      ((challengeCalls σ hash).run start past).1.entries[hash token]?

theorem mem_issuedTokens_of_issues {before since : List (ChallengeCall σ)}
    {issue : ChallengeCall σ} {challenge : Challenge}
    (split : past = before ++ issue :: since)
    (issues : issue.Issues token challenge) : token ∈ issuedTokens past := by
  apply List.mem_filterMap.mpr
  refine ⟨issue, ?_, issues.issued⟩
  rw [split]
  exact List.mem_append_right before List.mem_cons_self

theorem not_mem_issuedTokens_of_nodup {before since : List (ChallengeCall σ)}
    {issue : ChallengeCall σ} {challenge : Challenge}
    (distinct : (issuedTokens (before ++ issue :: since)).Nodup)
    (issues : issue.Issues token challenge) :
    token ∉ issuedTokens before ∧ token ∉ issuedTokens since := by
  unfold issuedTokens at distinct
  rw [List.filterMap_append, List.filterMap_cons_some issues.issued,
    List.nodup_append, List.nodup_cons] at distinct
  obtain ⟨-, ⟨unissued, -⟩, disjoint⟩ := distinct
  constructor
  · intro earlier
    exact disjoint token earlier token List.mem_cons_self rfl
  · exact unissued

theorem eq_nil_of_last {middle since since' : List (ChallengeCall σ)}
    {issue issue' : ChallengeCall σ} {challenge : Challenge}
    (same : issue :: since = middle ++ issue' :: since')
    (issues' : issue'.Issues token challenge)
    (last : token ∉ issuedTokens since) : middle = [] := by
  cases middle with
  | nil => rfl
  | cons first middle =>
      obtain ⟨-, later⟩ := List.cons.inj same
      exact absurd (mem_issuedTokens_of_issues later issues') last

theorem split_unique {before since before' since' : List (ChallengeCall σ)}
    {issue issue' : ChallengeCall σ} {challenge challenge' : Challenge}
    (same : before ++ issue :: since = before' ++ issue' :: since')
    (issues : issue.Issues token challenge)
    (issues' : issue'.Issues token challenge')
    (last : token ∉ issuedTokens since)
    (last' : token ∉ issuedTokens since') :
    before = before' ∧ issue = issue' ∧ since = since' := by
  rcases List.append_eq_append_iff.mp same with
    ⟨middle, rfl, rest⟩ | ⟨middle, rfl, rest⟩
  · obtain rfl := eq_nil_of_last rest issues' last
    obtain ⟨rfl, rfl⟩ := List.cons.inj rest
    exact ⟨(List.append_nil before).symm, rfl, rfl⟩
  · obtain rfl := eq_nil_of_last rest issues last'
    obtain ⟨rfl, rfl⟩ := List.cons.inj rest
    exact ⟨List.append_nil before', rfl, rfl⟩

theorem open?_run_iff (injective : Function.Injective hash)
    (initial : start.1 = .default)
    (distinct : (issuedTokens past).Nodup)
    {motive : String → String → Prop} :
    (∃ entry, ((challengeCalls σ hash).run start past).1.open? hash token kind
        now = .ok entry ∧ motive entry.tenant entry.account) ↔
      ∃ challenge, Pending hash start past token challenge ∧
        challenge.kind = kind ∧ now < challenge.expiresAt ∧
        motive challenge.tenant challenge.account := by
  have recalled := recalls_run injective initial past token
  simp only [ChallengeStore.open?_eq_ok_iff]
  generalize ((challengeCalls σ hash).run start past).1.entries[hash token]? =
    found at recalled ⊢
  cases recalled with
  | unissued unissued =>
      constructor
      · rintro ⟨entry, ⟨absent, -⟩, -⟩
        cases absent
      · rintro ⟨challenge, ⟨before, issue, since, split, issues, -⟩, -⟩
        exact absurd (mem_issuedTokens_of_issues split issues) unissued
  | @issued before since issue challenge split issues last revoked
      unconsumed =>
      constructor
      · rintro ⟨entry, ⟨same, kinds, unrevoked, unspent, early⟩, holds⟩
        cases same
        refine ⟨challenge, ⟨before, issue, since, split, issues, ?_,
          unconsumed.mp unspent⟩, kinds, early, holds⟩
        intro member
        rw [revoked.mpr member] at unrevoked
        cases unrevoked
      · rintro ⟨other, ⟨before', issue', since', split', issues', unrevoked,
          spared⟩, kinds, early, holds⟩
        have last' : token ∉ issuedTokens since' :=
          (not_mem_issuedTokens_of_nodup (split' ▸ distinct) issues').2
        obtain ⟨rfl, rfl, rfl⟩ :=
          split_unique (split.symm.trans split') issues issues' last last'
        obtain ⟨bytes, -, rfl⟩ := issues
        obtain ⟨bytes', -, same⟩ := issues'
        obtain ⟨-, sameKind, sameTenant, sameAccount, sameExpiry⟩ :=
          ChallengeCall.issue.inj same
        rw [← sameTenant, ← sameAccount] at holds
        refine ⟨challenge, ⟨rfl, sameKind.trans kinds, ?_, ?_, ?_⟩, holds⟩
        · rw [← Bool.not_eq_true, revoked]
          exact unrevoked
        · exact unconsumed.mpr spared
        · rw [sameExpiry]
          exact early

theorem consumes_run_iff (injective : Function.Injective hash)
    (initial : start.1 = .default) (distinct : (issuedTokens past).Nodup) :
    (ChallengeCall.consumeWith token kind now operation).Consumes hash
        ((challengeCalls σ hash).run start past) ↔
      ∃ challenge, Pending hash start past token challenge ∧
        challenge.kind = kind ∧ now < challenge.expiresAt ∧
        Succeeds (operation challenge.tenant challenge.account)
          ((challengeCalls σ hash).run start past).2 := by
  rw [consumes_consumeWith_iff]
  exact @open?_run_iff _ _ _ _ _ _ _ injective initial distinct
    fun tenant account => Succeeds (operation tenant account) _

theorem Pending.not_again {call : ChallengeCall σ}
    {between : List (ChallengeCall σ)} {challenge later : Challenge}
    (pending : Pending hash start past token challenge)
    (about : call.token = token)
    (consumed : call.Consumes hash ((challengeCalls σ hash).run start past))
    (distinct : (issuedTokens (past ++ call :: between)).Nodup) :
    ¬Pending hash start (past ++ call :: between) token later := by
  rintro ⟨before', issue', since', split', issues', -, spared⟩
  obtain ⟨before, issue, since, split, issues, -⟩ := pending
  have longer : before' ++ issue' :: since' =
      before ++ issue :: (since ++ call :: between) := by
    rw [← split', split, List.append_assoc]
    rfl
  rw [split'] at distinct
  have last' := (not_mem_issuedTokens_of_nodup distinct issues').2
  rw [longer] at distinct
  have last := (not_mem_issuedTokens_of_nodup distinct issues).2
  obtain ⟨rfl, rfl, rfl⟩ := split_unique longer issues' issues last' last
  have spares := (TransitionSystem.follows_append_iff.mp spared).2.1
  rw [run_between split] at spares
  exact spares about consumed

/-- Of distinct tokens, each is good for one success only: what the challenge
store answers follows from the issue of the token and the calls on it since. -/
theorem singleUse (injective : Function.Injective hash)
    (initial : start.1 = .default) (distinct : (issuedTokens calls).Nodup) :
    SingleUse hash start calls := by
  have distinctBefore : ∀ past late, calls = past ++ late →
      (issuedTokens past).Nodup := by
    rintro past late rfl
    unfold issuedTokens at distinct
    rw [List.filterMap_append] at distinct
    exact (List.nodup_append.mp distinct).1
  constructor
  · intro past first between second late split same consumed again
    have splitAgain : calls = (past ++ first :: between) ++ second :: late := by
      rw [split, List.append_assoc]
      rfl
    cases first with
    | issue bytes kind tenant account expiresAt => exact consumed
    | revoke token => exact consumed
    | consumeWith token kind now operation =>
        obtain ⟨challenge, pending, -⟩ := (consumes_run_iff injective initial
          (distinctBefore _ _ split)).mp consumed
        cases second with
        | issue bytes kind tenant account expiresAt => exact again
        | revoke token => exact again
        | consumeWith other otherKind later otherOperation =>
            have distinctAgain := distinctBefore _ _ splitAgain
            obtain ⟨challenge', pendingAgain, -⟩ := (consumes_run_iff injective
              initial distinctAgain).mp again
            change token = other at same
            subst same
            exact pending.not_again rfl consumed distinctAgain pendingAgain
  · intro past token kind now operation late split
    exact consumes_run_iff injective initial (distinctBefore _ _ split)
  · intro past token kind now operation late split fails
    rw [TransitionSystem.run_concat]
    exact perform_unconsumed fails
  · intro past call late token split different
    rw [TransitionSystem.run_concat]
    exact perform_apart injective different

end Calls

/-- A reset is issued, fails, is tried again, and is replayed. -/
def retriedReset : List (ChallengeCall Bool) :=
  [.issue [7] .passwordReset "acme" "alice" 100,
    .consumeWith "07" .passwordReset 40 fun _ _ => throw "unavailable",
    .issue [8] .emailVerification "acme" "bob" 100,
    .consumeWith "07" .passwordReset 50 fun _ _ => set true,
    .consumeWith "07" .passwordReset 60 fun _ _ => set false]

theorem retriedReset_singleUse :
    SingleUse utf8 (.default, false) retriedReset :=
  singleUse (fun _ _ => utf8_inj) rfl (by decide)

end AuthBoundry
