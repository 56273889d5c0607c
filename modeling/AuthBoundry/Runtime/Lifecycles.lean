import AuthBoundry.Runtime.AccountRuns
import AuthBoundry.Runtime.RunTrees

/-!
# The ends of agents and sessions

Revoking or retiring an agent, logging a session out and the expiry of a
session are final: in an orderly run nothing that follows brings the agent or
the session back.
-/

namespace AuthBoundry

open Library
open Library.Stateful

namespace AuthMesh

variable {environment : Environment} {self : AuthMesh} {now : Int}

theorem contextFor_ok {tenant : TenantContext} {principal : Principal}
    {sessionId : Option SessionId} {context : RuntimeContext}
    (derived : self.contextFor environment tenant principal sessionId now =
      .ok context) :
    context.principal = principal ∧ context.tenant = tenant := by
  obtain ⟨policy, _, derived⟩ := except_bind_eq_ok_iff.mp derived
  dsimp only at derived
  split at derived
  · cases derived
  · cases derived
    exact ⟨rfl, rfl⟩

/-- What a session was accepted on: the session is live, its identity is
recorded and bound, and the principal is usable. -/
structure SessionHeld (mesh : AuthMesh) (tenantId : String)
    (sessionId : SessionId) (now : Int) (session : Session)
    (context : RuntimeContext) (tenant : TenantContext) (identity : Identity)
    (binding : ExternalBinding) : Prop where
  tenantFound : mesh.tenant tenantId = .ok tenant
  stored : mesh.sessionMap[sessionId]? = some session
  inTenant : session.tenantId = tenant.tenantId
  unrevoked : session.revokedAt = none
  unexpired : now < session.expiresAt
  recorded : mesh.stores.identities.identities[session.identityId]? =
    some identity
  identityTenant : identity.tenantId = tenant.tenantId
  bound : mesh.bindingMap[((tenant.tenantId, identity.provider,
    identity.providerSubject) : IdentityKey)]? = some binding
  principal : mesh.principalMap[binding.principalId]? =
    some context.principal
  principalTenant : context.principal.tenantId = tenant.tenantId
  usable : assertPrincipalIsUsable context.principal = .ok ()
  sameTenant : context.tenant = tenant

theorem resolveSession_ok {tenantId : String} {sessionId : SessionId}
    {session : Session} {context : RuntimeContext}
    (resolved : self.resolveSession environment tenantId sessionId now =
      .ok (session, context)) :
    ∃ tenant identity binding, SessionHeld self tenantId sessionId now session
      context tenant identity binding := by
  obtain ⟨tenant, tenantFound, resolved⟩ :=
    except_bind_eq_ok_iff.mp resolved
  obtain ⟨held, valid, resolved⟩ := except_bind_eq_ok_iff.mp resolved
  obtain ⟨stored, inTenant, unrevoked, unexpired⟩ :=
    MemorySessionStore.validateSession_eq_ok_iff.mp
      (except_mapError_eq_ok_iff.mp valid)
  split at resolved
  · cases resolved
  · cases resolved
  · rename_i identity known
    obtain ⟨recorded, identityTenant⟩ := getScoped_eq_some_iff.mp
      (except_mapError_eq_ok_iff.mp known)
    split at resolved
    · cases resolved
    · rename_i principalId resolves
      obtain ⟨binding, bound, rfl⟩ := Option.map_eq_some_iff.mp resolves
      obtain ⟨principal, found, resolved⟩ := except_bind_eq_ok_iff.mp resolved
      obtain ⟨_, usable, resolved⟩ := except_bind_eq_ok_iff.mp resolved
      obtain ⟨made, derived, resolved⟩ := except_bind_eq_ok_iff.mp resolved
      cases resolved
      obtain ⟨rfl, sameTenant⟩ := contextFor_ok derived
      have principalFound := principal_eq_ok found
      exact ⟨tenant, identity, binding,
        { tenantFound
          stored
          inTenant
          unrevoked
          unexpired
          recorded
          identityTenant
          bound
          principal := principalFound.1
          principalTenant := principalFound.2
          usable
          sameTenant }⟩

theorem signIn_ok {tenantId : String} {response : AuthResponse}
    {opened : AuthenticatedSession} {after : AuthMesh}
    (succeeded : signIn environment tenantId response now self =
      .ok opened after) :
    ∃ tenant resolved, SignInGrounds self environment tenantId response tenant
        opened.external resolved ∧
      opened.context.principal = resolved.principal := by
  rw [signIn_eq] at succeeded
  split at succeeded
  · cases succeeded
  · rename_i tenant external resolved grounds
    rw [establish_eq] at succeeded
    split at succeeded
    · cases succeeded
    · dsimp only at succeeded
      split at succeeded
      · cases succeeded
      · rename_i context derived
        cases succeeded
        exact ⟨tenant, resolved, signInGrounds_ok grounds,
          (contextFor_ok derived).1⟩

/-! ## Agents -/

/-- Nothing is granted to the principal: no session or sign-in leads to it, it
gets no run, and a context made from its record is refused every request. -/
structure Barred (mesh : AuthMesh) (agent : PrincipalId) : Prop where
  resolves : ∀ environment tenantId sessionId now session context,
    mesh.resolveSession environment tenantId sessionId now =
        .ok (session, context) →
      context.principal.id ≠ agent
  signsIn : ∀ environment tenantId response now opened after,
    signIn environment tenantId response now mesh = .ok opened after →
      opened.context.principal.id ≠ agent
  creates : ∀ environment tenantId request now authorityRevision
    contractFingerprint run after,
    createAgentRun environment tenantId agent request now authorityRevision
      contractFingerprint mesh ≠ .ok run after
  authorizes : ∀ environment context,
    mesh.principalMap[agent]? = some context.principal →
      (∀ capability now authorityRevision,
        (mesh.authorizeWithAuthorityRevision environment context capability
          now authorityRevision).1.isAllowed = false) ∧
      (∀ request attributes now authorityRevision,
        (mesh.authorizeRequestWithAuthorityRevision environment context
          request attributes now authorityRevision).1.isAllowed = false) ∧
      ∀ runId request attributes now authorityRevision,
        (mesh.authorizeRunRequestWithAuthorityRevision environment context
          runId request attributes now authorityRevision).1.isAllowed = false

/-- The principal is an agent that is not active. -/
structure Stopped (principal : Principal) : Prop where
  isAgent : principal.kind = .agent
  inactive : principal.agentState ≠ some .active

theorem Stopped.same {old new : Principal} (stopped : Stopped old)
    (same : SamePrincipal old new) : Stopped new := by
  obtain ⟨agentState, rfl, rfl | ⟨state, rfl, stops⟩⟩ := same
  · exact { isAgent := stopped.isAgent, inactive := stopped.inactive }
  · refine { isAgent := stopped.isAgent, inactive := ?_ }
    intro active
    cases active
    cases stops

theorem Stopped.refused {principal : Principal} (stopped : Stopped principal) :
    agentRefusal principal ≠ none := by
  intro accepted
  exact stopped.inactive
    (agentRefusal_eq_none_iff.mp accepted stopped.isAgent)

theorem Stopped.unusable {principal : Principal}
    (stopped : Stopped principal) :
    assertPrincipalIsUsable principal ≠ .ok () :=
  fun usable => stopped.refused (agentRefusal_of_usable usable)

theorem Stopped.denied {context : RuntimeContext}
    (stopped : Stopped context.principal) :
    (∀ capability now authorityRevision,
      (self.authorizeWithAuthorityRevision environment context capability now
        authorityRevision).1.isAllowed = false) ∧
    (∀ request attributes now authorityRevision,
      (self.authorizeRequestWithAuthorityRevision environment context request
        attributes now authorityRevision).1.isAllowed = false) ∧
    ∀ runId request attributes now authorityRevision,
      (self.authorizeRunRequestWithAuthorityRevision environment context runId
        request attributes now authorityRevision).1.isAllowed = false := by
  have requests : ∀ request attributes now authorityRevision,
      (self.authorizeRequestWithAuthorityRevision environment context request
        attributes now authorityRevision).1.isAllowed = false := by
    intro request attributes now authorityRevision
    rw [Bool.eq_false_iff]
    intro allowed
    obtain ⟨_, _, _, accepted, _⟩ := authorizeRequest_isAllowed_iff.mp allowed
    exact stopped.refused accepted.active
  refine ⟨?_, requests, ?_⟩
  · intro capability now authorityRevision
    rw [Bool.eq_false_iff]
    intro allowed
    obtain ⟨_, _, _, accepted, _⟩ := authorize_isAllowed_iff.mp allowed
    exact stopped.refused accepted.active
  · intro runId request attributes now authorityRevision
    rw [Bool.eq_false_iff]
    intro allowed
    have without := (authorizeRunRequest_isAllowed_iff.mp allowed).2
    rw [requests request attributes now authorityRevision] at without
    cases without

theorem barred_of_stopped
    (keyed : KeyedMap.KeyedBy Principal.id self.principalMap)
    {agent : PrincipalId} {principal : Principal}
    (stored : self.principalMap[agent]? = some principal)
    (stopped : Stopped principal) : self.Barred agent := by
  -- A principal with the agent's id is the stored one.
  have stoppedHere : ∀ {id : PrincipalId} {found : Principal},
      self.principalMap[id]? = some found → found.id = agent →
        Stopped found := by
    intro id found foundAt sameId
    have key := keyed id found foundAt
    rw [← key, sameId, stored] at foundAt
    cases foundAt
    exact stopped
  refine
    { resolves := ?_
      signsIn := ?_
      creates := ?_
      authorizes := ?_ }
  · intro environment tenantId sessionId now session context resolved sameId
    obtain ⟨_, _, _, held⟩ := resolveSession_ok resolved
    exact (stoppedHere held.principal sameId).unusable held.usable
  · intro environment tenantId response now opened after succeeded sameId
    obtain ⟨_, resolved, grounds, same⟩ := signIn_ok succeeded
    obtain ⟨binding, _, found⟩ := grounds.bound
    rw [same] at sameId
    exact (stoppedHere found sameId).unusable grounds.usable
  · intro environment tenantId request now authorityRevision
      contractFingerprint run after succeeded
    rw [createAgentRun_eq] at succeeded
    split at succeeded
    · cases succeeded
    · rename_i tenant created granted
      obtain ⟨found, _, grounds⟩ := createRunGrounds_ok granted
      obtain ⟨foundAt, _⟩ := principal_eq_ok grounds.agentStored
      rw [stored] at foundAt
      cases foundAt
      exact stopped.unusable grounds.usable
  · intro environment context found
    rw [stored] at found
    have same : principal = context.principal := Option.some.inj found
    rw [same] at stopped
    exact stopped.denied

/-- A state change that is reported as made is stored. -/
theorem setAgentState_stored {tenantId : String} {agent : PrincipalId}
    {state : AgentState} {after : AuthMesh}
    (succeeded : setAgentState environment tenantId agent state now self =
      .ok () after) :
    ∃ principal : Principal,
      after.principalMap[agent]? = some principal ∧
        principal.kind = .agent ∧ principal.agentState = some state := by
  rw [setAgentState_eq] at succeeded
  split at succeeded
  · cases succeeded
  · split at succeeded
    · cases succeeded
    · rename_i written
      obtain ⟨principal, _, _, isAgent, rfl⟩ :=
        MemoryPrincipalStore.setAgentState_ok written
      have kept := (finish_ok succeeded).2
      have stored : after.principalMap =
          self.principalMap.insert agent
            { principal with agentState := some state } :=
        congrArg (fun records => records.principals.principals) kept
      refine ⟨{ principal with agentState := some state }, ?_, isAgent, rfl⟩
      rw [stored]
      exact Std.ExtTreeMap.getElem?_insert_self

theorem logout_stored {tenantId : String} {sessionId : SessionId}
    {after : AuthMesh}
    (succeeded : logout environment tenantId sessionId now self =
      .ok () after) :
    ∃ session : Session, after.sessionMap[sessionId]? = some session ∧
      session.revokedAt = some now := by
  rw [logout_eq] at succeeded
  split at succeeded
  · cases succeeded
  · split at succeeded
    · cases succeeded
    · rename_i written
      obtain ⟨session, _, _, rfl⟩ := MemorySessionStore.revokeSession_ok written
      have kept := (finish_ok succeeded).2
      have stored : after.sessionMap =
          self.sessionMap.insert sessionId
            { session with revokedAt := some now } :=
        congrArg (fun records => records.sessions.sessions) kept
      refine ⟨{ session with revokedAt := some now }, ?_, rfl⟩
      rw [stored]
      exact Std.ExtTreeMap.getElem?_insert_self

/-! ## Sessions -/

/-- The session id is not accepted at this time, whoever presents it. -/
def SessionOver (mesh : AuthMesh) (sessionId : SessionId) (now : Int) : Prop :=
  ∀ environment tenantId result,
    mesh.resolveSession environment tenantId sessionId now ≠ .ok result

/-- The session was revoked, or its time has passed. -/
def Session.Ended (session : Session) (now : Int) : Prop :=
  session.revokedAt.isSome = true ∨ session.expiresAt ≤ now

theorem Session.Ended.same {old new : Session} {later : Int}
    (ended : Session.Ended old now) (same : SameSession old new)
    (passes : now ≤ later) : Session.Ended new later := by
  obtain ⟨revokedAt, rfl, rfl | revoked⟩ := same
  · rcases ended with revoked | expired
    · exact Or.inl revoked
    · exact Or.inr (le_trans expired passes)
  · exact Or.inl revoked

theorem sessionOver_of_ended {sessionId : SessionId} {session : Session}
    (stored : self.sessionMap[sessionId]? = some session)
    (ended : Session.Ended session now) : self.SessionOver sessionId now := by
  rintro environment tenantId ⟨held, context⟩ resolved
  obtain ⟨_, _, _, accepted⟩ := resolveSession_ok resolved
  have same := accepted.stored
  rw [stored] at same
  cases same
  rcases ended with revoked | expired
  · rw [accepted.unrevoked] at revoked
    cases revoked
  · exact absurd accepted.unexpired (not_lt.mpr expired)

/-! ## No return -/

section Ends

variable {used : Set IdentityKey}

theorem barred_for_good (distinct : Set.InjOn principalIdOf used)
    (reached : system.ReachableUnder (Orderly used) self)
    {agent : PrincipalId} {principal : Principal}
    (stored : self.principalMap[agent]? = some principal)
    (stopped : Stopped principal) {calls : List MeshCall}
    (orderly : system.Follows (Orderly used) self calls) :
    (system.run self calls).Barred agent := by
  obtain ⟨later, laterStored, same⟩ :=
    (accounts_persist distinct reached orderly).principals agent principal
      stored
  have keyed := principalMap_keyed (reached.run orderly).reachable
  exact barred_of_stopped keyed laterStored (stopped.same same)

theorem sessionOver_for_good (distinct : Set.InjOn principalIdOf used)
    (reached : system.ReachableUnder (Orderly used) self)
    {sessionId : SessionId} {session : Session}
    (stored : self.sessionMap[sessionId]? = some session)
    (ended : Session.Ended session now) {calls : List MeshCall}
    (orderly : system.Follows (Orderly used) self calls) {later : Int}
    (passes : now ≤ later) :
    (system.run self calls).SessionOver sessionId later := by
  obtain ⟨newer, newerStored, same⟩ :=
    (accounts_persist distinct reached orderly).sessions sessionId session
      stored
  exact sessionOver_of_ended newerStored (ended.same same passes)

/-- Every end is final, in every orderly continuation of this state. -/
structure EndsForGood (used : Set IdentityKey) (mesh : AuthMesh) : Prop where
  agentRevoked : ∀ environment tenantId agent now after,
    revokeAgent environment tenantId agent now mesh = .ok () after →
      ∀ calls, system.Follows (Orderly used) after calls →
        (system.run after calls).Barred agent
  agentRetired : ∀ environment tenantId agent now after,
    retireAgent environment tenantId agent now mesh = .ok () after →
      ∀ calls, system.Follows (Orderly used) after calls →
        (system.run after calls).Barred agent
  loggedOut : ∀ environment tenantId sessionId now after,
    logout environment tenantId sessionId now mesh = .ok () after →
      ∀ calls, system.Follows (Orderly used) after calls →
        ∀ later, (system.run after calls).SessionOver sessionId later
  expired : ∀ (sessionId : SessionId) session now,
    mesh.sessionMap[sessionId]? = some session → session.expiresAt ≤ now →
      ∀ calls, system.Follows (Orderly used) mesh calls →
        ∀ later, now ≤ later →
          (system.run mesh calls).SessionOver sessionId later

/-- In no orderly run does an agent or a session return from its end. -/
theorem ends_for_good (distinct : Set.InjOn principalIdOf used)
    (reached : system.ReachableUnder (Orderly used) self) :
    self.EndsForGood used := by
  refine
    { agentRevoked := ?_
      agentRetired := ?_
      loggedOut := ?_
      expired := ?_ }
  · intro environment tenantId agent now after succeeded calls orderly
    obtain ⟨principal, stored, isAgent, state⟩ := setAgentState_stored succeeded
    let call : MeshCall :=
      { environment, now, operation := .revokeAgent tenantId agent }
    have allowed : self.Orderly used call := trivial
    have stepped := reached.next_eq allowed (congrArg finalState succeeded)
    exact barred_for_good distinct stepped stored
      { isAgent, inactive := by rw [state]; simp } orderly
  · intro environment tenantId agent now after succeeded calls orderly
    obtain ⟨principal, stored, isAgent, state⟩ := setAgentState_stored succeeded
    let call : MeshCall :=
      { environment, now, operation := .retireAgent tenantId agent }
    have allowed : self.Orderly used call := trivial
    have stepped := reached.next_eq allowed (congrArg finalState succeeded)
    exact barred_for_good distinct stepped stored
      { isAgent, inactive := by rw [state]; simp } orderly
  · intro environment tenantId sessionId now after succeeded calls orderly
      later
    obtain ⟨session, stored, revoked⟩ := logout_stored succeeded
    let call : MeshCall :=
      { environment, now, operation := .logout tenantId sessionId }
    have allowed : self.Orderly used call := trivial
    have stepped := reached.next_eq allowed (congrArg finalState succeeded)
    exact sessionOver_for_good distinct stepped stored
      (Or.inl (by rw [revoked]; rfl)) orderly (le_refl later)
  · intro sessionId session now stored expired calls orderly later passes
    exact sessionOver_for_good distinct reached stored (Or.inr expired) orderly
      passes

end Ends

end AuthMesh

/-! ## An orderly run -/

/-- The identities of the tenant's users. -/
def acmeUsers : List IdentityKey :=
  [(⟨"acme"⟩, ⟨"local"⟩, ⟨"alice"⟩), (⟨"acme"⟩, ⟨"local"⟩, ⟨"worker"⟩),
    (⟨"acme"⟩, ⟨"local"⟩, ⟨"manager"⟩)]

instance : DecidablePred (· ∈ {key : IdentityKey | key ∈ acmeUsers}) :=
  fun key => inferInstanceAs (Decidable (key ∈ acmeUsers))

theorem acmeUsers_distinct :
    Set.InjOn principalIdOf {key : IdentityKey | key ∈ acmeUsers} := by
  have different : ∀ left ∈ acmeUsers, ∀ right ∈ acmeUsers,
      principalIdOf left = principalIdOf right → left = right := by
    decide +kernel
  exact fun left leftUsed right rightUsed => different left leftUsed right rightUsed

theorem ends_for_good_worker :
    ∃ after, AuthMesh.revokeAgent acmeEnvironment "acme" (acmeId "worker") 5
        runningMesh = .ok () after ∧
      ∀ calls, AuthMesh.system.Follows
          (AuthMesh.Orderly {key | key ∈ acmeUsers}) after calls →
        (AuthMesh.system.run after calls).Barred (acmeId "worker") := by
  have revoked : (returned (AuthMesh.revokeAgent acmeEnvironment "acme"
      (acmeId "worker") 5 runningMesh)).isSome = true := by
    decide +kernel
  obtain ⟨⟨_, after⟩, found⟩ := Option.isSome_iff_exists.mp revoked
  have succeeded := returned_eq_some found
  have ends : runningMesh.EndsForGood {key | key ∈ acmeUsers} :=
    AuthMesh.ends_for_good acmeUsers_distinct
      (.run (.start emptyMesh_fresh) (by decide +kernel))
  exact ⟨after, succeeded,
    ends.agentRevoked acmeEnvironment "acme" _ 5 after succeeded⟩

end AuthBoundry
