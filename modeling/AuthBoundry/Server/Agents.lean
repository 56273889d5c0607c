import AuthBoundry.Runtime.System
import AuthBoundry.Server.Control

/-!
# Agents made through the control plane

A new agent is put into the store under the id that the request names or that
its name gives, whatever the store has there: it replaces a principal of any
kind and of any tenant.
-/

namespace AuthBoundry

open Library

def agentState : AgentState → String
  | .created => "created"
  | .active => "active"
  | .suspended => "suspended"
  | .revoked => "revoked"
  | .retired => "retired"

def agentJson (principal : Principal) : JsonValue :=
  .object
    [("id", .string principal.id.value), ("kind", .string "agent"),
      ("tenant", .string principal.tenantId.value),
      ("status",
        .string ((principal.agentState.map agentState).getD "unknown"))]

def requestedAgent (tenant : TenantContext) (request : HttpRequest) :
    Principal :=
  let body := request.body.toList
  let name := (extractQuotedField body "name").getD "agent"
  let id := (extractQuotedField body "id").getD
    ("agent:" ++ replaceChar ' ' "-" name)
  { id := ⟨id⟩
    kind := .agent
    tenantId := tenant.tenantId
    claims := { values := ∅ }
    version := { major := 1, minor := 0 }
    agentState := some .active }

def createAgent (mesh : AuthMesh) (request : HttpRequest) :
    ControlResponse × AuthMesh :=
  match tenantFromRequest mesh request with
  | .error response => (response, mesh)
  | .ok tenant =>
      let principal := requestedAgent tenant request
      (.okJson (agentJson principal),
        { mesh with stores :=
            { mesh.stores with
              principals := mesh.stores.principals.putPrincipal principal } })

/-! ## What a request leaves of the principals -/

/-- Every principal of the first mesh is still in the second as it was. -/
def KeepsPrincipals (before after : AuthMesh) : Prop :=
  ∀ (id : PrincipalId) (principal : Principal),
    before.stores.principals.principals[id]? = some principal →
      after.stores.principals.principals[id]? = some principal

/-- Where the request makes an agent, its id is not in use, or stands for that
very agent. -/
def NamesNewAgent (mesh : AuthMesh) (request : HttpRequest) : Prop :=
  ∀ tenant, tenantFromRequest mesh request = .ok tenant →
    ∀ stored, mesh.stores.principals.principals[
        (requestedAgent tenant request).id]? = some stored →
      stored = requestedAgent tenant request

variable {mesh : AuthMesh} {request : HttpRequest}

theorem KeepsPrincipals.refl (mesh : AuthMesh) : KeepsPrincipals mesh mesh :=
  fun _ _ found => found

theorem KeepsPrincipals.trans {first middle last : AuthMesh}
    (early : KeepsPrincipals first middle)
    (late : KeepsPrincipals middle last) : KeepsPrincipals first last :=
  fun id principal found => late id principal (early id principal found)

theorem createAgent_keepsPrincipals_iff :
    KeepsPrincipals mesh (createAgent mesh request).2 ↔
      NamesNewAgent mesh request := by
  rw [createAgent, NamesNewAgent]
  cases tenantFromRequest mesh request with
  | error response =>
      refine iff_of_true (KeepsPrincipals.refl mesh) ?_
      intro tenant impossible
      cases impossible
  | ok tenant =>
      dsimp only
      constructor
      · intro kept other same stored found
        obtain rfl := Except.ok.inj same
        have after := kept _ stored found
        rw [MemoryPrincipalStore.putPrincipal,
          KeyedMap.getElem?_insert_eq, if_pos rfl] at after
        exact (Option.some.inj after).symm
      · intro names id principal found
        rw [MemoryPrincipalStore.putPrincipal, KeyedMap.getElem?_insert_eq]
        by_cases same : (requestedAgent tenant request).id = id
        · rw [if_pos same]
          rw [← same] at found
          rw [names tenant rfl principal found]
        · rw [if_neg same]
          exact found

/-- Requests for agents, one after another, on any mesh. -/
def agentRequests : TransitionSystem AuthMesh HttpRequest where
  initial := fun _ => True
  step := fun mesh request => (createAgent mesh request).2

theorem NamesNewAgent.keepsPrincipals {requests : List HttpRequest}
    (names : agentRequests.Follows NamesNewAgent mesh requests) :
    KeepsPrincipals mesh (agentRequests.run mesh requests) := by
  have start : agentRequests.ReachableUnder NamesNewAgent mesh := .start trivial
  apply start.related KeepsPrincipals.refl _ _ names
  · exact fun _ _ _ => KeepsPrincipals.trans
  · intro state request _ named
    exact createAgent_keepsPrincipals_iff.mpr named

/--
On every mesh, each of any requests for agents leaves the principals that are
stored when it comes as they are exactly when each of them names a new agent;
and then the principals stay as they are from the first request to the last.
-/
theorem createAgents_keepPrincipals_iff (mesh : AuthMesh)
    (requests : List HttpRequest) :
    ((∀ early request late, requests = early ++ request :: late →
        KeepsPrincipals (agentRequests.run mesh early)
          (createAgent (agentRequests.run mesh early) request).2) ↔
      agentRequests.Follows NamesNewAgent mesh requests) ∧
    (agentRequests.Follows NamesNewAgent mesh requests →
      KeepsPrincipals mesh (agentRequests.run mesh requests)) := by
  refine ⟨?_, NamesNewAgent.keepsPrincipals⟩
  rw [TransitionSystem.follows_iff]
  constructor
  · intro kept early request late split
    exact createAgent_keepsPrincipals_iff.mp (kept early request late split)
  · intro names early request late split
    exact createAgent_keepsPrincipals_iff.mpr (names early request late split)

def botRequest : HttpRequest :=
  { method := .post
    path := "/_authboundry/agents"
    query := (∅ : KeyedMap String String).insert "tenant" "acme"
    headers := ∅
    cookies := ∅
    body := "\x7b\"name\": \"bot\"\x7d" }

def revokedBot : AuthMesh :=
  let mesh := emptyMesh.perform (acmeCall 0 (.putTenant acme))
  (createAgent mesh botRequest).2.perform
    (acmeCall 1 (.revokeAgent "acme" ⟨"agent:bot"⟩))

theorem createAgent_reactivates :
    let states := fun mesh : AuthMesh =>
      mesh.stores.principals.principals[(⟨"agent:bot"⟩ : PrincipalId)]?.bind
        Principal.agentState
    states revokedBot = some .revoked ∧
      states (createAgent revokedBot botRequest).2 = some .active ∧
      ¬KeepsPrincipals revokedBot (createAgent revokedBot botRequest).2 := by
  intro states
  have revoked : states revokedBot = some .revoked := by decide +kernel
  have active : states (createAgent revokedBot botRequest).2 =
    some .active := by decide +kernel
  refine ⟨revoked, active, ?_⟩
  intro kept
  obtain ⟨bot, found, state⟩ := Option.bind_eq_some_iff.mp revoked
  have after : states (createAgent revokedBot botRequest).2 =
      some .revoked :=
    Option.bind_eq_some_iff.mpr ⟨bot, kept _ bot found, state⟩
  rw [active] at after
  cases after

end AuthBoundry
