import AuthBoundry.Boundary.EnsuredProposals
import AuthBoundry.Discovery.Proposal
import AuthBoundry.Server.RouterApp

/-!
# Recommendations with their proposals

The control plane describes the routes of the running application and attaches
a stored proposal to every recommendation to protect one, making the proposal
if there is none yet.
-/

namespace AuthBoundry

open Discovery
open Library
open Library.Stateful
open MemoryProposalStore (port)

/-- The routes that a router shows to discovery. -/
def RouterApp.observedRoutes (self : RouterApp) : List RouteCandidate :=
  self.routes.map fun (method, path, requirement) =>
    { method := method.asStr
      path
      source := .embedded
      capability :=
        match requirement with
        | .capability capability => some capability
        | _ => none }

def liveApplication (observedRoutes : List RouteCandidate) :
    ApplicationCandidate :=
  { name := some "AuthBoundry", routes := observedRoutes }

def authorityMappings (authority : LiveAuthorityState) : Mappings :=
  (authority.routeProtection.toList.filterMap fun (route, protection) =>
    protection.capability.map fun capability =>
      ((route.method.asStr, route.path), capability)).foldl
    (fun mappings (key, capability) => mappings.insert key capability) ∅

/-- How far the review of a stored proposal is. -/
def reviewStatusOf (currentRevision : Nat) (stored : StoredProposal) :
    ProposalReviewStatus :=
  if stored.revision != currentRevision then
    .stale
  else
    match stored.status with
    | .pending => .recommended
    | .approved => .approved
    | .applied => .alreadyProtected
    | .rejected => .rejected
    | .active => .recommended
    | .orphaned | .stale | .superseded => .stale

/-- One round of the loop: the proposal is made if need be and attached. -/
def attachProposal (clock : Nat → Nat)
    (currentRevision discoveryRevision : Nat)
    (recommendation : AuthorityRecommendation)
    (self : ProposalRuntime MemoryProposalStore) :
    AuthorityRecommendation × ProposalRuntime MemoryProposalStore :=
  match Method.parse recommendation.method, recommendation.capability with
  | some method, some capability =>
      match ProposalRuntime.ensureProposal clock
          (.protectRoute method recommendation.path capability) .inferred
          discoveryRevision self with
      | .ok stored after =>
          ({ recommendation with
              id := some stored.id
              status := reviewStatusOf currentRevision stored },
            after)
      | .error _ after => (recommendation, after)
  | _, _ => (recommendation, self)

/-- The loop over the recommendations, of which only the chosen ones get a
proposal. -/
def attachProposals (clock : Nat → Nat)
    (currentRevision discoveryRevision : Nat)
    (chosen : AuthorityRecommendation → Bool) :
    Nat → List AuthorityRecommendation →
      ProposalRuntime MemoryProposalStore →
      List AuthorityRecommendation × ProposalRuntime MemoryProposalStore
  | _, [], self => ([], self)
  | index, recommendation :: rest, self =>
      let (first, middle) :=
        if chosen recommendation then
          attachProposal (fun reading => clock (index + reading))
            currentRevision discoveryRevision recommendation self
        else
          (recommendation, self)
      let (others, last) := attachProposals clock currentRevision
        discoveryRevision chosen (index + 1) rest middle
      (first :: others, last)

def attachInferredProposals (clock : Nat → Nat) (proposal : AuthorityProposal)
    (self : ProposalRuntime MemoryProposalStore) :
    List AuthorityRecommendation × ProposalRuntime MemoryProposalStore :=
  attachProposals clock self.authority.revision proposal.discoveryRevision
    (·.action == .protectRoute) 0 proposal.recommendations self

def attachReconciliationProposals (clock : Nat → Nat)
    (proposal : AuthorityProposal)
    (self : ProposalRuntime MemoryProposalStore) :
    List AuthorityRecommendation × ProposalRuntime MemoryProposalStore :=
  attachProposals clock self.authority.revision proposal.discoveryRevision
    (fun _ => true) 0 (newAuthorityProposals proposal) self

def liveProposal (hashRoutes : List RouteDescription → Nat)
    (observedRoutes : List RouteCandidate)
    (self : ProposalRuntime MemoryProposalStore) : AuthorityProposal :=
  proposeAuthority hashRoutes (liveApplication observedRoutes)
    self.fingerprint self.authority.revision
    (authorityMappings self.authority)

/-- The two reports that attach proposals. -/
inductive AuthorityReport where
  | authorityProposal
  | authorityReconciliation
  deriving DecidableEq, Repr

def AuthorityReport.produce (report : AuthorityReport)
    (hashRoutes : List RouteDescription → Nat) (clock : Nat → Nat)
    (observedRoutes : List RouteCandidate)
    (self : ProposalRuntime MemoryProposalStore) :
    List AuthorityRecommendation × ProposalRuntime MemoryProposalStore :=
  let proposal := liveProposal hashRoutes observedRoutes self
  match report with
  | .authorityProposal => attachInferredProposals clock proposal self
  | .authorityReconciliation =>
      attachReconciliationProposals clock proposal self

/-! ## What is attached -/

def NamesStored (store : MemoryProposalStore)
    (recommendation : AuthorityRecommendation) : Prop :=
  ∀ proposalId, recommendation.id = some proposalId →
    ∃ method capability proposal,
      Method.parse recommendation.method = some method ∧
        recommendation.capability = some capability ∧
        store.proposals[proposalId]? = some proposal ∧
        proposal.change =
          .protectRoute method recommendation.path capability

theorem NamesStored.keeps {before after : MemoryProposalStore}
    {recommendation : AuthorityRecommendation}
    (names : NamesStored before recommendation)
    (kept : KeepsChanges before after) : NamesStored after recommendation := by
  intro proposalId named
  obtain ⟨method, capability, proposal, isMethod, isCapability, stored,
    change⟩ := names proposalId named
  obtain ⟨new, newStored, same⟩ := kept proposalId proposal stored
  exact ⟨method, capability, new, isMethod, isCapability, newStored,
    same.trans change⟩

section Attaching

variable {hashChange : AuthorityChange → UInt64} {revision : Nat}
  {history : ProposalHistory} {clock : Nat → Nat}
  {currentRevision discoveryRevision : Nat}

/-- What the loop over the recommendations leaves. -/
structure Attached (hashChange : AuthorityChange → UInt64) (revision : Nat)
    (history : ProposalHistory)
    (outcome : List AuthorityRecommendation ×
      ProposalRuntime MemoryProposalStore) : Prop where
  reached : (ProposalHistory.system hashChange revision).Reachable
    { history with runtime := outcome.2 }
  kept : KeepsChanges history.runtime.proposals outcome.2.proposals
  names : ∀ recommendation ∈ outcome.1,
    NamesStored outcome.2.proposals recommendation

theorem attachProposal_attached
    (reached : (ProposalHistory.system hashChange revision).Reachable history)
    {recommendation : AuthorityRecommendation}
    (unnamed : recommendation.id = none) :
    Attached hashChange revision history
      ([(attachProposal clock currentRevision discoveryRevision recommendation
          history.runtime).1],
        (attachProposal clock currentRevision discoveryRevision recommendation
          history.runtime).2) := by
  have unattached : ∀ store, NamesStored store recommendation := by
    intro store proposalId named
    rw [unnamed] at named
    cases named
  unfold attachProposal
  cases isMethod : Method.parse recommendation.method with
  | none => exact ⟨reached, .refl _, by simpa using unattached _⟩
  | some method =>
      cases isCapability : recommendation.capability with
      | none => exact ⟨reached, .refl _, by simpa using unattached _⟩
      | some capability =>
          dsimp only
          have after := @ProposalHistory.reachable_ensured hashChange history
            revision reached clock
            (.protectRoute method recommendation.path capability) .inferred
            discoveryRevision
          have kept := @ProposalRuntime.ensureProposal_keepsChanges
            history.runtime clock
            (.protectRoute method recommendation.path capability) .inferred
            discoveryRevision
          cases ensured : ProposalRuntime.ensureProposal clock
              (.protectRoute method recommendation.path capability) .inferred
              discoveryRevision history.runtime with
          | error message last =>
              rw [ensured] at after kept
              exact ⟨after, kept, by simpa using unattached _⟩
          | ok stored last =>
              rw [ensured] at after kept
              refine ⟨after, kept, ?_⟩
              intro item member proposalId named
              rw [List.mem_singleton.mp member] at named ⊢
              cases named
              have keyed :=
                (ProposalHistory.reachable_tracked reached).marks.keyed
              obtain ⟨there, change⟩ :=
                ProposalRuntime.ensureProposal_eq_ok keyed ensured
              exact ⟨method, capability, stored, isMethod, rfl, there, change⟩

theorem attachProposals_attached
    {chosen : AuthorityRecommendation → Bool} {index : Nat}
    {recommendations : List AuthorityRecommendation}
    (reached : (ProposalHistory.system hashChange revision).Reachable history)
    (unnamed : ∀ recommendation ∈ recommendations,
      recommendation.id = none) :
    Attached hashChange revision history
      (attachProposals clock currentRevision discoveryRevision chosen index
        recommendations history.runtime) := by
  induction recommendations generalizing index history with
  | nil => exact ⟨reached, .refl _, by simp [attachProposals]⟩
  | cons recommendation rest induction =>
      obtain ⟨first, others⟩ := List.forall_mem_cons.mp unnamed
      have round : ∀ outcome : AuthorityRecommendation ×
            ProposalRuntime MemoryProposalStore,
          Attached hashChange revision history ([outcome.1], outcome.2) →
          Attached hashChange revision history
            (outcome.1 :: (attachProposals clock currentRevision
                discoveryRevision chosen (index + 1) rest outcome.2).1,
              (attachProposals clock currentRevision discoveryRevision chosen
                (index + 1) rest outcome.2).2) := by
        intro outcome here
        have later := @induction { history with runtime := outcome.2 }
          (index + 1) here.reached others
        refine ⟨later.reached, here.kept.trans later.kept, ?_⟩
        intro item member
        rcases List.mem_cons.mp member with rfl | inRest
        · exact (here.names _ (List.mem_singleton.mpr rfl)).keeps later.kept
        · exact later.names item inRest
      unfold attachProposals
      dsimp only
      split
      · exact round _ (attachProposal_attached reached first)
      · refine round (recommendation, history.runtime) ⟨reached, .refl _, ?_⟩
        intro item member proposalId named
        rw [List.mem_singleton.mp member, first] at named
        cases named

end Attaching

namespace AuthorityReport

variable {hashChange : AuthorityChange → UInt64} {revision : Nat}
  {history : ProposalHistory} {clock : Nat → Nat}
  {hashRoutes : List RouteDescription → Nat}
  {observedRoutes : List RouteCandidate} {report : AuthorityReport}

theorem liveProposal_unnamed (self : ProposalRuntime MemoryProposalStore) :
    ∀ recommendation ∈
        (liveProposal hashRoutes observedRoutes self).recommendations,
      recommendation.id = none := by
  intro recommendation member
  obtain ⟨route, _, rfl⟩ := mem_recommendations_iff.mp member
  rfl

theorem produce_attached
    (reached :
      (ProposalHistory.system hashChange revision).Reachable history) :
    Attached hashChange revision history
      (report.produce hashRoutes clock observedRoutes history.runtime) := by
  cases report with
  | authorityProposal =>
      exact attachProposals_attached reached (liveProposal_unnamed _)
  | authorityReconciliation =>
      apply attachProposals_attached reached
      intro recommendation member
      exact liveProposal_unnamed _ recommendation
        (mem_newAuthorityProposals_iff.mp member).1

end AuthorityReport

end AuthBoundry
