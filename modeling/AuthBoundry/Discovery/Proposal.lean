import AuthBoundry.Discovery.Routes

/-!
# The authority that is proposed for an application

Every described route gets a recommendation.  Protection is recommended for a
route that nothing protects, that is not public, that is not read by GET and
for which a capability is inferred with some confidence.
-/

namespace AuthBoundry

open Library

namespace Discovery

/-- What is read of a discovered application. -/
structure ApplicationCandidate where
  name : Option String
  routes : List RouteCandidate
  deriving DecidableEq, Repr

inductive ProposalReviewStatus where
  | recommended
  | approved
  | rejected
  | alreadyProtected
  | alreadyPublic
  | stale
  deriving DecidableEq, Repr

inductive ProposalOrigin where
  | explicit
  | inferred
  | imported
  deriving DecidableEq, Repr

inductive RecommendationAction where
  | noChange
  | protectRoute
  deriving DecidableEq, Repr

structure AuthorityRecommendation where
  id : Option String
  method : String
  path : String
  action : RecommendationAction
  capability : Option String
  status : ProposalReviewStatus
  currentAuthorityState : String
  proposedAuthorityState : String
  source : ProposalOrigin
  discoveryRevision : Nat
  authorityRevision : Nat
  contractFingerprint : String
  confidence : Confidence
  reasons : List String
  reason : String
  deriving DecidableEq, Repr

structure AuthorityProposal where
  application : String
  contractFingerprint : String
  discoveryRevision : Nat
  liveRevision : Nat
  routes : List RouteDescription
  inferences : List Inference
  recommendations : List AuthorityRecommendation
  warnings : List String
  deriving DecidableEq, Repr

def RouteDescription.listedBefore (first second : RouteDescription) : Bool :=
  (((compare first.path second.path).then
    (compare first.method second.method)).then
      (compare first.source second.source)).isLE

namespace RouteDescription

/-- There is an inference, and it is not a guess. -/
def isInferred (self : RouteDescription) : Bool :=
  (self.inference.map fun inference =>
    inference.confidence != .unknown).getD false

def recommendedAction (self : RouteDescription) : RecommendationAction :=
  if self.protection == .unprotected && self.capability.isNone &&
      self.isInferred && self.method != "GET" then
    .protectRoute
  else
    .noChange

def reviewStatus (self : RouteDescription) : ProposalReviewStatus :=
  match self.protection with
  | .isPublic => .alreadyPublic
  | .isProtected => .alreadyProtected
  | .unprotected => .recommended

end RouteDescription

def AuthorityRecommendation.ofRoute (contractFingerprint : String)
    (discoveryRevision liveRevision : Nat) (route : RouteDescription) :
    AuthorityRecommendation :=
  { id := none
    method := route.method
    path := route.path
    action := route.recommendedAction
    capability := route.capability.or (route.inference.map (·.capability))
    status := route.reviewStatus
    currentAuthorityState := route.protection.asStr
    proposedAuthorityState :=
      match route.recommendedAction with
      | .protectRoute => "protected"
      | .noChange => route.protection.asStr
    source := if route.capability.isSome then .explicit else .inferred
    discoveryRevision
    authorityRevision := liveRevision
    contractFingerprint
    confidence := (route.inference.map (·.confidence)).getD .unknown
    reasons := (route.inference.map (·.reasons)).getD [route.protectionReason]
    reason :=
      match route.recommendedAction with
      | .noChange => "nothing is applied without approval"
      | .protectRoute =>
          "mutating route has a deterministic capability inference" }

def proposeAuthority (hashRoutes : List RouteDescription → Nat)
    (application : ApplicationCandidate) (contractFingerprint : String)
    (liveRevision : Nat) (existingMappings : Mappings) : AuthorityProposal :=
  let routes := (application.routes.map
    (describeRoute existingMappings)).mergeSort RouteDescription.listedBefore
  let discoveryRevision := hashRoutes routes
  { application := application.name.getD "application"
    contractFingerprint
    discoveryRevision
    liveRevision
    routes
    inferences := routes.filterMap (·.inference)
    recommendations := routes.map
      (.ofRoute contractFingerprint discoveryRevision liveRevision)
    warnings := [] }

def AuthorityRecommendation.listedBefore
    (first second : AuthorityRecommendation) : Bool :=
  ((compare first.path second.path).then
    (compare first.method second.method)).isLE

/-- The part of a reconciliation that asks for protection. -/
def newAuthorityProposals (currentProposal : AuthorityProposal) :
    List AuthorityRecommendation :=
  (currentProposal.recommendations.filter
    (·.action == .protectRoute)).mergeSort AuthorityRecommendation.listedBefore

variable {hashRoutes : List RouteDescription → Nat}
  {application : ApplicationCandidate} {contractFingerprint : String}
  {liveRevision : Nat} {existingMappings : Mappings}
  {recommendation : AuthorityRecommendation} {route : RouteDescription}

theorem recommendedAction_eq_protectRoute
    (recommended : route.recommendedAction = .protectRoute) :
    ∃ inference, route.inference = some inference ∧ route.capability = none ∧
      route.protection = .unprotected ∧ route.method ≠ "GET" := by
  unfold RouteDescription.recommendedAction at recommended
  split at recommended
  · rename_i asked
    simp only [Bool.and_eq_true, beq_iff_eq, Option.isNone_iff_eq_none,
      bne_iff_ne] at asked
    obtain ⟨⟨⟨unprotected, unmapped⟩, isInferred⟩, notGet⟩ := asked
    cases found : route.inference with
    | none => simp [RouteDescription.isInferred, found] at isInferred
    | some inference => exact ⟨inference, rfl, unmapped, unprotected, notGet⟩
  · cases recommended

theorem mem_recommendations_iff :
    recommendation ∈ (proposeAuthority hashRoutes application
        contractFingerprint liveRevision existingMappings).recommendations ↔
      ∃ route ∈ application.routes,
        .ofRoute contractFingerprint
          (proposeAuthority hashRoutes application contractFingerprint
            liveRevision existingMappings).discoveryRevision
          liveRevision (describeRoute existingMappings route) =
            recommendation := by
  simp [proposeAuthority, List.mem_mergeSort]

theorem mem_newAuthorityProposals_iff {proposal : AuthorityProposal} :
    recommendation ∈ newAuthorityProposals proposal ↔
      recommendation ∈ proposal.recommendations ∧
        recommendation.action = .protectRoute := by
  simp [newAuthorityProposals, List.mem_mergeSort]

end Discovery

end AuthBoundry
