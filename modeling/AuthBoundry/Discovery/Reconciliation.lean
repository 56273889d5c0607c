import AuthBoundry.Discovery.Proposal
import AuthBoundry.Library.Pairing

/-!
# Reconciling the routes of an application with what is known of them

The routes that are discovered now are compared with those of an earlier
discovery or, without one, with the routes that have a live mapping.  Nothing is
changed: the result lists what is new, gone, changed or in conflict.
-/

namespace AuthBoundry

open Library

namespace Discovery

inductive AuthorityDrift where
  | newRoute
  | removedRoute
  | routeChanged
  | capabilityConflict
  | orphanedAuthority
  | staleProposal
  deriving DecidableEq, Repr

def AuthorityDrift.asStr : AuthorityDrift → String
  | .newRoute => "new_route"
  | .removedRoute => "removed_route"
  | .routeChanged => "route_changed"
  | .capabilityConflict => "capability_conflict"
  | .orphanedAuthority => "orphaned_authority"
  | .staleProposal => "stale_proposal"

structure OrphanedAuthority where
  method : String
  path : String
  capability : String
  reason : String
  deriving DecidableEq, Repr

structure ChangedRoute where
  previous : RouteDescription
  current : RouteDescription
  reason : String
  deriving DecidableEq, Repr

structure ProposalHistoryItem where
  id : String
  method : String
  path : String
  capability : String
  status : String
  discoveryRevision : Nat
  authorityRevision : Nat
  deriving DecidableEq, Repr

structure AuthorityDriftItem where
  kind : AuthorityDrift
  route : String
  previousState : String
  currentState : String
  authorityState : String
  recommendedAction : String
  discoveryRevision : Nat
  authorityRevision : Nat
  deriving DecidableEq, Repr

structure ReconciliationResult where
  application : String
  contractFingerprint : String
  discoveryRevision : Nat
  authorityRevision : Nat
  reconciliationRevision : Nat
  newRoutes : List RouteDescription
  removedRoutes : List RouteDescription
  changedRoutes : List ChangedRoute
  unchangedRoutes : List RouteDescription
  equivalentRoutes : List ChangedRoute
  orphanedAuthority : List OrphanedAuthority
  newAuthorityProposals : List AuthorityRecommendation
  staleProposals : List ProposalHistoryItem
  warnings : List String
  drift : List AuthorityDriftItem
  deriving DecidableEq, Repr

/-! ## Keys -/

/-- The method of a route and the normal form of its path. -/
abbrev RouteKey := String × String

def RouteCandidate.key (self : RouteCandidate) : RouteKey :=
  (self.method, normalizePath self.path)

/-- The path of a description is a normal form already and is brought into
normal form once more. -/
def routeKey (route : RouteDescription) : RouteKey :=
  (route.method, normalizePath route.path)

/-- Of several routes with one key the last one counts. -/
def collectByKey (routes : List RouteDescription) :
    KeyedMap RouteKey RouteDescription :=
  routes.foldl (fun collected route => collected.insert (routeKey route) route)
    ∅

def sharedWith (others routes : KeyedMap RouteKey RouteDescription) :
    List RouteDescription :=
  (routes.toList.filter fun entry => others.contains entry.1).map Prod.snd

def missingIn (others routes : KeyedMap RouteKey RouteDescription) :
    List RouteDescription :=
  (routes.toList.filter fun entry => !others.contains entry.1).map Prod.snd

def routeOrder (first second : RouteDescription) : Bool :=
  ((compare first.path second.path).then
    (compare first.method second.method)).isLE

/-- The first part of a path that is not a parameter. -/
def routeFamily (route : RouteDescription) : String :=
  ((pathSegments (normalizePath route.path)).find? fun segment =>
    !isParameter segment).getD ""

/-- The keys under which the previous application has a route that is spelled
otherwise now. -/
def equivalentRouteKeys (previous : Option ApplicationCandidate)
    (current : ApplicationCandidate) : List RouteKey :=
  match previous with
  | none => []
  | some previous =>
      let previousRaw : KeyedMap RouteKey String :=
        previous.routes.foldl
          (fun collected route => collected.insert route.key route.path) ∅
      let keys := current.routes.filterMap fun route =>
        (previousRaw[route.key]?.filter (· != route.path)).map fun _ =>
          route.key
      (keys.mergeSort fun first second =>
        (compare first second).isLE).eraseReps

/-! ## Drift -/

section Drift

variable (discoveryRevision authorityRevision : Nat)

def driftItem (kind : AuthorityDrift) (route : RouteDescription)
    (previousState currentState authorityState recommendedAction : String) :
    AuthorityDriftItem :=
  { kind
    route := route.method ++ " " ++ route.path
    previousState
    currentState
    authorityState
    recommendedAction
    discoveryRevision
    authorityRevision }

def newRouteItem (route : RouteDescription) : AuthorityDriftItem :=
  driftItem discoveryRevision authorityRevision .newRoute route "absent"
    "discovered" route.protection.asStr "review"

def removedRouteItem (route : RouteDescription) : AuthorityDriftItem :=
  driftItem discoveryRevision authorityRevision .removedRoute route "discovered"
    "absent" route.protection.asStr "review"

def changedRouteItem (change : ChangedRoute) : AuthorityDriftItem :=
  driftItem discoveryRevision authorityRevision .routeChanged change.current
    (change.previous.method ++ " " ++ change.previous.path)
    (change.current.method ++ " " ++ change.current.path)
    change.current.protection.asStr "review"

def orphanedItem (item : OrphanedAuthority) : AuthorityDriftItem :=
  { kind := .orphanedAuthority
    route := item.method ++ " " ++ item.path
    previousState := "protected"
    currentState := "route_absent"
    authorityState := "retained:" ++ item.capability
    recommendedAction := "review"
    discoveryRevision
    authorityRevision }

def staleItem (proposal : ProposalHistoryItem) : AuthorityDriftItem :=
  { kind := .staleProposal
    route := proposal.method ++ " " ++ normalizePath proposal.path
    previousState := proposal.status
    currentState := "route_absent"
    authorityState := "proposal:" ++ proposal.id
    recommendedAction := "reject_or_supersede"
    discoveryRevision
    authorityRevision }

/-- A described route whose mapping differs from what is inferred for it. -/
structure Conflict where
  route : RouteDescription
  existing : String
  inferred : String
  deriving DecidableEq, Repr

def conflicts (liveAuthority : Mappings) (routes : List RouteDescription) :
    List Conflict :=
  routes.filterMap fun route => do
    let inference ← inferCapability route.method route.path
    let existing ← liveAuthority[(route.method, normalizePath route.path)]?
    if existing != inference.capability then
      some { route, existing, inferred := inference.capability }
    else
      none

def conflictWarning (conflict : Conflict) : String :=
  s!"authority conflict for {conflict.route.method} {conflict.route.path}: " ++
    s!"existing explicit authority {conflict.existing} differs from " ++
    s!"inferred {conflict.inferred}"

def conflictItem (conflict : Conflict) : AuthorityDriftItem :=
  driftItem discoveryRevision authorityRevision .capabilityConflict
    conflict.route conflict.existing conflict.inferred
    "explicit authority preserved" "review"

end Drift

def AuthorityDriftItem.listedBefore (first second : AuthorityDriftItem) :
    Bool :=
  ((compare first.route second.route).then
    (compare first.kind.asStr second.kind.asStr)).isLE

/-! ## The comparison -/

def sameFamily (removed new : RouteDescription) : Bool :=
  routeFamily removed == routeFamily new

def changedRoute (pair : RouteDescription × RouteDescription) : ChangedRoute :=
  { previous := pair.1
    current := pair.2
    reason :=
      if pair.1.method != pair.2.method then "HTTP method changed"
      else "route shape changed" }

def OrphanedAuthority.listedBefore (first second : OrphanedAuthority) : Bool :=
  ((compare first.path second.path).then
    (compare first.method second.method)).isLE

def orphanedAuthority (liveAuthority : Mappings)
    (currentKeys : KeyedMap RouteKey RouteDescription) :
    List OrphanedAuthority :=
  (liveAuthority.toList.filterMap fun entry =>
    let path := normalizePath entry.1.2
    if currentKeys.contains (entry.1.1, path) then none
    else
      some
        { method := entry.1.1
          path
          capability := entry.2
          reason :=
            "route no longer discovered; historical authority retained"
        }).mergeSort OrphanedAuthority.listedBefore

/-- The proposals, other than applied ones, for routes that are not discovered
now. -/
def staleProposals (proposalHistory : List ProposalHistoryItem)
    (currentKeys : KeyedMap RouteKey RouteDescription) :
    List ProposalHistoryItem :=
  (proposalHistory.filter fun proposal =>
    proposal.status != "applied" &&
      !currentKeys.contains (proposal.method, normalizePath proposal.path)
    ).mergeSort fun first second => (compare first.id second.id).isLE

def reconcileDescriptions
    (hashDrift : Nat → Nat → String → List AuthorityDriftItem → Nat)
    (application contractFingerprint : String) (authorityRevision : Nat)
    (previousRoutes : List RouteDescription)
    (currentProposal : AuthorityProposal) (liveAuthority : Mappings)
    (proposalHistory : List ProposalHistoryItem)
    (equivalentKeys : List RouteKey) : ReconciliationResult :=
  let currentRoutes := currentProposal.routes.mergeSort routeOrder
  let discoveryRevision := currentProposal.discoveryRevision
  let previousKeys := collectByKey (previousRoutes.mergeSort routeOrder)
  let currentKeys := collectByKey currentRoutes
  let equivalentRoutes := currentKeys.toList.filterMap fun entry =>
    (previousKeys[entry.1]?.filter fun _ =>
      equivalentKeys.contains entry.1).map fun previous =>
        { previous
          current := entry.2
          reason := "route parameter syntax normalized to the same " ++
            "authority route" : ChangedRoute }
  let unchangedRoutes := sharedWith previousKeys currentKeys
  let newRoutes := missingIn previousKeys currentKeys
  let removedRoutes := missingIn currentKeys previousKeys
  let paired := Pairs.pair sameFamily removedRoutes newRoutes
  let changedRoutes := paired.pairs.map changedRoute
  let newRoutes := unpicked paired.pickedRight newRoutes
  let removedRoutes := unpicked paired.pickedLeft removedRoutes
  let orphaned := orphanedAuthority liveAuthority currentKeys
  let stale := staleProposals proposalHistory currentKeys
  let conflicting := conflicts liveAuthority currentRoutes
  let drift :=
    (newRoutes.map (newRouteItem discoveryRevision authorityRevision) ++
      removedRoutes.map
        (removedRouteItem discoveryRevision authorityRevision) ++
      changedRoutes.map
        (changedRouteItem discoveryRevision authorityRevision) ++
      orphaned.map (orphanedItem discoveryRevision authorityRevision) ++
      stale.map (staleItem discoveryRevision authorityRevision) ++
      conflicting.map (conflictItem discoveryRevision authorityRevision)
      ).mergeSort AuthorityDriftItem.listedBefore
  { application
    contractFingerprint
    discoveryRevision
    authorityRevision
    reconciliationRevision :=
      hashDrift discoveryRevision authorityRevision contractFingerprint drift
    newRoutes
    removedRoutes
    changedRoutes
    unchangedRoutes
    equivalentRoutes
    orphanedAuthority := orphaned
    newAuthorityProposals := newAuthorityProposals currentProposal
    staleProposals := stale
    warnings := conflicting.map conflictWarning
    drift }

def describeMapping (entry : RouteKey × String) : RouteDescription :=
  let path := normalizePath entry.1.2
  { id := entry.1.1 ++ " " ++ path
    method := entry.1.1
    path
    source := .unknown
    capability := some entry.2
    inference := none
    protection := .isProtected
    protectionReason := "previously approved authority mapping" }

namespace AuthorityReconciler

def reconcile (hashRoutes : List RouteDescription → Nat)
    (hashDrift : Nat → Nat → String → List AuthorityDriftItem → Nat)
    (previous : Option ApplicationCandidate) (current : ApplicationCandidate)
    (contractFingerprint : String) (authorityRevision : Nat)
    (liveAuthority : Mappings) (proposalHistory : List ProposalHistoryItem) :
    ReconciliationResult :=
  let equivalentKeys := equivalentRouteKeys previous current
  let currentProposal := proposeAuthority hashRoutes current
    contractFingerprint authorityRevision liveAuthority
  let previousRoutes :=
    match previous with
    | some application =>
        (proposeAuthority hashRoutes application contractFingerprint
          authorityRevision liveAuthority).routes
    | none => liveAuthority.toList.map describeMapping
  reconcileDescriptions hashDrift (current.name.getD "application")
    contractFingerprint authorityRevision previousRoutes currentProposal
    liveAuthority proposalHistory equivalentKeys

end AuthorityReconciler

end Discovery

end AuthBoundry
