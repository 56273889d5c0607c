import AuthBoundry.Discovery.Partition
import AuthBoundry.Server.Recommendations

/-!
# Live mappings and the routes they protect

A live protection is stored under the path it was made for, and a discovered
route is looked up under the normal form of its path.  What is said about a
discovered route agrees with the live protections where each of them is stored
under its normal form as well.
-/

namespace AuthBoundry

open Discovery
open Library

-- What a normal form is does not matter here, only that it is compared.
attribute [local irreducible] normalizePath

def LiveAuthorityState.MapsTo (self : LiveAuthorityState) (id : RouteId)
    (capability : String) : Prop :=
  ∃ protection, self.routeProtection[id]? = some protection ∧
    protection.capability = some capability

/-- The same method and the same path in normal form. -/
def RouteId.normal (self : RouteId) : RouteId :=
  { self with path := normalizePath self.path }

theorem RouteId.normal_method (id : RouteId) : id.normal.method = id.method :=
  rfl

theorem RouteId.normal_path (id : RouteId) :
    id.normal.path = normalizePath id.path := rfl

/-- The discovered route is the one the identifier is about. -/
def IsRoute (id : RouteId) (route : RouteCandidate) : Prop :=
  route.method = id.method.asStr ∧
    normalizePath route.path = normalizePath id.path

section Statement

variable (authority : LiveAuthorityState)

/-- What is said about the routes of a mapping agrees with it. -/
structure HonoursMapping (id : RouteId) (capability : String) : Prop where
  described : ∀ route, IsRoute id route →
    (describeRoute (authorityMappings authority) route).protection =
        .isProtected ∧
      (describeRoute (authorityMappings authority) route).capability =
        some (route.capability.getD capability)
  settled : ∀ hashRoutes application contractFingerprint,
    ∀ recommendation ∈ (proposeAuthority hashRoutes application
        contractFingerprint authority.revision
        (authorityMappings authority)).recommendations,
      recommendation.method = id.method.asStr →
      recommendation.path = normalizePath id.path →
        recommendation.action = .noChange
  conflicts : ∀ hashRoutes hashDrift previous application contractFingerprint
      proposalHistory, ∀ route ∈ application.routes, IsRoute id route →
    ∀ inference, inferCapability route.method route.path = some inference →
      inference.capability ≠ capability →
        ∃ item ∈ (AuthorityReconciler.reconcile hashRoutes hashDrift previous
            application contractFingerprint authority.revision
            (authorityMappings authority) proposalHistory).drift,
          item.kind = .capabilityConflict ∧
            item.route =
              id.method.asStr ++ " " ++ normalizePath id.path ∧
            item.previousState = capability

def HonoursMappings : Prop :=
  ∀ id capability, authority.MapsTo id capability →
    HonoursMapping authority id capability

/-- Something else is inferred for the path. -/
def InferredOtherwise (method : Method) (path capability : String) : Prop :=
  ∃ inference, inferCapability method.asStr path = some inference ∧
    inference.capability ≠ capability

/-- Each mapping is stored under its normal form too, and what is inferred for
that form conflicts with it if what is inferred for its path does. -/
def StoredNormally : Prop :=
  ∀ id capability, authority.MapsTo id capability →
    authority.MapsTo id.normal capability ∧
      (InferredOtherwise id.method id.path capability →
        InferredOtherwise id.method id.normal.path capability)

end Statement

/-! ## Looking a mapping up -/

/-- The protections as they are collected. -/
def protections (authority : LiveAuthorityState) :
    List ((String × String) × String) :=
  authority.routeProtection.toList.filterMap fun entry =>
    entry.2.capability.map fun capability =>
      ((entry.1.method.asStr, entry.1.path), capability)

theorem mem_protections_iff {authority : LiveAuthorityState}
    {key : String × String} {capability : String} :
    (key, capability) ∈ protections authority ↔
      ∃ id, authority.MapsTo id capability ∧
        (id.method.asStr, id.path) = key := by
  unfold protections
  rw [List.mem_filterMap]
  constructor
  · intro ⟨entry, stored, shown⟩
    obtain ⟨mapped, isMapped, same⟩ := Option.map_eq_some_iff.mp shown
    obtain ⟨sameKey, rfl⟩ := Prod.mk.inj same
    exact ⟨entry.1, ⟨entry.2,
      Std.ExtTreeMap.mem_toList_iff_getElem?_eq_some.mp stored, isMapped⟩,
      sameKey⟩
  · intro ⟨id, ⟨protection, stored, isMapped⟩, sameKey⟩
    refine ⟨(id, protection),
      Std.ExtTreeMap.mem_toList_iff_getElem?_eq_some.mpr stored, ?_⟩
    rw [isMapped, ← sameKey]
    rfl

theorem RouteId.eq_of_key {id other : RouteId}
    (same : (id.method.asStr, id.path) = (other.method.asStr, other.path)) :
    id = other := by
  obtain ⟨sameMethod, samePath⟩ := Prod.mk.inj same
  cases id
  cases other
  cases Method.asStr_inj sameMethod
  cases samePath
  rfl

theorem LiveAuthorityState.MapsTo.unique {authority : LiveAuthorityState}
    {id : RouteId} {capability other : String}
    (maps : authority.MapsTo id capability)
    (mapsOther : authority.MapsTo id other) : capability = other := by
  obtain ⟨protection, stored, isMapped⟩ := maps
  obtain ⟨same, sameStored, sameMapped⟩ := mapsOther
  rw [stored] at sameStored
  cases sameStored
  rw [isMapped] at sameMapped
  exact Option.some.inj sameMapped

theorem getElem?_authorityMappings_iff {authority : LiveAuthorityState}
    {id : RouteId} {capability : String} :
    (authorityMappings authority)[(id.method.asStr, id.path)]? =
        some capability ↔
      authority.MapsTo id capability := by
  have lookup : (authorityMappings authority)[(id.method.asStr, id.path)]? =
      _ := KeyedMap.getElem?_foldl_insert
    (Prod.fst : (String × String) × String → String × String) Prod.snd
    (protections authority) ∅ (id.method.asStr, id.path)
  have mapped : ∀ entry ∈ protections authority,
      entry.1 = (id.method.asStr, id.path) →
        authority.MapsTo id entry.2 := by
    intro entry member sameKey
    obtain ⟨other, maps, otherKey⟩ := mem_protections_iff.mp member
    rwa [← RouteId.eq_of_key (otherKey.trans sameKey)]
  rw [lookup, Std.ExtTreeMap.getElem?_empty, Option.or_none]
  simp only [beq_eq_decide]
  constructor
  · intro found
    obtain ⟨entry, isLast, rfl⟩ := Option.map_eq_some_iff.mp found
    exact mapped entry (by simpa using List.mem_of_find?_eq_some isLast)
      (by simpa using List.find?_some isLast)
  · intro maps
    have listed : ((protections authority).reverse.find? fun entry =>
        decide (entry.1 = (id.method.asStr, id.path))).isSome = true := by
      rw [List.find?_isSome]
      exact ⟨_, List.mem_reverse.mpr (mem_protections_iff.mpr
        ⟨id, maps, rfl⟩), by simp⟩
    obtain ⟨entry, isLast⟩ := Option.isSome_iff_exists.mp listed
    have found := mapped entry
      (by simpa using List.mem_of_find?_eq_some isLast)
      (by simpa using List.find?_some isLast)
    rw [isLast, Option.map_some, found.unique maps]

/-! ## What is inferred for a normal form -/

/-- The capability that is inferred depends on the normal form alone. -/
theorem map_capability_inferCapability {method path other : String}
    (same : normalizePath path = normalizePath other) :
    (inferCapability method path).map (·.capability) =
      (inferCapability method other).map (·.capability) := by
  unfold inferCapability
  rw [same]
  cases pathSegments (normalizePath other) with
  | nil => rfl
  | cons resource rest =>
      dsimp only
      by_cases unowned : unownedSegments.contains resource = true
      · rw [if_pos unowned, if_pos unowned]
      · rw [if_neg unowned, if_neg unowned]
        rcases rest with _ | ⟨second, _ | ⟨third, rest⟩⟩
        · rfl
        · dsimp only
          split
          · simp only [Option.map_map, Function.comp_def, inferred]
          · rfl
        · rfl

theorem InferredOtherwise.of_same {method : Method}
    {path other capability : String}
    (same : normalizePath path = normalizePath other)
    (otherwise : InferredOtherwise method path capability) :
    InferredOtherwise method other capability := by
  obtain ⟨inference, isInferred, different⟩ := otherwise
  have capabilities : (inferCapability method.asStr path).map
      (·.capability) = _ := map_capability_inferCapability same
  rw [isInferred] at capabilities
  obtain ⟨here, isHere, sameCapability⟩ :=
    Option.map_eq_some_iff.mp capabilities.symm
  exact ⟨here, isHere, sameCapability ▸ different⟩

/-! ## What is reported -/

section Reported

variable {hashRoutes : List RouteDescription → Nat}
  {hashDrift : Nat → Nat → String → List AuthorityDriftItem → Nat}
  {previous : Option ApplicationCandidate}
  {application : ApplicationCandidate} {contractFingerprint : String}
  {authorityRevision : Nat} {liveAuthority : Mappings}
  {proposalHistory : List ProposalHistoryItem}

theorem reconcile_reports_iff {item : AuthorityDriftItem} :
    item ∈ (AuthorityReconciler.reconcile hashRoutes hashDrift previous
          application contractFingerprint authorityRevision liveAuthority
          proposalHistory).drift ∧
        item.kind = .capabilityConflict ↔
      ∃ conflict ∈ conflicts liveAuthority
          (proposeAuthority hashRoutes application contractFingerprint
            authorityRevision liveAuthority).routes,
        conflictItem (proposeAuthority hashRoutes application
          contractFingerprint authorityRevision liveAuthority).discoveryRevision
          authorityRevision conflict = item := by
  unfold AuthorityReconciler.reconcile
  exact mem_drift_conflict_iff rfl

end Reported

/-! ## The two directions -/

section Directions

variable {authority : LiveAuthorityState} {id : RouteId}
  {capability : String} {route : RouteCandidate}

theorem capability_of_isRoute (isRoute : IsRoute id route) :
    (describeRoute (authorityMappings authority) route).capability =
      route.capability.or (authorityMappings authority)[
        (id.normal.method.asStr, id.normal.path)]? := by
  obtain ⟨sameMethod, samePath⟩ := isRoute
  rw [describeRoute_capability, sameMethod, samePath]
  rfl

theorem described_of_mapsTo (maps : authority.MapsTo id.normal capability)
    (isRoute : IsRoute id route) :
    (describeRoute (authorityMappings authority) route).protection =
        .isProtected ∧
      (describeRoute (authorityMappings authority) route).capability =
        some (route.capability.getD capability) := by
  have known : (describeRoute (authorityMappings authority) route).capability =
      some (route.capability.getD capability) := by
    rw [capability_of_isRoute isRoute,
      getElem?_authorityMappings_iff.mpr maps]
    cases route.capability <;> rfl
  refine ⟨?_, known⟩
  rw [describeRoute_protection, known]
  rfl

theorem settled_of_mapsTo (maps : authority.MapsTo id.normal capability)
    {hashRoutes : List RouteDescription → Nat}
    {application : ApplicationCandidate} {contractFingerprint : String}
    {recommendation : AuthorityRecommendation}
    (member : recommendation ∈ (proposeAuthority hashRoutes application
      contractFingerprint authority.revision
      (authorityMappings authority)).recommendations)
    (sameMethod : recommendation.method = id.method.asStr)
    (samePath : recommendation.path = normalizePath id.path) :
    recommendation.action = .noChange := by
  obtain ⟨route, _, rfl⟩ := mem_recommendations_iff.mp member
  have isRoute : IsRoute id route :=
    ⟨(describeRoute_method (authorityMappings authority) route).symm.trans
        sameMethod,
      (describeRoute_path (authorityMappings authority) route).symm.trans
        samePath⟩
  have described := (described_of_mapsTo maps isRoute).2
  cases action : (describeRoute (authorityMappings authority)
      route).recommendedAction with
  | noChange => exact action
  | protectRoute =>
      obtain ⟨_, _, unmapped, _⟩ := recommendedAction_eq_protectRoute action
      rw [unmapped] at described
      cases described

theorem conflicts_of_stored (stored : StoredNormally authority)
    (maps : authority.MapsTo id capability)
    {hashRoutes : List RouteDescription → Nat}
    {hashDrift : Nat → Nat → String → List AuthorityDriftItem → Nat}
    {previous : Option ApplicationCandidate}
    {application : ApplicationCandidate} {contractFingerprint : String}
    {proposalHistory : List ProposalHistoryItem}
    (member : route ∈ application.routes) (isRoute : IsRoute id route)
    (otherwise : InferredOtherwise id.method route.path capability) :
    ∃ item ∈ (AuthorityReconciler.reconcile hashRoutes hashDrift previous
        application contractFingerprint authority.revision
        (authorityMappings authority) proposalHistory).drift,
      item.kind = .capabilityConflict ∧
        item.route = id.method.asStr ++ " " ++ normalizePath id.path ∧
        item.previousState = capability := by
  obtain ⟨mapsNormal, carries⟩ := stored id capability maps
  have mapsTwice := (stored id.normal capability mapsNormal).1
  obtain ⟨inference, isInferred, different⟩ :=
    carries (otherwise.of_same isRoute.2)
  obtain ⟨description, isDescribed⟩ :
      ∃ description, describeRoute (authorityMappings authority) route =
        description := ⟨_, rfl⟩
  have sameMethod : description.method = id.method.asStr := by
    rw [← isDescribed, describeRoute_method, isRoute.1]
  have samePath : description.path = id.normal.path := by
    rw [← isDescribed, describeRoute_path, isRoute.2, RouteId.normal_path]
  have known : description ∈ (proposeAuthority hashRoutes application
      contractFingerprint authority.revision
      (authorityMappings authority)).routes := by
    rw [← isDescribed]
    exact List.mem_mergeSort.mpr (List.mem_map_of_mem member)
  have lookup : (authorityMappings authority)[routeKey description]? =
      some capability := by
    have found := getElem?_authorityMappings_iff.mpr mapsTwice
    rw [id.normal.normal_method, id.normal_method, id.normal.normal_path]
      at found
    rw [routeKey, sameMethod, samePath]
    exact found
  rw [← sameMethod, ← samePath] at isInferred
  have isConflict : { route := description
                      existing := capability
                      inferred := inference.capability : Conflict } ∈
      conflicts (authorityMappings authority)
        (proposeAuthority hashRoutes application contractFingerprint
          authority.revision (authorityMappings authority)).routes :=
    mem_conflicts_iff.mpr
      ⟨known, lookup, ⟨inference, isInferred, rfl⟩, Ne.symm different⟩
  obtain ⟨reported, isKind⟩ :=
    reconcile_reports_iff.mpr ⟨_, isConflict, rfl⟩
  refine ⟨_, reported, isKind, ?_, rfl⟩
  rw [← id.normal_path, ← sameMethod, ← samePath]
  rfl

theorem honours_of_stored (stored : StoredNormally authority) :
    HonoursMappings authority := by
  intro id capability maps
  have mapsNormal := (stored id capability maps).1
  constructor
  · intro route isRoute
    exact described_of_mapsTo mapsNormal isRoute
  · intro hashRoutes application contractFingerprint recommendation member
      sameMethod samePath
    exact settled_of_mapsTo mapsNormal member sameMethod samePath
  · intro hashRoutes hashDrift previous application contractFingerprint
      proposalHistory route member isRoute inference isInferred different
    rw [isRoute.1] at isInferred
    exact conflicts_of_stored stored maps member isRoute
      ⟨inference, isInferred, different⟩

/-- A route that is spelled like the mapping and declares nothing. -/
def RouteId.candidate (id : RouteId) : RouteCandidate :=
  { method := id.method.asStr
    path := id.path
    source := .unknown
    capability := none }

theorem isRoute_candidate (id : RouteId) : IsRoute id id.candidate :=
  ⟨rfl, rfl⟩

theorem stored_of_honours (honours : HonoursMappings authority) :
    StoredNormally authority := by
  intro id capability maps
  have honoured := honours id capability maps
  constructor
  · have described := (honoured.described _ (isRoute_candidate id)).2
    rw [capability_of_isRoute (isRoute_candidate id)] at described
    exact getElem?_authorityMappings_iff.mp described
  · intro ⟨inference, isInferred, different⟩
    obtain ⟨item, reported, isKind, _, isPrevious⟩ :=
      honoured.conflicts (fun _ => 0) (fun _ _ _ _ => 0) none
        { name := none, routes := [id.candidate] } "" [] id.candidate
        List.mem_cons_self (isRoute_candidate id) inference isInferred
        different
    obtain ⟨conflict, isConflict, rfl⟩ :=
      reconcile_reports_iff.mp ⟨reported, isKind⟩
    obtain ⟨known, _, ⟨other, isOther, same⟩, differs⟩ :=
      mem_conflicts_iff.mp isConflict
    have isDescribed : conflict.route =
        describeRoute (authorityMappings authority) id.candidate := by
      have listed := List.mem_mergeSort.mp known
      exact List.mem_singleton.mp listed
    have isExisting : conflict.existing = capability := isPrevious
    rw [isDescribed, describeRoute_method, describeRoute_path] at isOther
    refine ⟨other, isOther, ?_⟩
    rw [same, ← isExisting]
    exact Ne.symm differs

end Directions

/-- The routes of all mappings are described, settled and compared as the
mappings have it exactly if the mappings are stored normally. -/
theorem honoursMappings_iff (authority : LiveAuthorityState) :
    HonoursMappings authority ↔ StoredNormally authority :=
  ⟨stored_of_honours, honours_of_stored⟩

/-! ## Histories of protections -/

def protectRoutes (authority : LiveAuthorityState)
    (changes : List (RouteId × String)) : Except String LiveAuthorityState :=
  changes.foldlM (fun authority change =>
    applyChange authority
      (.protectRoute change.1.method change.1.path change.2)) authority

/-- Invoices are protected under a path with a capital letter. -/
def capitalId : RouteId := { method := .post, path := "/Invoices" }

/-- The route of the mapping is described as unprotected. -/
theorem protectRoutes_not_honoursMappings :
    ¬∀ changes authority, protectRoutes .new changes = .ok authority →
      HonoursMappings authority := by
  intro honours
  have honoured := honours [(capitalId, "invoice.create")] _ rfl capitalId
    "invoice.create" ⟨{ capability := some "invoice.create" },
      Std.ExtTreeMap.getElem?_insert_self, rfl⟩
  have described := (honoured.described _ (isRoute_candidate capitalId)).2
  rw [capability_of_isRoute (isRoute_candidate capitalId)] at described
  obtain ⟨protection, stored, _⟩ :=
    getElem?_authorityMappings_iff.mp described
  have elsewhere : capitalId ≠ capitalId.normal := by decide +kernel
  rw [show ({ method := capitalId.method, path := capitalId.path } : RouteId) =
    capitalId from rfl, KeyedMap.getElem?_insert_of_ne _ _ elsewhere] at stored
  simp [LiveAuthorityState.new] at stored

end AuthBoundry
