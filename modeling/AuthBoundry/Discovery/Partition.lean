import AuthBoundry.Discovery.Reconciliation

/-!
# What a reconciliation says about every route

The keys of the current routes and those of the previous ones are divided among
the lists of the result.  The proof follows the comparison: what is collected
under each key, what the two collections share, and what the pairing of
removed and new routes leaves.
-/

namespace AuthBoundry

open Library

namespace Discovery

def RouteDescription.key (self : RouteDescription) : RouteKey :=
  (self.method, self.path)

/-- The keys of the earlier discovery or, without one, of the live mappings. -/
def previousKeys (previous : Option ApplicationCandidate)
    (liveAuthority : Mappings) : List RouteKey :=
  match previous with
  | some application => application.routes.map RouteCandidate.key
  | none =>
      liveAuthority.toList.map fun entry =>
        (entry.1.1, normalizePath entry.1.2)

def currentKeys (current : ApplicationCandidate) : List RouteKey :=
  current.routes.map RouteCandidate.key

/-- The keys of the lists are those given, each of them once. -/
def OnceEach (lists : List (List RouteKey)) (keys : List RouteKey) : Prop :=
  lists.flatten.Nodup ∧ ∀ key, key ∈ lists.flatten ↔ key ∈ keys

section Statement

variable (previous : Option ApplicationCandidate)
  (current : ApplicationCandidate) (liveAuthority : Mappings)
  (result : ReconciliationResult)

/-- The routes are divided among the lists of the result. -/
structure Partitions : Prop where
  currentSide : OnceEach
    [result.unchangedRoutes.map RouteDescription.key,
      result.newRoutes.map RouteDescription.key,
      result.changedRoutes.map (·.current.key)]
    (currentKeys current)
  previousSide : OnceEach
    [result.unchangedRoutes.map RouteDescription.key,
      result.removedRoutes.map RouteDescription.key,
      result.changedRoutes.map (·.previous.key)]
    (previousKeys previous liveAuthority)
  orphaned : (result.orphanedAuthority.map fun item =>
      ((item.method, item.path), item.capability)).Perm
    ((liveAuthority.toList.map fun entry =>
      ((entry.1.1, normalizePath entry.1.2), entry.2)).filter fun entry =>
        !(currentKeys current).contains entry.1)

def DriftFor {α : Type} (kind : AuthorityDrift)
    (item : Nat → Nat → α → AuthorityDriftItem) (entries : List α) : Prop :=
  (result.drift.filter fun entry => entry.kind == kind).Perm
    (entries.map (item result.discoveryRevision result.authorityRevision))

structure OneItemEach : Prop where
  newRoutes : DriftFor result .newRoute newRouteItem result.newRoutes
  removedRoutes :
    DriftFor result .removedRoute removedRouteItem result.removedRoutes
  changedRoutes :
    DriftFor result .routeChanged changedRouteItem result.changedRoutes
  orphanedAuthority :
    DriftFor result .orphanedAuthority orphanedItem result.orphanedAuthority
  staleProposals :
    DriftFor result .staleProposal staleItem result.staleProposals

end Statement

/-! ## Collecting by key -/

section Collecting

variable {routes : List RouteDescription} {key : RouteKey}
  {route : RouteDescription}

theorem getElem?_collectByKey :
    (collectByKey routes)[key]? =
      routes.reverse.find? fun route => decide (routeKey route = key) := by
  have collected := KeyedMap.getElem?_foldl_insert routeKey
    (fun route => route) routes ∅ key
  simpa only [collectByKey, Option.map_id', Std.ExtTreeMap.getElem?_empty,
    Option.or_none, beq_eq_decide] using collected

theorem mem_collectByKey : key ∈ collectByKey routes ↔
    ∃ route ∈ routes, routeKey route = key := by
  rw [Std.ExtTreeMap.mem_iff_isSome_getElem?, getElem?_collectByKey]
  simp

theorem routeKey_of_mem_toList
    (member : (key, route) ∈ (collectByKey routes).toList) :
    routeKey route = key := by
  have found := Std.ExtTreeMap.mem_toList_iff_getElem?_eq_some.mp member
  rw [getElem?_collectByKey] at found
  simpa using List.find?_some found

theorem mem_of_mem_toList
    (member : (key, route) ∈ (collectByKey routes).toList) :
    route ∈ routes := by
  have found := Std.ExtTreeMap.mem_toList_iff_getElem?_eq_some.mp member
  rw [getElem?_collectByKey] at found
  simpa using List.mem_of_find?_eq_some found

/-- The keys of all entries are read off their routes. -/
theorem map_routeKey_toList :
    ((collectByKey routes).toList.map Prod.snd).map routeKey =
      (collectByKey routes).keys := by
  rw [← Std.ExtTreeMap.map_fst_toList_eq_keys, List.map_map]
  apply List.map_congr_left
  intro entry member
  exact routeKey_of_mem_toList member

theorem map_routeKey_filter (selects : RouteKey × RouteDescription → Bool) :
    ((((collectByKey routes).toList.filter selects).map Prod.snd).map
        routeKey) =
      ((collectByKey routes).toList.filter selects).map Prod.fst := by
  rw [List.map_map]
  apply List.map_congr_left
  intro entry member
  exact routeKey_of_mem_toList (List.mem_filter.mp member).1

theorem shared_missing_perm
    (others collected : KeyedMap RouteKey RouteDescription) :
    (sharedWith others collected ++ missingIn others collected).Perm
      (collected.toList.map Prod.snd) := by
  unfold sharedWith missingIn
  rw [← List.map_append]
  exact (List.filter_append_perm _ _).map _

theorem nodup_filter_keys {ν : Type} (map : KeyedMap RouteKey ν)
    (selects : RouteKey × ν → Bool) :
    ((map.toList.filter selects).map Prod.fst).Nodup := by
  have sublist := (List.filter_sublist (p := selects)
    (l := map.toList)).map Prod.fst
  rw [Std.ExtTreeMap.map_fst_toList_eq_keys] at sublist
  exact Std.ExtTreeMap.nodup_keys.sublist sublist

theorem mem_filter_keys_iff {map others : KeyedMap RouteKey RouteDescription} :
    key ∈ (map.toList.filter fun entry => others.contains entry.1).map
        Prod.fst ↔
      key ∈ map ∧ key ∈ others := by
  rw [← Std.ExtTreeMap.contains_iff_mem, ← Std.ExtTreeMap.contains_iff_mem]
  constructor
  · intro member
    obtain ⟨entry, selected, rfl⟩ := List.mem_map.mp member
    obtain ⟨stored, shared⟩ := List.mem_filter.mp selected
    have found := Std.ExtTreeMap.mem_toList_iff_getElem?_eq_some.mp stored
    refine ⟨?_, shared⟩
    rw [Std.ExtTreeMap.contains_eq_isSome_getElem?, found]
    rfl
  · intro ⟨stored, shared⟩
    rw [Std.ExtTreeMap.contains_eq_isSome_getElem?] at stored
    obtain ⟨value, found⟩ := Option.isSome_iff_exists.mp stored
    exact List.mem_map.mpr ⟨(key, value), List.mem_filter.mpr
      ⟨Std.ExtTreeMap.mem_toList_iff_getElem?_eq_some.mpr found, shared⟩, rfl⟩

theorem sharedWith_keys_perm (first second : List RouteDescription) :
    ((sharedWith (collectByKey first) (collectByKey second)).map
        routeKey).Perm
      ((sharedWith (collectByKey second) (collectByKey first)).map
        routeKey) := by
  unfold sharedWith
  rw [map_routeKey_filter, map_routeKey_filter]
  apply (List.perm_ext_iff_of_nodup (nodup_filter_keys _ _)
    (nodup_filter_keys _ _)).mpr
  intro key
  rw [mem_filter_keys_iff, mem_filter_keys_iff, and_comm]

end Collecting

/-! ## What becomes of the routes -/

section Comparison

variable {hashDrift : Nat → Nat → String → List AuthorityDriftItem → Nat}
  {application contractFingerprint : String} {authorityRevision : Nat}
  {previousRoutes : List RouteDescription}
  {currentProposal : AuthorityProposal} {liveAuthority : Mappings}
  {proposalHistory : List ProposalHistoryItem}
  {equivalentKeys : List RouteKey} {result : ReconciliationResult}

def compared (routes : List RouteDescription) :
    KeyedMap RouteKey RouteDescription :=
  collectByKey (routes.mergeSort routeOrder)

theorem mem_compared {routes : List RouteDescription} {key : RouteKey} :
    key ∈ compared routes ↔ ∃ route ∈ routes, routeKey route = key := by
  simp [compared, mem_collectByKey]

theorem currentSide_perm
    (reconciled : reconcileDescriptions hashDrift application
      contractFingerprint authorityRevision previousRoutes currentProposal
      liveAuthority proposalHistory equivalentKeys = result) :
    (result.unchangedRoutes ++
      (result.newRoutes ++ result.changedRoutes.map (·.current))).Perm
      ((compared currentProposal.routes).toList.map Prod.snd) := by
  subst reconciled
  have paired := Pairs.perm_right sameFamily
    (missingIn (compared currentProposal.routes) (compared previousRoutes))
    (missingIn (compared previousRoutes) (compared currentProposal.routes))
  have divided := shared_missing_perm (compared previousRoutes)
    (compared currentProposal.routes)
  refine List.Perm.trans ?_ divided
  apply List.Perm.append_left
  refine List.Perm.trans ?_ paired
  apply List.Perm.append_left
  apply List.Perm.of_eq
  exact List.map_map

/-- What is left of the previous routes beside the unchanged ones. -/
theorem previousRest_perm
    (reconciled : reconcileDescriptions hashDrift application
      contractFingerprint authorityRevision previousRoutes currentProposal
      liveAuthority proposalHistory equivalentKeys = result) :
    (result.removedRoutes ++ result.changedRoutes.map (·.previous)).Perm
      (missingIn (compared currentProposal.routes)
        (compared previousRoutes)) := by
  subst reconciled
  have paired := Pairs.perm_left sameFamily
    (missingIn (compared currentProposal.routes) (compared previousRoutes))
    (missingIn (compared previousRoutes) (compared currentProposal.routes))
  refine List.Perm.trans ?_ paired
  apply List.Perm.append_left
  apply List.Perm.of_eq
  exact List.map_map

theorem previousSide_perm
    (reconciled : reconcileDescriptions hashDrift application
      contractFingerprint authorityRevision previousRoutes currentProposal
      liveAuthority proposalHistory equivalentKeys = result) :
    ((result.unchangedRoutes ++
      (result.removedRoutes ++ result.changedRoutes.map (·.previous))).map
        routeKey).Perm
      (compared previousRoutes).keys := by
  have unchanged : result.unchangedRoutes =
      sharedWith (compared previousRoutes)
        (compared currentProposal.routes) := by
    subst reconciled
    rfl
  have divided := (shared_missing_perm (compared currentProposal.routes)
    (compared previousRoutes)).map routeKey
  have rest := (previousRest_perm reconciled).map routeKey
  rw [compared, compared, map_routeKey_toList, List.map_append] at divided
  rw [List.map_append, unchanged]
  exact ((sharedWith_keys_perm _ _).append rest).trans divided

/-- The path of a description is its own normal form. -/
def RouteDescription.IsNormal (self : RouteDescription) : Prop :=
  normalizePath self.path = self.path

theorem RouteDescription.IsNormal.routeKey_eq {route : RouteDescription}
    (normal : route.IsNormal) : routeKey route = route.key := by
  rw [routeKey, normal]
  rfl

theorem onceEach_of_perm {routes : List RouteDescription}
    (parts : List RouteDescription) {lists : List (List RouteKey)}
    (flattened : lists.flatten = parts.map RouteDescription.key)
    (normalParts : ∀ route ∈ parts, route.IsNormal)
    (normalRoutes : ∀ route ∈ routes, route.IsNormal)
    (keys : (parts.map routeKey).Perm (compared routes).keys) :
    OnceEach lists (routes.map RouteDescription.key) := by
  have shown : parts.map routeKey = parts.map RouteDescription.key :=
    List.map_congr_left fun route member =>
      (normalParts route member).routeKey_eq
  rw [shown, ← flattened] at keys
  constructor
  · exact keys.nodup_iff.mpr Std.ExtTreeMap.nodup_keys
  · intro key
    rw [keys.mem_iff, Std.ExtTreeMap.mem_keys, mem_compared, List.mem_map]
    constructor
    · intro ⟨route, member, same⟩
      exact ⟨route, member,
        (normalRoutes route member).routeKey_eq.symm.trans same⟩
    · intro ⟨route, member, same⟩
      exact ⟨route, member,
        (normalRoutes route member).routeKey_eq.trans same⟩

theorem mem_of_mem_compared {routes : List RouteDescription}
    {route : RouteDescription}
    (member : route ∈ (compared routes).toList.map Prod.snd) :
    route ∈ routes := by
  obtain ⟨entry, stored, rfl⟩ := List.mem_map.mp member
  exact List.mem_mergeSort.mp (mem_of_mem_toList stored)

theorem currentSide_onceEach
    (reconciled : reconcileDescriptions hashDrift application
      contractFingerprint authorityRevision previousRoutes currentProposal
      liveAuthority proposalHistory equivalentKeys = result)
    (normal : ∀ route ∈ currentProposal.routes, route.IsNormal) :
    OnceEach
      [result.unchangedRoutes.map RouteDescription.key,
        result.newRoutes.map RouteDescription.key,
        result.changedRoutes.map (·.current.key)]
      (currentProposal.routes.map RouteDescription.key) := by
  have sides := currentSide_perm reconciled
  refine onceEach_of_perm (result.unchangedRoutes ++
    (result.newRoutes ++ result.changedRoutes.map (·.current))) ?_ ?_
    normal ?_
  · simp
  · intro route member
    exact normal route (mem_of_mem_compared (sides.mem_iff.mp member))
  · rw [compared, ← map_routeKey_toList]
    exact sides.map routeKey

theorem previousSide_onceEach
    (reconciled : reconcileDescriptions hashDrift application
      contractFingerprint authorityRevision previousRoutes currentProposal
      liveAuthority proposalHistory equivalentKeys = result)
    (normal : ∀ route ∈ currentProposal.routes, route.IsNormal)
    (previousNormal : ∀ route ∈ previousRoutes, route.IsNormal) :
    OnceEach
      [result.unchangedRoutes.map RouteDescription.key,
        result.removedRoutes.map RouteDescription.key,
        result.changedRoutes.map (·.previous.key)]
      (previousRoutes.map RouteDescription.key) := by
  refine onceEach_of_perm (result.unchangedRoutes ++
    (result.removedRoutes ++ result.changedRoutes.map (·.previous))) ?_ ?_
    previousNormal ?_
  · simp
  · intro route member
    rcases List.mem_append.mp member with unchanged | rest
    · have known := (currentSide_perm reconciled).mem_iff.mp
        (List.mem_append_left _ unchanged)
      exact normal route (mem_of_mem_compared known)
    · have missing := (previousRest_perm reconciled).mem_iff.mp rest
      have known := (shared_missing_perm _ _).mem_iff.mp
        (List.mem_append_right _ missing)
      exact previousNormal route (mem_of_mem_compared known)
  · exact previousSide_perm reconciled

theorem filterMap_unless {α β : Type} (excluded : α → Bool) (shows : α → β)
    (items : List α) :
    (items.filterMap fun item =>
        if excluded item then none else some (shows item)) =
      (items.filter fun item => !excluded item).map shows := by
  induction items with
  | nil => rfl
  | cons item items induction =>
      rw [List.filterMap_cons, List.filter_cons]
      by_cases out : excluded item = true
      · simp only [out, if_true, Bool.not_true, Bool.false_eq_true, if_false]
        exact induction
      · simp only [out, if_false, Bool.not_false, if_true, List.map_cons,
          Bool.false_eq_true]
        exact congrArg _ induction

theorem contains_compared {routes : List RouteDescription}
    (normal : ∀ route ∈ routes, route.IsNormal) (key : RouteKey) :
    (compared routes).contains key =
      (routes.map RouteDescription.key).contains key := by
  rw [Bool.eq_iff_iff, Std.ExtTreeMap.contains_iff_mem, mem_compared,
    List.contains_iff_mem, List.mem_map]
  constructor
  · intro ⟨route, member, same⟩
    exact ⟨route, member,
      (normal route member).routeKey_eq.symm.trans same⟩
  · intro ⟨route, member, same⟩
    exact ⟨route, member, (normal route member).routeKey_eq.trans same⟩

theorem orphaned_perm
    (reconciled : reconcileDescriptions hashDrift application
      contractFingerprint authorityRevision previousRoutes currentProposal
      liveAuthority proposalHistory equivalentKeys = result)
    (normal : ∀ route ∈ currentProposal.routes, route.IsNormal) :
    (result.orphanedAuthority.map fun item =>
        ((item.method, item.path), item.capability)).Perm
      ((liveAuthority.toList.map fun entry =>
        ((entry.1.1, normalizePath entry.1.2), entry.2)).filter fun entry =>
          !(currentProposal.routes.map RouteDescription.key).contains
            entry.1) := by
  subst reconciled
  have sorted := (List.mergeSort_perm
    (liveAuthority.toList.filterMap fun entry =>
      if (compared currentProposal.routes).contains
          (entry.1.1, normalizePath entry.1.2) then none
      else
        some
          ({ method := entry.1.1
             path := normalizePath entry.1.2
             capability := entry.2
             reason :=
               "route no longer discovered; historical authority retained"
            } : OrphanedAuthority))
    OrphanedAuthority.listedBefore).map fun item =>
      ((item.method, item.path), item.capability)
  refine sorted.trans (.of_eq ?_)
  rw [filterMap_unless, List.map_map, List.filter_map]
  simp only [contains_compared normal]
  rfl

theorem drift_groups
    (reconciled : reconcileDescriptions hashDrift application
      contractFingerprint authorityRevision previousRoutes currentProposal
      liveAuthority proposalHistory equivalentKeys = result) :
    result.drift.Perm
      (result.newRoutes.map
          (newRouteItem result.discoveryRevision result.authorityRevision) ++
        result.removedRoutes.map
          (removedRouteItem result.discoveryRevision
            result.authorityRevision) ++
        result.changedRoutes.map
          (changedRouteItem result.discoveryRevision
            result.authorityRevision) ++
        result.orphanedAuthority.map
          (orphanedItem result.discoveryRevision result.authorityRevision) ++
        result.staleProposals.map
          (staleItem result.discoveryRevision result.authorityRevision) ++
        (conflicts liveAuthority
          (currentProposal.routes.mergeSort routeOrder)).map
            (conflictItem result.discoveryRevision
              result.authorityRevision)) := by
  subst reconciled
  exact List.mergeSort_perm _ _

theorem filter_kind_map {α : Type} (kind : AuthorityDrift)
    (item : Nat → Nat → α → AuthorityDriftItem)
    {discoveryRevision authorityRevision : Nat}
    (always : ∀ entry,
      (item discoveryRevision authorityRevision entry).kind = kind)
    (asked : AuthorityDrift) (entries : List α) :
    (entries.map (item discoveryRevision authorityRevision)).filter
        (fun entry => entry.kind == asked) =
      if kind = asked then
        entries.map (item discoveryRevision authorityRevision)
      else [] := by
  rw [List.filter_map]
  by_cases same : kind = asked
  · simp [Function.comp_def, always, same]
  · simp [Function.comp_def, always, same]

theorem oneItemEach_conflicts
    (reconciled : reconcileDescriptions hashDrift application
      contractFingerprint authorityRevision previousRoutes currentProposal
      liveAuthority proposalHistory equivalentKeys = result) :
    OneItemEach result ∧ DriftFor result .capabilityConflict conflictItem
      (conflicts liveAuthority
        (currentProposal.routes.mergeSort routeOrder)) := by
  have groups := drift_groups reconciled
  have ofKind : ∀ asked, (result.drift.filter (·.kind == asked)).Perm _ :=
    fun asked => groups.filter _
  simp only [List.filter_append,
    filter_kind_map .newRoute newRouteItem (fun _ => rfl),
    filter_kind_map .removedRoute removedRouteItem (fun _ => rfl),
    filter_kind_map .routeChanged changedRouteItem (fun _ => rfl),
    filter_kind_map .orphanedAuthority orphanedItem (fun _ => rfl),
    filter_kind_map .staleProposal staleItem (fun _ => rfl),
    filter_kind_map .capabilityConflict conflictItem (fun _ => rfl)]
    at ofKind
  refine ⟨⟨?_, ?_, ?_, ?_, ?_⟩, ?_⟩
  · simpa [DriftFor] using ofKind .newRoute
  · simpa [DriftFor] using ofKind .removedRoute
  · simpa [DriftFor] using ofKind .routeChanged
  · simpa [DriftFor] using ofKind .orphanedAuthority
  · simpa [DriftFor] using ofKind .staleProposal
  · simpa [DriftFor] using ofKind .capabilityConflict

theorem mem_conflicts_iff {routes : List RouteDescription}
    {conflict : Conflict} :
    conflict ∈ conflicts liveAuthority routes ↔
      conflict.route ∈ routes ∧
        liveAuthority[routeKey conflict.route]? = some conflict.existing ∧
        (∃ inference, inferCapability conflict.route.method
            conflict.route.path = some inference ∧
          inference.capability = conflict.inferred) ∧
        conflict.existing ≠ conflict.inferred := by
  unfold conflicts
  rw [List.mem_filterMap]
  constructor
  · intro ⟨route, member, found⟩
    obtain ⟨inference, isInferred, found⟩ := Option.bind_eq_some_iff.mp found
    obtain ⟨existing, isMapped, found⟩ := Option.bind_eq_some_iff.mp found
    split at found
    · rename_i different
      cases found
      exact ⟨member, isMapped, ⟨inference, isInferred, rfl⟩,
        by simpa using different⟩
    · cases found
  · intro ⟨member, isMapped, ⟨inference, isInferred, same⟩, different⟩
    refine ⟨conflict.route, member, ?_⟩
    have mapped : liveAuthority[(conflict.route.method,
        normalizePath conflict.route.path)]? = some conflict.existing :=
      isMapped
    rw [isInferred, mapped]
    simp [same, different]

/-- The conflicts are reported, and nothing else is reported as one. -/
theorem mem_drift_conflict_iff
    (reconciled : reconcileDescriptions hashDrift application
      contractFingerprint authorityRevision previousRoutes currentProposal
      liveAuthority proposalHistory equivalentKeys = result)
    {item : AuthorityDriftItem} :
    item ∈ result.drift ∧ item.kind = .capabilityConflict ↔
      ∃ conflict ∈ conflicts liveAuthority currentProposal.routes,
        conflictItem result.discoveryRevision result.authorityRevision
          conflict = item := by
  have reported := (oneItemEach_conflicts reconciled).2.mem_iff (a := item)
  simp only [List.mem_filter, beq_iff_eq, List.mem_map] at reported
  rw [reported]
  simp only [mem_conflicts_iff, List.mem_mergeSort]

end Comparison

end Discovery

end AuthBoundry
