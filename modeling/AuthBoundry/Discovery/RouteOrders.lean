import AuthBoundry.Discovery.Partition
import AuthBoundry.Library.Reordering

/-!
# The order in which routes are listed

The routes are sorted before they are compared, and what the sorting cannot
tell apart keeps its order.  A reconciliation does not depend on the order of
the lists where routes that the sorting cannot tell apart are described alike.
-/

namespace AuthBoundry

open Library

namespace Discovery

instance : Std.OrientedOrd RouteSource where
  eq_swap := by
    intro first second
    cases first <;> cases second <;> rfl

instance : Std.TransOrd RouteSource where
  isLE_trans := by
    intro first second third
    cases first <;> cases second <;> cases third <;> decide

instance : Std.LawfulEqOrd RouteSource where
  compare_self := by
    intro source
    cases source <;> rfl
  eq_of_compare := by
    intro first second
    cases first <;> cases second <;> decide

/-! ## Reordered applications -/

/-- The same application with its routes in another order. -/
def Reorders (first second : ApplicationCandidate) : Prop :=
  first.name = second.name ∧ first.routes.Perm second.routes

section Statement

variable (hashRoutes : List RouteDescription → Nat)
  (hashDrift : Nat → Nat → String → List AuthorityDriftItem → Nat)
  (previous : Option ApplicationCandidate) (current : ApplicationCandidate)
  (contractFingerprint : String) (authorityRevision : Nat)
  (liveAuthority : Mappings) (proposalHistory : List ProposalHistoryItem)

/-- The order of the routes is of no consequence. -/
def Orderless : Prop :=
  ∀ (otherPrevious : Option ApplicationCandidate)
      (otherCurrent : ApplicationCandidate),
    Option.Rel Reorders previous otherPrevious →
    Reorders current otherCurrent →
      AuthorityReconciler.reconcile hashRoutes hashDrift previous current
          contractFingerprint authorityRevision liveAuthority
          proposalHistory =
        AuthorityReconciler.reconcile hashRoutes hashDrift otherPrevious
          otherCurrent contractFingerprint authorityRevision liveAuthority
          proposalHistory

def DescribedAlike (application : ApplicationCandidate) : Prop :=
  ∀ first ∈ application.routes, ∀ second ∈ application.routes,
    first.key = second.key → first.source = second.source →
      describeRoute liveAuthority first = describeRoute liveAuthority second

def SpelledOtherwise (route : RouteCandidate) : Prop :=
  ∃ other ∈ current.routes, other.key = route.key ∧ other.path ≠ route.path

/-- Of the previous routes of one key, all or none are spelled otherwise
now. -/
def SpelledAlike (application : ApplicationCandidate) : Prop :=
  ∀ first ∈ application.routes, ∀ second ∈ application.routes,
    first.key = second.key → SpelledOtherwise current first →
      SpelledOtherwise current second

/-- The normal forms of the paths are normal forms once more. -/
def NormalKeys : Prop :=
  ∀ key ∈ currentKeys current ++ previousKeys previous liveAuthority,
    normalizePath key.2 = key.2

/-- A trailing slash hides a blank before it. -/
example : normalizePath (normalizePath "/a /") ≠ normalizePath "/a /" := by
  decide +kernel

/-- What the sorting of the routes cannot tell apart is alike. -/
structure Unambiguous : Prop where
  currentRoutes : DescribedAlike liveAuthority current
  previousRoutes : ∀ application ∈ previous,
    DescribedAlike liveAuthority application
  spellings : ∀ application ∈ previous, SpelledAlike current application

/-- What is to hold of every reconciliation. -/
structure DividesRoutes : Prop where
  partition : Partitions previous current liveAuthority
    (AuthorityReconciler.reconcile hashRoutes hashDrift previous current
      contractFingerprint authorityRevision liveAuthority proposalHistory)
  items : OneItemEach
    (AuthorityReconciler.reconcile hashRoutes hashDrift previous current
      contractFingerprint authorityRevision liveAuthority proposalHistory)
  order : Orderless hashRoutes hashDrift previous current contractFingerprint
    authorityRevision liveAuthority proposalHistory

/-- What holds of every reconciliation. -/
structure DividesNormalRoutes : Prop where
  partition : NormalKeys previous current liveAuthority →
    Partitions previous current liveAuthority
      (AuthorityReconciler.reconcile hashRoutes hashDrift previous current
        contractFingerprint authorityRevision liveAuthority proposalHistory)
  items : OneItemEach
    (AuthorityReconciler.reconcile hashRoutes hashDrift previous current
      contractFingerprint authorityRevision liveAuthority proposalHistory)
  order : Unambiguous previous current liveAuthority →
    Orderless hashRoutes hashDrift previous current contractFingerprint
      authorityRevision liveAuthority proposalHistory

end Statement

section Orders

variable {hashRoutes : List RouteDescription → Nat}
  {contractFingerprint : String} {authorityRevision : Nat}
  {liveAuthority : Mappings} {first second : ApplicationCandidate}

def RouteDescription.listing : RouteDescription → RouteDescription → Ordering :=
  compareLex (compareLex (compareOn RouteDescription.path)
    (compareOn RouteDescription.method)) (compareOn RouteDescription.source)

instance : Std.TransCmp RouteDescription.listing :=
  inferInstanceAs (Std.TransCmp (compareLex _ _))

theorem listing_eq {route other : RouteDescription}
    (same : RouteDescription.listing route other = .eq) :
    route.path = other.path ∧ route.method = other.method ∧
      route.source = other.source := by
  unfold RouteDescription.listing at same
  rw [compareLex_eq_eq, compareLex_eq_eq] at same
  obtain ⟨⟨samePath, sameMethod⟩, sameSource⟩ := same
  exact ⟨Std.LawfulEqOrd.eq_of_compare samePath,
    Std.LawfulEqOrd.eq_of_compare sameMethod,
    Std.LawfulEqOrd.eq_of_compare sameSource⟩

theorem proposeAuthority_reorders (reorders : Reorders first second)
    (alike : DescribedAlike liveAuthority first) :
    proposeAuthority hashRoutes first contractFingerprint authorityRevision
        liveAuthority =
      proposeAuthority hashRoutes second contractFingerprint
        authorityRevision liveAuthority := by
  have sorted : (first.routes.map (describeRoute liveAuthority)).mergeSort
        RouteDescription.listedBefore =
      (second.routes.map (describeRoute liveAuthority)).mergeSort
        RouteDescription.listedBefore := by
    refine mergeSort_eq_of_perm RouteDescription.listing ?_
      (reorders.2.map _)
    intro left leftMember right rightMember same
    obtain ⟨route, member, rfl⟩ := List.mem_map.mp leftMember
    obtain ⟨other, otherMember, rfl⟩ := List.mem_map.mp rightMember
    obtain ⟨samePath, sameMethod, sameSource⟩ := listing_eq same
    simp only [describeRoute_path, describeRoute_method,
      describeRoute_source] at samePath sameMethod sameSource
    have sameKey : route.key = other.key := by
      rw [RouteCandidate.key, RouteCandidate.key, sameMethod, samePath]
    exact alike route member other otherMember sameKey sameSource
  unfold proposeAuthority
  rw [sorted, reorders.1]

/-! ## Spellings -/

theorem mem_eraseRepsBy_loop {α : Type} [BEq α] [LawfulBEq α]
    (item first : α) (rest kept : List α) :
    item ∈ List.eraseRepsBy.loop (· == ·) first rest kept ↔
      item ∈ kept ∨ item ∈ first :: rest := by
  induction rest generalizing first kept with
  | nil => simp [List.eraseRepsBy.loop, or_comm]
  | cons next rest induction =>
      unfold List.eraseRepsBy.loop
      cases repeated : first == next with
      | true =>
          rw [induction, eq_of_beq repeated]
          simp
      | false =>
          rw [induction]
          simp only [List.mem_cons]
          tauto

theorem mem_eraseReps {α : Type} [BEq α] [LawfulBEq α] {item : α}
    {items : List α} : item ∈ items.eraseReps ↔ item ∈ items := by
  cases items with
  | nil => rfl
  | cons first rest =>
      have kept := mem_eraseRepsBy_loop item first rest []
      simpa [List.eraseReps, List.eraseRepsBy] using kept

theorem mem_equivalentRouteKeys {previous current : ApplicationCandidate}
    {key : RouteKey} :
    key ∈ equivalentRouteKeys (some previous) current ↔
      ∃ last, previous.routes.reverse.find?
          (fun route => decide (route.key = key)) = some last ∧
        SpelledOtherwise current last := by
  have lookup := fun asked => KeyedMap.getElem?_foldl_insert
    RouteCandidate.key RouteCandidate.path previous.routes ∅ asked
  simp only [Std.ExtTreeMap.getElem?_empty, Option.or_none,
    beq_eq_decide] at lookup
  unfold equivalentRouteKeys
  simp only [mem_eraseReps, List.mem_mergeSort, List.mem_filterMap, lookup]
  constructor
  · intro ⟨route, member, found⟩
    obtain ⟨path, selected, rfl⟩ := Option.map_eq_some_iff.mp found
    obtain ⟨stored, different⟩ := Option.filter_eq_some_iff.mp selected
    obtain ⟨last, isLast, rfl⟩ := Option.map_eq_some_iff.mp stored
    have sameKey : last.key = route.key := by
      simpa using List.find?_some isLast
    refine ⟨last, isLast, route, member, sameKey.symm, ?_⟩
    simpa using Ne.symm (by simpa using different)
  · intro ⟨last, isLast, route, member, sameKey, different⟩
    have lastKey : last.key = key := by simpa using List.find?_some isLast
    refine ⟨route, member, ?_⟩
    rw [sameKey, lastKey, isLast]
    simp [Ne.symm different]

/-- Where the previous spellings agree, any of them can be asked. -/
theorem mem_equivalentRouteKeys_of_alike
    {previous current : ApplicationCandidate} {key : RouteKey}
    (alike : SpelledAlike current previous) :
    key ∈ equivalentRouteKeys (some previous) current ↔
      ∃ route ∈ previous.routes, route.key = key ∧
        SpelledOtherwise current route := by
  rw [mem_equivalentRouteKeys]
  constructor
  · intro ⟨last, isLast, otherwise⟩
    have member : last ∈ previous.routes := by
      simpa using List.mem_of_find?_eq_some isLast
    exact ⟨last, member, by simpa using List.find?_some isLast, otherwise⟩
  · intro ⟨route, member, sameKey, otherwise⟩
    have listed : (previous.routes.reverse.find?
        fun route => decide (route.key = key)).isSome = true := by
      rw [List.find?_isSome]
      exact ⟨route, List.mem_reverse.mpr member, decide_eq_true sameKey⟩
    obtain ⟨last, isLast⟩ := Option.isSome_iff_exists.mp listed
    have lastMember : last ∈ previous.routes := by
      simpa using List.mem_of_find?_eq_some isLast
    have lastKey : last.key = key := by simpa using List.find?_some isLast
    exact ⟨last, isLast, alike route member last lastMember
      (sameKey.trans lastKey.symm) otherwise⟩

theorem SpelledOtherwise.reorders {current other : ApplicationCandidate}
    (reorders : Reorders current other) {route : RouteCandidate} :
    SpelledOtherwise other route ↔ SpelledOtherwise current route := by
  unfold SpelledOtherwise
  simp only [reorders.2.mem_iff]

theorem SpelledAlike.reorders
    {previous otherPrevious current other : ApplicationCandidate}
    (reorders : Reorders current other)
    (previousReorders : Reorders previous otherPrevious)
    (alike : SpelledAlike current previous) :
    SpelledAlike other otherPrevious := by
  intro first firstMember second secondMember sameKey otherwise
  rw [SpelledOtherwise.reorders reorders] at otherwise ⊢
  exact alike first (previousReorders.2.mem_iff.mpr firstMember) second
    (previousReorders.2.mem_iff.mpr secondMember) sameKey otherwise

theorem contains_equivalentRouteKeys
    {previous otherPrevious current other : ApplicationCandidate}
    (reorders : Reorders current other)
    (previousReorders : Reorders previous otherPrevious)
    (alike : SpelledAlike current previous) (key : RouteKey) :
    (equivalentRouteKeys (some previous) current).contains key =
      (equivalentRouteKeys (some otherPrevious) other).contains key := by
  rw [Bool.eq_iff_iff, List.contains_iff_mem, List.contains_iff_mem,
    mem_equivalentRouteKeys_of_alike alike,
    mem_equivalentRouteKeys_of_alike (alike.reorders reorders
      previousReorders)]
  simp only [SpelledOtherwise.reorders reorders, previousReorders.2.mem_iff]

/-- Of the equivalent keys only membership counts. -/
theorem reconcileDescriptions_congr
    {hashDrift : Nat → Nat → String → List AuthorityDriftItem → Nat}
    {application : String} {previousRoutes : List RouteDescription}
    {currentProposal : AuthorityProposal}
    {proposalHistory : List ProposalHistoryItem} {keys others : List RouteKey}
    (same : ∀ key, keys.contains key = others.contains key) :
    reconcileDescriptions hashDrift application contractFingerprint
        authorityRevision previousRoutes currentProposal liveAuthority
        proposalHistory keys =
      reconcileDescriptions hashDrift application contractFingerprint
        authorityRevision previousRoutes currentProposal liveAuthority
        proposalHistory others := by
  unfold reconcileDescriptions
  simp only [same]

/-- The order of routes that are told apart does not matter. -/
theorem orderless
    {hashDrift : Nat → Nat → String → List AuthorityDriftItem → Nat}
    {previous : Option ApplicationCandidate} {current : ApplicationCandidate}
    {proposalHistory : List ProposalHistoryItem}
    (unambiguous : Unambiguous previous current liveAuthority) :
    Orderless hashRoutes hashDrift previous current contractFingerprint
      authorityRevision liveAuthority proposalHistory := by
  intro otherPrevious otherCurrent previousReorders reorders
  have proposals : proposeAuthority hashRoutes current contractFingerprint
        authorityRevision liveAuthority =
      proposeAuthority hashRoutes otherCurrent contractFingerprint
        authorityRevision liveAuthority :=
    proposeAuthority_reorders reorders unambiguous.currentRoutes
  unfold AuthorityReconciler.reconcile
  cases previousReorders with
  | none =>
      simp only [proposals, reorders.1]
      rfl
  | @some application otherApplication applicationReorders =>
      have previousProposals : proposeAuthority hashRoutes application
            contractFingerprint authorityRevision liveAuthority =
          proposeAuthority hashRoutes otherApplication contractFingerprint
            authorityRevision liveAuthority :=
        proposeAuthority_reorders applicationReorders
          (unambiguous.previousRoutes application rfl)
      simp only [proposals, reorders.1, previousProposals]
      exact reconcileDescriptions_congr (contains_equivalentRouteKeys reorders
        applicationReorders (unambiguous.spellings application rfl))

/-! ## All routes -/

theorem OnceEach.congr {lists : List (List RouteKey)}
    {keys others : List RouteKey} (once : OnceEach lists keys)
    (same : ∀ key, key ∈ keys ↔ key ∈ others) : OnceEach lists others :=
  ⟨once.1, fun key => (once.2 key).trans (same key)⟩

theorem describeRoute_key (route : RouteCandidate) :
    (describeRoute liveAuthority route).key = route.key := by
  rw [RouteDescription.key, describeRoute_method, describeRoute_path]
  rfl

theorem RouteDescription.IsNormal.of_key {route : RouteDescription}
    (normal : normalizePath route.key.2 = route.key.2) : route.IsNormal :=
  normal

theorem mem_routes_key {application : ApplicationCandidate} {key : RouteKey} :
    key ∈ (proposeAuthority hashRoutes application contractFingerprint
        authorityRevision liveAuthority).routes.map RouteDescription.key ↔
      key ∈ application.routes.map RouteCandidate.key := by
  simp only [proposeAuthority, List.mem_map, List.mem_mergeSort]
  constructor
  · rintro ⟨described, ⟨route, member, same⟩, sameKey⟩
    rw [← same, describeRoute_key] at sameKey
    exact ⟨route, member, sameKey⟩
  · rintro ⟨route, member, sameKey⟩
    exact ⟨_, ⟨route, member, rfl⟩, (describeRoute_key route).trans sameKey⟩

theorem isNormal_routes {application : ApplicationCandidate}
    (normal : ∀ key ∈ application.routes.map RouteCandidate.key,
      normalizePath key.2 = key.2) {route : RouteDescription}
    (member : route ∈ (proposeAuthority hashRoutes application
      contractFingerprint authorityRevision liveAuthority).routes) :
    route.IsNormal :=
  .of_key (normal route.key (mem_routes_key.mp (List.mem_map_of_mem member)))

theorem map_key_describeMapping :
    (liveAuthority.toList.map describeMapping).map RouteDescription.key =
      previousKeys none liveAuthority := by
  rw [List.map_map, previousKeys]
  apply List.map_congr_left
  intro entry _
  simp only [Function.comp_apply, describeMapping, RouteDescription.key]

section Reconciled

variable {hashDrift : Nat → Nat → String → List AuthorityDriftItem → Nat}
  {previous : Option ApplicationCandidate} {current : ApplicationCandidate}
  {proposalHistory : List ProposalHistoryItem}

theorem partitions (normal : NormalKeys previous current liveAuthority) :
    Partitions previous current liveAuthority
      (AuthorityReconciler.reconcile hashRoutes hashDrift previous current
        contractFingerprint authorityRevision liveAuthority
        proposalHistory) := by
  have currentNormal : ∀ route ∈ (proposeAuthority hashRoutes current
      contractFingerprint authorityRevision liveAuthority).routes,
      route.IsNormal := fun route =>
    isNormal_routes fun key member => normal key (List.mem_append_left _ member)
  unfold AuthorityReconciler.reconcile
  dsimp only
  refine ⟨?_, ?_, ?_⟩
  · exact (currentSide_onceEach rfl currentNormal).congr
      fun _ => mem_routes_key
  · cases previous with
    | some application =>
        have previousNormal : ∀ route ∈ (proposeAuthority hashRoutes
            application contractFingerprint authorityRevision
            liveAuthority).routes, route.IsNormal := fun route =>
          isNormal_routes fun key member =>
            normal key (List.mem_append_right _ member)
        exact (previousSide_onceEach rfl currentNormal previousNormal).congr
          fun _ => mem_routes_key
    | none =>
        have previousNormal : ∀ route ∈ liveAuthority.toList.map
            describeMapping, route.IsNormal := by
          intro route member
          obtain ⟨entry, stored, rfl⟩ := List.mem_map.mp member
          have listed : (describeMapping entry).key ∈
              previousKeys none liveAuthority := by
            rw [← map_key_describeMapping]
            exact List.mem_map_of_mem (List.mem_map_of_mem stored)
          exact .of_key (normal (describeMapping entry).key
            (List.mem_append_right _ listed))
        refine (previousSide_onceEach rfl currentNormal previousNormal).congr
          fun key => ?_
        rw [map_key_describeMapping]
  · refine (orphaned_perm rfl currentNormal).trans (.of_eq ?_)
    apply List.filter_congr
    intro entry _
    apply congrArg not
    rw [Bool.eq_iff_iff, List.contains_iff_mem, List.contains_iff_mem]
    exact mem_routes_key

end Reconciled

end Orders

/-- Routes whose normal forms are final are divided among the lists of the
result, which has one item of drift for each entry and does not depend on the
order of routes that can be told apart. -/
theorem dividesNormalRoutes (hashRoutes : List RouteDescription → Nat)
    (hashDrift : Nat → Nat → String → List AuthorityDriftItem → Nat)
    (previous : Option ApplicationCandidate) (current : ApplicationCandidate)
    (contractFingerprint : String) (authorityRevision : Nat)
    (liveAuthority : Mappings) (proposalHistory : List ProposalHistoryItem) :
    DividesNormalRoutes hashRoutes hashDrift previous current
      contractFingerprint authorityRevision liveAuthority proposalHistory := by
  constructor
  · exact partitions
  · unfold AuthorityReconciler.reconcile
    exact (oneItemEach_conflicts rfl).1
  · exact orderless

/-! ## A route that is declared twice -/

def reportRoutes : List RouteCandidate :=
  [{ method := "POST"
     path := "/reports"
     source := .express
     capability := some "report.write" },
   { method := "POST"
     path := "/reports"
     source := .express
     capability := some "report.file" }]

/-- What is shown of new routes where nothing was known before. -/
theorem newRoutes_of_sorted {application : ApplicationCandidate}
    (sorted : ((application.routes.map (describeRoute ∅)).mergeSort
        RouteDescription.listedBefore).mergeSort routeOrder =
      application.routes.map (describeRoute ∅)) :
    (AuthorityReconciler.reconcile (fun _ => 0) (fun _ _ _ _ => 0) none
        application "contract" 0 ∅ []).newRoutes =
      (collectByKey (application.routes.map (describeRoute ∅))).toList.map
        Prod.snd := by
  have routes : ((proposeAuthority (fun _ => 0) application "contract" 0
      ∅).routes).mergeSort routeOrder =
        application.routes.map (describeRoute ∅) := sorted
  have noMappings : (∅ : Mappings).toList = [] :=
    Std.ExtTreeMap.toList_eq_nil_iff.mpr rfl
  have nothing : (∅ : KeyedMap RouteKey RouteDescription).toList = [] :=
    Std.ExtTreeMap.toList_eq_nil_iff.mpr rfl
  have all : ∀ collected : KeyedMap RouteKey RouteDescription,
      missingIn ∅ collected = collected.toList.map Prod.snd := by
    intro collected
    simp [missingIn]
  have gone : ∀ collected : KeyedMap RouteKey RouteDescription,
      missingIn collected ∅ = [] := by
    intro collected
    rw [missingIn, nothing]
    rfl
  have collected : collectByKey [] = ∅ := rfl
  simp only [AuthorityReconciler.reconcile, reconcileDescriptions, noMappings,
    List.map_nil, List.mergeSort_nil, collected, routes, all, gone]
  exact unpicked_nil _

/-- The capability that is declared last is the one that is described. -/
theorem reportRoutes_not_dividesRoutes :
    ¬∀ (hashRoutes : List RouteDescription → Nat)
      (hashDrift : Nat → Nat → String → List AuthorityDriftItem → Nat)
      (previous : Option ApplicationCandidate)
      (current : ApplicationCandidate) (contractFingerprint : String)
      (authorityRevision : Nat) (liveAuthority : Mappings)
      (proposalHistory : List ProposalHistoryItem),
      DividesRoutes hashRoutes hashDrift previous current contractFingerprint
        authorityRevision liveAuthority proposalHistory := by
  intro divides
  have order := (divides (fun _ => 0) (fun _ _ _ _ => 0) none
    { name := none, routes := reportRoutes } "contract" 0 ∅ []).order none
    { name := none, routes := reportRoutes.reverse } .none
    ⟨rfl, (List.reverse_perm _).symm⟩
  have shown := congrArg ReconciliationResult.newRoutes order
  have alike : ∀ routes : List RouteDescription,
      routes.Pairwise (fun first second =>
        RouteDescription.listedBefore first second = true) →
      routes.Pairwise (fun first second => routeOrder first second = true) →
      (routes.mergeSort RouteDescription.listedBefore).mergeSort routeOrder =
        routes := by
    intro routes listed ordered
    rw [List.mergeSort_of_pairwise listed, List.mergeSort_of_pairwise ordered]
  rw [newRoutes_of_sorted (alike _ (by decide +kernel) (by decide +kernel)),
    newRoutes_of_sorted (alike _ (by decide +kernel) (by decide +kernel))]
    at shown
  have capabilities := congrArg (List.map (·.capability)) shown
  exact absurd capabilities (by decide +kernel)

end Discovery

end AuthBoundry
