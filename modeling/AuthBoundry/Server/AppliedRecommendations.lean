import AuthBoundry.Boundary.ProtectedRoutes
import AuthBoundry.Library.Segments
import AuthBoundry.Server.Recommendations
import AuthBoundry.Server.Server

/-!
# Recommendations that become protections

The proposal that is attached to a recommendation is about the normal form of
the route's path, while a live protection is found under the path of the request
as it is.
-/

namespace AuthBoundry

open Discovery
open Library

/-! ## Routes and their paths -/

/-- A parameter of the route stands for any part of a path but the empty one,
every other part for itself. -/
def RouteHasPath (route : RouteCandidate) (path : String) : Prop :=
  IsInstance '/' (fun part => isParameterPart (String.ofList part))
    route.path.toList path.toList

def WithoutParameters (route : RouteCandidate) : Prop :=
  IsLiteral '/' (fun part => isParameterPart (String.ofList part))
    route.path.toList

instance (route : RouteCandidate) : Decidable (WithoutParameters route) :=
  inferInstanceAs (Decidable (IsLiteral _ _ _))

theorem routeHasPath_iff_eq {route : RouteCandidate} {path : String}
    (literal : WithoutParameters route) :
    RouteHasPath route path ↔ path = route.path := by
  unfold RouteHasPath
  rw [isInstance_iff_eq literal, String.toList_inj]

theorem exists_routeHasPath_notMem {route : RouteCandidate}
    (parameters : ¬WithoutParameters route) (known : List String) :
    ∃ path, RouteHasPath route path ∧ path ∉ known := by
  have apart : 'a' ≠ '/' := by decide
  obtain ⟨path, isInstance, unknown⟩ :=
    exists_isInstance_notMem apart parameters (known.map String.toList)
  refine ⟨String.ofList path, ?_, ?_⟩
  · unfold RouteHasPath
    rw [String.toList_ofList]
    exact isInstance
  · intro member
    apply unknown
    exact List.mem_map.mpr ⟨_, member, String.toList_ofList⟩

namespace AuthPortServer

variable {self : AuthPortServer} {request : BoundaryRequest}
  {requirement : Requirement}

/-- Without a live protection the application's own requirement counts. -/
theorem applicationRequirement_unprotected
    (matched : self.app.resolve request.method request.path =
      .matched requirement)
    (unprotected : self.runtime.getRouteProtection request.method
      request.path = none) :
    self.applicationRequirement request = .ok requirement := by
  simp only [applicationRequirement, matched, unprotected]

theorem applicationRequirement_protected {capability : String}
    (matched : self.app.resolve request.method request.path =
      .matched requirement)
    (inForce : self.runtime.getRouteProtection request.method request.path =
      some capability) :
    self.applicationRequirement request = .ok (.capability capability) := by
  simp only [applicationRequirement, matched, inForce]

end AuthPortServer

/-! ## What a protection has to do -/

/-- Every request for the route is held to the capability, whatever the
application that has a route for it asks for, and the change protects no path
that is not one of the route's. -/
structure Honoured (runtime : AuthPortRuntime) (change : AuthorityChange)
    (route : RouteCandidate) (capability : String) : Prop where
  enforced : ∀ (app : ApplicationBinding) (request : BoundaryRequest)
    (requirement : Requirement),
    Method.parse route.method = some request.method →
    RouteHasPath route request.path →
    app.resolve request.method request.path = .matched requirement →
    ({ runtime, app } : AuthPortServer).applicationRequirement request =
      .ok (.capability capability)
  confined : ∀ routeId, change.protectedRoute = some routeId →
    RouteHasPath route routeId.path

def PlainlySpelled (route : RouteCandidate) : Prop :=
  normalizePath route.path = route.path ∧ WithoutParameters route

/-- A protection in force does what it has to do if it is under the route's own
path and the route has no parameter. -/
theorem honoured_iff {runtime : AuthPortRuntime} {method : Method}
    {route : RouteCandidate} {protectedPath capability : String}
    (named : Method.parse route.method = some method)
    (inForce : runtime.getRouteProtection method protectedPath =
      some capability) :
    Honoured runtime (.protectRoute method protectedPath capability) route
        capability ↔
      protectedPath = route.path ∧ WithoutParameters route := by
  constructor
  · intro honoured
    have ownPath : RouteHasPath route protectedPath :=
      honoured.confined { method, path := protectedPath } rfl
    have literal : WithoutParameters route := by
      by_contra parameters
      -- A path of the route that no live protection is for.
      obtain ⟨path, hasPath, unprotected⟩ := exists_routeHasPath_notMem
        parameters (runtime.authority.routeProtection.keys.map RouteId.path)
      let app : ApplicationBinding :=
        { resolve := fun _ _ => .matched .publicAccess
          handle := fun _ _ => .html 200 ""
          upgrade := fun _ _ => false }
      have enforced := honoured.enforced app (.new method path) .publicAccess
        named hasPath rfl
      have absent : runtime.authority.routeProtection[
          ({ method, path } : RouteId)]? = none := by
        cases found : runtime.authority.routeProtection[
            ({ method, path } : RouteId)]? with
        | none => rfl
        | some protection =>
            have member : ({ method, path } : RouteId) ∈
                runtime.authority.routeProtection := by
              rw [Std.ExtTreeMap.mem_iff_isSome_getElem?, found]
              rfl
            exact (unprotected (List.mem_map.mpr
              ⟨_, Std.ExtTreeMap.mem_keys.mpr member, rfl⟩)).elim
      have unheld : runtime.getRouteProtection method path = none := by
        unfold AuthPortRuntime.getRouteProtection
        rw [absent]
        rfl
      have isPublic : ({ runtime, app } : AuthPortServer).applicationRequirement
          (.new method path) = .ok .publicAccess :=
        AuthPortServer.applicationRequirement_unprotected rfl unheld
      rw [isPublic] at enforced
      cases enforced
    exact ⟨(routeHasPath_iff_eq literal).mp ownPath, literal⟩
  · rintro ⟨normal, literal⟩
    subst normal
    constructor
    · intro app request requirement sameMethod hasPath matched
      have samePath := (routeHasPath_iff_eq literal).mp hasPath
      rw [named] at sameMethod
      have method_eq := Option.some.inj sameMethod
      rw [← samePath, method_eq] at inForce
      exact AuthPortServer.applicationRequirement_protected matched inForce
    · intro routeId protects
      cases protects
      exact (routeHasPath_iff_eq literal).mpr rfl

/-! ## Recommendations that are applied -/

def MadeFor (hashRoutes : List RouteDescription → Nat)
    (observedRoutes : List RouteCandidate)
    (self : ProposalRuntime MemoryProposalStore) (route : RouteCandidate)
    (recommendation : AuthorityRecommendation) : Prop :=
  ∃ id status, recommendation =
    { AuthorityRecommendation.ofRoute self.fingerprint
        (liveProposal hashRoutes observedRoutes self).discoveryRevision
        self.authority.revision
        (describeRoute (authorityMappings self.authority) route) with
      id, status }

/-- A report is produced and other calls follow. -/
structure ReportRun where
  hashChange : AuthorityChange → UInt64
  revision : Nat
  hashRoutes : List RouteDescription → Nat
  clock : Nat → Nat
  report : AuthorityReport
  observedRoutes : List RouteCandidate
  history : ProposalHistory
  calls : List ControlCall

namespace ReportRun

def produced (self : ReportRun) :
    List AuthorityRecommendation × ProposalRuntime MemoryProposalStore :=
  self.report.produce self.hashRoutes self.clock self.observedRoutes
    self.history.runtime

/-- Where the calls lead that follow the report. -/
def last (self : ReportRun) : ProposalHistory :=
  (ProposalHistory.system self.hashChange self.revision).run
    { self.history with runtime := self.produced.2 } self.calls

def Reachable (self : ReportRun) : Prop :=
  (ProposalHistory.system self.hashChange self.revision).Reachable self.history

/-- The proposal attached to the recommendation to protect a route was applied,
which left the record, and no later change touches its route. -/
structure Applies (run : ReportRun) (route : RouteCandidate)
    (capability : String) (record : ChangeRecord) : Prop where
  observed : route ∈ run.observedRoutes
  recommended : ∃ recommendation ∈ run.produced.1,
    MadeFor run.hashRoutes run.observedRoutes run.history.runtime route
        recommendation ∧
      recommendation.action = .protectRoute ∧
      recommendation.capability = some capability ∧
      recommendation.id = some record.proposalId
  applied : ∃ changeId : String,
    run.last.runtime.proposals.changes[changeId]? = some record
  untouched : ∀ routeId, record.change.protectedRoute = some routeId →
    UntouchedSince run.last.runtime.proposals record routeId

variable {self : ReportRun} {route : RouteCandidate} {capability : String}
  {record : ChangeRecord}

theorem Applies.change_eq (reachable : self.Reachable)
    (applies : self.Applies route capability record) :
    ∃ method, Method.parse route.method = some method ∧
      record.change =
        .protectRoute method (normalizePath route.path) capability := by
  obtain ⟨recommendation, listed, ⟨id, status, rfl⟩, _, isCapability, named⟩ :=
    applies.recommended
  have attached := @AuthorityReport.produce_attached self.hashChange
    self.revision self.history self.clock self.hashRoutes self.observedRoutes
    self.report reachable
  obtain ⟨method, found, proposal, isMethod, sameCapability, stored, change⟩ :=
    attached.names _ listed record.proposalId named
  rw [isCapability] at sameCapability
  cases sameCapability
  -- The stored proposal keeps its change until it is applied.
  obtain ⟨later, laterStored, sameChange⟩ :=
    ProposalHistory.run_keepsChanges attached.reached self.calls
      record.proposalId proposal stored
  obtain ⟨changeId, recorded⟩ := applies.applied
  obtain ⟨held, heldStored, heldChange⟩ :=
    ProposalHistory.reachable_recordsStored (attached.reached.run self.calls)
      changeId record recorded
  rw [laterStored] at heldStored
  cases heldStored
  simp only [AuthorityRecommendation.ofRoute, describeRoute_path,
    describeRoute_method] at isMethod change
  refine ⟨method, isMethod, ?_⟩
  rw [← heldChange, sameChange, change]

/-- An applied recommendation does what it has to do exactly if the route is
spelled in its normal form and has no parameter. -/
theorem honoured_last_iff (reachable : self.Reachable)
    (applies : self.Applies route capability record) :
    Honoured self.last.runtime.runtime record.change route capability ↔
      PlainlySpelled route := by
  obtain ⟨method, isMethod, change⟩ := applies.change_eq reachable
  have attached := @AuthorityReport.produce_attached self.hashChange
    self.revision self.history self.clock self.hashRoutes self.observedRoutes
    self.report reachable
  obtain ⟨initial, records, journal⟩ :=
    ProposalHistory.reachable_journal (attached.reached.run self.calls)
  obtain ⟨changeId, recorded⟩ := applies.applied
  have inForce := journal.getRouteProtection_eq recorded change
    (applies.untouched _ (by rw [change]; rfl))
  rw [change]
  exact honoured_iff isMethod inForce

end ReportRun

/-! ## Invoices that anybody may create -/

/-- An application that creates invoices at a path for whoever asks. -/
def invoiceApp (path : String) : RouterApp :=
  RouterApp.new.publicRoute .post path
    { box := 0, answer := fun _ _ => .html 200 "created" }

def invoiceRoute (path : String) : RouteCandidate :=
  { method := "POST", path, source := .embedded, capability := none }

def invoiceRun (path : String) : ReportRun :=
  { hashChange := fun _ => 0
    revision := 0
    hashRoutes := fun _ => 0
    clock := fun _ => 0
    report := .authorityProposal
    observedRoutes := (invoiceApp path).observedRoutes
    history := quietHistory
    calls :=
      [quietCall (.approve "proposal-1"),
        quietCall (.apply (.approved "proposal-1") trivial)] }

/-- What discovery makes of the route. -/
def invoiceDescription : RouteDescription :=
  describeRoute ∅ (invoiceRoute "/invoices")

def protectedInvoices : LiveAuthorityState :=
  { LiveAuthorityState.new with
    routeProtection :=
      LiveAuthorityState.new.routeProtection.insert
        { method := .post, path := "/invoices" }
        { capability := some "invoice.create" }
    revision := 1 }

/-- The proposal that is attached. -/
def invoiceProposal : StoredProposal :=
  quietRuntime.proposedChange (fun _ => 0)
    (.protectRoute .post "/invoices" "invoice.create") .inferred 0
    protectedInvoices

theorem invoiceRun_produced {path : String}
    (described : describeRoute ∅ (invoiceRoute path) = invoiceDescription) :
    (invoiceRun path).produced =
      ([{ AuthorityRecommendation.ofRoute quietRuntime.fingerprint 0 0
            invoiceDescription with
          id := some "proposal-1"
          status := .recommended }],
        quietRuntime.withStored invoiceProposal) := by
  have proposals : (liveProposal (fun _ => 0) [invoiceRoute path]
      quietRuntime).recommendations =
        [.ofRoute quietRuntime.fingerprint 0 0 invoiceDescription] := by
    have noMappings : authorityMappings quietRuntime.authority = ∅ := rfl
    simp only [liveProposal, proposeAuthority, liveApplication, noMappings,
      List.map_cons, List.map_nil, described, List.mergeSort_singleton]
    rfl
  have ensured : ProposalRuntime.ensureProposal (fun _ => 0)
      (.protectRoute .post "/invoices" "invoice.create") .inferred 0
      quietRuntime =
        .ok invoiceProposal (quietRuntime.withStored invoiceProposal) :=
    ProposalRuntime.ensureProposal_new rfl rfl rfl
  have attached : attachProposal (fun _ => 0) 0 0
      (.ofRoute quietRuntime.fingerprint 0 0 invoiceDescription)
      quietRuntime =
        ({ AuthorityRecommendation.ofRoute quietRuntime.fingerprint 0 0
            invoiceDescription with
          id := some "proposal-1"
          status := .recommended },
          quietRuntime.withStored invoiceProposal) := by
    have isMethod : Method.parse invoiceDescription.method = some .post := by
      decide +kernel
    have isPath : invoiceDescription.path = "/invoices" := by decide +kernel
    have isCapability : invoiceDescription.capability.or
        (invoiceDescription.inference.map (·.capability)) =
          some "invoice.create" := by
      decide +kernel
    simp only [attachProposal, AuthorityRecommendation.ofRoute, isMethod,
      isCapability, isPath, ensured]
    rfl
  have chosen : invoiceDescription.recommendedAction = .protectRoute := by
    decide +kernel
  change attachProposals (fun _ => 0) 0 0 (·.action == .protectRoute) 0
    (liveProposal (fun _ => 0) [invoiceRoute path] quietRuntime).recommendations
    quietRuntime = _
  rw [proposals]
  simp only [attachProposals]
  rw [if_pos (by rw [AuthorityRecommendation.ofRoute, chosen]; rfl), attached]

def approvedInvoices : ProposalRuntime MemoryProposalStore :=
  (quietRuntime.withStored invoiceProposal).withApproved "proposal-1"
    invoiceProposal

def invoiceRecord : ChangeRecord :=
  approvedInvoices.appliedRecord (fun _ => 0)
    { invoiceProposal with status := .approved } protectedInvoices

theorem invoiceRun_last {path : String}
    (described : describeRoute ∅ (invoiceRoute path) = invoiceDescription) :
    (invoiceRun path).last =
      { runtime := approvedInvoices.withApplied (fun _ => 0)
          { invoiceProposal with status := .approved } protectedInvoices
        applied := ["proposal-1"] } := by
  have stored : (quietRuntime.withStored invoiceProposal).proposals.proposals[
      invoiceProposal.id]? = some invoiceProposal :=
    Std.ExtTreeMap.getElem?_insert_self
  have current : (quietRuntime.withStored invoiceProposal).IsCurrent
      invoiceProposal :=
    ⟨rfl, rfl⟩
  have performed := @ProposalHistory.run_approvedCalls (fun _ => 0)
    { quietHistory with runtime := quietRuntime.withStored invoiceProposal }
    (fun _ => 0) protectedInvoices 0 invoiceProposal stored rfl current rfl
  unfold ReportRun.last
  rw [invoiceRun_produced described]
  exact performed

theorem invoiceRun_authority {path : String}
    (described : describeRoute ∅ (invoiceRoute path) = invoiceDescription) :
    (invoiceRun path).last.runtime.runtime.authority = protectedInvoices := by
  rw [invoiceRun_last described]
  rfl

theorem invoiceRun_applies {path : String}
    (described : describeRoute ∅ (invoiceRoute path) = invoiceDescription) :
    (invoiceRun path).Applies (invoiceRoute path) "invoice.create"
      invoiceRecord := by
  have last := invoiceRun_last described
  constructor
  · exact List.mem_singleton.mpr rfl
  · rw [invoiceRun_produced described]
    refine ⟨_, List.mem_singleton.mpr rfl,
      ⟨some "proposal-1", .recommended, ?_⟩, ?_, ?_, rfl⟩
    · have noMappings : authorityMappings
          (invoiceRun path).history.runtime.authority = ∅ := rfl
      rw [noMappings, described]
      rfl
    · have chosen : invoiceDescription.recommendedAction = .protectRoute := by
        decide +kernel
      exact chosen
    · have isCapability : invoiceDescription.capability.or
          (invoiceDescription.inference.map (·.capability)) =
            some "invoice.create" := by
        decide +kernel
      exact isCapability
  · refine ⟨invoiceRecord.changeId, ?_⟩
    rw [last]
    exact Std.ExtTreeMap.getElem?_insert_self
  · intro routeId _ changeId later found above
    have stored : ((∅ : KeyedMap String ChangeRecord).insert
        invoiceRecord.changeId invoiceRecord)[changeId]? = some later := by
      rw [last] at found
      exact found
    have only : later = invoiceRecord := by
      rw [KeyedMap.getElem?_insert_eq] at stored
      split at stored
      · exact (Option.some.inj stored).symm
      · simp at stored
    rw [only] at above
    exact (Nat.lt_irrefl _ above).elim

/-- The protection of the invoices is honoured where their path is in lower
case. -/
theorem plainInvoices_honoured :
    Honoured (invoiceRun "/invoices").last.runtime.runtime
      invoiceRecord.change (invoiceRoute "/invoices") "invoice.create" := by
  have reachable : (invoiceRun "/invoices").Reachable :=
    .start quietHistory_fresh
  exact (ReportRun.honoured_last_iff reachable (invoiceRun_applies rfl)).mpr
    ⟨by decide +kernel, by decide +kernel⟩

/-- Without a protection under the path with a capital, everybody may create
invoices there. -/
theorem capitalInvoices_public {runtime : AuthPortRuntime}
    (unprotected : runtime.getRouteProtection .post "/Invoices" = none) :
    ({ runtime, app := (invoiceApp "/Invoices").binding } :
        AuthPortServer).applicationRequirement (.new .post "/Invoices") =
      .ok .publicAccess ∧
      ∀ change, ¬Honoured runtime change (invoiceRoute "/Invoices")
        "invoice.create" := by
  have resolved : (invoiceApp "/Invoices").binding.resolve .post "/Invoices" =
      .matched .publicAccess := by
    decide +kernel
  have isPublic :
      ({ runtime, app := (invoiceApp "/Invoices").binding } :
        AuthPortServer).applicationRequirement (.new .post "/Invoices") =
          .ok .publicAccess :=
    AuthPortServer.applicationRequirement_unprotected resolved unprotected
  refine ⟨isPublic, ?_⟩
  intro change honoured
  have ownPath : RouteHasPath (invoiceRoute "/Invoices") "/Invoices" :=
    (routeHasPath_iff_eq (by decide +kernel)).mpr rfl
  have enforced := honoured.enforced (invoiceApp "/Invoices").binding
    (.new .post "/Invoices") .publicAccess (by decide +kernel) ownPath resolved
  rw [isPublic] at enforced
  cases enforced

/-- With a capital in their path the invoices stay public, although the
recommendation to protect them was applied. -/
theorem capitalInvoices_unhonoured :
    (invoiceRun "/Invoices").Reachable ∧
      (invoiceRun "/Invoices").Applies (invoiceRoute "/Invoices")
        "invoice.create" invoiceRecord ∧
      ({ runtime := (invoiceRun "/Invoices").last.runtime.runtime
         app := (invoiceApp "/Invoices").binding } :
          AuthPortServer).applicationRequirement (.new .post "/Invoices") =
        .ok .publicAccess ∧
      ¬Honoured (invoiceRun "/Invoices").last.runtime.runtime
          invoiceRecord.change (invoiceRoute "/Invoices") "invoice.create" := by
  have described : describeRoute ∅ (invoiceRoute "/Invoices") =
      invoiceDescription := by
    decide +kernel
  have unprotected : AuthPortRuntime.getRouteProtection
      (invoiceRun "/Invoices").last.runtime.runtime .post "/Invoices" =
        none := by
    have different : ({ method := .post, path := "/invoices" } : RouteId) ≠
        { method := .post, path := "/Invoices" } := by
      decide
    have absent : protectedInvoices.routeProtection[
        ({ method := .post, path := "/Invoices" } : RouteId)]? = none := by
      refine (KeyedMap.getElem?_insert_of_ne _ _ different).trans ?_
      exact Std.ExtTreeMap.getElem?_empty
    unfold AuthPortRuntime.getRouteProtection
    rw [invoiceRun_authority described, absent]
    rfl
  obtain ⟨isPublic, unhonoured⟩ := capitalInvoices_public unprotected
  exact ⟨.start quietHistory_fresh, invoiceRun_applies described, isPublic,
    unhonoured _⟩

end AuthBoundry
