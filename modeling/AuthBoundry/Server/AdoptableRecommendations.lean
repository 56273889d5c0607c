import AuthBoundry.Boundary.ReusedProposals
import AuthBoundry.Library.Pairing
import AuthBoundry.Server.AppliedRecommendations

/-!
# Recommendations that can be adopted

Reading the authority proposal stores a proposal for every protection that is
recommended, unless one is found for the same contract and the same discovery.
The one that is found may have been made at an earlier revision.
-/

namespace AuthBoundry

open Discovery
open Library
open Library.Stateful
open MemoryProposalStore (port)

/-! ## The loop over the recommendations -/

namespace ProposalRuntime

open ProposalHistory

variable {self middle after : ProposalRuntime MemoryProposalStore}
  {clock : Nat → Nat} {currentRevision discoveryRevision index : Nat}
  {recommendation : AuthorityRecommendation}
  {recommendations : List AuthorityRecommendation}
  {chosen : AuthorityRecommendation → Bool}

/-- The ids are given in order, and every proposal is under its own. -/
structure Orderly (runtime : ProposalRuntime MemoryProposalStore) : Prop where
  unallocated : Unallocated runtime
  keyed : KeyedMap.KeyedBy StoredProposal.id runtime.proposals.proposals

/-- Proposals were made for protections that had none; whatever was found is
found still. -/
structure MakesMissing (discoveryRevision : Nat)
    (before after : ProposalRuntime MemoryProposalStore) : Prop where
  orderly : Orderly after
  authority : after.authority = before.authority
  fingerprint : after.fingerprint = before.fingerprint
  kept : ∀ {method path capability existing},
    before.foundProtection discoveryRevision method path capability =
      some existing →
    after.foundProtection discoveryRevision method path capability =
      some existing
  made : ∀ {method path capability existing},
    before.foundProtection discoveryRevision method path capability = none →
    after.foundProtection discoveryRevision method path capability =
      some existing →
    existing.status = .pending ∧
      existing.revision = before.authority.revision

namespace MakesMissing

theorem refl (orderly : Orderly self) :
    MakesMissing discoveryRevision self self where
  orderly := orderly
  authority := rfl
  fingerprint := rfl
  kept found := found
  made absent found := by
    rw [absent] at found
    cases found

theorem trans (first : MakesMissing discoveryRevision self middle)
    (second : MakesMissing discoveryRevision middle after) :
    MakesMissing discoveryRevision self after where
  orderly := second.orderly
  authority := second.authority.trans first.authority
  fingerprint := second.fingerprint.trans first.fingerprint
  kept found := second.kept (first.kept found)
  made {method path capability existing} absent found := by
    cases between : middle.foundProtection discoveryRevision method path
        capability with
    | none =>
        obtain ⟨pending, revision⟩ := second.made between found
        exact ⟨pending, revision.trans (congrArg _ first.authority)⟩
    | some earlier =>
        have same := second.kept between
        rw [found] at same
        cases same
        exact first.made absent between

end MakesMissing

theorem withProtection_makesMissing {source : ProposalSource}
    {method : Method} {path capability : String} (orderly : Orderly self)
    (absent : self.foundProtection discoveryRevision method path capability =
      none) :
    MakesMissing discoveryRevision self
      (self.withProtection clock source discoveryRevision method path
        capability).2 where
  orderly :=
    ⟨withProtection_unallocated orderly.unallocated,
      withProtection_keyed orderly.keyed⟩
  authority := rfl
  fingerprint := rfl
  kept {otherMethod otherPath otherCapability existing} found := by
    rw [foundProtection_withProtection_of_ne orderly.unallocated]
    · exact found
    · intro same
      cases same
      rw [absent] at found
      cases found
  made {otherMethod otherPath otherCapability existing} missing found := by
    by_cases same : AuthorityChange.protectRoute method path capability =
        .protectRoute otherMethod otherPath otherCapability
    · cases same
      rw [foundProtection_withProtection absent] at found
      cases found
      exact ⟨rfl, rfl⟩
    · rw [foundProtection_withProtection_of_ne orderly.unallocated same,
        missing] at found
      cases found

/-- What is attached to a recommendation to protect a route is the proposal
that is found for it afterwards. -/
structure Attaches (discoveryRevision : Nat)
    (chosen : AuthorityRecommendation → Bool)
    (after : ProposalRuntime MemoryProposalStore)
    (recommendation attached : AuthorityRecommendation) : Prop where
  same : ∃ id status, attached = { recommendation with id, status }
  found : chosen recommendation = true →
    ∀ {method capability}, Method.parse recommendation.method = some method →
      recommendation.capability = some capability →
      ∃ existing, after.foundProtection discoveryRevision method
          recommendation.path capability = some existing ∧
        attached.id = some existing.id

theorem Attaches.mono {attached : AuthorityRecommendation}
    (attaches : Attaches discoveryRevision chosen middle recommendation
      attached)
    (later : MakesMissing discoveryRevision middle after) :
    Attaches discoveryRevision chosen after recommendation attached where
  same := attaches.same
  found isChosen {method capability} isMethod isCapability := by
    obtain ⟨existing, found, id⟩ :=
      attaches.found isChosen isMethod isCapability
    exact ⟨existing, later.kept found, id⟩

theorem attachProposal_attaches (orderly : Orderly self) :
    MakesMissing discoveryRevision self
        (attachProposal clock currentRevision discoveryRevision recommendation
          self).2 ∧
      Attaches discoveryRevision chosen
        (attachProposal clock currentRevision discoveryRevision recommendation
          self).2
        recommendation
        (attachProposal clock currentRevision discoveryRevision recommendation
          self).1 := by
  unfold attachProposal
  cases isMethod : Method.parse recommendation.method with
  | none =>
      refine ⟨.refl orderly, ⟨_, _, rfl⟩, ?_⟩
      intro _ method capability named
      rw [isMethod] at named
      cases named
  | some method =>
      cases isCapability : recommendation.capability with
      | none =>
          refine ⟨.refl orderly, ⟨_, _, rfl⟩, ?_⟩
          intro _ _ capability _ named
          rw [isCapability] at named
          cases named
      | some capability =>
          dsimp only
          rw [ensureProposal_protectRoute orderly.unallocated]
          cases found : self.foundProtection discoveryRevision method
              recommendation.path capability with
          | some existing =>
              refine ⟨.refl orderly, ⟨some existing.id,
                reviewStatusOf currentRevision existing,
                by dsimp only; rw [isCapability]⟩, ?_⟩
              intro _ otherMethod otherCapability sameMethod sameCapability
              rw [isMethod] at sameMethod
              rw [isCapability] at sameCapability
              cases sameMethod
              cases sameCapability
              exact ⟨existing, found, rfl⟩
          | none =>
              let made := (self.withProtection clock .inferred
                discoveryRevision method recommendation.path capability).1
              refine ⟨withProtection_makesMissing orderly found,
                ⟨some made.id, reviewStatusOf currentRevision made,
                  by dsimp only; rw [isCapability]⟩, ?_⟩
              intro _ otherMethod otherCapability sameMethod sameCapability
              rw [isMethod] at sameMethod
              rw [isCapability] at sameCapability
              cases sameMethod
              cases sameCapability
              exact ⟨_, foundProtection_withProtection found, rfl⟩

theorem attachProposals_attaches (orderly : Orderly self) :
    MakesMissing discoveryRevision self
        (attachProposals clock currentRevision discoveryRevision chosen index
          recommendations self).2 ∧
      List.Forall₂
        (Attaches discoveryRevision chosen
          (attachProposals clock currentRevision discoveryRevision chosen index
            recommendations self).2)
        recommendations
        (attachProposals clock currentRevision discoveryRevision chosen index
          recommendations self).1 := by
  induction recommendations generalizing self index with
  | nil => exact ⟨.refl orderly, .nil⟩
  | cons recommendation rest induction =>
      unfold attachProposals
      dsimp only
      by_cases isChosen : chosen recommendation = true
      · rw [if_pos isChosen]
        obtain ⟨makes, attaches⟩ := @attachProposal_attaches self
          (fun reading => clock (index + reading)) currentRevision
          discoveryRevision recommendation chosen orderly
        obtain ⟨later, others⟩ := @induction _ (index + 1) makes.orderly
        exact ⟨makes.trans later, .cons (attaches.mono later) others⟩
      · rw [if_neg isChosen]
        obtain ⟨later, others⟩ := @induction self (index + 1) orderly
        refine ⟨later, .cons ⟨⟨_, _, rfl⟩, ?_⟩ others⟩
        intro taken
        exact (isChosen taken).elim

/-- Where all that is recommended is found, the loop makes nothing. -/
theorem attachProposals_unchanged (orderly : Orderly self)
    (found : ∀ recommendation ∈ recommendations,
      chosen recommendation = true →
      ∀ {method capability},
        Method.parse recommendation.method = some method →
        recommendation.capability = some capability →
        ∃ existing, self.foundProtection discoveryRevision method
          recommendation.path capability = some existing) :
    (attachProposals clock currentRevision discoveryRevision chosen index
      recommendations self).2 = self := by
  induction recommendations generalizing index with
  | nil => rfl
  | cons recommendation rest induction =>
      obtain ⟨first, others⟩ := List.forall_mem_cons.mp found
      unfold attachProposals
      dsimp only
      by_cases isChosen : chosen recommendation = true
      · rw [if_pos isChosen]
        have unchanged : (attachProposal
            (fun reading => clock (index + reading)) currentRevision
            discoveryRevision recommendation self).2 = self := by
          unfold attachProposal
          cases isMethod : Method.parse recommendation.method with
          | none => rfl
          | some method =>
              cases isCapability : recommendation.capability with
              | none => rfl
              | some capability =>
                  obtain ⟨existing, there⟩ :=
                    first isChosen isMethod isCapability
                  dsimp only
                  rw [ensureProposal_protectRoute orderly.unallocated, there]
        rw [unchanged]
        exact induction others
      · rw [if_neg isChosen]
        exact induction others

end ProposalRuntime

/-! ## Reading the authority proposal -/

/-- The recommendation has the id of a stored proposal for exactly the
protection it asks for, which was rejected or can be adopted. -/
def CarriesAdoptable (hashChange : AuthorityChange → UInt64)
    (self : ProposalRuntime MemoryProposalStore)
    (recommendation : AuthorityRecommendation) : Prop :=
  ∃ proposalId method capability proposal,
    recommendation.id = some proposalId ∧
      Method.parse recommendation.method = some method ∧
      recommendation.capability = some capability ∧
      self.proposals.proposals[proposalId]? = some proposal ∧
      proposal.change = .protectRoute method recommendation.path capability ∧
      (proposal.status = .rejected ∨
        ProposalRuntime.CanBeAdopted hashChange self proposalId)

/-- Whoever reads the authority proposal can adopt every protection that it
recommends, and reading it again makes nothing more. -/
structure KeepsAdoptable (hashChange : AuthorityChange → UInt64)
    (hashRoutes : List RouteDescription → Nat) (clock : Nat → Nat)
    (observedRoutes : List RouteCandidate)
    (runtime : ProposalRuntime MemoryProposalStore) : Prop where
  adoptable : ∀ recommendation ∈ (AuthorityReport.authorityProposal.produce
      hashRoutes clock observedRoutes runtime).1,
    recommendation.action = .protectRoute →
    CarriesAdoptable hashChange
      (AuthorityReport.authorityProposal.produce hashRoutes clock
        observedRoutes runtime).2
      recommendation
  settled : ∀ later : Nat → Nat,
    (AuthorityReport.authorityProposal.produce hashRoutes later observedRoutes
      (AuthorityReport.authorityProposal.produce hashRoutes clock
        observedRoutes runtime).2).2.proposals =
      (AuthorityReport.authorityProposal.produce hashRoutes clock
        observedRoutes runtime).2.proposals

/-- The method of every protection that is recommended is known.  Where a
proposal is found for it already, that was rejected, or it still awaits its
review or its application and was made at the revision in force. -/
def FoundReviewable (hashRoutes : List RouteDescription → Nat)
    (observedRoutes : List RouteCandidate)
    (runtime : ProposalRuntime MemoryProposalStore) : Prop :=
  ∀ recommendation ∈
      (liveProposal hashRoutes observedRoutes runtime).recommendations,
    recommendation.action = .protectRoute →
    ∃ method, Method.parse recommendation.method = some method ∧
      ∀ capability existing, recommendation.capability = some capability →
        runtime.foundProtection
            (liveProposal hashRoutes observedRoutes runtime).discoveryRevision
            method recommendation.path capability = some existing →
        existing.status = .rejected ∨
          (existing.status = .pending ∨ existing.status = .approved) ∧
            existing.revision = runtime.authority.revision

section Reading

variable {hashChange : AuthorityChange → UInt64} {revision : Nat}
  {history : ProposalHistory} {clock : Nat → Nat}
  {hashRoutes : List RouteDescription → Nat}
  {observedRoutes : List RouteCandidate}
  {self : ProposalRuntime MemoryProposalStore}

theorem capability_of_protectRoute {recommendation : AuthorityRecommendation}
    (listed : recommendation ∈
      (liveProposal hashRoutes observedRoutes self).recommendations)
    (action : recommendation.action = .protectRoute) :
    ∃ capability, recommendation.capability = some capability := by
  obtain ⟨route, _, rfl⟩ := mem_recommendations_iff.mp listed
  obtain ⟨inference, isInference, unmapped, _, _⟩ :=
    recommendedAction_eq_protectRoute action
  refine ⟨inference.capability, ?_⟩
  dsimp only [AuthorityRecommendation.ofRoute]
  rw [unmapped, isInference]
  rfl

theorem liveProposal_makesMissing
    {after : ProposalRuntime MemoryProposalStore} {discoveryRevision : Nat}
    (makes : ProposalRuntime.MakesMissing discoveryRevision self after) :
    liveProposal hashRoutes observedRoutes after =
      liveProposal hashRoutes observedRoutes self := by
  unfold liveProposal
  rw [makes.authority, makes.fingerprint]

theorem produce_attaches (orderly : self.Orderly) :
    ProposalRuntime.MakesMissing
        (liveProposal hashRoutes observedRoutes self).discoveryRevision self
        (AuthorityReport.authorityProposal.produce hashRoutes clock
          observedRoutes self).2 ∧
      List.Forall₂
        (ProposalRuntime.Attaches
          (liveProposal hashRoutes observedRoutes self).discoveryRevision
          (·.action == .protectRoute)
          (AuthorityReport.authorityProposal.produce hashRoutes clock
            observedRoutes self).2)
        (liveProposal hashRoutes observedRoutes self).recommendations
        (AuthorityReport.authorityProposal.produce hashRoutes clock
          observedRoutes self).1 :=
  ProposalRuntime.attachProposals_attaches orderly

/-- Reading the authority proposal again makes nothing. -/
theorem produce_settled (orderly : self.Orderly) (later : Nat → Nat) :
    (AuthorityReport.authorityProposal.produce hashRoutes later observedRoutes
      (AuthorityReport.authorityProposal.produce hashRoutes clock
        observedRoutes self).2).2 =
      (AuthorityReport.authorityProposal.produce hashRoutes clock
        observedRoutes self).2 := by
  obtain ⟨makes, attaches⟩ := @produce_attaches clock hashRoutes
    observedRoutes self orderly
  generalize (AuthorityReport.authorityProposal.produce hashRoutes clock
    observedRoutes self) = produced at makes attaches ⊢
  have same := @liveProposal_makesMissing hashRoutes observedRoutes self _ _
    makes
  apply ProposalRuntime.attachProposals_unchanged makes.orderly
  rw [same]
  intro recommendation listed isChosen method capability isMethod isCapability
  obtain ⟨attached, _, attaches⟩ := exists_right_of_mem attaches listed
  obtain ⟨existing, found, _⟩ :=
    attaches.found isChosen isMethod isCapability
  exact ⟨existing, found⟩

theorem keepsAdoptable_of_foundReviewable (orderly : self.Orderly)
    (reviewable : FoundReviewable hashRoutes observedRoutes self) :
    KeepsAdoptable hashChange hashRoutes clock observedRoutes self where
  settled later := congrArg _ (produce_settled orderly later)
  adoptable attached listed action := by
    obtain ⟨makes, attaches⟩ := @produce_attaches clock hashRoutes
      observedRoutes self orderly
    obtain ⟨recommendation, member, attaches⟩ :=
      exists_left_of_mem attaches listed
    obtain ⟨id, status, rfl⟩ := attaches.same
    obtain ⟨method, isMethod, found⟩ := reviewable _ member action
    obtain ⟨capability, isCapability⟩ := capability_of_protectRoute member
      action
    obtain ⟨existing, there, named⟩ := attaches.found (beq_iff_eq.mpr action)
      isMethod isCapability
    obtain ⟨stored, change, contract⟩ :=
      ProposalRuntime.foundProtection_eq_some makes.orderly.keyed there
    refine ⟨existing.id, method, capability, existing, named, isMethod,
      isCapability, stored, change, ?_⟩
    have adoptable : (existing.status = .pending ∨
          existing.status = .approved) →
        existing.revision = self.authority.revision →
        ProposalRuntime.CanBeAdopted hashChange
          (AuthorityReport.authorityProposal.produce hashRoutes clock
            observedRoutes self).2 existing.id := by
      intro reviewed revision
      apply (ProposalRuntime.canBeAdopted_iff stored change).mpr
      exact ⟨reviewed, contract, revision.trans (congrArg _
        makes.authority.symm)⟩
    cases before : self.foundProtection
        (liveProposal hashRoutes observedRoutes self).discoveryRevision method
        recommendation.path capability with
    | none =>
        obtain ⟨pending, revision⟩ := makes.made before there
        exact .inr (adoptable (.inl pending) revision)
    | some earlier =>
        have same := makes.kept before
        rw [there] at same
        cases same
        rcases found capability existing isCapability before with
          rejected | ⟨reviewed, revision⟩
        · exact .inl rejected
        · exact .inr (adoptable reviewed revision)

/-- A protection that is found is what the recommendation carries. -/
theorem foundReviewable_of_keepsAdoptable (orderly : self.Orderly)
    (keeps : KeepsAdoptable hashChange hashRoutes clock observedRoutes self) :
    FoundReviewable hashRoutes observedRoutes self := by
  intro recommendation member action
  obtain ⟨makes, attaches⟩ := @produce_attaches clock hashRoutes
    observedRoutes self orderly
  obtain ⟨attached, listed, attaches⟩ := exists_right_of_mem attaches member
  obtain ⟨id, status, rfl⟩ := attaches.same
  obtain ⟨proposalId, method, capability, proposal, named, isMethod,
    isCapability, stored, change, adoptable⟩ :=
      keeps.adoptable _ listed action
  refine ⟨method, isMethod, ?_⟩
  intro otherCapability existing sameCapability before
  have kept := makes.kept before
  obtain ⟨found, there, sameId⟩ := attaches.found (beq_iff_eq.mpr action)
    isMethod sameCapability
  rw [kept] at there
  cases there
  obtain ⟨existingStored, existingChange, _⟩ :=
    ProposalRuntime.foundProtection_eq_some makes.orderly.keyed kept
  rw [named] at sameId
  cases sameId
  rw [existingStored] at stored
  cases stored
  rcases adoptable with rejected | adoptable
  · exact .inl rejected
  · obtain ⟨reviewed, current⟩ :=
      (ProposalRuntime.canBeAdopted_iff existingStored existingChange).mp
        adoptable
    exact .inr ⟨reviewed,
      current.revision.trans (congrArg _ makes.authority)⟩

theorem reachable_orderly
    (reached :
      (ProposalHistory.system hashChange revision).Reachable history) :
    history.runtime.Orderly :=
  ⟨ProposalHistory.reachable_unallocated reached,
    (ProposalHistory.reachable_tracked reached).marks.keyed⟩

/-- Reading the authority proposal leaves every recommended protection
adoptable exactly if those that are found before are still reviewable. -/
theorem keepsAdoptable_iff
    (reached :
      (ProposalHistory.system hashChange revision).Reachable history) :
    KeepsAdoptable hashChange hashRoutes clock observedRoutes
        history.runtime ↔
      FoundReviewable hashRoutes observedRoutes history.runtime :=
  ⟨foundReviewable_of_keepsAdoptable (reachable_orderly reached),
    keepsAdoptable_of_foundReviewable (reachable_orderly reached)⟩

end Reading

/-! ## Invoices and another change -/

def invoiceRecommendation (liveRevision : Nat) : AuthorityRecommendation :=
  .ofRoute quietRuntime.fingerprint 0 liveRevision invoiceDescription

theorem invoiceRecommendation_asks (liveRevision : Nat) :
    (invoiceRecommendation liveRevision).action = .protectRoute ∧
      Method.parse (invoiceRecommendation liveRevision).method = some .post ∧
      (invoiceRecommendation liveRevision).path = "/invoices" ∧
      (invoiceRecommendation liveRevision).capability =
        some "invoice.create" := by
  have action : invoiceDescription.recommendedAction = .protectRoute := by
    decide +kernel
  have isMethod : Method.parse invoiceDescription.method = some .post := by
    decide +kernel
  have isPath : invoiceDescription.path = "/invoices" := by decide +kernel
  have isCapability : invoiceDescription.capability.or
      (invoiceDescription.inference.map (·.capability)) =
        some "invoice.create" := by
    decide +kernel
  exact ⟨action, isMethod, isPath, isCapability⟩

theorem mem_liveProposal_invoices_iff
    {self : ProposalRuntime MemoryProposalStore}
    {recommendation : AuthorityRecommendation}
    (contract : self.fingerprint = quietRuntime.fingerprint)
    (unprotected : authorityMappings self.authority = ∅) :
    recommendation ∈ (liveProposal (fun _ => 0) [invoiceRoute "/invoices"]
        self).recommendations ↔
      recommendation = invoiceRecommendation self.authority.revision := by
  unfold liveProposal
  rw [mem_recommendations_iff, contract, unprotected]
  simp only [liveApplication, List.mem_singleton, exists_eq_left]
  exact eq_comm

/-- In the runtime without proposals the recommendation can be adopted. -/
theorem quietRuntime_keepsAdoptable :
    KeepsAdoptable (fun _ => 0) (fun _ => 0) (fun _ => 0)
      [invoiceRoute "/invoices"] quietHistory.runtime := by
  have reached : (ProposalHistory.system (fun _ => 0) 0).Reachable
      quietHistory :=
    .start quietHistory_fresh
  apply (keepsAdoptable_iff reached).mpr
  intro recommendation listed _
  have only := (mem_liveProposal_invoices_iff rfl rfl).mp listed
  obtain ⟨_, isMethod, _, _⟩ :=
    invoiceRecommendation_asks quietHistory.runtime.authority.revision
  rw [only]
  refine ⟨.post, isMethod, ?_⟩
  intro capability existing _ found
  have listed := List.mem_of_find?_eq_some found
  cases listed

namespace ProposalRuntime

theorem foundProtection_adopted
    {self : ProposalRuntime MemoryProposalStore} {clock : Nat → Nat}
    {change : AuthorityChange} {next : LiveAuthorityState}
    {discoveryRevision : Nat} {method : Method} {path capability : String}
    (unallocated : ProposalHistory.Unallocated self)
    (other : change ≠ .protectRoute method path capability) :
    (ProposalHistory.adopted self clock change next).foundProtection
        discoveryRevision method path capability =
      self.foundProtection discoveryRevision method path capability := by
  have absent := unallocated self.proposals.nextId (Nat.le_refl _)
  have elsewhere : ∀ key, self.nextProposalId ≠ key →
      (ProposalHistory.adopted self clock change
        next).proposals.proposals[key]? = self.proposals.proposals[key]? := by
    intro key different
    refine (KeyedMap.getElem?_insert_of_ne _ _ different).trans ?_
    refine (KeyedMap.getElem?_insert_of_ne _ _ different).trans ?_
    exact KeyedMap.getElem?_insert_of_ne _ _ different
  have here : ∀ held, (ProposalHistory.adopted self clock change
        next).proposals.proposals[self.nextProposalId]? = some held →
      held.change = change := by
    intro held found
    have stored := found.symm.trans Std.ExtTreeMap.getElem?_insert_self
    cases stored
    rfl
  apply KeyedMap.find?_values_congr
  intro key held fits
  simp only [Bool.and_eq_true] at fits
  have isProtection := AuthorityChange.beq_protectRoute_iff.mp fits.1.1
  by_cases same : self.nextProposalId = key
  · subst same
    constructor
    · intro found
      exact (other ((here held found).symm.trans isProtection)).elim
    · intro found
      exact (Option.some_ne_none held (found.symm.trans absent)).elim
  · rw [elsewhere key same]

end ProposalRuntime

/-- The state in which local accounts are turned off and invoices are not
protected. -/
def disabledLocal : LiveAuthorityState :=
  { LiveAuthorityState.new with
    providerState :=
      LiveAuthorityState.new.providerState.insert "local" { enabled := false }
    revision := 1 }

/-- The authority proposal was read, and then another change was adopted. -/
def overtakenInvoices : ProposalRuntime MemoryProposalStore :=
  ProposalHistory.adopted (quietRuntime.withStored invoiceProposal)
    (fun _ => 0) (.setProviderEnabled "local" false) disabledLocal

theorem overtakenInvoices_reachable :
    (ProposalHistory.system (fun _ => 0) 0).Reachable
      { runtime := overtakenInvoices, applied := ["proposal-2"] } := by
  have start : (ProposalHistory.system (fun _ => 0) 0).Reachable
      quietHistory :=
    .start quietHistory_fresh
  have read := (@AuthorityReport.produce_attached (fun _ => 0) 0 quietHistory
    (fun _ => 0) (fun _ => 0) [invoiceRoute "/invoices"] .authorityProposal
    start).reached
  have produced : (AuthorityReport.authorityProposal.produce (fun _ => 0)
      (fun _ => 0) [invoiceRoute "/invoices"] quietHistory.runtime).2 =
        quietRuntime.withStored invoiceProposal :=
    congrArg Prod.snd (@invoiceRun_produced "/invoices" rfl)
  rw [produced] at read
  exact ProposalHistory.reachable_adopted read
    (ProposalHistory.reachable_unallocated read) rfl (fun _ => 0)

theorem overtakenInvoices_found :
    overtakenInvoices.foundProtection 0 .post "/invoices" "invoice.create" =
      some invoiceProposal := by
  have start : (ProposalHistory.system (fun _ => 0) 0).Reachable
      quietHistory :=
    .start quietHistory_fresh
  have unallocated : ProposalHistory.Unallocated quietRuntime :=
    ProposalHistory.reachable_unallocated start
  have absent : quietRuntime.foundProtection 0 .post "/invoices"
      "invoice.create" = none :=
    rfl
  have made := @ProposalRuntime.foundProtection_withProtection quietRuntime
    (fun _ => 0) .inferred 0 .post "/invoices" "invoice.create" absent
  have storedUnallocated := @ProposalRuntime.withProtection_unallocated
    quietRuntime (fun _ => 0) .inferred 0 .post "/invoices" "invoice.create"
    unallocated
  refine Eq.trans ?_ made
  apply ProposalRuntime.foundProtection_adopted storedUnallocated
  intro same
  cases same

/-- Once another change is adopted, the proposal for the invoices can no longer
be approved, and no other takes its place. -/
theorem overtakenInvoices_not_keepsAdoptable :
    ¬∀ (hashChange : AuthorityChange → UInt64) (revision : Nat)
        (hashRoutes : List RouteDescription → Nat) (clock : Nat → Nat)
        (observedRoutes : List RouteCandidate) (history : ProposalHistory),
      (ProposalHistory.system hashChange revision).Reachable history →
      KeepsAdoptable hashChange hashRoutes clock observedRoutes
        history.runtime := by
  intro always
  have keeps := always (fun _ => 0) 0 (fun _ => 0) (fun _ => 0)
    [invoiceRoute "/invoices"] _ overtakenInvoices_reachable
  have reviewable := foundReviewable_of_keepsAdoptable
    (reachable_orderly overtakenInvoices_reachable) keeps
  obtain ⟨action, isMethod, isPath, isCapability⟩ :=
    invoiceRecommendation_asks 1
  have listed := (@mem_liveProposal_invoices_iff overtakenInvoices _
    rfl rfl).mpr rfl
  obtain ⟨method, named, found⟩ := reviewable _ listed action
  have sameMethod := Option.some.inj (isMethod.symm.trans named)
  have there : overtakenInvoices.foundProtection 0 method
      (invoiceRecommendation 1).path "invoice.create" =
        some invoiceProposal := by
    rw [← sameMethod, isPath]
    exact overtakenInvoices_found
  rcases found "invoice.create" invoiceProposal isCapability there with
    rejected | ⟨_, revision⟩
  · cases rejected
  · cases revision

end AuthBoundry
