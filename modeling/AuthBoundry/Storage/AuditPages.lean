import AuthBoundry.Library.Pages
import AuthBoundry.Library.Reordering
import AuthBoundry.Storage.Memory

/-!
# The audit log in pages

The events of a tenant are listed by time and, within a second, by id.  A page
starts at a time and ends by a count, and the time of the last event is all
that a reader has to ask for the next one.
-/

namespace AuthBoundry

open Library

/-- By time, and within a time by id. -/
def compareEvents (left right : AuditEvent) : Ordering :=
  compare (left.timestamp, left.eventId) (right.timestamp, right.eventId)

instance : Std.TransCmp compareEvents :=
  inferInstanceAs (Std.TransCmp
    (compareOn fun event : AuditEvent => (event.timestamp, event.eventId)))

namespace AuditLog

def tenantEvents (self : MemoryAuditLog) (tenant : TenantContext) :
    List AuditEvent :=
  self.events.filter fun event => event.tenantId == tenant.tenantId

/-- The events of a tenant from a time on, up to a number of them. -/
def events (self : MemoryAuditLog) (tenant : TenantContext)
    (since : Option Int) (limit : Nat) : List AuditEvent :=
  let events := (tenantEvents self tenant).filter fun event =>
    (since.map fun since => decide (since ≤ event.timestamp)).getD true
  let events := events.mergeSort fun left right =>
    (compareEvents left right).isLE
  if 0 < limit then events.take limit else events

/-- All events of the tenant, as they are listed. -/
def ordered (self : MemoryAuditLog) (tenant : TenantContext) :
    List AuditEvent :=
  (tenantEvents self tenant).mergeSort fun left right =>
    (compareEvents left right).isLE

theorem timestamp_le_of_isLE {left right : AuditEvent}
    (listed : (compareEvents left right).isLE = true) :
    left.timestamp ≤ right.timestamp := by
  apply compare_le_iff_le.mp
  intro later
  change (compareLex (compareOn Prod.fst) (compareOn Prod.snd) _ _).isLE =
    true at listed
  unfold compareLex compareOn at listed
  dsimp only at listed
  rw [later] at listed
  cases listed

theorem eventId_eq_of_compare {left right : AuditEvent}
    (same : compareEvents left right = .eq) :
    left.eventId = right.eventId :=
  (Prod.mk.inj (Std.LawfulEqOrd.eq_of_compare same)).2

theorem sorted_ordered (self : MemoryAuditLog) (tenant : TenantContext) :
    (ordered self tenant).Pairwise fun left right =>
      left.timestamp ≤ right.timestamp :=
  (pairwise_mergeSort_comparison compareEvents _).imp timestamp_le_of_isLE

section Distinct

variable {self : MemoryAuditLog} {tenant : TenantContext}
  (distinct : ((tenantEvents self tenant).map AuditEvent.eventId).Nodup)

include distinct

theorem distinct_ordered :
    ((ordered self tenant).map AuditEvent.eventId).Nodup :=
  ((List.mergeSort_perm _ _).map _).nodup_iff.mpr distinct

theorem eq_of_compare {left right : AuditEvent}
    (leftListed : left ∈ tenantEvents self tenant)
    (rightListed : right ∈ tenantEvents self tenant)
    (same : compareEvents left right = .eq) : left = right :=
  List.inj_on_of_nodup_map distinct leftListed rightListed
    (eventId_eq_of_compare same)

/-- What the log lists is a page of all events in their order. -/
theorem events_eq_page {limit : Nat} (positive : 0 < limit) :
    (fun since => events self tenant since limit) =
      page AuditEvent.timestamp (ordered self tenant) limit := by
  funext since
  unfold events page
  rw [if_pos positive]
  let lists := fun event : AuditEvent =>
    since.all fun bound => decide (bound ≤ event.timestamp)
  have sorted : ((ordered self tenant).filter lists).mergeSort
      (fun left right => (compareEvents left right).isLE) =
        (ordered self tenant).filter lists :=
    List.mergeSort_of_pairwise
      ((pairwise_mergeSort_comparison compareEvents _).filter _)
  have permuted : ((tenantEvents self tenant).filter lists).Perm
      ((ordered self tenant).filter lists) :=
    (List.mergeSort_perm _ _).symm.filter _
  have each : ∀ event, ((since.map fun since =>
      decide (since ≤ event.timestamp)).getD true) = lists event := by
    intro event
    cases since <;> rfl
  simp only [each]
  rw [mergeSort_eq_of_perm compareEvents ?_ permuted, sorted]
  intro left leftListed right rightListed same
  exact eq_of_compare distinct (List.mem_of_mem_filter leftListed)
    (List.mem_of_mem_filter rightListed) same

end Distinct

/-! ## Readers of the log -/

/-- What a reader has who passes the time of the last event on and stops at a
page without a new id; it comes to its end within a page for each event. -/
def readPages (self : MemoryAuditLog) (tenant : TenantContext) (limit : Nat) :
    Option (List AuditEvent) :=
  PageReader.start.readOn AuditEvent.timestamp AuditEvent.eventId
    (fun since => events self tenant since limit) (self.events.length + 1)

/-- Every event of the tenant once, by time and id. -/
structure Delivers (log : MemoryAuditLog) (tenant : TenantContext)
    (delivered : List AuditEvent) : Prop where
  complete : delivered.Perm (tenantEvents log tenant)
  listed : delivered.Pairwise fun left right =>
    (compareEvents left right).isLE = true

/-- The reader stops, whatever the log holds. -/
theorem exists_readPages (self : MemoryAuditLog) (tenant : TenantContext)
    (limit : Nat) :
    ∃ delivered, readPages self tenant limit = some delivered ∧
      (delivered.map AuditEvent.eventId).Nodup := by
  have listed : ∀ since, events self tenant since limit ⊆
      tenantEvents self tenant := by
    intro since event member
    unfold events at member
    dsimp only at member
    split at member
    · exact List.mem_of_mem_filter
        (List.mem_mergeSort.mp (List.mem_of_mem_take member))
    · exact List.mem_of_mem_filter (List.mem_mergeSort.mp member)
  have sound : (PageReader.start : PageReader AuditEvent Int).Sound
      AuditEvent.eventId (tenantEvents self tenant) :=
    { listed := List.nil_subset _, distinct := List.nodup_nil }
  apply PageReader.readOn_sound listed sound
  have fewer : (tenantEvents self tenant).length ≤ self.events.length :=
    List.length_filter_le _ _
  change _ < 0 + _
  omega

theorem delivers_iff_eq {self : MemoryAuditLog} {tenant : TenantContext}
    (distinct : ((tenantEvents self tenant).map AuditEvent.eventId).Nodup)
    {delivered : List AuditEvent} :
    Delivers self tenant delivered ↔ delivered = ordered self tenant := by
  constructor
  · rintro ⟨complete, listed⟩
    have sorted := pairwise_mergeSort_comparison compareEvents
      (tenantEvents self tenant)
    refine List.Perm.eq_of_pairwise ?_ listed sorted
      (complete.trans (List.mergeSort_perm _ _).symm)
    intro left right leftListed rightListed before after
    exact eq_of_compare distinct (complete.mem_iff.mp leftListed)
      (List.mem_mergeSort.mp rightListed)
      (Std.OrientedCmp.isLE_antisymm before after)
  · rintro rfl
    exact ⟨List.mergeSort_perm _ _,
      pairwise_mergeSort_comparison compareEvents _⟩

/-- Reading in pages delivers everything exactly if the ids differ and no
second crowds a page. -/
theorem exists_delivers_iff {self : MemoryAuditLog} {tenant : TenantContext}
    {limit : Nat} (positive : 0 < limit) :
    (∃ delivered, readPages self tenant limit = some delivered ∧
        Delivers self tenant delivered) ↔
      ((tenantEvents self tenant).map AuditEvent.eventId).Nodup ∧
        Uncrowded AuditEvent.timestamp (tenantEvents self tenant) limit := by
  have permuted : (ordered self tenant).Perm (tenantEvents self tenant) :=
    List.mergeSort_perm _ _
  have fewer : (ordered self tenant).length ≤ self.events.length := by
    rw [permuted.length_eq]
    exact List.length_filter_le _ _
  have reads : ((tenantEvents self tenant).map AuditEvent.eventId).Nodup →
      (readPages self tenant limit = some (ordered self tenant) ↔
        Uncrowded AuditEvent.timestamp (ordered self tenant) limit) := by
    intro distinct
    unfold readPages
    rw [events_eq_page distinct positive]
    exact PageReader.readOn_start_iff (sorted_ordered self tenant)
      (distinct_ordered distinct) positive fewer
  constructor
  · rintro ⟨delivered, read, delivers⟩
    obtain ⟨other, same, distinct⟩ := exists_readPages self tenant limit
    rw [read] at same
    cases same
    have distinct :=
      (delivers.complete.map AuditEvent.eventId).nodup_iff.mp distinct
    rw [(delivers_iff_eq distinct).mp delivers] at read
    exact ⟨distinct, ((reads distinct).mp read).perm permuted⟩
  · rintro ⟨distinct, uncrowded⟩
    exact ⟨ordered self tenant,
      (reads distinct).mpr (uncrowded.perm permuted.symm),
      (delivers_iff_eq distinct).mpr rfl⟩

/-- Every reader comes to an end, and it was given every event of the tenant
once and in order exactly if the ids differ and no second crowds a page. -/
theorem readPages_delivers_iff (self : MemoryAuditLog) (tenant : TenantContext)
    {limit : Nat} (positive : 0 < limit) :
    ∃ delivered, readPages self tenant limit = some delivered ∧
      (Delivers self tenant delivered ↔
        ((tenantEvents self tenant).map AuditEvent.eventId).Nodup ∧
          Uncrowded AuditEvent.timestamp (tenantEvents self tenant)
            limit) := by
  obtain ⟨delivered, read, -⟩ := exists_readPages self tenant limit
  refine ⟨delivered, read, ?_⟩
  rw [← exists_delivers_iff positive]
  constructor
  · intro delivers
    exact ⟨delivered, read, delivers⟩
  · rintro ⟨other, same, delivers⟩
    rw [read] at same
    cases same
    exact delivers

/-! ## Two logs -/

def acmeTenant : TenantContext :=
  { tenantId := ⟨"acme"⟩
    tenantNamespace := "acme"
    policyId := ⟨"acme-policy"⟩
    storageRootId := ⟨"acme-root"⟩ }

def eventAt (id : String) (timestamp : Int) : AuditEvent :=
  { eventId := ⟨id⟩
    tenantId := ⟨"acme"⟩
    principalId := some ⟨"user:alice"⟩
    delegatorId := none
    sessionId := none
    delegationId := none
    runId := none
    kind := .authorizationDenied
    timestamp
    action := some "invoice.update"
    resource := some "invoice:8472"
    decision := some "deny"
    reason := some "delegation_scope_denied"
    authorityRevision := some 17
    contractFingerprint := some "contract-1"
    durability := .required
    metadata := ∅ }

def twoSeconds : MemoryAuditLog :=
  { events :=
      [eventAt "audit-1" 10, eventAt "audit-3" 11, eventAt "audit-2" 10] }

def oneSecond : MemoryAuditLog :=
  { events :=
      [eventAt "audit-1" 10, eventAt "audit-2" 10, eventAt "audit-3" 10] }

theorem readPages_twoSeconds :
    0 < 3 ∧ ∃ delivered, readPages twoSeconds acmeTenant 3 = some delivered ∧
      Delivers twoSeconds acmeTenant delivered := by
  obtain ⟨delivered, read, delivers⟩ :=
    @readPages_delivers_iff twoSeconds acmeTenant 3 (by decide)
  exact ⟨by decide, delivered, read, delivers.mpr (by decide)⟩

/-- A page of two never gets past three events of one second. -/
theorem oneSecond_crowded :
    ¬∀ (self : MemoryAuditLog) (tenant : TenantContext) (limit : Nat),
      0 < limit →
        ∃ delivered, readPages self tenant limit = some delivered ∧
          Delivers self tenant delivered := by
  intro delivers
  have uncrowded := (exists_delivers_iff (by decide)).mp
    (delivers oneSecond acmeTenant 2 (by decide))
  exact absurd uncrowded (by decide)

end AuditLog

end AuthBoundry
