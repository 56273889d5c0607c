import AuthBoundry.Boundary.ChangeRecords

/-!
# Protections that stay

A protection that was applied is in force until a later change touches its
route.
-/

namespace AuthBoundry

open Library
open MemoryProposalStore (port)

def AuthorityChange.protectedRoute : AuthorityChange → Option RouteId
  | .protectRoute method path _ => some { method, path }
  | _ => none

def UntouchedSince (store : MemoryProposalStore) (record : ChangeRecord)
    (route : RouteId) : Prop :=
  ∀ (changeId : String) (later : ChangeRecord),
    store.changes[changeId]? = some later →
    record.resultingState.revision < later.resultingState.revision →
    later.resultingState.routeProtection[route]? =
      later.previousState.routeProtection[route]?

namespace Journal

variable {initial : LiveAuthorityState}
  {self : ProposalRuntime MemoryProposalStore} {records : List ChangeRecord}
  {changeId : String} {record : ChangeRecord}

theorem routeProtection_eq (journal : Journal initial self records)
    (stored : self.proposals.changes[changeId]? = some record)
    {route : RouteId} (untouched : UntouchedSince self.proposals record route) :
    self.authority.routeProtection[route]? =
      record.resultingState.routeProtection[route]? := by
  have member := ((journal.filed changeId record).mp stored).1
  have climbs := journal.planned.climbs
  obtain ⟨before, after, rfl, _, back⟩ := journal.planned.chained.split member
  have kept : ∀ later ∈ after,
      later.resultingState.routeProtection[route]? =
        later.previousState.routeProtection[route]? := by
    intro later laterMember
    have listed : later ∈ before ++ record :: after :=
      List.mem_append_right _ (List.mem_cons_of_mem _ laterMember)
    have laterStored :=
      (journal.filed later.changeId later).mpr ⟨listed, rfl⟩
    have above := (back.rank_within
      (fun entry entryMember => climbs entry (List.mem_append_right _
        (List.mem_cons_of_mem _ entryMember))) laterMember).1
    exact untouched later.changeId later laterStored above
  exact back.view_last (fun state => state.routeProtection[route]?) kept

theorem getRouteProtection_eq (journal : Journal initial self records)
    (stored : self.proposals.changes[changeId]? = some record)
    {method : Method} {path capability : String}
    (protecting : record.change = .protectRoute method path capability)
    (untouched : UntouchedSince self.proposals record { method, path }) :
    self.runtime.getRouteProtection method path = some capability := by
  have previewed := journal.planned.previewed record
    ((journal.filed changeId record).mp stored).1
  rw [protecting] at previewed
  have applied := Except.ok.inj previewed
  have inForce := journal.routeProtection_eq stored untouched
  rw [← applied] at inForce
  unfold AuthPortRuntime.getRouteProtection
  have found : self.runtime.authority.routeProtection[
      ({ method, path } : RouteId)]? = some { capability := some capability } :=
    inForce.trans Std.ExtTreeMap.getElem?_insert_self
  rw [found]
  rfl

end Journal

end AuthBoundry
