import AuthBoundry.Cli.AccessLines

/-!
# What is saved after each step

The file has exactly one entry for each place whose access was last saved as
something else than the default.  The entries are ordered, so that the first one
for a path has the least method.
-/

namespace AuthBoundry.Studio

open Library
open Discovery

open scoped Listed

/-! ## Runs -/

/-- An access that is saved. -/
structure Saving where
  method : String
  path : String
  access : String
  deriving DecidableEq, Repr

def Saving.isFor (self : Saving) (method path : String) : Bool :=
  equalsIgnoringCase self.method method && self.path == path

def lastSaved (savings : List Saving) (method path : String) : String :=
  ((savings.reverse.find? (·.isFor method path)).map Saving.access).getD
    "default"

variable (discovered : List RouteCandidate) in
/-- The file after each sequence of savings that succeed. -/
inductive Saves : List Saving → Option String → Prop where
  | start : Saves [] none
  | save {savings : List Saving} {source : Option String} {saving : Saving}
      {text : String} (before : Saves savings source)
      (saved : saveRouteAccess discovered source saving.method saving.path
        saving.access = .ok text) :
      Saves (savings ++ [saving]) (some text)

/-- What is saved can be read back from the file. -/
def Saving.Readable (self : Saving) : Prop :=
  self.access ≠ "default" →
    Spared escapes self.method ∧ Spared escapes self.path

/-- The entries are those of the places whose access is not the default. -/
structure Records (discovered : List RouteCandidate) (savings : List Saving)
    (entries : List RouteAccess) : Prop where
  unescaped : ∀ entry ∈ entries, Unescaped entry
  capital : ∀ entry ∈ entries, asciiUpper entry.method = entry.method
  known : ∀ entry ∈ entries, ∃ route ∈ discovered,
    equalsIgnoringCase route.method entry.method = true ∧
      route.path = entry.path
  listed : ∀ entry ∈ entries,
    lastSaved savings entry.method entry.path = entry.access ∧
      entry.access ≠ "default"
  complete : ∀ method path, lastSaved savings method path ≠ "default" →
    ∃ entry ∈ entries, entry.isFor method path = true
  ordered : entries.Pairwise fun left right =>
    (comparePlaces left right).isLE = true

/-! ## Places -/

theorem equalsIgnoringCase_iff {left right : String} :
    equalsIgnoringCase left right = true ↔
      asciiUpper left = asciiUpper right := by
  unfold equalsIgnoringCase
  rw [beq_iff_eq]
  constructor
  · intro same
    rw [← asciiUpper_asciiLower left, same, asciiUpper_asciiLower]
  · intro same
    rw [← asciiLower_asciiUpper left, same, asciiLower_asciiUpper]

theorem RouteAccess.isFor_iff {entry : RouteAccess} {method path : String} :
    entry.isFor method path = true ↔
      asciiUpper entry.method = asciiUpper method ∧ entry.path = path := by
  unfold RouteAccess.isFor
  rw [Bool.and_eq_true, equalsIgnoringCase_iff, beq_iff_eq]

theorem Saving.isFor_iff {saving : Saving} {method path : String} :
    saving.isFor method path = true ↔
      asciiUpper saving.method = asciiUpper method ∧ saving.path = path := by
  unfold Saving.isFor
  rw [Bool.and_eq_true, equalsIgnoringCase_iff, beq_iff_eq]

theorem isFor_comm {entry : RouteAccess} {saving : Saving} :
    entry.isFor saving.method saving.path =
      saving.isFor entry.method entry.path := by
  rw [Bool.eq_iff_iff, RouteAccess.isFor_iff, Saving.isFor_iff]
  exact and_congr eq_comm eq_comm

/-- What is not escaped has no letter, so that it is no capital. -/
theorem spared_asciiUpper {text : String} (spared : Spared escapes text) :
    Spared escapes (asciiUpper text) := by
  intro character member
  unfold asciiUpper at member
  rw [String.toList_ofList] at member
  obtain ⟨letter, inText, rfl⟩ := List.mem_map.mp member
  rcases toUpper_cases letter with same | ⟨bounds, moved⟩
  · rw [same]
    exact spared letter inText
  · intro escaped
    have capitals : ∀ character ∈ escapes,
        ¬(65 ≤ character.toNat ∧ character.toNat ≤ 90) := by decide
    exact capitals _ escaped (by omega)

theorem accesses_spared {access : String} (given : access ∈ accesses) :
    Spared escapes access := by
  have all : ∀ access ∈ accesses, Spared escapes access := by decide
  exact all access given

section Places

variable {savings : List Saving} {method path : String}

theorem lastSaved_concat (savings : List Saving) (saving : Saving)
    (method path : String) :
    lastSaved (savings ++ [saving]) method path =
      if saving.isFor method path then saving.access
      else lastSaved savings method path := by
  unfold lastSaved
  rw [List.reverse_concat, List.find?_cons]
  cases saving.isFor method path <;> rfl

/-- The case of the method does not matter. -/
theorem lastSaved_congr {other : String}
    (same : asciiUpper method = asciiUpper other) :
    lastSaved savings method path = lastSaved savings other path := by
  unfold lastSaved
  have places : (fun saving : Saving => saving.isFor method path) =
      fun saving => saving.isFor other path := by
    funext saving
    rw [Bool.eq_iff_iff, Saving.isFor_iff, Saving.isFor_iff, same]
  rw [places]

end Places

/-! ## One step -/

section Step

variable {discovered : List RouteCandidate} {savings : List Saving}
  {entries : List RouteAccess} {saving : Saving} {source : Option String}
  {text : String}

theorem saveRouteAccess_eq_ok_iff :
    saveRouteAccess discovered source saving.method saving.path
        saving.access = .ok text ↔
      saving.access ∈ accesses ∧
        (∃ route ∈ discovered,
          equalsIgnoringCase route.method saving.method = true ∧
            route.path = saving.path) ∧
        accessText (savedEntries (routeAccess source) saving.method
          saving.path saving.access) = text := by
  unfold saveRouteAccess
  by_cases given : saving.access ∈ accesses
  · by_cases known : ∃ route ∈ discovered,
        equalsIgnoringCase route.method saving.method = true ∧
          route.path = saving.path
    · have any : (discovered.any fun route =>
          equalsIgnoringCase route.method saving.method &&
            route.path == saving.path) = true := by
        simpa using known
      simp [given, any, known]
    · have none : (discovered.any fun route =>
          equalsIgnoringCase route.method saving.method &&
            route.path == saving.path) = false := by
        simpa using known
      simp [given, none, known]
  · simp [given]

/-- The entry that is added. -/
def Saving.entry (self : Saving) : RouteAccess :=
  { method := asciiUpper self.method, path := self.path, access := self.access }

theorem Saving.isFor_entry (saving : Saving) :
    saving.isFor saving.entry.method saving.entry.path = true := by
  rw [Saving.isFor_iff]
  exact ⟨(asciiUpper_asciiUpper saving.method).symm, rfl⟩

theorem mem_savedEntries_iff {entry : RouteAccess} :
    entry ∈ savedEntries entries saving.method saving.path saving.access ↔
      entry ∈ entries ∧ entry.isFor saving.method saving.path = false ∨
        saving.access ≠ "default" ∧ entry = saving.entry := by
  unfold savedEntries
  dsimp only
  rw [List.mem_mergeSort]
  by_cases plain : saving.access = "default"
  · simp [plain]
  · simp [plain, Saving.entry]

instance : Std.TransCmp comparePlaces :=
  inferInstanceAs (Std.TransCmp (compareLex (compareOn RouteAccess.path)
    (compareOn RouteAccess.method)))

theorem savedEntries_ordered (entries : List RouteAccess)
    (method path access : String) :
    (savedEntries entries method path access).Pairwise fun left right =>
      (comparePlaces left right).isLE = true := by
  unfold savedEntries
  dsimp only
  apply List.pairwise_mergeSort
  · intro first second third
    exact Std.TransCmp.isLE_trans
  · intro left right
    have swapped : comparePlaces right left = (comparePlaces left right).swap :=
      Std.OrientedCmp.eq_swap
    rw [swapped]
    cases comparePlaces left right <;> rfl

/-- What the default replaces is not listed any more, everything else is. -/
theorem Records.save (records : Records discovered savings entries)
    (readable : saving.Readable)
    (known : ∃ route ∈ discovered,
      equalsIgnoringCase route.method saving.method = true ∧
        route.path = saving.path) (given : saving.access ∈ accesses) :
    Records discovered (savings ++ [saving])
      (savedEntries entries saving.method saving.path saving.access) := by
  obtain ⟨route, inRoutes, sameMethod, samePath⟩ := known
  constructor
  · intro entry member
    rcases mem_savedEntries_iff.mp member with ⟨earlier, _⟩ | ⟨other, rfl⟩
    · exact records.unescaped entry earlier
    · obtain ⟨method, path⟩ := readable other
      exact
        { method := spared_asciiUpper method
          path
          access := accesses_spared given }
  · intro entry member
    rcases mem_savedEntries_iff.mp member with ⟨earlier, _⟩ | ⟨_, rfl⟩
    · exact records.capital entry earlier
    · exact asciiUpper_asciiUpper saving.method
  · intro entry member
    rcases mem_savedEntries_iff.mp member with ⟨earlier, _⟩ | ⟨_, rfl⟩
    · exact records.known entry earlier
    · refine ⟨route, inRoutes, ?_, samePath⟩
      rw [equalsIgnoringCase_iff] at sameMethod ⊢
      exact sameMethod.trans (asciiUpper_asciiUpper saving.method).symm
  · intro entry member
    rw [lastSaved_concat]
    rcases mem_savedEntries_iff.mp member with ⟨earlier, elsewhere⟩ |
      ⟨other, rfl⟩
    · rw [isFor_comm] at elsewhere
      rw [if_neg (by simp [elsewhere])]
      exact records.listed entry earlier
    · rw [if_pos saving.isFor_entry]
      exact ⟨rfl, other⟩
  · intro method path other
    rw [lastSaved_concat] at other
    by_cases here : saving.isFor method path = true
    · rw [if_pos here] at other
      refine ⟨saving.entry, mem_savedEntries_iff.mpr (.inr ⟨other, rfl⟩), ?_⟩
      rw [Saving.isFor_iff] at here
      rw [RouteAccess.isFor_iff]
      exact ⟨(asciiUpper_asciiUpper saving.method).trans here.1, here.2⟩
    · rw [if_neg here] at other
      obtain ⟨entry, earlier, isFor⟩ := records.complete method path other
      refine ⟨entry, mem_savedEntries_iff.mpr (.inl ⟨earlier, ?_⟩), isFor⟩
      rw [Bool.eq_false_iff]
      intro replaced
      rw [RouteAccess.isFor_iff] at isFor replaced
      apply here
      rw [Saving.isFor_iff]
      exact ⟨replaced.1.symm.trans isFor.1, replaced.2.symm.trans isFor.2⟩
  · exact savedEntries_ordered entries saving.method saving.path saving.access

end Step

/-! ## Runs -/

section Runs

variable {discovered : List RouteCandidate} {savings : List Saving}
  {source : Option String}

theorem records_start : Records discovered [] [] where
  unescaped := List.forall_mem_nil _
  capital := List.forall_mem_nil _
  known := List.forall_mem_nil _
  listed := List.forall_mem_nil _
  complete := fun _ _ other => absurd rfl other
  ordered := List.Pairwise.nil

theorem Saves.records (saves : Saves discovered savings source)
    (readable : ∀ saving ∈ savings, saving.Readable) :
    Records discovered savings (routeAccess source) := by
  induction saves with
  | start => exact records_start
  | @save savings source saving text before saved induction =>
      rw [List.forall_mem_append, List.forall_mem_singleton] at readable
      obtain ⟨given, known, rfl⟩ := saveRouteAccess_eq_ok_iff.mp saved
      have next := (induction readable.1).save readable.2 known given
      rw [routeAccess_accessText next.unescaped]
      exact next

theorem Saves.lastSaved_mem (saves : Saves discovered savings source)
    (method path : String) : lastSaved savings method path ∈ accesses := by
  induction saves with
  | start => exact List.mem_cons_self
  | save before saved induction =>
      rw [lastSaved_concat]
      split
      · exact (saveRouteAccess_eq_ok_iff.mp saved).1
      · exact induction

end Runs

/-! ## Reading the entries -/

section Entries

variable {discovered : List RouteCandidate} {savings : List Saving}
  {entries : List RouteAccess} {method path access : String}

theorem Records.access_eq (records : Records discovered savings entries)
    {entry : RouteAccess} (member : entry ∈ entries)
    (isFor : entry.isFor method path = true) :
    lastSaved savings method path = entry.access := by
  rw [RouteAccess.isFor_iff] at isFor
  rw [← lastSaved_congr isFor.1, ← isFor.2]
  exact (records.listed entry member).1

theorem Records.shownAccess_eq (records : Records discovered savings entries)
    (route : RouteCandidate) :
    shownAccess entries route = lastSaved savings route.method route.path := by
  unfold shownAccess
  cases found : entries.find? (·.isFor route.method route.path) with
  | some entry =>
      have isFor := List.find?_some found
      exact (records.access_eq (List.mem_of_find?_eq_some found) isFor).symm
  | none =>
      by_contra different
      obtain ⟨entry, member, isFor⟩ := records.complete route.method route.path
        fun same => different same.symm
      exact List.find?_eq_none.mp found entry member isFor

variable (savings path access) in
def Leads : Prop :=
  ∃ method, lastSaved savings method path = access ∧ access ≠ "default" ∧
    ∀ other, lastSaved savings other path ≠ "default" →
      (compare (asciiUpper method) (asciiUpper other)).isLE = true

/-- No two methods of a path are the least. -/
theorem Leads.unique {other : String} (leads : Leads savings path access)
    (also : Leads savings path other) : access = other := by
  obtain ⟨method, saved, given, least⟩ := leads
  obtain ⟨second, secondSaved, secondGiven, secondLeast⟩ := also
  have below := least second (by rwa [secondSaved])
  have above := secondLeast method (by rwa [saved])
  have same : asciiUpper method = asciiUpper second :=
    Std.LawfulEqCmp.eq_of_compare (Std.OrientedCmp.isLE_antisymm below above)
  rw [← saved, ← secondSaved, lastSaved_congr same]

theorem Records.leads_of_find? (records : Records discovered savings entries)
    {entry : RouteAccess}
    (found : entries.find? (·.path == path) = some entry) :
    Leads savings path entry.access := by
  obtain ⟨onPath, before, after, whole, earlier⟩ :=
    List.find?_eq_some_iff_append.mp found
  have samePath : entry.path = path := eq_of_beq onPath
  have member : entry ∈ entries := by simp [whole]
  obtain ⟨saved, given⟩ := records.listed entry member
  refine ⟨entry.method, samePath ▸ saved, given, ?_⟩
  intro other otherSaved
  obtain ⟨second, inEntries, isFor⟩ := records.complete other path otherSaved
  rw [RouteAccess.isFor_iff] at isFor
  have ordered := records.ordered
  rw [whole, List.pairwise_append, List.pairwise_cons] at ordered
  have below : (comparePlaces entry second).isLE = true := by
    have place := inEntries
    rw [whole, List.mem_append, List.mem_cons] at place
    rcases place with first | rfl | later
    · have elsewhere := earlier second first
      simp [isFor.2] at elsewhere
    · have same : comparePlaces second second = .eq :=
        Std.ReflCmp.compare_self
      rw [same]
      rfl
    · exact ordered.2.1.1 second later
  have compared : comparePlaces entry second =
      compare entry.method second.method := by
    have same : compare entry.path second.path = .eq := by
      rw [samePath, isFor.2]
      exact Std.ReflCmp.compare_self
    unfold comparePlaces
    rw [same]
    rfl
  rw [records.capital entry member, ← isFor.1, records.capital second
    inEntries, ← compared]
  exact below

/-- The entry of the least method is the first one for its path. -/
theorem Records.find?_of_leads (records : Records discovered savings entries)
    (leads : Leads savings path access) :
    ∃ entry, entries.find? (·.path == path) = some entry ∧
      entry.access = access := by
  cases found : entries.find? (·.path == path) with
  | some entry =>
      exact ⟨entry, rfl, (records.leads_of_find? found).unique leads⟩
  | none =>
      obtain ⟨method, saved, given, -⟩ := leads
      obtain ⟨entry, member, isFor⟩ := records.complete method path
        (by rwa [saved])
      have elsewhere := List.find?_eq_none.mp found entry member
      rw [RouteAccess.isFor_iff] at isFor
      simp [isFor.2] at elsewhere

end Entries

end AuthBoundry.Studio
