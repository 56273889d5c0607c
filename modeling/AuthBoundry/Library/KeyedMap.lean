import Mathlib.Data.List.Sort
import Mathlib.Data.String.Basic

/-!
# Finite maps and ordered selection

A keyed map is the extensional ordered map of the standard library under the
canonical order of its keys.  The first part collects the facts about stored
values that a store needs; the second part says which element a search through
a sorted list returns.
-/

namespace Library

/-- Pairs are ordered by their first component and then by their second. -/
instance pairOrd {α β : Type} [Ord α] [Ord β] : Ord (α × β) := lexOrd

/-- A finite map from keys to values. -/
abbrev KeyedMap (κ ν : Type) [Ord κ] := Std.ExtTreeMap κ ν compare

namespace KeyedMap

variable {κ ν : Type} [Ord κ] [Std.TransOrd κ] [Std.LawfulEqOrd κ]

/-- The stored values, in key order. -/
def values (map : KeyedMap κ ν) : List ν :=
  map.toList.map Prod.snd

theorem mem_values_iff {map : KeyedMap κ ν} {value : ν} :
    value ∈ map.values ↔ ∃ key : κ, map[key]? = some value := by
  constructor
  · intro member
    obtain ⟨⟨key, stored⟩, storedMember, rfl⟩ := List.mem_map.mp member
    exact ⟨key, Std.ExtTreeMap.mem_toList_iff_getElem?_eq_some.mp storedMember⟩
  · rintro ⟨key, found⟩
    exact List.mem_map.mpr
      ⟨(key, value), Std.ExtTreeMap.mem_toList_iff_getElem?_eq_some.mpr found,
        rfl⟩

theorem getElem?_insert_eq [DecidableEq κ]
    (map : KeyedMap κ ν) (inserted key : κ) (value : ν) :
    (map.insert inserted value)[key]? =
      if inserted = key then some value else map[key]? := by
  rw [Std.ExtTreeMap.getElem?_insert]
  simp only [Std.LawfulEqOrd.compare_eq_iff_eq]

theorem getElem?_insert_of_ne
    (map : KeyedMap κ ν) {inserted key : κ} (value : ν)
    (different : inserted ≠ key) :
    (map.insert inserted value)[key]? = map[key]? := by
  classical
  rw [getElem?_insert_eq, if_neg different]

theorem getElem?_insert_of_fresh {map : KeyedMap κ ν} {inserted key : κ}
    {value stored : ν} (fresh : map[inserted]? = none)
    (found : map[key]? = some stored) :
    (map.insert inserted value)[key]? = some stored := by
  rw [getElem?_insert_of_ne]
  · exact found
  · intro same
    rw [same, found] at fresh
    cases fresh

/-- What holds of the entries of a map and of a new entry holds of the entries
of the map with the new one inserted. -/
theorem forall_insert {motive : κ → ν → Prop} {map : KeyedMap κ ν}
    {inserted : κ} {value : ν} (new : motive inserted value)
    (old : ∀ (key : κ) (stored : ν), map[key]? = some stored →
      motive key stored) :
    ∀ (key : κ) (stored : ν),
      (map.insert inserted value)[key]? = some stored → motive key stored := by
  classical
  intro key stored found
  rw [getElem?_insert_eq] at found
  by_cases same : inserted = key
  · rw [if_pos same] at found
    cases found
    rw [← same]
    exact new
  · rw [if_neg same] at found
    exact old key stored found

theorem getElem?_foldl_insert_of_ne {key : κ} {entries : List (κ × ν)}
    (others : ∀ entry ∈ entries, entry.1 ≠ key) (map : KeyedMap κ ν) :
    (entries.foldl (fun stored entry => stored.insert entry.1 entry.2)
      map)[key]? = map[key]? := by
  induction entries generalizing map with
  | nil => rfl
  | cons entry entries induction =>
      rw [List.foldl_cons,
        induction fun later member => others later (List.mem_cons_of_mem _ member)]
      exact getElem?_insert_of_ne map entry.2 (others entry List.mem_cons_self)

/-- Of several insertions under one key the last one counts. -/
theorem getElem?_foldl_insert [DecidableEq κ] {ε : Type} (keyOf : ε → κ)
    (valueOf : ε → ν) (entries : List ε) (map : KeyedMap κ ν) (key : κ) :
    (entries.foldl (fun stored entry =>
        stored.insert (keyOf entry) (valueOf entry)) map)[key]? =
      ((entries.reverse.find? (keyOf · == key)).map valueOf).or map[key]? := by
  induction entries generalizing map with
  | nil => rfl
  | cons entry entries induction =>
      rw [List.foldl_cons, induction, getElem?_insert_eq, List.reverse_cons,
        List.find?_append]
      cases entries.reverse.find? (keyOf · == key) with
      | some later => rfl
      | none =>
          by_cases here : keyOf entry = key
          · simp [here]
          · simp [here]

theorem find?_perm_toList [BEq κ] [LawfulBEq κ] (map : KeyedMap κ ν)
    {order : List (κ × ν)} (perm : order.Perm map.toList) (key : κ) :
    (order.find? (·.1 == key)).map Prod.snd = map[key]? := by
  cases found : order.find? (·.1 == key) with
  | none =>
      cases stored : map[key]? with
      | none => rfl
      | some value =>
          have member := perm.mem_iff.mpr
            (Std.ExtTreeMap.mem_toList_iff_getElem?_eq_some.mpr stored)
          have other := List.find?_eq_none.mp found (key, value) member
          simp at other
  | some entry =>
      obtain ⟨name, value⟩ := entry
      have named := List.find?_some found
      have member := perm.mem_iff.mp (List.mem_of_find?_eq_some found)
      obtain rfl := beq_iff_eq.mp named
      exact (Std.ExtTreeMap.mem_toList_iff_getElem?_eq_some.mp member).symm

/-- Every entry of the first map is an entry of the second, changed at most as
`same` allows. -/
def Persists (same : ν → ν → Prop) (before after : KeyedMap κ ν) : Prop :=
  ∀ (key : κ) (old : ν), before[key]? = some old →
    ∃ new, after[key]? = some new ∧ same old new

namespace Persists

variable {same : ν → ν → Prop} {before after : KeyedMap κ ν}

omit [Std.LawfulEqOrd κ] in
theorem refl (reflexive : ∀ value, same value value)
    (map : KeyedMap κ ν) : Persists same map map :=
  fun _ old stored => ⟨old, stored, reflexive old⟩

omit [Std.LawfulEqOrd κ] in
theorem trans {last : KeyedMap κ ν}
    (transitive : ∀ first second third, same first second →
      same second third → same first third)
    (early : Persists same before after) (late : Persists same after last) :
    Persists same before last := by
  intro key old stored
  obtain ⟨middle, middleStored, first⟩ := early key old stored
  obtain ⟨new, newStored, second⟩ := late key middle middleStored
  exact ⟨new, newStored, transitive old middle new first second⟩

/-- Storing under an unused key, or replacing an entry by one that counts as
the same, keeps every entry. -/
theorem insert (reflexive : ∀ value, same value value) {key : κ} {value : ν}
    (kept : ∀ old, before[key]? = some old → same old value) :
    Persists same before (before.insert key value) := by
  classical
  intro other old stored
  rw [getElem?_insert_eq]
  by_cases here : key = other
  · subst here
    exact ⟨value, if_pos rfl, kept old stored⟩
  · exact ⟨old, by rw [if_neg here, stored], reflexive old⟩

end Persists

/-- Both maps hold the same entries among those that are selected. -/
def AgreeOn (selects : ν → Prop) (before after : KeyedMap κ ν) : Prop :=
  ∀ (key : κ) (value : ν), selects value →
    (before[key]? = some value ↔ after[key]? = some value)

namespace AgreeOn

variable {selects : ν → Prop} {map : KeyedMap κ ν}

omit [Std.LawfulEqOrd κ] in
theorem refl (selects : ν → Prop) (map : KeyedMap κ ν) :
    AgreeOn selects map map :=
  fun _ _ _ => Iff.rfl

/-- Storing a value that is not selected is seen exactly if it replaces one
that is. -/
theorem insert_iff {key : κ} {value : ν} (unselected : ¬selects value) :
    AgreeOn selects map (map.insert key value) ↔
      ∀ old, map[key]? = some old → ¬selects old := by
  classical
  constructor
  · intro agree old stored selected
    have kept := (agree key old selected).mp stored
    rw [Std.ExtTreeMap.getElem?_insert_self] at kept
    cases kept
    exact unselected selected
  · intro spared other stored selected
    rw [getElem?_insert_eq]
    by_cases here : key = other
    · subst here
      rw [if_pos rfl]
      constructor
      · intro found
        exact absurd selected (spared stored found)
      · intro same
        cases same
        exact absurd selected unselected
    · rw [if_neg here]

end AgreeOn

/-- Every selected entry of the second map is one of the first. -/
def NothingNew (selects : ν → Prop) (before after : KeyedMap κ ν) : Prop :=
  ∀ (key : κ) (value : ν), after[key]? = some value → selects value →
    before[key]? = some value

namespace NothingNew

variable {selects : ν → Prop} {map : KeyedMap κ ν}

omit [Std.LawfulEqOrd κ] in
theorem refl (selects : ν → Prop) (map : KeyedMap κ ν) :
    NothingNew selects map map :=
  fun _ _ stored _ => stored

theorem insert_iff {key : κ} {value : ν} :
    NothingNew selects map (map.insert key value) ↔
      (selects value → map[key]? = some value) := by
  classical
  constructor
  · intro nothing selected
    exact nothing key value Std.ExtTreeMap.getElem?_insert_self selected
  · intro there other stored found selected
    rw [getElem?_insert_eq] at found
    by_cases here : key = other
    · subst here
      rw [if_pos rfl] at found
      cases found
      exact there selected
    · rw [if_neg here] at found
      exact found

end NothingNew

/-- Every value is stored under its own key. -/
def KeyedBy (keyOf : ν → κ) (map : KeyedMap κ ν) : Prop :=
  ∀ (key : κ) (value : ν), map[key]? = some value → keyOf value = key

namespace KeyedBy

variable {keyOf : ν → κ} {map : KeyedMap κ ν}

omit [Std.LawfulEqOrd κ] in
theorem empty : KeyedBy keyOf (∅ : KeyedMap κ ν) := by
  intro key value found
  simp at found

theorem insert (keyed : KeyedBy keyOf map) (value : ν) :
    KeyedBy keyOf (map.insert (keyOf value) value) :=
  forall_insert rfl keyed

theorem mem_values (keyed : KeyedBy keyOf map) {value : ν} :
    value ∈ map.values ↔ map[keyOf value]? = some value := by
  rw [mem_values_iff]
  constructor
  · rintro ⟨key, found⟩
    rw [keyed key value found]
    exact found
  · intro found
    exact ⟨keyOf value, found⟩

end KeyedBy

section FirstValue

theorem find?_eq_some_iff_of_pairwise {α : Type} {before : α → α → Prop}
    (asymmetric : ∀ left right, before left right → ¬before right left)
    {items : List α} (ordered : items.Pairwise before) {fits : α → Bool}
    {item : α} :
    items.find? fits = some item ↔
      item ∈ items ∧ fits item = true ∧
        ∀ other ∈ items, fits other = true →
          other = item ∨ before item other := by
  induction items with
  | nil => simp
  | cons first rest induction =>
      obtain ⟨above, orderedRest⟩ := List.pairwise_cons.mp ordered
      rw [List.find?_cons]
      cases fitting : fits first with
      | true =>
          constructor
          · intro found
            obtain rfl := Option.some.inj found
            refine ⟨List.mem_cons_self, fitting, ?_⟩
            intro other member _
            rcases List.mem_cons.mp member with same | later
            · exact .inl same
            · exact .inr (above other later)
          · intro ⟨member, _, least⟩
            rcases least first List.mem_cons_self fitting with same | earlier
            · rw [same]
            · rcases List.mem_cons.mp member with same | later
              · rw [same]
              · exact (asymmetric _ _ earlier (above item later)).elim
      | false =>
          dsimp only
          rw [induction orderedRest]
          constructor
          · intro ⟨member, itemFits, least⟩
            refine ⟨List.mem_cons_of_mem _ member, itemFits, ?_⟩
            intro other otherMember otherFits
            rcases List.mem_cons.mp otherMember with rfl | later
            · rw [fitting] at otherFits
              cases otherFits
            · exact least other later otherFits
          · intro ⟨member, itemFits, least⟩
            rcases List.mem_cons.mp member with rfl | later
            · rw [fitting] at itemFits
              cases itemFits
            · exact ⟨later, itemFits, fun other otherMember =>
                least other (List.mem_cons_of_mem _ otherMember)⟩

variable {κ ν : Type} [Ord κ] [Std.TransOrd κ] [Std.LawfulEqOrd κ]

theorem find?_values_eq_some_iff {map : KeyedMap κ ν} {fits : ν → Bool}
    {value : ν} :
    map.values.find? fits = some value ↔
      ∃ key : κ, map[key]? = some value ∧ fits value = true ∧
        ∀ (other : κ) (held : ν), map[other]? = some held →
          fits held = true → other = key ∨ compare key other = .lt := by
  unfold values
  rw [List.find?_map, Option.map_eq_some_iff]
  have asymmetric : ∀ left right : κ × ν, compare left.1 right.1 = .lt →
      ¬compare right.1 left.1 = .lt := by
    intro left right below above
    rw [Std.OrientedOrd.eq_swap, above] at below
    cases below
  constructor
  · intro ⟨entry, found, same⟩
    obtain ⟨member, entryFits, least⟩ :=
      (find?_eq_some_iff_of_pairwise asymmetric
        Std.ExtTreeMap.ordered_keys_toList).mp found
    subst same
    refine ⟨entry.1, Std.ExtTreeMap.mem_toList_iff_getElem?_eq_some.mp member,
      entryFits, ?_⟩
    intro other held stored heldFits
    have listed := Std.ExtTreeMap.mem_toList_iff_getElem?_eq_some.mpr stored
    rcases least (other, held) listed heldFits with same | later
    · exact .inl (congrArg Prod.fst same)
    · exact .inr later
  · intro ⟨key, stored, valueFits, least⟩
    refine ⟨(key, value), ?_, rfl⟩
    apply (find?_eq_some_iff_of_pairwise asymmetric
      Std.ExtTreeMap.ordered_keys_toList).mpr
    refine ⟨Std.ExtTreeMap.mem_toList_iff_getElem?_eq_some.mpr stored,
      valueFits, ?_⟩
    intro other member otherFits
    have found := Std.ExtTreeMap.mem_toList_iff_getElem?_eq_some.mp member
    rcases least other.1 other.2 found otherFits with same | later
    · left
      rw [same, stored] at found
      exact Prod.ext same (Option.some.inj found).symm
    · exact .inr later

theorem find?_values_congr {map other : KeyedMap κ ν} {fits : ν → Bool}
    (same : ∀ (key : κ) (held : ν), fits held = true →
      (map[key]? = some held ↔ other[key]? = some held)) :
    map.values.find? fits = other.values.find? fits := by
  apply Option.ext
  intro value
  rw [find?_values_eq_some_iff, find?_values_eq_some_iff]
  constructor
  · intro ⟨key, stored, valueFits, least⟩
    refine ⟨key, (same key value valueFits).mp stored, valueFits, ?_⟩
    intro later held found heldFits
    exact least later held ((same later held heldFits).mpr found) heldFits
  · intro ⟨key, stored, valueFits, least⟩
    refine ⟨key, (same key value valueFits).mpr stored, valueFits, ?_⟩
    intro later held found heldFits
    exact least later held ((same later held heldFits).mp found) heldFits

/-- A new value that does not fit changes nothing about the first that does. -/
theorem find?_values_insert_of_unfit {map : KeyedMap κ ν} {inserted : κ}
    {value : ν} {fits : ν → Bool} (fresh : map[inserted]? = none)
    (unfit : fits value = false) :
    (values (map.insert inserted value)).find? fits =
      map.values.find? fits := by
  classical
  apply find?_values_congr
  intro key held heldFits
  rw [getElem?_insert_eq]
  by_cases same : inserted = key
  · rw [if_pos same, ← same, fresh]
    constructor
    · intro isValue
      rw [Option.some.inj isValue, heldFits] at unfit
      cases unfit
    · intro impossible
      cases impossible
  · rw [if_neg same]

/-- A new value that fits is the first where no other does. -/
theorem find?_values_insert_of_only {map : KeyedMap κ ν} {inserted : κ}
    {value : ν} {fits : ν → Bool} (fit : fits value = true)
    (others : map.values.find? fits = none) :
    (values (map.insert inserted value)).find? fits = some value := by
  classical
  apply find?_values_eq_some_iff.mpr
  refine ⟨inserted, Std.ExtTreeMap.getElem?_insert_self, fit, ?_⟩
  intro other held stored heldFits
  rw [getElem?_insert_eq] at stored
  by_cases same : inserted = other
  · exact .inl same.symm
  · rw [if_neg same] at stored
    have unfit := List.find?_eq_none.mp others held
      (mem_values_iff.mpr ⟨other, stored⟩)
    exact (unfit heldFits).elim

end FirstValue

end KeyedMap

section OrderedSearch

variable {α : Type} (precedes : α → α → Prop) [DecidableRel precedes]

theorem find?_insertionSort_foremost
    [Std.Total precedes] [IsTrans α precedes]
    {items : List α} {accepts : α → Bool} {found : α}
    (search : (items.insertionSort precedes).find? accepts = some found) :
    found ∈ items ∧ accepts found = true ∧
      ∀ other ∈ items, accepts other = true → precedes found other := by
  have accepted := List.find?_some search
  have member : found ∈ items :=
    (List.mem_insertionSort precedes).mp (List.mem_of_find?_eq_some search)
  refine ⟨member, accepted, ?_⟩
  intro other otherMember otherAccepted
  obtain ⟨_, before, after, split, skipped⟩ :=
    List.find?_eq_some_iff_append.mp search
  have otherSorted : other ∈ before ++ found :: after := by
    rw [← split]
    exact (List.mem_insertionSort precedes).mpr otherMember
  have sorted : (before ++ found :: after).Pairwise precedes := by
    rw [← split]
    exact List.pairwise_insertionSort precedes items
  rcases List.mem_append.mp otherSorted with inBefore | inRest
  · have refused := skipped other inBefore
    simp [otherAccepted] at refused
  · rcases List.mem_cons.mp inRest with same | inAfter
    · subst same
      rcases Std.Total.total (r := precedes) other other with self | self <;>
        exact self
    · have tailSorted := (List.pairwise_append.mp sorted).2.1
      exact List.rel_of_pairwise_cons tailSorted inAfter

end OrderedSearch

end Library
