import AuthBoundry.Library.KeyedMap
import Mathlib.Logic.Relation
import Mathlib.Order.WellFounded

/-!
# Forests in a keyed map

Entries may link to one other key, their parent.  A map that grew by storing
fresh keys under stored parents, and by replacing entries that keep their
link, is a forest: the parent relation is well founded, every entry has a
first ancestor, and what holds between each child and its parent holds between
an entry and all its ancestors.
-/

namespace Library.Forest

variable {κ ν : Type} [Ord κ] [Std.TransOrd κ] [Std.LawfulEqOrd κ]
  (link : ν → Option κ)

/-- The entry under `child` is stored and links to `parent`. -/
def IsParent (map : KeyedMap κ ν) (parent child : κ) : Prop :=
  ∃ value, map[child]? = some value ∧ link value = some parent

/-- The second key is reached from the first along links. -/
def Descends (map : KeyedMap κ ν) (child ancestor : κ) : Prop :=
  Relation.ReflTransGen (fun lower upper => IsParent link map upper lower)
    child ancestor

/-- How a forest grows. -/
inductive Grown : KeyedMap κ ν → Prop where
  | empty : Grown ∅
  | insert {map : KeyedMap κ ν} (key : κ) (value : ν) (before : Grown map)
      (fresh : map[key]? = none)
      (rooted : ∀ parent, link value = some parent → map[parent]? ≠ none) :
      Grown (map.insert key value)
  | replace {map : KeyedMap κ ν} (key : κ) (old new : ν) (before : Grown map)
      (stored : map[key]? = some old) (sameLink : link new = link old) :
      Grown (map.insert key new)

variable {link} {map : KeyedMap κ ν}

theorem isParent_insert_of_ne {key parent child : κ} {value : ν}
    (different : key ≠ child) :
    IsParent link (map.insert key value) parent child ↔
      IsParent link map parent child := by
  unfold IsParent
  rw [KeyedMap.getElem?_insert_of_ne map value different]

theorem isParent_replace {key parent child : κ} {old new : ν}
    (stored : map[key]? = some old) (sameLink : link new = link old) :
    IsParent link (map.insert key new) parent child ↔
      IsParent link map parent child := by
  classical
  by_cases same : key = child
  · subst same
    simp [IsParent, stored, sameLink]
  · exact isParent_insert_of_ne same

namespace Grown

theorem closed (grown : Grown link map) {parent child : κ}
    (linked : IsParent link map parent child) : map[parent]? ≠ none := by
  classical
  induction grown with
  | empty =>
      obtain ⟨value, stored, _⟩ := linked
      simp at stored
  | insert key value before fresh rooted induction =>
      rw [KeyedMap.getElem?_insert_eq]
      by_cases same : key = child
      · subst same
        obtain ⟨found, foundAt, links⟩ := linked
        rw [Std.ExtTreeMap.getElem?_insert_self] at foundAt
        cases foundAt
        split
        · simp
        · exact rooted parent links
      · have older := (isParent_insert_of_ne same).mp linked
        split
        · simp
        · exact induction older
  | replace key old new before stored sameLink induction =>
      have older := (isParent_replace stored sameLink).mp linked
      rw [KeyedMap.getElem?_insert_eq]
      split
      · simp
      · exact induction older

theorem wellFounded (grown : Grown link map) :
    WellFounded (IsParent link map) := by
  classical
  induction grown with
  | empty =>
      constructor
      intro child
      constructor
      rintro parent ⟨value, stored, _⟩
      simp at stored
  | insert key value before fresh rooted induction =>
      rename_i older
      -- No parent of an old entry is the new one, so old entries stay
      -- accessible.
      have old : ∀ child, older[child]? ≠ none →
          Acc (IsParent link (older.insert key value)) child := by
        intro child
        induction child using induction.induction with
        | _ child accessible =>
            intro stored
            constructor
            intro parent linked
            have different : key ≠ child := by
              rintro rfl
              exact stored fresh
            have linkedBefore := (isParent_insert_of_ne different).mp linked
            exact accessible parent linkedBefore (before.closed linkedBefore)
      constructor
      intro child
      constructor
      rintro parent ⟨found, foundAt, links⟩
      apply old parent
      by_cases same : key = child
      · subst same
        rw [Std.ExtTreeMap.getElem?_insert_self] at foundAt
        cases foundAt
        exact rooted parent links
      · rw [KeyedMap.getElem?_insert_of_ne _ _ same] at foundAt
        exact before.closed ⟨found, foundAt, links⟩
  | replace key old new before stored sameLink induction =>
      apply Subrelation.wf _ induction
      intro parent child linked
      exact (isParent_replace stored sameLink).mp linked

/-- No entry is its own ancestor. -/
theorem acyclic (grown : Grown link map) (key : κ) :
    ¬Relation.TransGen (IsParent link map) key key :=
  grown.wellFounded.transGen.irrefl.irrefl key

theorem exists_first (grown : Grown link map) {key : κ} {value : ν}
    (stored : map[key]? = some value) :
    ∃ firstKey first, Descends link map key firstKey ∧
      map[firstKey]? = some first ∧ link first = none := by
  induction key using grown.wellFounded.induction generalizing value with
  | _ key induction =>
      cases links : link value with
      | none => exact ⟨key, value, .refl, stored, links⟩
      | some parent =>
          have linked : IsParent link map parent key := ⟨value, stored, links⟩
          obtain ⟨parentValue, parentStored⟩ :=
            Option.ne_none_iff_exists'.mp (grown.closed linked)
          obtain ⟨firstKey, first, descends, found, isFirst⟩ :=
            induction parent linked parentStored
          exact ⟨firstKey, first, .head linked descends, found, isFirst⟩

end Grown

omit [Std.LawfulEqOrd κ] in
/-- A reflexive and transitive relation between each child and its parent
holds between an entry and its ancestors. -/
theorem Descends.related {within : ν → ν → Prop}
    (reflexive : ∀ value, within value value)
    (transitive : ∀ lower middle upper, within lower middle →
      within middle upper → within lower upper)
    (linked : ∀ (key parent : κ) (value parentValue : ν),
      map[key]? = some value → link value = some parent →
        map[parent]? = some parentValue → within value parentValue)
    {key ancestor : κ} (descends : Descends link map key ancestor)
    {ancestorValue : ν} (ancestorStored : map[ancestor]? = some ancestorValue) :
    ∃ value, map[key]? = some value ∧ within value ancestorValue := by
  induction descends using Relation.ReflTransGen.head_induction_on with
  | refl => exact ⟨ancestorValue, ancestorStored, reflexive ancestorValue⟩
  | head step _ induction =>
      obtain ⟨value, stored, links⟩ := step
      obtain ⟨parentValue, parentStored, above⟩ := induction
      have below := linked _ _ value parentValue stored links parentStored
      exact ⟨value, stored, transitive value parentValue ancestorValue below
        above⟩

end Library.Forest
