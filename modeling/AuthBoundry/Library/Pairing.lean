import Mathlib.Data.List.Basic
import Mathlib.Data.List.Forall2

/-!
# Pairing the elements of two lists

Each element of one list takes the first related element of the other that is
not taken yet.  What is taken is remembered by position, so that equal elements
count separately: the pairs and the elements left over make up both lists.
-/

namespace Library

variable {α β : Type}

/-! ## Picking by position -/

/-- The elements whose positions, counted from `start`, were not picked. -/
def unpickedFrom (start : Nat) (picked : List Nat) (items : List α) : List α :=
  (items.zipIdx start).filterMap fun entry =>
    if picked.contains entry.2 then none else some entry.1

def unpicked (picked : List Nat) (items : List α) : List α :=
  unpickedFrom 0 picked items

theorem unpicked_nil (items : List α) : unpicked [] items = items := by
  simp [unpicked, unpickedFrom, List.zipIdx_map_fst]

theorem unpickedFrom_cons (start : Nat) (picked : List Nat) (first : α)
    (items : List α) :
    unpickedFrom start picked (first :: items) =
      if picked.contains start then unpickedFrom (start + 1) picked items
      else first :: unpickedFrom (start + 1) picked items := by
  unfold unpickedFrom
  rw [List.zipIdx_cons, List.filterMap_cons]
  by_cases known : picked.contains start = true
  · simp only [known, if_true]
  · simp only [known, if_false, Bool.false_eq_true]

/-- A position before the first one leaves every element. -/
theorem unpickedFrom_of_lt {start before : Nat} (lower : before < start)
    (picked : List Nat) (items : List α) :
    unpickedFrom start (before :: picked) items =
      unpickedFrom start picked items := by
  induction items generalizing start with
  | nil => rfl
  | cons first items induction =>
      have other : (before :: picked).contains start =
          picked.contains start := by
        have different : (start == before) = false := by
          simp
          omega
        rw [List.contains_cons, different, Bool.false_or]
      rw [unpickedFrom_cons, unpickedFrom_cons, other,
        induction (Nat.lt_succ_of_lt lower)]

theorem unpickedFrom_perm {start index : Nat} {picked : List Nat}
    {items : List α} {item : α} (fresh : start + index ∉ picked)
    (found : items[index]? = some item) :
    (unpickedFrom start picked items).Perm
      (item :: unpickedFrom start ((start + index) :: picked) items) := by
  induction items generalizing start index with
  | nil => simp at found
  | cons first items induction =>
      cases index with
      | zero =>
          have same : first = item := by simpa using found
          have unknown : picked.contains start = false := by
            simpa using fresh
          have known : (start :: picked).contains start = true := by simp
          rw [Nat.add_zero, unpickedFrom_cons, unpickedFrom_cons, known,
            unknown, same, unpickedFrom_of_lt (Nat.lt_succ_self start)]
          simp
      | succ index =>
          have later : items[index]? = some item := by simpa using found
          have shift : start + (index + 1) = start + 1 + index := by omega
          rw [shift] at fresh ⊢
          have rest := induction fresh later
          have other : ((start + 1 + index) :: picked).contains start =
              picked.contains start := by
            have different : (start == start + 1 + index) = false := by
              simp
              omega
            rw [List.contains_cons, different, Bool.false_or]
          rw [unpickedFrom_cons, unpickedFrom_cons, other]
          by_cases known : picked.contains start = true
          · rw [if_pos known, if_pos known]
            exact rest
          · rw [if_neg known, if_neg known]
            exact (rest.cons first).trans (.swap item first _)

/-- The chosen elements stand at the picked positions, each picked once. -/
structure Picks (picked : List Nat) (items chosen : List α) : Prop where
  distinct : picked.Nodup
  each : List.Forall₂ (fun index item => items[index]? = some item)
    picked chosen

namespace Picks

variable {picked : List Nat} {items chosen : List α}

theorem nil (items : List α) : Picks [] items [] :=
  ⟨.nil, .nil⟩

theorem snoc (picks : Picks picked items chosen) {index : Nat} {item : α}
    (fresh : index ∉ picked) (found : items[index]? = some item) :
    Picks (picked ++ [index]) items (chosen ++ [item]) := by
  constructor
  · apply List.nodup_append.mpr
    refine ⟨picks.distinct, by simp, ?_⟩
    intro left leftMember right rightMember same
    rw [List.mem_singleton.mp rightMember] at same
    exact fresh (same ▸ leftMember)
  · exact List.rel_append picks.each (.cons found .nil)

theorem perm (picks : Picks picked items chosen) :
    (unpicked picked items ++ chosen).Perm items := by
  obtain ⟨distinct, each⟩ := picks
  induction each with
  | nil =>
      rw [unpicked_nil, List.append_nil]
  | @cons index item picked chosen found _ induction =>
      have fresh : index ∉ picked := (List.nodup_cons.mp distinct).1
      have taken : (unpicked picked items).Perm
          (item :: unpicked (index :: picked) items) := by
        have startsAtZero : 0 + index = index := Nat.zero_add index
        rw [← startsAtZero] at fresh
        have taken := unpickedFrom_perm fresh found
        rwa [startsAtZero] at taken
      have moved : (unpicked (index :: picked) items ++ item :: chosen).Perm
          (item :: (unpicked (index :: picked) items ++ chosen)) :=
        List.perm_middle
      exact (moved.trans (taken.append_right chosen).symm).trans
        (induction (List.nodup_cons.mp distinct).2)

end Picks

/-! ## The greedy pairing -/

/-- The positions taken so far and the pairs, in the order of the first
list. -/
structure Pairs (α β : Type) where
  pickedLeft : List Nat
  pickedRight : List Nat
  pairs : List (α × β)

namespace Pairs

def empty : Pairs α β := { pickedLeft := [], pickedRight := [], pairs := [] }

/-- Pair an element with the first related one that is still free. -/
def step (related : α → β → Bool) (right : List β) (state : Pairs α β)
    (entry : α × Nat) : Pairs α β :=
  match right.zipIdx.find? fun other =>
      !state.pickedRight.contains other.2 && related entry.1 other.1 with
  | some other =>
      { pickedLeft := state.pickedLeft ++ [entry.2]
        pickedRight := state.pickedRight ++ [other.2]
        pairs := state.pairs ++ [(entry.1, other.1)] }
  | none => state

def pair (related : α → β → Bool) (left : List α) (right : List β) :
    Pairs α β :=
  left.zipIdx.foldl (step related right) empty

/-- The pairs are picked from both lists, from the first one before a
position. -/
structure Sound (left : List α) (right : List β) (position : Nat)
    (state : Pairs α β) : Prop where
  left : Picks state.pickedLeft left (state.pairs.map Prod.fst)
  right : Picks state.pickedRight right (state.pairs.map Prod.snd)
  before : ∀ index ∈ state.pickedLeft, index < position

variable {left : List α} {right : List β}

theorem sound_step (related : α → β → Bool) {position : Nat}
    {state : Pairs α β} {item : α}
    (sound : Sound left right position state)
    (found : left[position]? = some item) :
    Sound left right (position + 1)
      (step related right state (item, position)) := by
  have later : ∀ index ∈ state.pickedLeft, index < position + 1 :=
    fun index member => Nat.lt_succ_of_lt (sound.before index member)
  unfold step
  split
  · rename_i other matched
    have free := List.find?_some matched
    rw [Bool.and_eq_true, Bool.not_eq_true', List.contains_eq_mem] at free
    have known : right[other.2]? = some other.1 :=
      List.mk_mem_zipIdx_iff_getElem?.mp (List.mem_of_find?_eq_some matched)
    constructor
    · rw [List.map_append]
      exact sound.left.snoc
        (fun member => Nat.lt_irrefl _ (sound.before _ member)) found
    · rw [List.map_append]
      exact sound.right.snoc (by simpa using free.1) known
    · intro index member
      rcases List.mem_append.mp member with old | new
      · exact later index old
      · rw [List.mem_singleton.mp new]
        exact Nat.lt_succ_self position
  · exact ⟨sound.left, sound.right, later⟩

theorem sound_foldl (related : α → β → Bool) {start : Nat}
    {state : Pairs α β} {rest : List α}
    (sound : Sound left right start state) (remains : left.drop start = rest) :
    Sound left right (start + rest.length)
      ((rest.zipIdx start).foldl (step related right) state) := by
  induction rest generalizing start state with
  | nil => exact sound
  | cons item rest induction =>
      have found : left[start]? = some item := by
        rw [← List.head?_drop, remains]
        rfl
      have remainsNext : left.drop (start + 1) = rest := by
        rw [← List.tail_drop, remains]
        rfl
      have next := induction (sound_step related sound found) remainsNext
      rw [List.zipIdx_cons, List.foldl_cons, List.length_cons,
        Nat.add_comm rest.length, ← Nat.add_assoc]
      exact next

theorem sound_pair (related : α → β → Bool) (left : List α)
    (right : List β) :
    Sound left right left.length (pair related left right) := by
  have start : Sound left right 0 (empty : Pairs α β) :=
    ⟨.nil left, .nil right, by simp [empty]⟩
  have whole := sound_foldl related start List.drop_zero
  rwa [Nat.zero_add] at whole

theorem perm_left (related : α → β → Bool) (left : List α)
    (right : List β) :
    (unpicked (pair related left right).pickedLeft left ++
      (pair related left right).pairs.map Prod.fst).Perm left :=
  (sound_pair related left right).left.perm

theorem perm_right (related : α → β → Bool) (left : List α)
    (right : List β) :
    (unpicked (pair related left right).pickedRight right ++
      (pair related left right).pairs.map Prod.snd).Perm right :=
  (sound_pair related left right).right.perm

end Pairs

/-! ## Lists that are related one by one -/

theorem exists_right_of_mem {related : α → β → Prop} {lefts : List α}
    {rights : List β} (pairs : List.Forall₂ related lefts rights) {left : α}
    (member : left ∈ lefts) : ∃ right ∈ rights, related left right := by
  induction pairs with
  | nil => cases member
  | @cons first other lefts rights firstRelated _ induction =>
      rcases List.mem_cons.mp member with same | later
      · rw [same]
        exact ⟨other, List.mem_cons_self, firstRelated⟩
      · obtain ⟨right, listed, holds⟩ := induction later
        exact ⟨right, List.mem_cons_of_mem _ listed, holds⟩

theorem exists_left_of_mem {related : α → β → Prop} {lefts : List α}
    {rights : List β} (pairs : List.Forall₂ related lefts rights) {right : β}
    (member : right ∈ rights) : ∃ left ∈ lefts, related left right :=
  exists_right_of_mem pairs.flip member

end Library
