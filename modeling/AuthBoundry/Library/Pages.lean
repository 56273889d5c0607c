import Mathlib.Data.List.Nodup
import Mathlib.Data.List.Sort

/-!
# Reading a sorted list in pages

A page lists the items from a rank on, up to a number of them.  A reader asks
for the page that starts at the rank of the last item it was given, drops what
it has by name, and stops at a page that brings nothing new.  The rank is no
position: where a whole page has one rank, the next page is the same again.
-/

namespace Library

variable {α ι κ : Type}

/-! ## Readers -/

def unseen [DecidableEq κ] (name : α → κ) (seen : List α) : List α → List α
  | [] => []
  | item :: page =>
      if name item ∈ seen.map name then unseen name seen page
      else item :: unseen name (seen ++ [item]) page

structure PageReader (α ι : Type) where
  seen : List α
  since : Option ι

namespace PageReader

variable [DecidableEq κ] (rank : α → ι) (name : α → κ)
  (pages : Option ι → List α)

def start : PageReader α ι := { seen := [], since := none }

/-- What the next page brings. -/
def brought (self : PageReader α ι) : List α :=
  unseen name self.seen (pages self.since)

def turn (self : PageReader α ι) : PageReader α ι :=
  { seen := self.seen ++ self.brought name pages
    since := ((pages self.since).getLast?.map rank).or self.since }

/-- All that is read until a page brings nothing new, if that comes within so
many pages. -/
def readOn : Nat → PageReader α ι → Option (List α)
  | 0, _ => none
  | turns + 1, self =>
      if (self.brought name pages).isEmpty then some self.seen
      else readOn turns (self.turn rank name pages)

end PageReader

section Unseen

variable [DecidableEq κ]

theorem unseen_append_new {name : α → κ} {seen page : List α}
    (distinct : ((seen ++ page).map name).Nodup) :
    unseen name seen page = page := by
  induction page generalizing seen with
  | nil => rfl
  | cons item page induction =>
      have fresh : name item ∉ seen.map name := by
        rw [List.map_append, List.map_cons] at distinct
        intro known
        exact (List.disjoint_of_nodup_append distinct) known
          List.mem_cons_self
      rw [unseen, if_neg fresh, induction]
      rwa [List.append_assoc, List.singleton_append]

theorem unseen_append {name : α → κ} {seen known page : List α}
    (listed : known ⊆ seen) :
    unseen name seen (known ++ page) = unseen name seen page := by
  induction known with
  | nil => rfl
  | cons item known induction =>
      obtain ⟨here, rest⟩ := List.cons_subset.mp listed
      rw [List.cons_append, unseen, if_pos (List.mem_map_of_mem here),
        induction rest]

/-- Nothing is read under a name twice. -/
theorem nodup_append_unseen {name : α → κ} {seen : List α} (page : List α)
    (distinct : (seen.map name).Nodup) :
    ((seen ++ unseen name seen page).map name).Nodup := by
  induction page generalizing seen with
  | nil => simpa [unseen] using distinct
  | cons item page induction =>
      rw [unseen]
      split
      · exact induction distinct
      · rename_i fresh
        have longer : ((seen ++ [item]).map name).Nodup := by
          rw [List.map_append, List.nodup_append]
          refine ⟨distinct, List.nodup_singleton _, ?_⟩
          rintro known listed _ last rfl
          rw [List.map_singleton, List.mem_singleton] at last
          exact fresh (last ▸ listed)
        have rest := induction longer
        rwa [List.append_assoc, List.singleton_append] at rest

theorem unseen_subset (name : α → κ) (seen page : List α) :
    unseen name seen page ⊆ page := by
  induction page generalizing seen with
  | nil => exact List.Subset.refl _
  | cons item page induction =>
      rw [unseen]
      split
      · exact List.Subset.trans (induction seen)
          (List.subset_cons_self item page)
      · exact List.cons_subset_cons item (induction _)

end Unseen

/-! ## Every reader stops -/

section Stopping

variable {rank : α → ι} {name : α → κ} {pages : Option ι → List α}
  {items : List α}

/-- What the reader has is listed, under names that differ. -/
structure PageReader.Sound (name : α → κ) (items : List α)
    (reader : PageReader α ι) : Prop where
  listed : reader.seen ⊆ items
  distinct : (reader.seen.map name).Nodup

theorem PageReader.Sound.turn [DecidableEq κ] {reader : PageReader α ι}
    (listed : ∀ since, pages since ⊆ items)
    (sound : reader.Sound name items) :
    (reader.turn rank name pages).Sound name items where
  listed := List.append_subset.mpr
    ⟨sound.listed, List.Subset.trans (unseen_subset name _ _)
      (listed reader.since)⟩
  distinct := nodup_append_unseen _ sound.distinct

theorem PageReader.Sound.length_le {reader : PageReader α ι}
    (sound : reader.Sound name items) : reader.seen.length ≤ items.length := by
  have within : reader.seen.map name ⊆ items.map name :=
    List.map_subset name sound.listed
  simpa using (List.subperm_of_subset sound.distinct within).length_le

/-- With one turn more than there are items, the reader comes to its end. -/
theorem PageReader.readOn_sound [DecidableEq κ]
    (listed : ∀ since, pages since ⊆ items) {turns : Nat}
    {reader : PageReader α ι} (sound : reader.Sound name items)
    (enough : items.length < reader.seen.length + turns) :
    ∃ seen, reader.readOn rank name pages turns = some seen ∧
      (seen.map name).Nodup := by
  induction turns generalizing reader with
  | zero =>
      have few := sound.length_le
      omega
  | succ turns induction =>
      rw [readOn]
      split
      · exact ⟨reader.seen, rfl, sound.distinct⟩
      · rename_i brings
        apply induction (sound.turn listed)
        have more : 0 < (reader.brought name pages).length := by
          rw [List.length_pos_iff]
          intro none
          exact brings (List.isEmpty_iff.mpr none)
        change items.length <
          (reader.seen ++ reader.brought name pages).length + turns
        rw [List.length_append]
        omega

end Stopping

/-! ## Pages of a sorted list -/

section Pages

variable [LinearOrder ι]

def page (rank : α → ι) (items : List α) (limit : Nat) (since : Option ι) :
    List α :=
  (items.filter fun item => since.all fun bound => bound ≤ rank item).take
    limit

/-- Fewer items than a page holds share a rank; the last rank may fill one. -/
def Uncrowded (rank : α → ι) (items : List α) (limit : Nat) : Prop :=
  ∀ item ∈ items, items.countP (fun other => rank other = rank item) < limit ∨
    items.countP (fun other => rank other = rank item) = limit ∧
      ∀ other ∈ items, rank other ≤ rank item

instance (rank : α → ι) (items : List α) (limit : Nat) :
    Decidable (Uncrowded rank items limit) :=
  inferInstanceAs (Decidable (∀ item ∈ items, _ ∨ _))

theorem Uncrowded.perm {rank : α → ι} {before after : List α} {limit : Nat}
    (permuted : before.Perm after)
    (uncrowded : Uncrowded rank before limit) :
    Uncrowded rank after limit := by
  intro item member
  rw [← permuted.countP_eq]
  rcases uncrowded item (permuted.mem_iff.mpr member) with
    few | ⟨exact, latest⟩
  · exact .inl few
  · exact .inr ⟨exact, fun other listed =>
      latest other (permuted.mem_iff.mpr listed)⟩

def below (rank : α → ι) (items : List α) (bound : ι) : Nat :=
  items.countP fun item => rank item < bound

theorem below_mono {rank : α → ι} {items : List α} {bound later : ι}
    (ordered : bound ≤ later) :
    below rank items bound ≤ below rank items later := by
  apply List.countP_mono_left
  intro item _ early
  simp only [decide_eq_true_eq] at early ⊢
  exact early.trans_le ordered

theorem countP_le_eq (rank : α → ι) (items : List α) (bound : ι) :
    (items.countP fun item => rank item ≤ bound) =
      below rank items bound +
        items.countP fun item => rank item = bound := by
  unfold below
  induction items with
  | nil => rfl
  | cons first items induction =>
      simp only [List.countP_cons, induction]
      rcases lt_trichotomy (rank first) bound with less | same | more
      · simp [less, less.le, less.ne]
        omega
      · simp [same, Nat.add_assoc]
      · simp [more.not_gt, more.not_ge, more.ne']

section Initial

variable {property : α → Bool} {items : List α}

/-- Where a property only ever stops holding, counting it finds its end. -/
theorem filter_eq_take_countP
    (closed : items.Pairwise fun left right =>
      property right = true → property left = true) :
    items.filter property = items.take (items.countP property) := by
  induction items with
  | nil => rfl
  | cons first items induction =>
      obtain ⟨before, closed⟩ := List.pairwise_cons.mp closed
      by_cases holds : property first = true
      · rw [List.filter_cons_of_pos holds, List.countP_cons_of_pos holds,
          List.take_succ_cons, induction closed]
      · have never : ∀ item ∈ items, ¬property item = true :=
          fun item member later => holds (before item member later)
        rw [List.filter_cons_of_neg holds, List.countP_cons_of_neg holds,
          List.countP_eq_zero.mpr never, List.take_zero,
          List.filter_eq_nil_iff.mpr never]

theorem filter_not_eq_drop_countP
    (closed : items.Pairwise fun left right =>
      property right = true → property left = true) :
    items.filter (fun item => !property item) =
      items.drop (items.countP property) := by
  induction items with
  | nil => rfl
  | cons first items induction =>
      obtain ⟨before, closed⟩ := List.pairwise_cons.mp closed
      by_cases holds : property first = true
      · rw [List.filter_cons_of_neg (by simp [holds]),
          List.countP_cons_of_pos holds, List.drop_succ_cons,
          induction closed]
      · have never : ∀ item ∈ items, ¬property item = true :=
          fun item member later => holds (before item member later)
        have every : ∀ item ∈ first :: items, (!property item) = true := by
          intro item member
          rcases List.mem_cons.mp member with rfl | later
          · simpa using holds
          · simpa using never item later
        rw [List.countP_cons_of_neg holds, List.countP_eq_zero.mpr never,
          List.drop_zero, List.filter_eq_self.mpr every]

end Initial

section Sorted

variable {rank : α → ι} {items : List α}
  (sorted : items.Pairwise fun left right => rank left ≤ rank right)

include sorted

theorem filter_eq_drop_below (bound : ι) :
    items.filter (fun item => decide (bound ≤ rank item)) =
      items.drop (below rank items bound) := by
  have closed : items.Pairwise fun left right =>
      decide (rank right < bound) = true →
        decide (rank left < bound) = true := by
    apply sorted.imp
    intro left right ordered
    simpa using ordered.trans_lt
  unfold below
  rw [← filter_not_eq_drop_countP closed]
  apply List.filter_congr
  intro item _
  rw [← decide_not, decide_eq_decide]
  exact not_lt.symm

theorem lt_of_mem_take_below {bound : ι} {item : α}
    (member : item ∈ items.take (below rank items bound)) :
    rank item < bound := by
  have closed : items.Pairwise fun left right =>
      decide (rank right < bound) = true →
        decide (rank left < bound) = true := by
    apply sorted.imp
    intro left right ordered
    simpa using ordered.trans_lt
  unfold below at member
  rw [← filter_eq_take_countP closed] at member
  simpa using (List.mem_filter.mp member).2

theorem le_of_mem_drop_below {bound : ι} {item : α}
    (member : item ∈ items.drop (below rank items bound)) :
    bound ≤ rank item := by
  rw [← filter_eq_drop_below sorted] at member
  simpa using (List.mem_filter.mp member).2

theorem le_of_mem_take {bound : ι} {item : α} {count : Nat}
    (few : count ≤ items.countP fun other => rank other ≤ bound)
    (member : item ∈ items.take count) : rank item ≤ bound := by
  have closed : items.Pairwise fun left right =>
      decide (rank right ≤ bound) = true →
        decide (rank left ≤ bound) = true := by
    apply sorted.imp
    intro left right ordered
    simpa using ordered.trans
  have listed := List.take_subset_take_left items few member
  rw [← filter_eq_take_countP closed] at listed
  simpa using (List.mem_filter.mp listed).2

end Sorted

/-! ## What a reader of the pages reaches -/

/-- The reader has just been given the page that starts at a position, and
will ask from a rank on. -/
structure PageReader.Reached (rank : α → ι) (items : List α)
    (limit first : Nat) (bound : ι) (reader : PageReader α ι) : Prop where
  seen : reader.seen = items.take (first + limit)
  since : reader.since = some bound
  attained : ∃ item ∈ (items.drop first).take limit, rank item = bound
  greatest : ∀ item ∈ (items.drop first).take limit, rank item ≤ bound
  onward : first ≤ below rank items bound

theorem exists_getLast_of_sorted {rank : α → ι} {block : List α}
    (sorted : block.Pairwise fun left right => rank left ≤ rank right)
    (inhabited : block ≠ []) :
    ∃ last ∈ block, block.getLast? = some last ∧
      ∀ item ∈ block, rank item ≤ rank last := by
  refine ⟨block.getLast inhabited, List.getLast_mem inhabited,
    List.getLast?_eq_some_getLast inhabited, ?_⟩
  intro item member
  rw [← List.dropLast_append_getLast inhabited] at sorted member
  rcases List.mem_append.mp member with early | last
  · exact (List.pairwise_append.mp sorted).2.2 item early _
      (List.mem_singleton_self _)
  · rw [List.mem_singleton.mp last]

/-- A stretch of a list, cut in two. -/
theorem drop_take_split {items : List α} {first middle last : Nat}
    (before : first ≤ middle) (after : middle ≤ last) :
    (items.take last).drop first =
      (items.take middle).drop first ++ (items.take last).drop middle := by
  have halves : items.take last =
      items.take middle ++ (items.take last).drop middle := by
    have parts := List.take_append_drop middle (items.take last)
    rwa [List.take_take, Nat.min_eq_left after, eq_comm] at parts
  by_cases long : middle ≤ items.length
  · have exact : first - (items.take middle).length = 0 := by
      rw [List.length_take, Nat.min_eq_left long]
      omega
    conv_lhs => rw [halves]
    rw [List.drop_append, exact, List.drop_zero]
  · have beyond : (items.take last).drop middle = [] := by
      rw [List.drop_eq_nil_iff, List.length_take]
      omega
    rw [beyond, List.append_nil] at halves ⊢
    rw [halves]

section Reading

variable [DecidableEq κ] {rank : α → ι} {name : α → κ} {items : List α}
  {limit : Nat}
  (sorted : items.Pairwise fun left right => rank left ≤ rank right)

include sorted

theorem page_some (bound : ι) :
    page rank items limit (some bound) =
      (items.drop (below rank items bound)).take limit := by
  unfold page
  rw [← filter_eq_drop_below sorted]
  rfl

theorem PageReader.reached_of_page (positive : 0 < limit) {first : Nat}
    (inside : first < items.length) {reader : PageReader α ι}
    (seen : reader.seen = items.take (first + limit))
    {previous : Option ι}
    (since : reader.since =
      (((items.drop first).take limit).getLast?.map rank).or previous)
    (onward : ∀ item ∈ items.drop first,
      first ≤ below rank items (rank item)) :
    ∃ bound, reader.Reached rank items limit first bound := by
  have inhabited : (items.drop first).take limit ≠ [] := by
    intro empty
    have none := congrArg List.length empty
    rw [List.length_take, List.length_drop, List.length_nil] at none
    omega
  have block : ((items.drop first).take limit).Pairwise
      fun left right => rank left ≤ rank right :=
    sorted.sublist ((List.take_sublist _ _).trans (List.drop_sublist _ _))
  obtain ⟨last, member, isLast, greatest⟩ :=
    exists_getLast_of_sorted block inhabited
  refine ⟨rank last, seen, ?_, ⟨last, member, rfl⟩, greatest,
    onward last (List.mem_of_mem_take member)⟩
  rw [since, isLast]
  rfl

namespace PageReader.Reached

variable {reader : PageReader α ι} {first : Nat} {bound : ι}

/-- The next page starts within what was read. -/
theorem below_le (reached : reader.Reached rank items limit first bound) :
    below rank items bound ≤ first + limit := by
  obtain ⟨item, member, attains⟩ := reached.attained
  by_contra beyond
  rw [List.take_drop] at member
  have early : item ∈ items.take (below rank items bound) :=
    List.take_subset_take_left items (Nat.le_of_not_le beyond)
      (List.mem_of_mem_drop member)
  exact absurd (lt_of_mem_take_below sorted early) (by simp [attains])

/-- What the next page brings is what it lists beyond the last one. -/
theorem brought_eq (reached : reader.Reached rank items limit first bound)
    (distinct : (items.map name).Nodup) :
    reader.brought name (page rank items limit) =
      (items.take (below rank items bound + limit)).drop (first + limit) := by
  have within := reached.below_le sorted
  have further : first + limit ≤ below rank items bound + limit :=
    Nat.add_le_add_right reached.onward limit
  unfold brought
  rw [reached.since, reached.seen, page_some sorted, List.take_drop,
    drop_take_split within further,
    unseen_append (List.drop_subset _ _), unseen_append_new]
  have parts := List.take_append_drop (first + limit)
    (items.take (below rank items bound + limit))
  rw [List.take_take, Nat.min_eq_left further] at parts
  rw [parts]
  exact distinct.sublist ((List.take_sublist _ _).map name)

theorem turn (reached : reader.Reached rank items limit first bound)
    (distinct : (items.map name).Nodup) (positive : 0 < limit) :
    ∃ later, (reader.turn rank name (page rank items limit)).Reached rank
      items limit (below rank items bound) later := by
  have further : first + limit ≤ below rank items bound + limit :=
    Nat.add_le_add_right reached.onward limit
  obtain ⟨item, member, attains⟩ := reached.attained
  have inside : below rank items bound < items.length := by
    by_contra beyond
    have early : item ∈ items.take (below rank items bound) := by
      rw [List.take_of_length_le (Nat.le_of_not_lt beyond)]
      exact List.mem_of_mem_drop (List.mem_of_mem_take member)
    exact absurd (lt_of_mem_take_below sorted early) (by simp [attains])
  apply reached_of_page sorted positive inside
  · unfold PageReader.turn
    dsimp only
    rw [reached.brought_eq sorted distinct, reached.seen]
    have parts := List.take_append_drop (first + limit)
      (items.take (below rank items bound + limit))
    rwa [List.take_take, Nat.min_eq_left further] at parts
  · unfold PageReader.turn
    dsimp only
    rw [reached.since, page_some sorted]
  · intro other late
    exact below_mono (le_of_mem_drop_below sorted late)

/-- The page brings nothing new although there is more: all of it has one
rank, and what follows is crowded out. -/
theorem crowds (reached : reader.Reached rank items limit first bound)
    (stays : below rank items bound = first)
    (more : first + limit < items.length)
    (uncrowded : Uncrowded rank items limit) : False := by
  obtain ⟨item, member, attains⟩ := reached.attained
  have late : ∀ other ∈ items.drop first, bound ≤ rank other := by
    intro other listed
    rw [← stays] at listed
    exact le_of_mem_drop_below sorted listed
  have shared : ∀ count, (∀ other ∈ (items.drop first).take count,
      rank other ≤ bound) → first + count ≤ items.length →
      count ≤ items.countP fun other => rank other = rank item := by
    intro count low long
    have every : ((items.drop first).take count).countP
        (fun other => decide (rank other = rank item)) =
          ((items.drop first).take count).length := by
      rw [List.countP_eq_length]
      intro other listed
      rw [decide_eq_true_eq, attains]
      exact le_antisymm (low other listed)
        (late other (List.mem_of_mem_take listed))
    have part : ((items.drop first).take count).countP
        (fun other => decide (rank other = rank item)) ≤
          items.countP fun other => decide (rank other = rank item) :=
      ((List.take_sublist count (items.drop first)).trans
        (List.drop_sublist first items)).countP_le
    rw [every, List.length_take, List.length_drop] at part
    omega
  have full := shared limit reached.greatest more.le
  rcases uncrowded item (List.mem_of_mem_drop (List.mem_of_mem_take member))
    with few | ⟨exact, latest⟩
  · omega
  · have beyond := shared (limit + 1)
      (fun other listed => attains ▸ latest other
        (List.mem_of_mem_drop (List.mem_of_mem_take listed))) more
    omega

theorem readOn_complete (reached : reader.Reached rank items limit first bound)
    (distinct : (items.map name).Nodup) (positive : 0 < limit)
    (uncrowded : Uncrowded rank items limit) {turns : Nat} {seen : List α}
    (read : reader.readOn rank name (page rank items limit) turns =
      some seen) : seen = items := by
  induction turns generalizing reader first bound with
  | zero => cases read
  | succ turns induction =>
      rw [readOn] at read
      split at read
      · rename_i nothing
        cases read
        rw [reached.seen]
        apply List.take_of_length_le
        by_contra short
        rw [reached.brought_eq sorted distinct, List.isEmpty_iff,
          List.drop_eq_nil_iff, List.length_take] at nothing
        refine reached.crowds sorted ?_ (Nat.lt_of_not_le short) uncrowded
        have onward := reached.onward
        omega
      · obtain ⟨later, next⟩ := reached.turn sorted distinct positive
        exact induction next read

/-- A crowded rank is never read past. -/
theorem readOn_incomplete
    (reached : reader.Reached rank items limit first bound)
    (distinct : (items.map name).Nodup) (positive : 0 < limit) {crowd : ι}
    (full : limit ≤ items.countP fun other => rank other = crowd)
    (more : below rank items crowd + limit < items.length)
    (early : first ≤ below rank items crowd) {turns : Nat} {seen : List α}
    (read : reader.readOn rank name (page rank items limit) turns =
      some seen) : seen.length < items.length := by
  induction turns generalizing reader first bound with
  | zero => cases read
  | succ turns induction =>
      rw [readOn] at read
      split at read
      · cases read
        rw [reached.seen, List.length_take]
        omega
      · obtain ⟨later, next⟩ := reached.turn sorted distinct positive
        apply induction next ?_ read
        obtain ⟨item, member, attains⟩ := reached.attained
        rw [← attains]
        apply below_mono
        rw [List.take_drop] at member
        apply le_of_mem_take sorted ?_ (List.mem_of_mem_drop member)
        have split := countP_le_eq rank items crowd
        omega

end PageReader.Reached

omit [DecidableEq κ] sorted in
/-- Where a rank is crowded, a page that starts with it ends before the list
does. -/
theorem exists_crowd (crowded : ¬Uncrowded rank items limit) :
    ∃ crowd, limit ≤ items.countP (fun other => rank other = crowd) ∧
      below rank items crowd + limit < items.length := by
  unfold Uncrowded at crowded
  push Not at crowded
  obtain ⟨item, member, many, more⟩ := crowded
  refine ⟨rank item, many, ?_⟩
  have whole : items.length = _ + _ := List.length_eq_countP_add_countP
    fun other => decide (rank other ≤ rank item)
  rw [countP_le_eq] at whole
  rcases Nat.lt_or_eq_of_le many with beyond | exact
  · omega
  · obtain ⟨other, listed, higher⟩ := more exact.symm
    have beyond : 0 < items.countP
        (fun other => ¬decide (rank other ≤ rank item) = true) := by
      rw [List.countP_pos_iff]
      exact ⟨other, listed, by simpa using higher⟩
    omega

theorem PageReader.readOn_start_iff (distinct : (items.map name).Nodup)
    (positive : 0 < limit) {turns : Nat} (enough : items.length ≤ turns) :
    start.readOn rank name (page rank items limit) (turns + 1) =
        some items ↔
      Uncrowded rank items limit := by
  rcases Nat.eq_zero_or_pos items.length with none | some
  · rw [List.length_eq_zero_iff] at none
    subst none
    exact iff_of_true (by simp [readOn, brought, page, start, unseen])
      fun item member => absurd member List.not_mem_nil
  have first : page rank items limit (none : Option ι) = items.take limit := by
    unfold page
    congr 1
    exact List.filter_eq_self.mpr fun _ _ => rfl
  have brings : (start : PageReader α ι).brought name
      (page rank items limit) = items.take limit := by
    unfold brought
    change unseen name [] (page rank items limit none) = _
    rw [first, unseen_append_new]
    exact distinct.sublist ((List.take_sublist _ _).map name)
  have inhabited : (items.take limit).isEmpty = false := by
    rw [List.isEmpty_eq_false_iff, ← List.length_pos_iff, List.length_take]
    omega
  obtain ⟨bound, reached⟩ : ∃ bound,
      (start.turn rank name (page rank items limit)).Reached rank items limit
        0 bound := by
    have seen : (start.turn rank name (page rank items limit)).seen =
        items.take (0 + limit) := by
      unfold PageReader.turn
      rw [brings, Nat.zero_add]
      rfl
    have since : (start.turn rank name (page rank items limit)).since =
        (((items.drop 0).take limit).getLast?.map rank).or none := by
      unfold PageReader.turn
      change ((page rank items limit none).getLast?.map rank).or none = _
      rw [first]
      rfl
    exact reached_of_page sorted positive some seen since
      fun _ _ => Nat.zero_le _
  rw [readOn, brings, inhabited, if_neg Bool.false_ne_true]
  constructor
  · intro read
    by_contra crowded
    obtain ⟨crowd, full, more⟩ := exists_crowd crowded
    have short := reached.readOn_incomplete sorted distinct positive full more
      (Nat.zero_le _) read
    exact absurd short (Nat.lt_irrefl _)
  · intro uncrowded
    have listed : ∀ since, page rank items limit since ⊆ items :=
      fun since => List.Subset.trans (List.take_subset _ _)
        (List.filter_subset_self _)
    have sound : (start : PageReader α ι).Sound name items :=
      { listed := List.nil_subset _, distinct := List.nodup_nil }
    have turned : (start.turn rank name (page rank items limit)).Sound name
        items := sound.turn listed
    have longer : items.length <
        (start.turn rank name (page rank items limit)).seen.length +
          turns := by
      unfold PageReader.turn
      rw [brings, List.length_append, List.length_take]
      omega
    obtain ⟨seen, read, -⟩ := @readOn_sound _ _ _ rank _ _ _ _ listed _ _
      turned longer
    rw [read, reached.readOn_complete sorted distinct positive uncrowded read]

end Reading

end Pages

end Library
