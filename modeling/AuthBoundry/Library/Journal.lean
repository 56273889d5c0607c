import AuthBoundry.Library.KeyedMap

/-!
# Journals

A journal is a list of entries, each of which leads from one state to the next.
Where every entry raises the rank of the state by one, the ranks number the
entries.
-/

namespace Library

section Chains

variable {σ ε : Type} (start stop : ε → σ)

/-- The entries lead from the first state to the last, each starting where the
one before it stopped. -/
def Chained : σ → List ε → σ → Prop
  | first, [], last => first = last
  | first, entry :: entries, last =>
      start entry = first ∧ Chained (stop entry) entries last

variable {start stop} {first last : σ} {entries : List ε} {entry : ε}

theorem chained_append_iff {rest : List ε} :
    Chained start stop first (entries ++ rest) last ↔
      ∃ middle, Chained start stop first entries middle ∧
        Chained start stop middle rest last := by
  induction entries generalizing first with
  | nil => simp [Chained]
  | cons entry entries induction => simp [Chained, induction, and_assoc]

/-- What comes before an entry and what comes after it. -/
theorem Chained.split (chained : Chained start stop first entries last)
    (member : entry ∈ entries) :
    ∃ before after, entries = before ++ entry :: after ∧
      Chained start stop first before (start entry) ∧
      Chained start stop (stop entry) after last := by
  obtain ⟨before, after, rfl⟩ := List.append_of_mem member
  obtain ⟨middle, front, rest⟩ := chained_append_iff.mp chained
  obtain ⟨rfl, back⟩ := rest
  exact ⟨before, after, rfl, front, back⟩

theorem Chained.view_last {β : Type} (view : σ → β)
    (chained : Chained start stop first entries last)
    (kept : ∀ entry ∈ entries, view (stop entry) = view (start entry)) :
    view last = view first := by
  induction entries generalizing first with
  | nil =>
      cases chained
      rfl
  | cons entry entries induction =>
      obtain ⟨rfl, rest⟩ := chained
      obtain ⟨here, later⟩ := List.forall_mem_cons.mp kept
      exact (induction rest later).trans here

end Chains

section Ranks

variable {σ ε : Type} {start stop : ε → σ} {rank : σ → Nat}

def Climbs (start stop : ε → σ) (rank : σ → Nat) (entries : List ε) : Prop :=
  ∀ entry ∈ entries, rank (stop entry) = rank (start entry) + 1

variable {first last : σ} {entries : List ε} {entry other : ε}

theorem Chained.rank_last (chained : Chained start stop first entries last)
    (climbs : Climbs start stop rank entries) :
    rank last = rank first + entries.length := by
  induction entries generalizing first with
  | nil =>
      cases chained
      rfl
  | cons entry entries induction =>
      obtain ⟨rfl, rest⟩ := chained
      obtain ⟨step, steps⟩ := List.forall_mem_cons.mp climbs
      have after := induction rest steps
      simp only [List.length_cons]
      omega

theorem Chained.rank_within (chained : Chained start stop first entries last)
    (climbs : Climbs start stop rank entries) (member : entry ∈ entries) :
    rank first < rank (stop entry) ∧ rank (stop entry) ≤ rank last := by
  have step := climbs entry member
  obtain ⟨before, after, rfl, front, back⟩ := chained.split member
  have frontRank := front.rank_last
    fun entry member => climbs entry (List.mem_append_left _ member)
  have backRank := back.rank_last fun entry member =>
    climbs entry (List.mem_append_right _ (List.mem_cons_of_mem _ member))
  omega

theorem Chained.exists_rank (chained : Chained start stop first entries last)
    (climbs : Climbs start stop rank entries) {wanted : Nat}
    (above : rank first < wanted) (within : wanted ≤ rank last) :
    ∃ entry ∈ entries, rank (stop entry) = wanted := by
  induction entries generalizing first with
  | nil =>
      cases chained
      omega
  | cons entry entries induction =>
      obtain ⟨rfl, rest⟩ := chained
      obtain ⟨step, steps⟩ := List.forall_mem_cons.mp climbs
      by_cases here : rank (stop entry) = wanted
      · exact ⟨entry, List.mem_cons_self, here⟩
      · obtain ⟨found, member, reaches⟩ :=
          induction rest steps (by omega)
        exact ⟨found, List.mem_cons_of_mem _ member, reaches⟩

/-- A chain between states of one rank is empty. -/
theorem Chained.last_eq_first (chained : Chained start stop first entries last)
    (climbs : Climbs start stop rank entries)
    (same : rank first = rank last) : last = first := by
  have ranks := chained.rank_last climbs
  have none : entries = [] := List.length_eq_zero_iff.mp (by omega)
  rw [none] at chained
  exact chained.symm

theorem Chained.rank_le (chained : Chained start stop first entries last)
    (climbs : Climbs start stop rank entries) : rank first ≤ rank last := by
  have ranks := chained.rank_last climbs
  omega

/-- Of two entries of one chain, one comes before the other or they are the
same. -/
theorem Chained.between (chained : Chained start stop first entries last)
    (climbs : Climbs start stop rank entries) (member : entry ∈ entries)
    (otherMember : other ∈ entries) :
    entry = other ∨
      (∃ between, Chained start stop (stop entry) between (start other) ∧
        Climbs start stop rank between) ∨
      (∃ between, Chained start stop (stop other) between (start entry) ∧
        Climbs start stop rank between) := by
  obtain ⟨before, after, rfl, front, back⟩ := chained.split member
  rcases List.mem_append.mp otherMember with early | here
  · obtain ⟨earlier, later, rfl, _, between⟩ := front.split early
    refine .inr (.inr ⟨later, between, ?_⟩)
    intro entry member
    apply climbs
    simp [member]
  · rcases List.mem_cons.mp here with same | late
    · exact .inl same.symm
    · obtain ⟨earlier, later, rfl, between, _⟩ := back.split late
      refine .inr (.inl ⟨earlier, between, ?_⟩)
      intro entry member
      apply climbs
      simp [member]

theorem Chained.rank_inj (chained : Chained start stop first entries last)
    (climbs : Climbs start stop rank entries) (member : entry ∈ entries)
    (otherMember : other ∈ entries)
    (same : rank (stop entry) = rank (stop other)) : entry = other := by
  have step := climbs entry member
  have otherStep := climbs other otherMember
  rcases chained.between climbs member otherMember with
    equal | ⟨_, after, raises⟩ | ⟨_, before, raises⟩
  · exact equal
  · have := after.rank_le raises
    omega
  · have := before.rank_le raises
    omega

/-- The ranks tell the entries of a chain apart. -/
theorem Chained.ranks_nodup (chained : Chained start stop first entries last)
    (climbs : Climbs start stop rank entries) :
    (entries.map fun entry => rank (stop entry)).Nodup := by
  induction entries generalizing first with
  | nil => exact List.nodup_nil
  | cons entry entries induction =>
      obtain ⟨_, rest⟩ := chained
      obtain ⟨_, steps⟩ := List.forall_mem_cons.mp climbs
      rw [List.map_cons, List.nodup_cons]
      refine ⟨?_, induction rest steps⟩
      intro listed
      obtain ⟨later, member, same⟩ := List.mem_map.mp listed
      have after := rest.rank_within steps member
      omega

theorem Chained.continues (chained : Chained start stop first entries last)
    (climbs : Climbs start stop rank entries) (member : entry ∈ entries)
    (otherMember : other ∈ entries)
    (next : rank (stop other) = rank (stop entry) + 1) :
    start other = stop entry := by
  have step := climbs entry member
  have otherStep := climbs other otherMember
  rcases chained.between climbs member otherMember with
    rfl | ⟨_, after, raises⟩ | ⟨_, before, raises⟩
  · omega
  · exact after.last_eq_first raises (by omega)
  · have := before.rank_le raises
    omega

theorem Chained.start_eq_first (chained : Chained start stop first entries last)
    (climbs : Climbs start stop rank entries) (member : entry ∈ entries)
    (lowest : rank (stop entry) = rank first + 1) : start entry = first := by
  have step := climbs entry member
  obtain ⟨before, after, rfl, front, _⟩ := chained.split member
  have frontRank := front.rank_last
    fun entry member => climbs entry (List.mem_append_left _ member)
  have none : before = [] := List.length_eq_zero_iff.mp (by omega)
  rw [none] at front
  exact front.symm

theorem Chained.stop_eq_last (chained : Chained start stop first entries last)
    (climbs : Climbs start stop rank entries) (member : entry ∈ entries)
    (highest : rank (stop entry) = rank last) : stop entry = last := by
  obtain ⟨before, after, rfl, _, back⟩ := chained.split member
  have backRank := back.rank_last fun entry member =>
    climbs entry (List.mem_append_right _ (List.mem_cons_of_mem _ member))
  have none : after = [] := List.length_eq_zero_iff.mp (by omega)
  rw [none] at back
  exact back

end Ranks

section Filing

variable {κ ε : Type} [Ord κ] [Std.TransOrd κ] [Std.LawfulEqOrd κ]
  (keyOf : ε → κ)

def file (map : KeyedMap κ ε) (entries : List ε) : KeyedMap κ ε :=
  entries.foldl (fun filed entry => filed.insert (keyOf entry) entry) map

/-- Entries under keys of their own leave each other and what was there. -/
theorem getElem?_file_iff {map : KeyedMap κ ε} {entries : List ε}
    (apart : (entries.map keyOf).Nodup)
    (unused : ∀ entry ∈ entries, map[keyOf entry]? = none) {key : κ}
    {value : ε} :
    (file keyOf map entries)[key]? = some value ↔
      map[key]? = some value ∨ (value ∈ entries ∧ keyOf value = key) := by
  classical
  induction entries generalizing map with
  | nil => simp [file]
  | cons entry entries induction =>
      rw [List.map_cons, List.nodup_cons] at apart
      obtain ⟨fresh, others⟩ := List.forall_mem_cons.mp unused
      have laterUnused : ∀ later ∈ entries,
          (map.insert (keyOf entry) entry)[keyOf later]? = none := by
        intro later member
        rw [KeyedMap.getElem?_insert_of_ne]
        · exact others later member
        · intro same
          exact apart.1 (same ▸ List.mem_map.mpr ⟨later, member, rfl⟩)
      have rest := induction apart.2 laterUnused
      rw [KeyedMap.getElem?_insert_eq] at rest
      refine rest.trans ?_
      by_cases here : keyOf entry = key
      · subst here
        simp only [if_true, Option.some.injEq, fresh, reduceCtorEq, false_or,
          List.mem_cons]
        constructor
        · rintro (same | ⟨member, sameKey⟩)
          · exact ⟨.inl same.symm, by rw [same]⟩
          · exact ⟨.inr member, sameKey⟩
        · rintro ⟨same | member, sameKey⟩
          · exact .inl same.symm
          · exact .inr ⟨member, sameKey⟩
      · rw [if_neg here]
        constructor
        · rintro (before | ⟨member, sameKey⟩)
          · exact .inl before
          · exact .inr ⟨List.mem_cons_of_mem _ member, sameKey⟩
        · rintro (before | ⟨member, sameKey⟩)
          · exact .inl before
          · rcases List.mem_cons.mp member with same | later
            · subst same
              exact absurd sameKey here
            · exact .inr ⟨later, sameKey⟩

end Filing

end Library
