import Mathlib.Data.List.Nodup

/-!
# A bounded memory

Items are set one after another.  What an item replaces goes to the front of a
memory, and the memory is cut to the room of the moment.  The settings are
listed from the newest on, each with the room there was.
-/

namespace Library

variable {α : Type}

/-- What is remembered of the items before the newest. -/
def remembered : List (α × Nat) → List α
  | [] => []
  | (_, room) :: earlier =>
      ((earlier.head?.map Prod.fst).toList ++ remembered earlier).take room

/-- Since the item at a place was replaced, there was always room for it. -/
def Retained (settings : List (α × Nat)) (place : Nat) : Prop :=
  ∀ later setting, later < place → settings[later]? = some setting →
    place - later ≤ setting.2

/-- The item is the newest, or stands so many places behind it at most and was
retained. -/
def RecallsWithin (settings : List (α × Nat)) (item : α) (room : Nat) : Prop :=
  settings.head?.map Prod.fst = some item ∨
    ∃ place, 1 ≤ place ∧ place ≤ room ∧
      settings[place]?.map Prod.fst = some item ∧ Retained settings place

theorem retained_succ_iff {newest : α × Nat} {earlier : List (α × Nat)}
    {place : Nat} :
    Retained (newest :: earlier) (place + 1) ↔
      place + 1 ≤ newest.2 ∧ Retained earlier place := by
  constructor
  · intro retained
    refine ⟨retained 0 newest (Nat.succ_pos place) rfl, ?_⟩
    intro later setting before found
    have roomy := retained (later + 1) setting (Nat.succ_lt_succ before) found
    omega
  · rintro ⟨roomy, retained⟩ later setting before found
    cases later with
    | zero =>
        cases found
        exact roomy
    | succ later =>
        have enough := retained later setting (Nat.lt_of_succ_lt_succ before)
          found
        omega

theorem getElem?_remembered {settings : List (α × Nat)} {place : Nat}
    {item : α} :
    (remembered settings)[place]? = some item ↔
      settings[place + 1]?.map Prod.fst = some item ∧
        Retained settings (place + 1) := by
  induction settings generalizing place with
  | nil => simp [remembered]
  | cons newest earlier induction =>
      obtain ⟨_, room⟩ := newest
      rw [remembered, List.getElem?_take, List.getElem?_cons_succ,
        retained_succ_iff]
      by_cases roomy : place < room
      · rw [if_pos roomy]
        cases earlier with
        | nil => simp [remembered]
        | cons replaced earlier =>
            cases place with
            | zero =>
                have always : Retained (replaced :: earlier) 0 :=
                  fun later setting before _ =>
                    absurd before (Nat.not_lt_zero later)
                simp [always, Nat.succ_le_of_lt roomy]
            | succ place =>
                change (remembered (replaced :: earlier))[place]? = _ ↔ _
                rw [induction]
                simp [Nat.succ_le_of_lt roomy]
      · rw [if_neg roomy]
        have short : ¬place + 1 ≤ room := fun enough => roomy enough
        simp [short]

theorem recallsWithin_iff {settings : List (α × Nat)} {item : α} {room : Nat} :
    RecallsWithin settings item room ↔
      settings.head?.map Prod.fst = some item ∨
        item ∈ (remembered settings).take room := by
  unfold RecallsWithin
  apply or_congr_right
  rw [List.mem_iff_getElem?]
  constructor
  · rintro ⟨place, first, last, found, retained⟩
    refine ⟨place - 1, ?_⟩
    rw [List.getElem?_take, if_pos (by omega), getElem?_remembered,
      Nat.sub_add_cancel first]
    exact ⟨found, retained⟩
  · rintro ⟨place, found⟩
    rw [List.getElem?_take] at found
    split at found
    · rename_i inside
      obtain ⟨stands, retained⟩ := getElem?_remembered.mp found
      exact ⟨place + 1, by omega, inside, stands, retained⟩
    · cases found

/-- No item was set that was recalled at that time. -/
def Spaced : List (α × Nat) → Prop
  | [] => True
  | (item, room) :: earlier => ¬RecallsWithin earlier item room ∧ Spaced earlier

theorem retained_of_constant {settings : List (α × Nat)} {room place : Nat}
    (constant : ∀ setting ∈ settings.dropLast, setting.2 = room)
    (inside : place ≤ room) (long : place < settings.length) :
    Retained settings place := by
  intro later setting before known
  have early : setting ∈ settings.dropLast := by
    apply List.mem_of_getElem? (i := later)
    rw [List.getElem?_dropLast, if_pos (by omega), known]
  rw [constant setting early]
  omega

/-- With a constant room, the items of that many places and two more
differ. -/
theorem Spaced.nodup_window {settings : List (α × Nat)} {room : Nat}
    (spaced : Spaced settings)
    (constant : ∀ setting ∈ settings.dropLast, setting.2 = room)
    (first : Nat) :
    (((settings.map Prod.fst).drop first).take (room + 2)).Nodup := by
  induction settings generalizing first with
  | nil => simp
  | cons newest earlier induction =>
      obtain ⟨item, size⟩ := newest
      obtain ⟨fresh, spaced⟩ := spaced
      cases earlier with
      | nil => cases first <;> simp
      | cons replaced earlier =>
          rw [List.dropLast_cons_cons] at constant
          obtain ⟨rfl, constant⟩ := List.forall_mem_cons.mp constant
          have rest := induction spaced constant
          cases first with
          | succ first => exact rest first
          | zero =>
              change (item :: (((replaced :: earlier).map Prod.fst).take
                (size + 1))).Nodup
              refine List.nodup_cons.mpr ⟨?_, ?_⟩
              · intro listed
                apply fresh
                obtain ⟨place, found⟩ := List.mem_iff_getElem?.mp listed
                rw [List.getElem?_take, List.getElem?_map] at found
                split at found
                · rename_i inside
                  cases place with
                  | zero => exact .inl (by simpa using found)
                  | succ place =>
                      obtain ⟨_, stands, _⟩ := Option.map_eq_some_iff.mp found
                      obtain ⟨long, _⟩ := List.getElem?_eq_some_iff.mp stands
                      exact .inr ⟨place + 1, by omega, by omega, found,
                        retained_of_constant constant (by omega) long⟩
                · cases found
              · exact (rest 0).sublist
                  (List.take_sublist_take_left (by omega))

end Library
