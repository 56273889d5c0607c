import Mathlib.Data.List.Basic

/-!
# Counted brackets

The open brackets of a text are counted, whatever else the text is.  A text
that opens as many brackets as it closes, and none it has not opened, is passed
at any depth.
-/

namespace Library

section Brackets

variable {α : Type} (opens closes : α → Bool)

/-- From some open brackets on, all of them are closed by the last item and
not before. -/
def ClosesLast : Nat → List α → Prop
  | _, [] => False
  | depth, first :: rest =>
      if opens first then ClosesLast (depth + 1) rest
      else if closes first then
        if depth ≤ 1 then rest = [] else ClosesLast (depth - 1) rest
      else ClosesLast depth rest

/-- A text that leaves the open brackets as they are. -/
def Passed (text : List α) : Prop :=
  ∀ depth rest, ClosesLast opens closes (depth + 1) (text ++ rest) ↔
    ClosesLast opens closes (depth + 1) rest

/-- What stands before the item that closes the last open bracket. -/
def upToClosing : Nat → List α → Option (List α)
  | _, [] => none
  | depth, first :: rest =>
      if opens first then (upToClosing (depth + 1) rest).map (first :: ·)
      else if closes first then
        if depth ≤ 1 then some []
        else (upToClosing (depth - 1) rest).map (first :: ·)
      else (upToClosing depth rest).map (first :: ·)

/-- How many brackets a text leaves open, unless it closes one it has not
opened. -/
def openAfter : Nat → List α → Option Nat
  | depth, [] => some depth
  | depth, first :: rest =>
      if opens first then openAfter (depth + 1) rest
      else if closes first then
        if depth = 0 then none else openAfter (depth - 1) rest
      else openAfter depth rest

variable {opens closes} {left right text : List α}

theorem Passed.nil : Passed opens closes [] := by
  intro depth rest
  exact Iff.rfl

theorem Passed.append (first : Passed opens closes left)
    (second : Passed opens closes right) :
    Passed opens closes (left ++ right) := by
  intro depth rest
  rw [List.append_assoc, first, second]

theorem Passed.cons {item : α} (unopened : opens item = false)
    (unclosed : closes item = false) (passed : Passed opens closes text) :
    Passed opens closes (item :: text) := by
  intro depth rest
  rw [List.cons_append, ClosesLast, unopened, unclosed]
  exact passed depth rest

theorem Passed.of_bracketless
    (bracketless : ∀ item ∈ text, opens item = false ∧ closes item = false) :
    Passed opens closes text := by
  induction text with
  | nil => exact .nil
  | cons item text induction =>
      obtain ⟨first, later⟩ := List.forall_mem_cons.mp bracketless
      exact .cons first.1 first.2 (induction later)

/-- What is passed is passed with a pair of brackets around it. -/
theorem Passed.enclosed {opening closing : α} (opened : opens opening = true)
    (unopened : opens closing = false) (closed : closes closing = true)
    (passed : Passed opens closes text) :
    Passed opens closes (opening :: (text ++ [closing])) := by
  intro depth rest
  rw [List.cons_append, ClosesLast, opened, List.append_assoc]
  simp only [if_true]
  rw [passed, List.singleton_append, ClosesLast, unopened, closed]
  simp only [if_true, Bool.false_eq_true, if_false]
  rw [if_neg (by omega), Nat.add_sub_cancel]

theorem Passed.closesLast {opening closing : α} (opened : opens opening = true)
    (unopened : opens closing = false) (closed : closes closing = true)
    (passed : Passed opens closes text) :
    ClosesLast opens closes 0 (opening :: (text ++ [closing])) := by
  rw [ClosesLast, opened]
  simp only [if_true]
  rw [passed, ClosesLast, unopened, closed]
  simp

theorem closesLast_openAfter {depth final : Nat}
    (counted : openAfter opens closes depth text = some final) (more : Nat)
    (rest : List α) :
    ClosesLast opens closes (depth + more + 1) (text ++ rest) ↔
      ClosesLast opens closes (final + more + 1) rest := by
  induction text generalizing depth with
  | nil =>
      cases counted
      exact Iff.rfl
  | cons first text induction =>
      rw [openAfter] at counted
      rw [List.cons_append, ClosesLast]
      by_cases opened : opens first
      · rw [if_pos opened] at counted ⊢
        rw [← induction counted]
        have same : depth + more + 1 + 1 = depth + 1 + more + 1 := by omega
        rw [same]
      · rw [if_neg opened] at counted ⊢
        by_cases closing : closes first
        · rw [if_pos closing] at counted ⊢
          by_cases bottom : depth = 0
          · rw [if_pos bottom] at counted
            cases counted
          · rw [if_neg bottom] at counted
            rw [← induction counted, if_neg (by omega)]
            have same : depth + more + 1 - 1 = depth - 1 + more + 1 := by omega
            rw [same]
        · rw [if_neg closing] at counted ⊢
          exact induction counted

theorem passed_of_openAfter
    (counted : openAfter opens closes 0 text = some 0) :
    Passed opens closes text := by
  intro depth rest
  have closed := closesLast_openAfter counted depth rest
  rwa [Nat.zero_add] at closed

theorem upToClosing_eq_some_iff {depth : Nat} {items body : List α} :
    upToClosing opens closes depth items = some body ↔
      ∃ last rest, items = body ++ last :: rest ∧
        ClosesLast opens closes depth (body ++ [last]) := by
  induction items generalizing depth body with
  | nil => simp [upToClosing]
  | cons first items induction =>
      -- A body that is not empty starts with the first item.
      have later : ∀ next : Nat,
          (∀ tail, ClosesLast opens closes depth (first :: tail) ↔
            ClosesLast opens closes next tail) →
          ((upToClosing opens closes next items).map (first :: ·) =
              some body ↔
            ∃ last rest, first :: items = body ++ last :: rest ∧
              ClosesLast opens closes depth (body ++ [last])) := by
        intro next passes
        rw [Option.map_eq_some_iff]
        constructor
        · rintro ⟨tail, found, rfl⟩
          obtain ⟨last, rest, rfl, closed⟩ := induction.mp found
          exact ⟨last, rest, rfl, (passes _).mpr closed⟩
        · rintro ⟨last, rest, split, closed⟩
          cases body with
          | nil =>
              obtain ⟨rfl, -⟩ := List.cons.inj split
              exact ((passes []).mp closed).elim
          | cons head tail =>
              obtain ⟨rfl, same⟩ := List.cons.inj split
              refine ⟨tail, induction.mpr ⟨last, rest, same, ?_⟩, rfl⟩
              exact (passes _).mp closed
      rw [upToClosing]
      by_cases opened : opens first
      · rw [if_pos opened]
        apply later
        intro tail
        rw [ClosesLast, if_pos opened]
      · rw [if_neg opened]
        by_cases closing : closes first
        · rw [if_pos closing]
          by_cases deepest : depth ≤ 1
          · rw [if_pos deepest]
            constructor
            · intro same
              cases same
              refine ⟨first, items, rfl, ?_⟩
              rw [List.nil_append, ClosesLast, if_neg opened, if_pos closing,
                if_pos deepest]
            · rintro ⟨last, rest, split, closed⟩
              cases body with
              | nil => rfl
              | cons head tail =>
                  obtain ⟨rfl, same⟩ := List.cons.inj split
                  rw [List.cons_append, ClosesLast, if_neg opened,
                    if_pos closing, if_pos deepest] at closed
                  simp at closed
          · rw [if_neg deepest]
            apply later
            intro tail
            rw [ClosesLast, if_neg opened, if_pos closing, if_neg deepest]
        · rw [if_neg closing]
          apply later
          intro tail
          rw [ClosesLast, if_neg opened, if_neg closing]

/-- What is passed may stand anywhere before the last item. -/
theorem closesLast_insert (passed : Passed opens closes text) {depth : Nat}
    (inside : 1 ≤ depth) (ended : right ≠ []) :
    ClosesLast opens closes depth (left ++ (text ++ right)) ↔
      ClosesLast opens closes depth (left ++ right) := by
  induction left generalizing depth with
  | nil =>
      obtain ⟨depth, rfl⟩ := Nat.exists_eq_succ_of_ne_zero
        (Nat.ne_zero_of_lt inside)
      exact passed depth right
  | cons first left induction =>
      rw [List.cons_append, List.cons_append, ClosesLast, ClosesLast]
      by_cases opened : opens first
      · rw [if_pos opened, if_pos opened]
        exact induction (Nat.le_succ_of_le inside)
      · rw [if_neg opened, if_neg opened]
        by_cases closing : closes first
        · rw [if_pos closing, if_pos closing]
          by_cases deepest : depth ≤ 1
          · rw [if_pos deepest, if_pos deepest]
            simp [ended]
          · rw [if_neg deepest, if_neg deepest]
            exact induction (by omega)
        · rw [if_neg closing, if_neg closing]
          exact induction inside

theorem ClosesLast.last {depth : Nat} {final : α}
    (closed : ClosesLast opens closes depth (text ++ [final])) :
    closes final = true := by
  induction text generalizing depth with
  | nil =>
      rw [List.nil_append, ClosesLast] at closed
      split at closed
      · exact closed.elim
      · split at closed
        · assumption
        · exact closed.elim
  | cons first text induction =>
      rw [List.cons_append, ClosesLast] at closed
      split at closed
      · exact induction closed
      · split at closed
        · split at closed
          · simp at closed
          · exact induction closed
        · exact induction closed

/-- Before the last item some bracket is still open. -/
theorem ClosesLast.countP_lt
    (apart : ∀ item, opens item = true → closes item = false) {depth : Nat}
    (inside : 1 ≤ depth) (ended : right ≠ [])
    (closed : ClosesLast opens closes depth (left ++ right)) :
    left.countP closes < left.countP opens + depth := by
  induction left generalizing depth with
  | nil => simpa using Nat.lt_of_succ_le inside
  | cons first left induction =>
      rw [List.cons_append, ClosesLast] at closed
      rw [List.countP_cons, List.countP_cons]
      by_cases opened : opens first
      · rw [if_pos opened] at closed
        have shorter := induction (Nat.le_succ_of_le inside) closed
        rw [if_pos opened, apart first opened, if_neg (by decide)]
        omega
      · rw [if_neg opened] at closed
        by_cases closing : closes first
        · rw [if_pos closing] at closed
          by_cases deepest : depth ≤ 1
          · rw [if_pos deepest] at closed
            simp [ended] at closed
          · rw [if_neg deepest] at closed
            have shorter := induction (by omega) closed
            rw [if_neg opened, if_pos closing]
            omega
        · rw [if_neg closing] at closed
          have shorter := induction inside closed
          rw [if_neg opened, if_neg closing]
          omega

theorem ClosesLast.countP_eq
    (apart : ∀ item, opens item = true → closes item = false) {depth : Nat}
    (inside : 1 ≤ depth) (closed : ClosesLast opens closes depth text) :
    text.countP closes = text.countP opens + depth := by
  induction text generalizing depth with
  | nil => exact closed.elim
  | cons first text induction =>
      rw [ClosesLast] at closed
      rw [List.countP_cons, List.countP_cons]
      by_cases opened : opens first
      · rw [if_pos opened] at closed
        have others := induction (Nat.le_succ_of_le inside) closed
        rw [if_pos opened, apart first opened, if_neg (by decide)]
        omega
      · rw [if_neg opened] at closed
        by_cases closing : closes first
        · rw [if_pos closing] at closed
          rw [if_neg opened, if_pos closing]
          by_cases deepest : depth ≤ 1
          · rw [if_pos deepest] at closed
            subst closed
            simp only [List.countP_nil]
            omega
          · rw [if_neg deepest] at closed
            have others := induction (by omega) closed
            omega
        · rw [if_neg closing] at closed
          have others := induction inside closed
          rw [if_neg opened, if_neg closing]
          omega

theorem exists_upToClosing {depth : Nat} {final : α} (inside : 1 ≤ depth)
    (closed : ClosesLast opens closes (depth + 1) (text ++ [final])) :
    ∃ body, upToClosing opens closes depth text = some body := by
  induction text generalizing depth with
  | nil =>
      rw [List.nil_append, ClosesLast] at closed
      split at closed
      · exact closed.elim
      · split at closed
        · rw [if_neg (by omega)] at closed
          exact closed.elim
        · exact closed.elim
  | cons first text induction =>
      rw [List.cons_append, ClosesLast] at closed
      rw [upToClosing]
      by_cases opened : opens first
      · rw [if_pos opened] at closed ⊢
        obtain ⟨body, found⟩ := induction (Nat.le_succ_of_le inside) closed
        exact ⟨first :: body, by rw [found]; rfl⟩
      · rw [if_neg opened] at closed ⊢
        by_cases closing : closes first
        · rw [if_pos closing, if_neg (by omega), Nat.add_sub_cancel] at closed
          rw [if_pos closing]
          by_cases deepest : depth ≤ 1
          · exact ⟨[], if_pos deepest⟩
          · rw [if_neg deepest]
            obtain ⟨depth, rfl⟩ := Nat.exists_eq_succ_of_ne_zero
              (Nat.ne_zero_of_lt inside)
            obtain ⟨body, found⟩ := induction (by omega) closed
            exact ⟨first :: body, by rw [Nat.succ_sub_one, found]; rfl⟩
        · rw [if_neg closing] at closed ⊢
          obtain ⟨body, found⟩ := induction inside closed
          exact ⟨first :: body, by rw [found]; rfl⟩

/-- A text that leaves as many brackets open as it found stands between
counts. -/
theorem ClosesLast.drop
    (apart : ∀ item, opens item = true → closes item = false) {depth : Nat}
    (inside : 1 ≤ depth) (ended : right ≠ [])
    (closed : ClosesLast opens closes depth (left ++ right))
    (even : left.countP opens = left.countP closes) :
    ClosesLast opens closes depth right := by
  have shifted : ∀ {depth : Nat} {left : List α}, 1 ≤ depth →
      ClosesLast opens closes depth (left ++ right) →
      ClosesLast opens closes
        (depth + left.countP opens - left.countP closes) right := by
    intro depth left inside closed
    induction left generalizing depth with
    | nil => simpa using closed
    | cons first left induction =>
        have bounded := closed.countP_lt apart inside ended
        rw [List.cons_append, ClosesLast] at closed
        rw [List.countP_cons, List.countP_cons] at bounded ⊢
        by_cases opened : opens first
        · rw [if_pos opened] at closed
          have later := induction (Nat.le_succ_of_le inside) closed
          rw [if_pos opened, apart first opened, if_neg (by decide)]
          convert later using 1
          omega
        · rw [if_neg opened] at closed
          by_cases closing : closes first
          · rw [if_pos closing] at closed
            by_cases deepest : depth ≤ 1
            · rw [if_pos deepest] at closed
              simp [ended] at closed
            · rw [if_neg deepest] at closed
              have later := induction (by omega) closed
              rw [if_neg opened, if_pos closing]
              convert later using 1
              omega
          · rw [if_neg closing] at closed
            have later := induction inside closed
            rw [if_neg opened, if_neg closing]
            exact later
  have later := shifted inside closed
  rwa [even, Nat.add_sub_cancel] at later

end Brackets

end Library
