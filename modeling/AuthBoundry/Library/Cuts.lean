import AuthBoundry.Library.Search
import AuthBoundry.Library.Text
import Mathlib.Data.List.TakeWhile

/-!
# Texts that are cut at a mark

A text is cut at the first or at the last occurrence of a character, or at all
occurrences of a longer mark.  A stretch of a text is unmarked if no occurrence
of the mark starts within it, whatever the mark would run over.
-/

namespace Library

/-! ## One cut -/

/-- The parts before and after the last occurrence of a character. -/
def rsplitOnce (separator : Char) (text : String) : Option (String × String) :=
  match text.toList.reverse.span (· != separator) with
  | (_, []) => none
  | (after, _ :: before) =>
      some (String.ofList before.reverse, String.ofList after.reverse)

theorem span_append {α : Type} [BEq α] [LawfulBEq α] {separator : α}
    {before : List α} (absent : separator ∉ before) (after : List α) :
    (before ++ separator :: after).span (· != separator) =
      (before, separator :: after) := by
  have kept : ∀ item ∈ before, (item != separator) = true := by
    intro item member
    rw [bne_iff_ne]
    rintro rfl
    exact absent member
  rw [List.span_eq_takeWhile_dropWhile, List.takeWhile_append_of_pos kept,
    List.dropWhile_append_of_pos kept]
  simp

/-- A text is cut where the character stands first. -/
theorem splitOnce_ofList {separator : Char} {before : List Char}
    (absent : separator ∉ before) (after : List Char) :
    splitOnce separator (String.ofList (before ++ separator :: after)) =
      some (String.ofList before, String.ofList after) := by
  unfold splitOnce
  rw [String.toList_ofList, span_append absent]

theorem splitOnce_append {separator : Char} {before : String}
    (absent : separator ∉ before.toList) (after : String) :
    splitOnce separator (before ++ String.singleton separator ++ after) =
      some (before, after) := by
  have whole : before ++ String.singleton separator ++ after =
      String.ofList (before.toList ++ separator :: after.toList) := by
    rw [← String.toList_inj]
    simp
  rw [whole, splitOnce_ofList absent, String.ofList_toList,
    String.ofList_toList]

theorem splitOnce_eq_none {separator : Char} {text : String}
    (absent : separator ∉ text.toList) : splitOnce separator text = none := by
  have all : ∀ item ∈ text.toList, (item != separator) = true := by
    intro item member
    rw [bne_iff_ne]
    rintro rfl
    exact absent member
  have nothing : text.toList.dropWhile (· != separator) = [] := by
    rw [List.dropWhile_eq_nil_iff]
    exact all
  unfold splitOnce
  rw [List.span_eq_takeWhile_dropWhile, nothing]

/-- What stands before the cut has no separator. -/
theorem splitOnce_absent {separator : Char} {text before after : String}
    (split : splitOnce separator text = some (before, after)) :
    separator ∉ before.toList := by
  unfold splitOnce at split
  rw [List.span_eq_takeWhile_dropWhile] at split
  split at split
  · cases split
  · rename_i kept first rest found
    have isKept : text.toList.takeWhile (· != separator) = kept :=
      (Prod.mk.inj found).1
    have isBefore : String.ofList kept = before :=
      (Prod.mk.inj (Option.some.inj split)).1
    rw [← isBefore, String.toList_ofList, ← isKept]
    intro member
    have other := List.mem_takeWhile_imp member
    simp at other

theorem splitOnce_eq_some {separator : Char} {text before after : String}
    (split : splitOnce separator text = some (before, after)) :
    text.toList = before.toList ++ separator :: after.toList := by
  unfold splitOnce at split
  have whole := List.takeWhile_append_dropWhile
    (p := (· != separator)) (l := text.toList)
  rw [List.span_eq_takeWhile_dropWhile] at split
  cases later : text.toList.dropWhile (· != separator) with
  | nil =>
      rw [later] at split
      cases split
  | cons first rest =>
      rw [later] at split whole
      cases split
      have here := List.head?_dropWhile_not (· != separator) text.toList
      rw [later] at here
      have same : first = separator := by simpa using here
      subst same
      rw [String.toList_ofList, String.toList_ofList]
      exact whole.symm

/-- A text is cut where the character stands last. -/
theorem rsplitOnce_append {separator : Char} {after : String}
    (absent : separator ∉ after.toList) (before : String) :
    rsplitOnce separator (before ++ String.singleton separator ++ after) =
      some (before, after) := by
  have whole : (before ++ String.singleton separator ++ after).toList.reverse =
      after.toList.reverse ++ separator :: before.toList.reverse := by
    simp
  unfold rsplitOnce
  rw [whole, span_append (by simpa using absent)]
  simp

/-! ## Marks -/

section Marks

variable {α : Type} [BEq α]

/-- A text up to the first occurrence of a mark. -/
def upTo (mark : List α) : List α → List α
  | [] => []
  | first :: rest =>
      if ((first :: rest).dropPrefix? mark).isSome then
        []
      else
        first :: upTo mark rest

/-- No occurrence of the mark starts within the stretch. -/
def Unmarked (mark : List α) : List α → List α → Prop
  | [], _ => True
  | first :: stretch, rest =>
      ((first :: stretch) ++ rest).dropPrefix? mark = none ∧
        Unmarked mark stretch rest

variable {mark stretch rest : List α}

theorem unmarked_append {more : List α} :
    Unmarked mark (stretch ++ more) rest ↔
      Unmarked mark stretch (more ++ rest) ∧ Unmarked mark more rest := by
  induction stretch with
  | nil => exact (and_iff_right trivial).symm
  | cons first stretch induction =>
      simp only [List.cons_append, Unmarked, induction, List.append_assoc,
        and_assoc]

theorem afterEach_unmarked (unmarked : Unmarked mark stretch rest) :
    afterEach mark (stretch ++ rest) = afterEach mark rest := by
  induction stretch with
  | nil => rfl
  | cons first stretch induction =>
      have absent := unmarked.1
      rw [List.cons_append] at absent
      rw [List.cons_append, afterEach_cons, absent, induction unmarked.2]
      rfl

theorem upTo_unmarked (unmarked : Unmarked mark stretch rest) :
    upTo mark (stretch ++ rest) = stretch ++ upTo mark rest := by
  induction stretch with
  | nil => rfl
  | cons first stretch induction =>
      have absent := unmarked.1
      rw [List.cons_append] at absent
      rw [List.cons_append, upTo, absent, induction unmarked.2]
      rfl

variable [LawfulBEq α] {first second third : α}

theorem unmarked_of_absent (absent : first ∉ stretch) (rest : List α) :
    Unmarked (first :: mark) stretch rest := by
  induction stretch with
  | nil => trivial
  | cons head stretch induction =>
      rw [List.mem_cons, not_or] at absent
      refine ⟨?_, induction absent.2⟩
      simp [List.dropPrefix?, Ne.symm absent.1]

theorem unmarked_of_apart {next : α} (absent : second ∉ stretch)
    (other : next ≠ third) (rest : List α) :
    Unmarked (first :: second :: third :: mark) stretch
      (second :: next :: rest) := by
  induction stretch with
  | nil => trivial
  | cons head stretch induction =>
      rw [List.mem_cons, not_or] at absent
      refine ⟨?_, induction absent.2⟩
      cases stretch with
      | nil => simp [List.dropPrefix?, other]
      | cons follower stretch =>
          have different : follower ≠ second := by
            rintro rfl
            exact absent.2 List.mem_cons_self
          simp [List.dropPrefix?, different]

end Marks

end Library
