import Mathlib.Data.List.Basic
import Mathlib.Data.List.Induction

/-!
# Lines

The lines of a text are its stretches up to each line break, without the break
and without a carriage return before it.  A text that ends with a line break
is followed by lines of their own.
-/

namespace Library

/-- The pieces of a text, each with the line break that ends it. -/
def splitInclusive : List Char → List (List Char)
  | [] => []
  | ch :: rest =>
      if ch == '\n' then
        [ch] :: splitInclusive rest
      else
        match splitInclusive rest with
        | [] => [[ch]]
        | line :: others => (ch :: line) :: others

theorem flatten_splitInclusive (text : List Char) :
    (splitInclusive text).flatten = text := by
  induction text with
  | nil => rfl
  | cons ch text induction =>
      rw [splitInclusive]
      split
      · simp [induction]
      · cases lines : splitInclusive text with
        | nil =>
            rw [lines] at induction
            simp [← induction]
        | cons line others =>
            rw [lines] at induction
            simpa using induction

/-- A line without the line break that ends it. -/
def bareLine (line : List Char) : List Char :=
  if line.getLast? == some '\n' then
    if line.dropLast.getLast? == some '\r' then
      line.dropLast.dropLast
    else
      line.dropLast
  else
    line

def bareLines (text : List Char) : List (List Char) :=
  (splitInclusive text).map bareLine

/-- A text with a line break behind it, if it does not end with one. -/
def ended (text : List Char) : List Char :=
  if text.getLast? == some '\n' then text else text ++ ['\n']

/-- A text that ends with a line break, or is empty. -/
def Whole (text : List Char) : Prop :=
  ∀ final ∈ text.getLast?, final = '\n'

theorem exists_whole (text : List Char) :
    ∃ whole partly, text = whole ++ partly ∧ Whole whole ∧
      '\n' ∉ partly := by
  induction text using List.reverseRecOn with
  | nil => exact ⟨[], [], rfl, by simp [Whole], by simp⟩
  | append_singleton text ch induction =>
      by_cases broken : ch = '\n'
      · refine ⟨text ++ [ch], [], by simp, ?_, by simp⟩
        simp [Whole, broken]
      · obtain ⟨whole, partly, rfl, ends, plain⟩ := induction
        refine ⟨whole, partly ++ [ch], by simp, ends, ?_⟩
        simp [plain, Ne.symm broken]

theorem splitInclusive_append {left : List Char} (whole : Whole left)
    (right : List Char) :
    splitInclusive (left ++ right) =
      splitInclusive left ++ splitInclusive right := by
  induction left with
  | nil => rfl
  | cons ch left induction =>
      cases left with
      | nil =>
          have broken : ch = '\n' := whole ch rfl
          subst broken
          rfl
      | cons next left =>
          have later := induction (by simpa [Whole] using whole)
          rw [List.cons_append, splitInclusive, splitInclusive, later]
          split
          · rfl
          · cases lines : splitInclusive (next :: left) with
            | nil =>
                exfalso
                rw [splitInclusive] at lines
                split at lines
                · cases lines
                · split at lines <;> cases lines
            | cons line others => rfl

theorem splitInclusive_partly {partly : List Char} (plain : '\n' ∉ partly)
    {right line : List Char} {others : List (List Char)}
    (lines : splitInclusive right = line :: others) :
    splitInclusive (partly ++ right) = (partly ++ line) :: others := by
  induction partly with
  | nil => exact lines
  | cons ch partly induction =>
      rw [List.mem_cons, not_or] at plain
      rw [List.cons_append, splitInclusive, induction plain.2,
        if_neg (by simpa using Ne.symm plain.1)]
      rfl

theorem splitInclusive_line {partly : List Char} (plain : '\n' ∉ partly)
    (nonempty : partly ≠ []) : splitInclusive partly = [partly] := by
  induction partly with
  | nil => exact absurd rfl nonempty
  | cons ch partly induction =>
      rw [List.mem_cons, not_or] at plain
      rw [splitInclusive, if_neg (by simpa using Ne.symm plain.1)]
      cases partly with
      | nil => rfl
      | cons next partly =>
          rw [induction plain.2 (List.cons_ne_nil next partly)]

theorem bareLine_append (left : List Char) {ch : Char} (line : List Char)
    (unbroken : ch ≠ '\n') :
    bareLine (left ++ ch :: line) = left ++ bareLine (ch :: line) := by
  cases line with
  | nil =>
      have ends : ∀ text : List Char, (text ++ [ch]).getLast? = some ch :=
        fun text => List.getLast?_concat
      simp [bareLine, unbroken]
  | cons next line =>
      have dropped : (left ++ ch :: next :: line).dropLast =
          left ++ (ch :: next :: line).dropLast :=
        List.dropLast_append_of_ne_nil (List.cons_ne_nil _ _)
      have inner : (ch :: next :: line).dropLast ≠ [] := by simp
      have again : (left ++ (ch :: next :: line).dropLast).dropLast =
          left ++ (ch :: next :: line).dropLast.dropLast :=
        List.dropLast_append_of_ne_nil inner
      rw [bareLine, bareLine, dropped, again,
        List.getLast?_append_of_ne_nil _ (List.cons_ne_nil _ _),
        List.getLast?_append_of_ne_nil _ inner]
      split
      · split <;> rfl
      · rfl

theorem exists_bareLine_cons {ch : Char} (line : List Char)
    (unbroken : ch ≠ '\n') (unreturned : ch ≠ '\r') :
    ∃ rest, bareLine (ch :: line) = ch :: rest := by
  cases line with
  | nil => exact ⟨[], by simp [bareLine, unbroken]⟩
  | cons next line =>
      rw [bareLine, List.dropLast_cons_cons]
      split
      · split
        · next returned =>
            cases inner : (next :: line).dropLast with
            | nil =>
                rw [inner] at returned
                exact absurd (Option.some.inj (beq_iff_eq.mp returned))
                  unreturned
            | cons other others => exact ⟨(other :: others).dropLast, rfl⟩
        · exact ⟨(next :: line).dropLast, rfl⟩
      · exact ⟨next :: line, rfl⟩

theorem bareLine_ended {line : List Char}
    (returned : line.getLast? ≠ some '\r') :
    bareLine (line ++ ['\n']) = line := by
  simp [bareLine, returned]

theorem bareLine_plain {line : List Char} (plain : '\n' ∉ line) :
    bareLine line = line := by
  have unbroken : line.getLast? ≠ some '\n' :=
    fun last => plain (List.mem_of_getLast? last)
  simp [bareLine, unbroken]

theorem bareLines_line {line : List Char} (plain : '\n' ∉ line)
    (returned : line.getLast? ≠ some '\r') :
    bareLines (line ++ ['\n']) = [line] := by
  have lines : splitInclusive ['\n'] = [['\n']] := rfl
  rw [bareLines, splitInclusive_partly plain lines, List.map_singleton,
    bareLine_ended returned]

theorem bareLines_partly {partly : List Char} (plain : '\n' ∉ partly)
    (nonempty : partly ≠ []) : bareLines partly = [partly] := by
  rw [bareLines, splitInclusive_line plain nonempty, List.map_singleton,
    bareLine_plain plain]

theorem bareLines_append {left : List Char} (whole : Whole left)
    (right : List Char) :
    bareLines (left ++ right) = bareLines left ++ bareLines right := by
  rw [bareLines, splitInclusive_append whole, List.map_append]
  rfl

theorem whole_ended (text : List Char) : Whole (ended text) := by
  intro final last
  unfold ended at last
  split at last
  · next broken =>
      rw [beq_iff_eq.mp broken] at last
      exact (Option.some.inj last).symm
  · rw [List.getLast?_concat] at last
    exact (Option.some.inj last).symm

theorem exists_ended (text : List Char) :
    ∃ pad, ended text = text ++ pad ∧ '\r' ∉ pad := by
  unfold ended
  split
  · exact ⟨[], by simp, by simp⟩
  · exact ⟨['\n'], rfl, by decide⟩

theorem ended_cons (left : List Char) {ch : Char} (unbroken : ch ≠ '\n')
    (body : List Char) : ended (left ++ ch :: body) = left ++ ch :: ended body := by
  unfold ended
  rw [List.getLast?_append_of_ne_nil _ (List.cons_ne_nil _ _)]
  cases body with
  | nil => simp [unbroken]
  | cons first rest =>
      rw [List.getLast?_cons_cons]
      split <;> simp

theorem bareLines_ended {body : List Char} (nonempty : body ≠ [])
    (last : body.getLast? ≠ some '\r') :
    bareLines (ended body) = bareLines body := by
  unfold ended
  split
  · rfl
  · next unbroken =>
      obtain ⟨whole, partly, rfl, ends, plain⟩ := exists_whole body
      have cut : partly ≠ [] := by
        rintro rfl
        rw [List.append_nil] at nonempty unbroken
        have final := List.getLast?_eq_some_getLast nonempty
        rw [final, ends _ final] at unbroken
        exact unbroken rfl
      rw [List.getLast?_append_of_ne_nil _ cut] at last
      rw [List.append_assoc, bareLines_append ends, bareLines_append ends,
        bareLines_line plain last, bareLines_partly plain cut]

instance (text : List Char) : Decidable (Whole text) :=
  decidable_of_iff (text.getLast?.all (· == '\n') = true) (by
    cases last : text.getLast? <;> simp [Whole, last])

end Library
