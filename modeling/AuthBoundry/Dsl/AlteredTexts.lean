import AuthBoundry.Dsl.LockStep

/-!
# Altered texts

Two texts that differ within a quoted string or a comment only are read in
lock step: what is read is the same, but for the value of that string.  The
same holds of the blocks that are cut out of them, as long as the braces in
strings and comments do not change the count.
-/

namespace AuthBoundry

open Library
open Library.Stateful

/-! ## Quoted strings and comments -/

/-- What is altered in a text: the characters of a quoted string, or those of a
comment. -/
inductive Alteration where
  | quoted (old new : List Char)
  | comment (old new : List Char)

/-- Two texts with a place in their code from which on they differ in the
characters of one quoted string or one comment only. -/
inductive Altered : Alteration → List Char → List Char → Prop
  | quoted {old new : List Char} (oldEnds : '"' ∉ old) (newEnds : '"' ∉ new)
      (rest : List Char) :
      Altered (.quoted old new) ('"' :: (old ++ '"' :: rest))
        ('"' :: (new ++ '"' :: rest))
  | hash {old new : List Char} (oldEnds : '\n' ∉ old) (newEnds : '\n' ∉ new)
      (rest : List Char) (ends : rest = [] ∨ rest.head? = some '\n') :
      Altered (.comment old new) ('#' :: (old ++ rest)) ('#' :: (new ++ rest))
  | slashes {old new : List Char} (oldEnds : '\n' ∉ old)
      (newEnds : '\n' ∉ new) (rest : List Char)
      (ends : rest = [] ∨ rest.head? = some '\n') :
      Altered (.comment old new) ('/' :: '/' :: (old ++ rest))
        ('/' :: '/' :: (new ++ rest))
  | plain {alteration : Alteration} {ch : Char} {left right : List Char}
      (quote : ch ≠ '"') (hash : ch ≠ '#')
      (slash : ch = '/' → left.head? ≠ some '/') :
      Altered alteration left right →
      Altered alteration (ch :: left) (ch :: right)
  | afterQuoted {alteration : Alteration} {text : List Char}
      {left right : List Char} (ends : '"' ∉ text) :
      Altered alteration left right →
      Altered alteration ('"' :: (text ++ '"' :: left))
        ('"' :: (text ++ '"' :: right))
  | afterHash {alteration : Alteration} {text : List Char}
      {left right : List Char} (ends : '\n' ∉ text) :
      Altered alteration left right →
      Altered alteration ('#' :: (text ++ '\n' :: left))
        ('#' :: (text ++ '\n' :: right))
  | afterSlashes {alteration : Alteration} {text : List Char}
      {left right : List Char} (ends : '\n' ∉ text) :
      Altered alteration left right →
      Altered alteration ('/' :: '/' :: (text ++ '\n' :: left))
        ('/' :: '/' :: (text ++ '\n' :: right))

def Alteration.Changed : Alteration → String → String → Prop
  | .quoted old new, before, after =>
      before = String.ofList old ∧ after = String.ofList new
  | .comment _ _, _, _ => False

def AlteredOrSame (alteration : Alteration) (left right : List Char) : Prop :=
  left = right ∨ Altered alteration left right

theorem skipLine_append {text : List Char} (ends : '\n' ∉ text)
    (rest : List Char) : skipLine (text ++ rest) = skipLine rest := by
  induction text with
  | nil => rfl
  | cons ch text induction =>
      rw [List.mem_cons, not_or] at ends
      have other : ¬(ch == '\n') = true := by
        rw [beq_iff_eq]
        exact Ne.symm ends.1
      rw [List.cons_append, skipLine, if_neg other, induction ends.2]

theorem skipTrivia_hash (text : List Char) :
    skipTrivia ('#' :: text) = skipLine text := rfl

theorem skipTrivia_slashes (text : List Char) :
    skipTrivia ('/' :: '/' :: text) = skipLine text := rfl

namespace Altered

variable {alteration : Alteration} {left right : List Char}

theorem head (altered : Altered alteration left right) :
    left.head? = right.head? := by
  cases altered <;> rfl

theorem trivia (altered : Altered alteration left right) :
    AlteredOrSame alteration (skipTrivia left) (skipTrivia right) := by
  induction altered with
  | quoted oldEnds newEnds rest => exact .inr (.quoted oldEnds newEnds rest)
  | hash oldEnds newEnds rest ends =>
      apply Or.inl
      rw [skipTrivia_hash, skipTrivia_hash, skipLine_append oldEnds,
        skipLine_append newEnds]
  | slashes oldEnds newEnds rest ends =>
      apply Or.inl
      rw [skipTrivia_slashes, skipTrivia_slashes, skipLine_append oldEnds,
        skipLine_append newEnds]
  | @plain alteration ch left right quote hash slash altered induction =>
      have heads := altered.head
      rw [skipTrivia, skipTrivia]
      by_cases blank : (isWhitespace ch || ch == ',') = true
      · rw [if_pos blank, if_pos blank]
        exact induction
      · have noHash : ¬(ch == '#') = true := by
          rw [beq_iff_eq]
          exact hash
        have single : (ch == '/' && left.head? == some '/') = false := by
          by_cases lone : ch = '/'
          · simp [slash lone]
          · simp [lone]
        rw [if_neg blank, if_neg blank, if_neg noHash, if_neg noHash, ← heads,
          single]
        exact .inr (.plain quote hash slash altered)
  | afterQuoted ends altered induction =>
      exact .inr (.afterQuoted ends altered)
  | afterHash ends altered induction =>
      rw [skipTrivia_hash, skipTrivia_hash, skipLine_append ends,
        skipLine_append ends]
      exact induction
  | afterSlashes ends altered induction =>
      rw [skipTrivia_slashes, skipTrivia_slashes, skipLine_append ends,
        skipLine_append ends]
      exact induction

theorem ident (altered : Altered alteration left right) :
    left.takeWhile isIdentChar = right.takeWhile isIdentChar ∧
      Altered alteration (left.dropWhile isIdentChar)
        (right.dropWhile isIdentChar) := by
  induction altered with
  | quoted oldEnds newEnds rest =>
      exact ⟨rfl, .quoted oldEnds newEnds rest⟩
  | hash oldEnds newEnds rest ends =>
      exact ⟨rfl, .hash oldEnds newEnds rest ends⟩
  | slashes oldEnds newEnds rest ends =>
      exact ⟨rfl, .slashes oldEnds newEnds rest ends⟩
  | @plain alteration ch left right quote hash slash altered induction =>
      cases letter : isIdentChar ch with
      | true =>
          rw [List.takeWhile_cons_of_pos letter,
            List.takeWhile_cons_of_pos letter,
            List.dropWhile_cons_of_pos letter,
            List.dropWhile_cons_of_pos letter, induction.1]
          exact ⟨rfl, induction.2⟩
      | false =>
          have other : ¬isIdentChar ch = true := by simp [letter]
          rw [List.takeWhile_cons_of_neg other,
            List.takeWhile_cons_of_neg other,
            List.dropWhile_cons_of_neg other,
            List.dropWhile_cons_of_neg other]
          exact ⟨rfl, .plain quote hash slash altered⟩
  | afterQuoted ends altered induction =>
      exact ⟨rfl, .afterQuoted ends altered⟩
  | afterHash ends altered induction => exact ⟨rfl, .afterHash ends altered⟩
  | afterSlashes ends altered induction =>
      exact ⟨rfl, .afterSlashes ends altered⟩

theorem tail {ch : Char}
    (altered : Altered alteration (ch :: left) (ch :: right))
    (quote : ch ≠ '"') (hash : ch ≠ '#') (slash : ch ≠ '/') :
    Altered alteration left right := by
  cases altered with
  | quoted oldEnds newEnds rest => exact (quote rfl).elim
  | hash oldEnds newEnds rest ends => exact (hash rfl).elim
  | slashes oldEnds newEnds rest ends => exact (slash rfl).elim
  | plain quote hash slash altered => exact altered
  | afterQuoted ends altered => exact (quote rfl).elim
  | afterHash ends altered => exact (hash rfl).elim
  | afterSlashes ends altered => exact (slash rfl).elim

end Altered

/-- What is cut off from two texts: nothing from either, or the same or altered
bodies. -/
inductive BodiesAltered (alteration : Alteration) :
    Option (List (Char × Bool)) → Option (List (Char × Bool)) → Prop
  | none : BodiesAltered alteration none none
  | some {before after : List (Char × Bool)}
      (bodies : AlteredOrSame alteration (before.map Prod.fst)
        (after.map Prod.fst)) :
      BodiesAltered alteration (some before) (some after)

/-- Characters that are not code. -/
def silent (text : List Char) : List (Char × Bool) :=
  text.map fun ch => (ch, false)

@[simp] theorem map_fst_silent (text : List Char) :
    (silent text).map Prod.fst = text := by
  unfold silent
  rw [List.map_map]
  exact List.map_id text

/-- What stands before both bodies is carried along. -/
theorem BodiesAltered.append {alteration : Alteration}
    {first second : Option (List (Char × Bool))}
    (bodies : BodiesAltered alteration first second)
    {stretch : List (Char × Bool)}
    (carries : ∀ before after, first = Option.some before →
      Altered alteration (before.map Prod.fst) after →
      Altered alteration (stretch.map Prod.fst ++ before.map Prod.fst)
        (stretch.map Prod.fst ++ after)) :
    BodiesAltered alteration (first.map (stretch ++ ·))
      (second.map (stretch ++ ·)) := by
  cases bodies with
  | none => exact .none
  | some bodies =>
      apply BodiesAltered.some
      rw [List.map_append, List.map_append]
      rcases bodies with same | altered
      · exact .inl (congrArg _ same)
      · exact .inr (carries _ _ rfl altered)

end AuthBoundry
