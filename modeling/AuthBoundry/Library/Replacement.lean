import AuthBoundry.Library.Cuts

/-!
# Replacing marks in a text

A text is cut at the first occurrence of a mark, or every occurrence of a mark
is replaced, from left to right.  A text with holes is a list of letters and
slots.  Where the mark of a slot occurs in the text at its holes only, replacing
the mark fills these holes, and filling slot after slot fills them all.
-/

namespace Library

section Replacement

variable {α : Type} [BEq α]

/-! ## Cutting at a mark -/

def decidableUnmarked (mark : List α) :
    (stretch rest : List α) → Decidable (Unmarked mark stretch rest)
  | [], _ => isTrue trivial
  | first :: stretch, rest =>
      have := decidableUnmarked mark stretch rest
      have : Decidable (((first :: stretch) ++ rest).dropPrefix? mark = none) :=
        decidable_of_iff _ Option.isNone_iff_eq_none
      inferInstanceAs (Decidable (_ ∧ _))

instance (mark stretch rest : List α) :
    Decidable (Unmarked mark stretch rest) :=
  decidableUnmarked mark stretch rest

/-- What stands before and after the first occurrence of a mark. -/
def cutAt (mark : List α) : List α → Option (List α × List α)
  | [] => none
  | first :: rest =>
      match (first :: rest).dropPrefix? mark with
      | some after => some ([], after)
      | none => (cutAt mark rest).map fun (before, after) =>
          (first :: before, after)

variable [LawfulBEq α] {mark stretch rest replacement : List α}

theorem dropPrefix?_append_self (mark rest : List α) :
    (mark ++ rest).dropPrefix? mark = some rest := by
  rw [List.dropPrefix?_eq_some_iff]
  exact ⟨mark, rfl, BEq.rfl⟩

theorem eq_append_of_dropPrefix? {text : List α}
    (dropped : text.dropPrefix? mark = some rest) : text = mark ++ rest := by
  obtain ⟨first, cut, isMark⟩ := List.dropPrefix?_eq_some_iff.mp dropped
  rw [cut, beq_iff_eq.mp isMark]

/-- Whether a mark occurs before itself does not depend on what follows. -/
theorem unmarked_mark_iff :
    Unmarked mark stretch (mark ++ rest) ↔ Unmarked mark stretch mark := by
  induction stretch with
  | nil => exact Iff.rfl
  | cons first stretch induction =>
      have dropped : ∀ text : List α,
          text.dropPrefix? mark = none ↔ ¬mark <+: text := by
        intro text
        constructor
        · rintro absent ⟨after, rfl⟩
          rw [dropPrefix?_append_self] at absent
          cases absent
        · intro unstarted
          cases dropped : text.dropPrefix? mark with
          | none => rfl
          | some after =>
              have whole := eq_append_of_dropPrefix? dropped
              exact absurd ⟨after, whole.symm⟩ unstarted
      rw [Unmarked, Unmarked, induction, dropped, dropped,
        ← List.append_assoc]
      have long : mark.length ≤ (first :: stretch ++ mark).length := by
        simp only [List.length_append, List.length_cons]
        omega
      have same : mark <+: first :: stretch ++ mark ++ rest ↔
          mark <+: first :: stretch ++ mark := by
        constructor
        · intro starts
          exact List.prefix_of_prefix_length_le starts
            (List.prefix_append _ rest) long
        · intro starts
          exact starts.trans (List.prefix_append _ rest)
      rw [same]

theorem cutAt_unmarked (nonempty : mark ≠ [])
    (unmarked : Unmarked mark stretch (mark ++ rest)) :
    cutAt mark (stretch ++ (mark ++ rest)) = some (stretch, rest) := by
  induction stretch with
  | nil =>
      have dropped := dropPrefix?_append_self mark rest
      cases mark with
      | nil => exact (nonempty rfl).elim
      | cons head tail =>
          rw [List.nil_append]
          rw [List.cons_append] at dropped ⊢
          rw [cutAt, dropped]
  | cons first stretch induction =>
      have absent := unmarked.1
      rw [List.cons_append] at absent ⊢
      rw [cutAt, absent]
      dsimp only
      rw [induction unmarked.2]
      rfl

/-- A cut is at the first occurrence. -/
theorem cutAt_eq_some {text before after : List α}
    (cut : cutAt mark text = some (before, after)) :
    text = before ++ (mark ++ after) ∧
      Unmarked mark before (mark ++ after) := by
  induction text generalizing before with
  | nil => cases cut
  | cons first rest induction =>
      rw [cutAt] at cut
      cases dropped : (first :: rest).dropPrefix? mark with
      | some found =>
          rw [dropped] at cut
          have whole := eq_append_of_dropPrefix? dropped
          cases cut
          exact ⟨whole, trivial⟩
      | none =>
          rw [dropped] at cut
          obtain ⟨⟨others, found⟩, later, same⟩ :=
            Option.map_eq_some_iff.mp cut
          cases same
          obtain ⟨whole, unmarked⟩ := induction later
          subst whole
          exact ⟨rfl, dropped, unmarked⟩

theorem cutAt_eq_none {text : List α} (nonempty : mark ≠ [])
    (uncut : cutAt mark text = none) : ¬mark <:+: text := by
  induction text with
  | nil =>
      intro occurs
      exact nonempty (List.infix_nil.mp occurs)
  | cons first rest induction =>
      rw [cutAt] at uncut
      cases dropped : (first :: rest).dropPrefix? mark with
      | some found =>
          rw [dropped] at uncut
          cases uncut
      | none =>
          rw [dropped] at uncut
          intro occurs
          rcases List.infix_cons_iff.mp occurs with ⟨after, start⟩ | later
          · have found := dropPrefix?_append_self mark after
            rw [start, dropped] at found
            cases found
          · exact induction (Option.map_eq_none_iff.mp uncut) later

/-! ## Replacing every occurrence -/

omit [LawfulBEq α] in
/-- Every occurrence of a mark replaced, after some letters that belong to one
already. -/
def replaceFrom (mark replacement : List α) : Nat → List α → List α
  | _, [] => []
  | skipped + 1, _ :: rest => replaceFrom mark replacement skipped rest
  | 0, first :: rest =>
      if ((first :: rest).dropPrefix? mark).isSome then
        replacement ++ replaceFrom mark replacement (mark.length - 1) rest
      else
        first :: replaceFrom mark replacement 0 rest

omit [LawfulBEq α] in
/-- Every occurrence of a mark replaced, from left to right; what is put in is
not looked at again. -/
def replaceAll (mark replacement text : List α) : List α :=
  replaceFrom mark replacement 0 text

omit [LawfulBEq α] in
theorem replaceFrom_append (skipped : List α) :
    replaceFrom mark replacement skipped.length (skipped ++ rest) =
      replaceAll mark replacement rest := by
  induction skipped with
  | nil => rfl
  | cons first skipped induction => exact induction

theorem replaceAll_mark (nonempty : mark ≠ []) (rest : List α) :
    replaceAll mark replacement (mark ++ rest) =
      replacement ++ replaceAll mark replacement rest := by
  have dropped := dropPrefix?_append_self mark rest
  cases mark with
  | nil => exact (nonempty rfl).elim
  | cons head tail =>
      have skips : replaceFrom (head :: tail) replacement tail.length
          (tail ++ rest) = replaceAll (head :: tail) replacement rest :=
        replaceFrom_append tail
      rw [List.cons_append] at dropped ⊢
      unfold replaceAll
      rw [replaceFrom, dropped, Option.isSome_some, if_pos rfl,
        List.length_cons, Nat.add_sub_cancel, skips]
      rfl

omit [LawfulBEq α] in
theorem replaceAll_unmarked (unmarked : Unmarked mark stretch rest) :
    replaceAll mark replacement (stretch ++ rest) =
      stretch ++ replaceAll mark replacement rest := by
  induction stretch with
  | nil => rfl
  | cons first stretch induction =>
      have absent := unmarked.1
      rw [List.cons_append] at absent
      have later := induction unmarked.2
      unfold replaceAll at later ⊢
      rw [List.cons_append, List.cons_append, replaceFrom, absent, later]
      rfl

end Replacement

/-! ## Texts with holes -/

/-- A letter of a text, or a hole to be filled. -/
inductive Piece (α ι : Type) where
  | letter (value : α)
  | hole (slot : ι)
  deriving DecidableEq

namespace Piece

variable {α ι : Type}

def letters (spelling : ι → List α) : Piece α ι → List α
  | .letter value => [value]
  | .hole slot => spelling slot

def filled (values : ι → Option (List α)) : Piece α ι → List (Piece α ι)
  | .letter value => [.letter value]
  | .hole slot =>
      match values slot with
      | some value => value.map .letter
      | none => [.hole slot]

/-- A text with every hole written as the mark of its slot. -/
def spelled (spelling : ι → List α) (pieces : List (Piece α ι)) : List α :=
  pieces.flatMap (letters spelling)

/-- The holes of some slots filled, and the others left. -/
def fill (values : ι → Option (List α)) (pieces : List (Piece α ι)) :
    List (Piece α ι) :=
  pieces.flatMap (filled values)

def only [DecidableEq ι] (slot : ι) (value : List α) (other : ι) :
    Option (List α) :=
  if other = slot then some value else none

variable {spelling : ι → List α}

theorem spelled_append (left right : List (Piece α ι)) :
    spelled spelling (left ++ right) =
      spelled spelling left ++ spelled spelling right :=
  List.flatMap_append

theorem spelled_letters (letters : List α) :
    spelled spelling (letters.map .letter) = letters := by
  unfold spelled
  rw [List.flatMap_map]
  exact List.flatMap_singleton' letters

theorem fill_letters (values : ι → Option (List α)) (letters : List α) :
    fill values (letters.map .letter) = letters.map .letter := by
  induction letters with
  | nil => rfl
  | cons letter letters induction => exact congrArg _ induction

theorem fill_append (values : ι → Option (List α))
    (left right : List (Piece α ι)) :
    fill values (left ++ right) = fill values left ++ fill values right :=
  List.flatMap_append

theorem fill_none (pieces : List (Piece α ι)) :
    fill (fun _ => none) pieces = pieces := by
  induction pieces with
  | nil => rfl
  | cons piece pieces induction =>
      have parts : fill (fun _ => none) (piece :: pieces) =
          filled (fun _ => none) piece ++ fill (fun _ => none) pieces := rfl
      rw [parts, induction]
      cases piece <;> rfl

/-- Filling twice is filling once, where the first value counts. -/
theorem fill_fill (first second : ι → Option (List α))
    (pieces : List (Piece α ι)) :
    fill second (fill first pieces) =
      fill (fun slot => (first slot).or (second slot)) pieces := by
  induction pieces with
  | nil => rfl
  | cons piece pieces induction =>
      have parts : ∀ values : ι → Option (List α),
          fill values (piece :: pieces) =
            fill values [piece] ++ fill values pieces :=
        fun values => fill_append values [piece] pieces
      rw [parts, parts, fill_append, induction]
      congr 1
      cases piece with
      | letter letter => rfl
      | hole slot =>
          cases here : first slot with
          | none => simp [fill, filled, here]
          | some value =>
              have opened : fill first [.hole slot] = value.map .letter := by
                simp [fill, filled, here]
              rw [opened, fill_letters]
              simp [fill, filled, here]

variable [BEq α]

/-- The mark of the slot occurs in the text at the holes of the slot only. -/
def Alone (spelling : ι → List α) (slot : ι) : List (Piece α ι) → Prop
  | [] => True
  | .letter value :: pieces =>
      Unmarked (spelling slot) [value] (spelled spelling pieces) ∧
        Alone spelling slot pieces
  | .hole other :: pieces =>
      (other = slot ∨
          Unmarked (spelling slot) (spelling other)
            (spelled spelling pieces)) ∧
        Alone spelling slot pieces

/-- The occurrences of a mark can be looked for. -/
def decidableAlone (spelling : ι → List α) [DecidableEq ι] (slot : ι) :
    (pieces : List (Piece α ι)) → Decidable (Alone spelling slot pieces)
  | [] => isTrue trivial
  | .letter _ :: pieces =>
      have := decidableAlone spelling slot pieces
      inferInstanceAs (Decidable (_ ∧ _))
  | .hole _ :: pieces =>
      have := decidableAlone spelling slot pieces
      inferInstanceAs (Decidable ((_ ∨ _) ∧ _))

instance [DecidableEq ι] (slot : ι) (pieces : List (Piece α ι)) :
    Decidable (Alone spelling slot pieces) :=
  decidableAlone spelling slot pieces

/-- A mark is at its holes only if it begins at no letter and in no other
mark, whatever follows. -/
theorem alone_of_unmarked {slot : ι} {pieces : List (Piece α ι)}
    (apart : ∀ value, .letter value ∈ pieces → ∀ rest,
      Unmarked (spelling slot) [value] rest)
    (others : ∀ other, .hole other ∈ pieces → other ≠ slot → ∀ rest,
      Unmarked (spelling slot) (spelling other) rest) :
    Alone spelling slot pieces := by
  induction pieces with
  | nil => trivial
  | cons piece pieces induction =>
      have later := induction
        (fun value member => apart value (List.mem_cons_of_mem _ member))
        (fun other member => others other (List.mem_cons_of_mem _ member))
      cases piece with
      | letter value => exact ⟨apart value List.mem_cons_self _, later⟩
      | hole other =>
          refine ⟨?_, later⟩
          by_contra neither
          rw [not_or] at neither
          exact neither.2 (others other List.mem_cons_self neither.1 _)

omit [BEq α] in
theorem mem_fill {values : ι → Option (List α)} {pieces : List (Piece α ι)}
    {piece : Piece α ι} (member : piece ∈ fill values pieces) :
    piece ∈ pieces ∨
      ∃ slot, ∃ value ∈ values slot, ∃ letter ∈ value,
        piece = .letter letter := by
  obtain ⟨filling, listed, inside⟩ := List.mem_flatMap.mp member
  cases filling with
  | letter letter =>
      obtain rfl := List.mem_singleton.mp inside
      exact .inl listed
  | hole slot =>
      cases found : values slot with
      | none =>
          rw [filled, found] at inside
          obtain rfl := List.mem_singleton.mp inside
          exact .inl listed
      | some value =>
          rw [filled, found] at inside
          obtain ⟨letter, written, rfl⟩ := List.mem_map.mp inside
          exact .inr ⟨slot, value, found, letter, written, rfl⟩

variable [LawfulBEq α] [DecidableEq ι]

/-- Replacing a mark that stands at the holes of its slot fills these holes. -/
theorem replaceAll_spelled {slot : ι} (nonempty : spelling slot ≠ [])
    {pieces : List (Piece α ι)} (alone : Alone spelling slot pieces)
    (value : List α) :
    replaceAll (spelling slot) value (spelled spelling pieces) =
      spelled spelling (fill (only slot value) pieces) := by
  induction pieces with
  | nil => rfl
  | cons piece pieces induction =>
      cases piece with
      | letter letter =>
          have later := induction alone.2
          have same := @replaceAll_unmarked α _ (spelling slot) [letter]
            (spelled spelling pieces) value alone.1
          rw [later] at same
          exact same
      | hole other =>
          have later := induction alone.2
          by_cases here : other = slot
          · subst here
            have same : replaceAll (spelling other) value
                (spelling other ++ spelled spelling pieces) = _ :=
              replaceAll_mark nonempty _
            have opened : fill (only other value) (.hole other :: pieces) =
                value.map .letter ++ fill (only other value) pieces := by
              simp [fill, filled, only]
            rw [opened, spelled_append, spelled_letters, ← later]
            exact same
          · have unmarked := alone.1.resolve_left here
            have same : replaceAll (spelling slot) value
                (spelling other ++ spelled spelling pieces) = _ :=
              replaceAll_unmarked unmarked
            have kept : fill (only slot value) (.hole other :: pieces) =
                .hole other :: fill (only slot value) pieces := by
              simp [fill, filled, only, here]
            rw [kept]
            rw [later] at same
            exact same

/-! ## Reading a text with holes -/

/-- A text read with every mark of a slot taken for a hole, after some letters
that belong to one already. -/
def readFrom (spelling : ι → List α) (slots : List ι) :
    Nat → List α → List (Piece α ι)
  | _, [] => []
  | skipped + 1, _ :: rest => readFrom spelling slots skipped rest
  | 0, first :: rest =>
      match slots.find? fun slot =>
          ((first :: rest).dropPrefix? (spelling slot)).isSome with
      | some slot =>
          .hole slot :: readFrom spelling slots
            ((spelling slot).length - 1) rest
      | none => .letter first :: readFrom spelling slots 0 rest

def read (spelling : ι → List α) (slots : List ι) (text : List α) :
    List (Piece α ι) :=
  readFrom spelling slots 0 text

variable {slots : List ι}

omit [LawfulBEq α] [DecidableEq ι] in
theorem readFrom_append (skipped rest : List α) :
    readFrom spelling slots skipped.length (skipped ++ rest) =
      read spelling slots rest := by
  induction skipped with
  | nil => rfl
  | cons first skipped induction => exact induction

omit [DecidableEq ι] in
theorem spelled_read (nonempty : ∀ slot ∈ slots, spelling slot ≠ [])
    (text : List α) : spelled spelling (read spelling slots text) = text := by
  induction length : text.length using Nat.strong_induction_on generalizing text
    with
  | _ length induction =>
    subst length
    cases text with
    | nil => rfl
    | cons first rest =>
        unfold read
        rw [readFrom]
        cases found : slots.find? fun slot =>
            ((first :: rest).dropPrefix? (spelling slot)).isSome with
        | none =>
            have later := induction rest.length (Nat.lt_succ_self _) rest rfl
            exact congrArg (first :: ·) later
        | some slot =>
            have listed := List.mem_of_find?_eq_some found
            have marked := List.find?_some found
            obtain ⟨after, dropped⟩ := Option.isSome_iff_exists.mp marked
            have whole := eq_append_of_dropPrefix? dropped
            cases mark : spelling slot with
            | nil => exact (nonempty slot listed mark).elim
            | cons head tail =>
                rw [mark, List.cons_append] at whole
                cases whole
                have later := induction after.length
                  (by rw [List.length_cons, List.length_append]; omega) after
                  rfl
                dsimp only
                rw [mark, List.length_cons, Nat.add_sub_cancel,
                  readFrom_append]
                have parts : spelled spelling
                    (.hole slot :: read spelling slots after) =
                      spelling slot ++ spelled spelling
                        (read spelling slots after) := rfl
                rw [parts, later, mark]
                rfl

omit [LawfulBEq α] [DecidableEq ι] in
theorem mem_of_hole_mem_readFrom {slot : ι} {skipped : Nat} {text : List α}
    (member : .hole slot ∈ readFrom spelling slots skipped text) :
    slot ∈ slots := by
  induction text generalizing skipped with
  | nil => cases skipped <;> cases member
  | cons first rest induction =>
      cases skipped with
      | succ skipped => exact induction member
      | zero =>
          rw [readFrom] at member
          split at member
          · next other found =>
              rcases List.mem_cons.mp member with same | later
              · cases same
                exact List.mem_of_find?_eq_some found
              · exact induction later
          · rcases List.mem_cons.mp member with same | later
            · cases same
            · exact induction later

end Piece

end Library
