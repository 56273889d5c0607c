import Mathlib.Data.List.DropRight
import AuthBoundry.Library.Segments
import AuthBoundry.Library.Text

/-!
# The parts of a text

The parts of a text are its segments that are not empty.  What is put before or
after a text without a separator only changes its first or its last part.
-/

namespace Library

section Parts

variable {α : Type} [DecidableEq α] {separator : α}

variable (separator) in
def partsOf (text : List α) : List (List α) :=
  (text.splitOn separator).filter fun segment => !segment.isEmpty

theorem ne_nil_of_mem_partsOf {text part : List α}
    (member : part ∈ partsOf separator text) : part ≠ [] := by
  have kept := (List.mem_filter.mp member).2
  simpa using kept

/-- A separator at the start begins no part. -/
theorem partsOf_separator_cons (text : List α) :
    partsOf separator (separator :: text) = partsOf separator text := by
  unfold partsOf
  rw [List.splitOn_cons_eq_if_modifyHead, if_pos BEq.rfl]
  rfl

theorem splitOn_append_separator (text : List α) :
    (text ++ [separator]).splitOn separator =
      text.splitOn separator ++ [[]] := by
  rw [List.splitOn_append_cons_self]
  rfl

/-- A separator at the end begins no part either. -/
theorem partsOf_append_separator (text : List α) :
    partsOf separator (text ++ [separator]) = partsOf separator text := by
  unfold partsOf
  rw [splitOn_append_separator, List.filter_append]
  simp

/-- What is put before a text lengthens its first segment. -/
theorem splitOn_prepend {before : List α} (apart : separator ∉ before)
    (text : List α) :
    ∃ head tail, text.splitOn separator = head :: tail ∧ head <+: text ∧
      (before ++ text).splitOn separator = (before ++ head) :: tail := by
  induction before with
  | nil =>
      cases cut : text.splitOn separator with
      | nil => exact (List.splitOn_ne_nil separator text cut).elim
      | cons head tail =>
          refine ⟨head, tail, rfl, ?_, cut⟩
          have joined : [separator].intercalate (text.splitOn separator) =
              text := List.intercalate_splitOn separator
          rw [cut] at joined
          rw [← joined]
          cases tail with
          | nil => simp [List.intercalate]
          | cons next tail => simp [List.intercalate, List.intersperse]
  | cons first before induction =>
      rw [List.mem_cons, not_or] at apart
      obtain ⟨different, others⟩ := apart
      obtain ⟨head, tail, cut, isPrefix, longer⟩ := induction others
      refine ⟨head, tail, cut, isPrefix, ?_⟩
      rw [List.cons_append, List.splitOn_cons_eq_if_modifyHead, longer,
        if_neg (by simpa using Ne.symm different)]
      rfl

/-- What is put after a text lengthens its last segment. -/
theorem splitOn_append {after : List α} (apart : separator ∉ after)
    (text : List α) :
    ∃ init last, text.splitOn separator = init ++ [last] ∧ last <:+ text ∧
      (text ++ after).splitOn separator = init ++ [last ++ after] := by
  induction text with
  | nil =>
      refine ⟨[], [], by simp, List.suffix_rfl, ?_⟩
      rw [List.nil_append, List.splitOn_eq_singleton apart]
      rfl
  | cons first text induction =>
      obtain ⟨init, last, cut, isSuffix, longer⟩ := induction
      rw [List.cons_append, List.splitOn_cons_eq_if_modifyHead,
        List.splitOn_cons_eq_if_modifyHead, cut, longer]
      split
      · exact ⟨[] :: init, last, rfl,
          isSuffix.trans (List.suffix_cons first text), rfl⟩
      · cases init with
        | nil =>
            refine ⟨[], first :: last, rfl, ?_, rfl⟩
            have joined : [separator].intercalate (text.splitOn separator) =
              text := List.intercalate_splitOn separator
            rw [cut] at joined
            rw [← joined]
            simp [List.intercalate]
        | cons segment init =>
            exact ⟨(first :: segment) :: init, last, rfl,
              isSuffix.trans (List.suffix_cons first text), rfl⟩

theorem partsOf_prepend {before : List α} (apart : separator ∉ before)
    (nonempty : before ≠ []) (text : List α) :
    ∃ head rest, head <+: text ∧
      partsOf separator text =
        ([head].filter fun segment => !segment.isEmpty) ++ rest ∧
      partsOf separator (before ++ text) = (before ++ head) :: rest := by
  obtain ⟨head, tail, cut, isPrefix, longer⟩ := splitOn_prepend apart text
  refine ⟨head, tail.filter fun segment => !segment.isEmpty, isPrefix, ?_, ?_⟩
  · unfold partsOf
    rw [cut, ← List.filter_append]
    rfl
  · unfold partsOf
    rw [longer, List.filter_cons_of_pos (by simp [nonempty])]

theorem partsOf_append {after : List α} (apart : separator ∉ after)
    (nonempty : after ≠ []) (text : List α) :
    ∃ init last, last <:+ text ∧
      partsOf separator text =
        init ++ ([last].filter fun segment => !segment.isEmpty) ∧
      partsOf separator (text ++ after) = init ++ [last ++ after] := by
  obtain ⟨init, last, cut, isSuffix, longer⟩ := splitOn_append apart text
  refine ⟨init.filter fun segment => !segment.isEmpty, last, isSuffix, ?_, ?_⟩
  · unfold partsOf
    rw [cut, List.filter_append]
  · unfold partsOf
    rw [longer, List.filter_append]
    simp [nonempty]

end Parts

section Templates

variable {α : Type} [DecidableEq α] {separator : α} {wild : List α → Bool}
  {template text : List α}

theorem IsInstance.parts (isInstance : IsInstance separator wild template text)
    (emptyLiteral : wild [] = false) :
    List.Forall₂ (Fits wild) (partsOf separator template)
      (partsOf separator text) := by
  unfold IsInstance at isInstance
  unfold partsOf
  generalize template.splitOn separator = segments at isInstance ⊢
  generalize text.splitOn separator = concretes at isInstance ⊢
  induction isInstance with
  | nil => exact .nil
  | @cons segment concrete segments concretes fits _ induction =>
      have sameEmpty : segment.isEmpty = concrete.isEmpty := by
        unfold Fits at fits
        split at fits
        · rename_i isWild
          have filledIn : segment ≠ [] := by
            intro empty
            rw [empty, emptyLiteral] at isWild
            cases isWild
          rw [List.isEmpty_eq_false_iff.mpr filledIn,
            List.isEmpty_eq_false_iff.mpr fits]
        · rw [fits]
      rw [List.filter_cons, List.filter_cons, ← sameEmpty]
      split
      · exact .cons fits induction
      · exact induction

theorem partsOf_filled {filler : α} (apart : filler ≠ separator)
    (emptyLiteral : wild [] = false) (width : Nat) :
    partsOf separator ([separator].intercalate
        ((template.splitOn separator).map
          (filled wild filler (width + 1)))) =
      (partsOf separator template).map (filled wild filler (width + 1)) := by
  unfold partsOf
  rw [splitOn_filled apart, List.filter_map]
  apply congrArg
  apply List.filter_congr
  intro segment _
  unfold filled
  dsimp only [Function.comp_apply]
  split
  · rename_i isWild
    have filledIn : segment ≠ [] := by
      intro empty
      rw [empty, emptyLiteral] at isWild
      cases isWild
    simp [filledIn, List.replicate_succ]
  · rfl

end Templates

section Trimming

variable {α : Type} {blank : α → Bool} {separator : α}
  {text trimmed before after word other : List α}

/-- Blanks were dropped before and after a text; where some were dropped, the
rest does not begin or end with one. -/
structure Trimmed (blank : α → Bool) (text trimmed before after : List α) :
    Prop where
  cut : text = before ++ (trimmed ++ after)
  blankBefore : ∀ item ∈ before, blank item = true
  blankAfter : ∀ item ∈ after, blank item = true
  first : before ≠ [] → ∀ item, trimmed.head? = some item →
    blank item = false
  last : after ≠ [] → ∀ item, trimmed.getLast? = some item →
    blank item = false

variable (blank text) in
theorem exists_trimmed :
    ∃ before after,
      Trimmed blank text
        ((text.dropWhile blank).reverse.dropWhile blank).reverse
        before after := by
  refine ⟨text.takeWhile blank, (text.dropWhile blank).rtakeWhile blank, ?_⟩
  have rest : (text.dropWhile blank).rdropWhile blank ++
      (text.dropWhile blank).rtakeWhile blank = text.dropWhile blank :=
    List.rdropWhile_append_rtakeWhile
  constructor
  · exact (List.takeWhile_append_dropWhile.symm.trans
      (congrArg _ rest.symm))
  · intro item member
    exact List.mem_takeWhile_imp member
  · intro item member
    exact List.mem_rtakeWhile_imp member
  · intro _ item isHead
    have same : (text.dropWhile blank).head? = some item := by
      rw [← rest, List.head?_append]
      rw [show (text.dropWhile blank).rdropWhile blank =
        ((text.dropWhile blank).reverse.dropWhile blank).reverse from rfl,
        isHead]
      rfl
    have kept := List.head?_dropWhile_not blank text
    rw [same] at kept
    exact kept
  · intro _ item isLast
    rw [List.getLast?_reverse] at isLast
    have kept := List.head?_dropWhile_not blank
      (text.dropWhile blank).reverse
    rw [isLast] at kept
    exact kept

namespace Trimmed

theorem separator_notMem (apart : blank separator = false)
    (trims : Trimmed blank text trimmed before after) :
    separator ∉ before ∧ separator ∉ after := by
  constructor
  · intro member
    rw [trims.blankBefore separator member] at apart
    cases apart
  · intro member
    rw [trims.blankAfter separator member] at apart
    cases apart

/-- A first part that begins with blanks begins without them afterwards. -/
theorem first_of_isPrefix
    (trims : Trimmed blank text trimmed before after) {head : List α}
    (isPrefix : before ≠ [] → head <+: trimmed ++ after)
    (there : head ≠ [] → trimmed ≠ []) (nonempty : before ≠ []) :
    ∀ item, head.head? = some item → blank item = false := by
  intro item isHead
  cases head with
  | nil => cases isHead
  | cons first rest =>
      cases trimmed with
      | nil => exact (there (List.cons_ne_nil _ _) rfl).elim
      | cons other others =>
          have same := (List.cons_prefix_cons.mp (isPrefix nonempty)).1
          cases isHead
          exact trims.first nonempty item (congrArg some same.symm)

theorem last_of_isSuffix
    (trims : Trimmed blank text trimmed before after) {last : List α}
    (isSuffix : after ≠ [] → last <:+ trimmed) (nonempty : after ≠ []) :
    ∀ item, last.getLast? = some item → blank item = false := by
  intro item isLast
  obtain ⟨start, rfl⟩ := isSuffix nonempty
  apply trims.last nonempty item
  rw [List.getLast?_append, isLast]
  rfl

/-- Nothing was dropped before a text that begins with something visible. -/
theorem before_eq_nil (trims : Trimmed blank text trimmed before after)
    {item : α} (isHead : text.head? = some item)
    (visible : blank item = false) : before = [] := by
  cases before with
  | nil => rfl
  | cons first rest =>
      rw [trims.cut] at isHead
      cases isHead
      rw [trims.blankBefore _ List.mem_cons_self] at visible
      cases visible

/-- Nothing was dropped after a text that ends with something visible. -/
theorem after_eq_nil (trims : Trimmed blank text trimmed before after)
    {item : α} (isLast : text.getLast? = some item)
    (visible : blank item = false) : after = [] := by
  cases last : after.getLast? with
  | none => exact List.getLast?_eq_none_iff.mp last
  | some other =>
      rw [trims.cut, List.getLast?_append, List.getLast?_append, last] at isLast
      cases isLast
      rw [trims.blankAfter _ (List.mem_of_getLast? last)] at visible
      cases visible

theorem head?_trimmed (trims : Trimmed blank text trimmed before after)
    {item : α} (isHead : text.head? = some item)
    (visible : blank item = false) : trimmed.head? = some item := by
  have none := trims.before_eq_nil isHead visible
  rw [trims.cut, none, List.nil_append, List.head?_append] at isHead
  cases first : trimmed.head? with
  | some other =>
      rw [first] at isHead
      exact isHead
  | none =>
      rw [first] at isHead
      rw [trims.blankAfter item (List.mem_of_head? isHead)] at visible
      cases visible

variable [DecidableEq α]

/-- The first part of what follows the dropped blanks. -/
theorem exists_head (apart : blank separator = false)
    (trims : Trimmed blank text trimmed before after)
    {rest : List (List α)} (parts : partsOf separator text = word :: rest) :
    ∃ head, word = before ++ head ∧
      partsOf separator (trimmed ++ after) =
        ([head].filter fun segment => !segment.isEmpty) ++ rest ∧
      (before ≠ [] → head <+: trimmed ++ after) := by
  rw [trims.cut] at parts
  by_cases empty : before = []
  · rw [empty, List.nil_append] at parts
    have filledIn : word ≠ [] := by
      apply ne_nil_of_mem_partsOf
      rw [parts]
      exact List.mem_cons_self
    refine ⟨word, ?_, ?_, ?_⟩
    · rw [empty, List.nil_append]
    · rw [parts, List.filter_cons_of_pos (by simpa using filledIn)]
      rfl
    · intro nonempty
      exact (nonempty empty).elim
  · obtain ⟨head, tail, isPrefix, shorter, longer⟩ := partsOf_prepend
      (trims.separator_notMem apart).1 empty (trimmed ++ after)
    rw [parts, List.cons.injEq] at longer
    exact ⟨head, longer.1, longer.2 ▸ shorter, fun _ => isPrefix⟩

/-- The last part of what precedes the dropped blanks. -/
theorem exists_last (apart : blank separator = false)
    (trims : Trimmed blank text trimmed before after)
    {init : List (List α)}
    (parts : partsOf separator (trimmed ++ after) = init ++ [word]) :
    ∃ last, word = last ++ after ∧
      partsOf separator trimmed =
        init ++ ([last].filter fun segment => !segment.isEmpty) ∧
      (after ≠ [] → last <:+ trimmed) := by
  by_cases empty : after = []
  · rw [empty, List.append_nil] at parts
    have filledIn : word ≠ [] := by
      apply ne_nil_of_mem_partsOf
      rw [parts]
      exact List.mem_append_right _ List.mem_cons_self
    refine ⟨word, ?_, ?_, ?_⟩
    · rw [empty, List.append_nil]
    · rw [parts, List.filter_cons_of_pos (by simpa using filledIn)]
      rfl
    · intro nonempty
      exact (nonempty empty).elim
  · obtain ⟨tail, last, isSuffix, shorter, longer⟩ := partsOf_append
      (trims.separator_notMem apart).2 empty trimmed
    rw [parts] at longer
    obtain ⟨same, sameLast⟩ := List.append_inj' longer rfl
    exact ⟨last, (List.cons.inj sameLast).1, same ▸ shorter,
      fun _ => isSuffix⟩

theorem parts_single (apart : blank separator = false)
    (trims : Trimmed blank text trimmed before after)
    (parts : partsOf separator text = [word]) :
    partsOf separator trimmed = [] ∨
      ∃ part, partsOf separator trimmed = [part] ∧
        Trimmed blank word part before after := by
  obtain ⟨head, isWord, middle, isPrefix⟩ := trims.exists_head apart parts
  by_cases empty : head = []
  · left
    rw [empty] at middle
    have none : partsOf separator (trimmed ++ after) = [] := middle
    by_cases noneAfter : after = []
    · rw [noneAfter, List.append_nil] at none
      exact none
    · obtain ⟨init, last, _, _, longer⟩ := partsOf_append
        (trims.separator_notMem apart).2 noneAfter trimmed
      rw [none] at longer
      cases init <;> cases longer
  · have one : partsOf separator (trimmed ++ after) = [] ++ [head] := by
      rw [middle, List.filter_cons_of_pos (by simpa using empty)]
      rfl
    obtain ⟨last, isHead, shorter, isSuffix⟩ := trims.exists_last apart one
    by_cases noLast : last = []
    · left
      rw [shorter, noLast]
      rfl
    · right
      refine ⟨last, ?_, ?_⟩
      · rw [shorter, List.filter_cons_of_pos (by simpa using noLast)]
        rfl
      · constructor
        · rw [isWord, isHead]
        · exact trims.blankBefore
        · exact trims.blankAfter
        · intro nonempty item isFirst
          apply trims.first_of_isPrefix isPrefix _ nonempty item
          · rw [isHead, List.head?_append, isFirst]
            rfl
          · intro _ gone
            rw [gone] at shorter
            have none : partsOf separator ([] : List α) = [] := by
              simp [partsOf]
            rw [none, List.filter_cons_of_pos (by simpa using noLast)]
              at shorter
            cases shorter
        · exact trims.last_of_isSuffix isSuffix

/-- A text of two parts, of which the second is not blank, keeps the second,
and the first unless it is blank. -/
theorem parts_pair (apart : blank separator = false)
    (trims : Trimmed blank text trimmed before after)
    (parts : partsOf separator text = [word, other])
    (visible : ∃ item ∈ other, blank item = false) :
    ∃ otherPart, Trimmed blank other otherPart [] after ∧
      ((partsOf separator trimmed = [otherPart] ∧
          ∀ item ∈ word, blank item = true) ∨
        ∃ part, Trimmed blank word part before [] ∧
          partsOf separator trimmed = [part, otherPart]) := by
  obtain ⟨head, isWord, middle, isPrefix⟩ := trims.exists_head apart parts
  obtain ⟨last, isOther, shorter, isSuffix⟩ :=
    trims.exists_last apart middle
  have lastThere : last ≠ [] := by
    intro empty
    obtain ⟨item, member, visible⟩ := visible
    rw [isOther, empty, List.nil_append] at member
    rw [trims.blankAfter item member] at visible
    cases visible
  have keptLast : ([last].filter fun segment => !segment.isEmpty) = [last] :=
    List.filter_cons_of_pos (by simpa using lastThere)
  rw [keptLast] at shorter
  refine ⟨last, ⟨isOther, by simp, trims.blankAfter, by simp,
    trims.last_of_isSuffix isSuffix⟩, ?_⟩
  by_cases empty : head = []
  · left
    rw [empty] at shorter isWord
    refine ⟨shorter, ?_⟩
    rw [isWord, List.append_nil]
    exact trims.blankBefore
  · right
    rw [List.filter_cons_of_pos (by simpa using empty)] at shorter
    refine ⟨head, ⟨by rw [isWord, List.append_nil], trims.blankBefore,
      by simp, ?_, by simp⟩, shorter⟩
    intro nonempty item isFirst
    apply trims.first_of_isPrefix isPrefix _ nonempty item isFirst
    intro _ gone
    rw [gone] at shorter
    have none : partsOf separator ([] : List α) = [] := by
      simp [partsOf]
    rw [none] at shorter
    cases shorter

end Trimmed

end Trimming

/-! ## Texts that begin or end with another -/

theorem stripStart_eq_some_iff {start text rest : String} :
    stripStart start text = some rest ↔ text = start ++ rest := by
  unfold stripStart
  rw [Option.map_eq_some_iff]
  constructor
  · intro ⟨kept, dropped, same⟩
    obtain ⟨first, cut, isStart⟩ := List.dropPrefix?_eq_some_iff.mp dropped
    rw [beq_iff_eq.mp isStart] at cut
    subst same
    apply String.toList_inj.mp
    rw [cut, String.toList_append, String.toList_ofList]
  · intro same
    refine ⟨rest.toList, ?_, String.ofList_toList⟩
    apply List.dropPrefix?_eq_some_iff.mpr
    exact ⟨start.toList, by rw [same, String.toList_append], BEq.rfl⟩

theorem stripFinish_eq_some_iff {finish text rest : String} :
    stripFinish finish text = some rest ↔ text = rest ++ finish := by
  unfold stripFinish
  rw [Option.map_eq_some_iff]
  constructor
  · intro ⟨kept, dropped, same⟩
    obtain ⟨first, cut, isFinish⟩ := List.dropPrefix?_eq_some_iff.mp dropped
    rw [beq_iff_eq.mp isFinish] at cut
    subst same
    apply String.toList_inj.mp
    rw [String.toList_append, String.toList_ofList]
    have turned := congrArg List.reverse cut
    rwa [List.reverse_reverse, List.reverse_append,
      List.reverse_reverse] at turned
  · intro same
    refine ⟨rest.toList.reverse, ?_, ?_⟩
    · apply List.dropPrefix?_eq_some_iff.mpr
      refine ⟨finish.toList.reverse, ?_, BEq.rfl⟩
      rw [same, String.toList_append, List.reverse_append]
    · rw [List.reverse_reverse, String.ofList_toList]

theorem stripFinish_eq_none_iff {finish text : String} :
    stripFinish finish text = none ↔ ∀ rest, text ≠ rest ++ finish := by
  rw [Option.eq_none_iff_forall_ne_some]
  exact forall_congr' fun _ => not_congr stripFinish_eq_some_iff

/-- Where an ending occurs once, it is what is trimmed. -/
theorem trimFinish_once {finish text rest : String} (nonempty : finish ≠ "")
    (once : text = rest ++ finish) (more : ∀ stem, rest ≠ stem ++ finish) :
    trimFinish finish text = rest := by
  have turned : text.toList.reverse =
      finish.toList.reverse ++ rest.toList.reverse := by
    rw [once, String.toList_append, List.reverse_append]
  have stops : ∀ fuel, dropRepeated finish.toList.reverse fuel
      rest.toList.reverse = rest.toList.reverse := by
    intro fuel
    cases fuel with
    | zero => rfl
    | succ fuel =>
        have absent : rest.toList.reverse.dropPrefix?
            finish.toList.reverse = none := by
          have none := stripFinish_eq_none_iff.mpr more
          unfold stripFinish at none
          exact Option.map_eq_none_iff.mp none
        rw [dropRepeated, absent]
  unfold trimFinish
  cases size : text.length with
  | zero =>
      have lengths := congrArg String.length once
      rw [size, String.length_append] at lengths
      have isEmpty : finish.length = 0 := by omega
      exact (nonempty (String.length_eq_zero_iff.mp isEmpty)).elim
  | succ fuel =>
      have dropped : text.toList.reverse.dropPrefix? finish.toList.reverse =
          some rest.toList.reverse :=
        List.dropPrefix?_eq_some_iff.mpr ⟨_, turned, BEq.rfl⟩
      rw [dropRepeated, dropped]
      dsimp only
      rw [stops, List.reverse_reverse, String.ofList_toList]

/-! ## The parts of a string -/

theorem partsOf_dropWhile {α : Type} [DecidableEq α] {separator : α}
    (text : List α) :
    partsOf separator (text.dropWhile (· == separator)) =
      partsOf separator text := by
  induction text with
  | nil => rfl
  | cons first text induction =>
      by_cases same : first = separator
      · rw [List.dropWhile_cons_of_pos (by simpa using same), induction, same,
          partsOf_separator_cons]
      · rw [List.dropWhile_cons_of_neg (by simpa using same)]

theorem partsOf_reverse_dropWhile {α : Type} [DecidableEq α] {separator : α}
    (text : List α) :
    partsOf separator (text.dropWhile (· == separator)).reverse =
      partsOf separator text.reverse := by
  induction text with
  | nil => rfl
  | cons first text induction =>
      by_cases same : first = separator
      · rw [List.dropWhile_cons_of_pos (by simpa using same), induction, same,
          List.reverse_cons, partsOf_append_separator]
      · rw [List.dropWhile_cons_of_neg (by simpa using same)]

theorem segmentsOf_eq (separator : Char) (text : String) :
    segmentsOf separator text =
      (partsOf separator text.toList).map String.ofList := by
  unfold segmentsOf trimChar
  have same := @partsOf_reverse_dropWhile Char _ separator
    (text.toList.dropWhile (· == separator)).reverse
  rw [List.reverse_reverse, partsOf_dropWhile] at same
  exact congrArg _ same

end Library
