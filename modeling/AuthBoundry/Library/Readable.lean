import AuthBoundry.Library.Encoding

/-!
# Texts that can be read back

A way of writing values is readable before what may follow it if a value and
what follows are determined by the text they form together.  Readable texts
compose in lists whose end shows and as optional parts that are announced.
-/

namespace Library

variable {σ α β : Type}

/-- A plain value, and what follows it, can be told from the whole text. -/
def Readable (follows : List σ → Prop) (plain : α → Prop)
    (write : α → List σ) : Prop :=
  ∀ ⦃left right : α⦄ ⦃rest rest' : List σ⦄, plain left → plain right →
    follows rest → follows rest' →
    write left ++ rest = write right ++ rest' → left = right ∧ rest = rest'

namespace Readable

variable {follows : List σ → Prop} {plain : α → Prop} {write : α → List σ}

theorem tagged (readable : Readable follows plain write) (tag : List σ) :
    Readable follows plain fun value => tag ++ write value := by
  intro left right rest rest' leftPlain rightPlain after after' same
  rw [List.append_assoc, List.append_assoc] at same
  exact readable leftPlain rightPlain after after'
    (List.append_cancel_left same)

theorem comap (readable : Readable follows plain write) {plain' : β → Prop}
    {part : β → α} (parts : ∀ value, plain' value → plain (part value))
    (determines : ∀ left right, plain' left → plain' right →
      part left = part right → left = right) :
    Readable follows plain' fun value => write (part value) := by
  intro left right rest rest' leftPlain rightPlain after after' same
  obtain ⟨sameParts, rests⟩ := readable (parts left leftPlain)
    (parts right rightPlain) after after' same
  exact ⟨determines left right leftPlain rightPlain sameParts, rests⟩

/-- An optional part can be told from its absence if what follows the absence
is not announced by the same tag. -/
theorem optional_inj (readable : Readable (fun _ => True) plain write)
    (tag : List σ) {left right : Option α} {rest rest' : List σ}
    (leftPlain : ∀ given ∈ left, plain given)
    (rightPlain : ∀ given ∈ right, plain given)
    (after : left = none → ¬tag <+: rest)
    (after' : right = none → ¬tag <+: rest')
    (same : (left.map fun given => tag ++ write given).getD [] ++ rest =
      (right.map fun given => tag ++ write given).getD [] ++ rest') :
    left = right ∧ rest = rest' := by
  cases left with
  | none =>
      cases right with
      | none => exact ⟨rfl, same⟩
      | some right =>
          refine absurd ?_ (after rfl)
          rw [show rest = (tag ++ write right) ++ rest' from same,
            List.append_assoc]
          exact List.prefix_append _ _
  | some left =>
      cases right with
      | none =>
          refine absurd ?_ (after' rfl)
          rw [show rest' = (tag ++ write left) ++ rest from same.symm,
            List.append_assoc]
          exact List.prefix_append _ _
      | some right =>
          obtain ⟨rfl, rests⟩ := readable.tagged tag
            (leftPlain left rfl) (rightPlain right rfl) trivial trivial same
          exact ⟨rfl, rests⟩

theorem flag_inj (tag : List σ) {left right : Bool} {rest rest' : List σ}
    (after : left = false → ¬tag <+: rest)
    (after' : right = false → ¬tag <+: rest')
    (same : (if left then tag else []) ++ rest =
      (if right then tag else []) ++ rest') : left = right ∧ rest = rest' := by
  cases left with
  | false =>
      cases right with
      | false => exact ⟨rfl, same⟩
      | true =>
          refine absurd ?_ (after rfl)
          rw [show rest = tag ++ rest' from same]
          exact List.prefix_append _ _
  | true =>
      cases right with
      | false =>
          refine absurd ?_ (after' rfl)
          rw [show rest' = tag ++ rest from same.symm]
          exact List.prefix_append _ _
      | true => exact ⟨rfl, List.append_cancel_left same⟩

/-- A list is readable if what follows it cannot begin like an entry. -/
theorem list {itemFollows : List σ → Prop}
    (readable : Readable itemFollows plain write)
    (apart : ∀ item rest, plain item → ¬follows (write item ++ rest))
    (ends : ∀ rest, follows rest → itemFollows rest)
    (continues : ∀ item rest, plain item → itemFollows (write item ++ rest)) :
    Readable follows (fun items : List α => ∀ item ∈ items, plain item)
      fun items => items.flatMap write := by
  have next : ∀ (items : List α) (rest : List σ),
      (∀ item ∈ items, plain item) → follows rest →
      itemFollows (items.flatMap write ++ rest) := by
    intro items rest plains after
    cases items with
    | nil => exact ends rest after
    | cons item items =>
        rw [List.flatMap_cons, List.append_assoc]
        exact continues item _ (plains item List.mem_cons_self)
  intro left right rest rest' leftPlain rightPlain after after' same
  induction left generalizing right with
  | nil =>
      cases right with
      | nil => exact ⟨rfl, same⟩
      | cons item items =>
          refine absurd after ?_
          rw [show rest = (item :: items).flatMap write ++ rest' from same,
            List.flatMap_cons, List.append_assoc]
          exact apart item _ (rightPlain item List.mem_cons_self)
  | cons item items induction =>
      have itemsPlain := fun other member =>
        leftPlain other (List.mem_cons_of_mem item member)
      cases right with
      | nil =>
          refine absurd after' ?_
          rw [show rest' = (item :: items).flatMap write ++ rest from same.symm,
            List.flatMap_cons, List.append_assoc]
          exact apart item _ (leftPlain item List.mem_cons_self)
      | cons item' items' =>
          have itemsPlain' := fun other member =>
            rightPlain other (List.mem_cons_of_mem item' member)
          simp only [List.flatMap_cons, List.append_assoc] at same
          obtain ⟨rfl, tails⟩ := readable
            (leftPlain item List.mem_cons_self)
            (rightPlain item' List.mem_cons_self)
            (next items rest itemsPlain after)
            (next items' rest' itemsPlain' after') same
          obtain ⟨rfl, rests⟩ := induction itemsPlain itemsPlain' tails
          exact ⟨rfl, rests⟩

end Readable

/-! ## Texts that a separator closes -/

theorem prefix_of_separated {separator : σ} {tag text rest : List σ}
    (separated : separator ∉ tag)
    (begins : tag <+: text ++ separator :: rest) : tag <+: text := by
  rcases List.prefix_or_prefix_of_prefix begins
      (List.prefix_append text (separator :: rest)) with inside | beyond
  · exact inside
  · obtain ⟨excess, rfl⟩ := beyond
    have tail := (List.prefix_append_right_inj text).mp begins
    cases excess with
    | nil => rw [List.append_nil]
    | cons first excess =>
        rw [(List.cons_prefix_cons.mp tail).1] at separated
        simp at separated

/-- A tag of two parts that begins a text of two parts. -/
theorem prefix_separator_inj {separator : σ} {name body text rest : List σ}
    (plain : separator ∉ name) (plain' : separator ∉ text)
    (begins : name ++ separator :: body <+: text ++ separator :: rest) :
    name = text ∧ body <+: rest := by
  obtain ⟨excess, same⟩ := begins
  rw [List.append_assoc, List.cons_append] at same
  obtain ⟨names, bodies⟩ := append_separator_inj plain plain' same
  exact ⟨names, excess, bodies⟩

theorem separators_apart {first second : σ} (different : first ≠ second)
    {text text' rest rest' : List σ} (plain : second ∉ text)
    (plain' : first ∉ text')
    (same : text ++ first :: rest = text' ++ second :: rest') : False := by
  induction text generalizing text' with
  | nil =>
      cases text' with
      | nil => exact different (List.cons_eq_cons.mp same).1
      | cons head text' =>
          obtain ⟨rfl, _⟩ := List.cons_eq_cons.mp same
          exact plain' List.mem_cons_self
  | cons head text induction =>
      cases text' with
      | nil =>
          obtain ⟨rfl, _⟩ := List.cons_eq_cons.mp same
          exact plain List.mem_cons_self
      | cons head' text' =>
          exact induction (fun member => plain (List.mem_cons_of_mem _ member))
            (fun member => plain' (List.mem_cons_of_mem _ member))
            (List.cons_eq_cons.mp same).2

/-- Nothing follows, or one of these tags. -/
def EndsBefore (tags : List (List σ)) (rest : List σ) : Prop :=
  rest = [] ∨ ∃ tag ∈ tags, tag <+: rest

/-- A separator with one of the tags behind it does not occur. -/
def Closed (separator : σ) (tags : List (List σ)) (text : List σ) : Prop :=
  ∀ tag ∈ tags, ¬(separator :: tag) <:+: text

theorem Closed.eq_nil {separator : σ} {tags : List (List σ)}
    {text rest rest' : List σ} (separated : ∀ tag ∈ tags, separator ∉ tag)
    (closed : Closed separator tags text) (after : EndsBefore tags rest)
    (same : separator :: rest = text ++ separator :: rest') : text = [] := by
  cases text with
  | nil => rfl
  | cons first text =>
      obtain ⟨rfl, rests⟩ := List.cons_eq_cons.mp same
      rcases after with none | ⟨tag, member, tagged⟩
      · rw [none] at rests
        simp at rests
      · rw [rests] at tagged
        have inside := prefix_of_separated (separated tag member) tagged
        exact absurd (List.cons_prefix_cons.mpr ⟨rfl, inside⟩).isInfix
          (closed tag member)

theorem Closed.tail {separator first : σ} {tags : List (List σ)}
    {text : List σ} (closed : Closed separator tags (first :: text)) :
    Closed separator tags text :=
  fun tag member inside => closed tag member (inside.trans
    (List.suffix_cons first text).isInfix)

theorem Readable.closed (separator : σ) {tags : List (List σ)}
    (separated : ∀ tag ∈ tags, separator ∉ tag) :
    Readable (EndsBefore tags) (Closed separator tags)
      fun text => text ++ [separator] := by
  intro left right rest rest' leftClosed rightClosed after after' same
  simp only [List.append_assoc, List.singleton_append] at same
  induction left generalizing right with
  | nil =>
      obtain rfl := rightClosed.eq_nil separated after same
      exact ⟨rfl, (List.cons_eq_cons.mp same).2⟩
  | cons first left induction =>
      cases right with
      | nil =>
          have none := leftClosed.eq_nil separated after' same.symm
          cases none
      | cons first' right =>
          obtain ⟨rfl, tails⟩ := List.cons_eq_cons.mp same
          obtain ⟨rfl, rests⟩ := induction leftClosed.tail rightClosed.tail tails
          exact ⟨rfl, rests⟩

/-- A text without the separator ends at the first one, whatever follows. -/
theorem Readable.terminated (separator : σ) :
    Readable (fun _ => True) (separator ∉ ·)
      fun text => text ++ [separator] := by
  intro left right rest rest' leftPlain rightPlain _ _ same
  simp only [List.append_assoc, List.singleton_append] at same
  exact append_separator_inj leftPlain rightPlain same

/-! ## Labelled texts -/

/-- A text between a label and a closing character. -/
def labelled (label : String) (closing : Char) (text : String) : List Char :=
  label.toList ++ (text.toList ++ [closing])

theorem prefix_labelled (label : String) (closing : Char) (text : String)
    (rest : List Char) :
    label.toList <+: labelled label closing text ++ rest := by
  rw [labelled, List.append_assoc]
  exact List.prefix_append _ _

theorem Readable.labelled (label : String) (closing : Char) :
    Readable (fun _ => True) (fun text : String => closing ∉ text.toList)
      (labelled label closing) :=
  ((Readable.terminated closing).comap (fun _ plain => plain)
    fun _ _ _ _ same => String.toList_inj.mp same).tagged label.toList

theorem Readable.labelled_closed (label : String) (closing : Char)
    {tags : List (List Char)} (separated : ∀ tag ∈ tags, closing ∉ tag) :
    Readable (EndsBefore tags)
      (fun text : String => Closed closing tags text.toList)
      (Library.labelled label closing) :=
  ((Readable.closed closing separated).comap (fun _ plain => plain)
    fun _ _ _ _ same => String.toList_inj.mp same).tagged label.toList

theorem Readable.shown (label : String) (closing : Char) {shown : α → String}
    (plain : ∀ value, closing ∉ (shown value).toList)
    (determines : ∀ left right, shown left = shown right → left = right) :
    Readable (fun _ => True) (fun _ => True)
      fun value : α => Library.labelled label closing (shown value) :=
  (Readable.labelled label closing).comap (fun value _ => plain value)
    fun left right _ _ => determines left right

end Library
