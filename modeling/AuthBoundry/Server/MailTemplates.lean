import AuthBoundry.Boundary.Ceremony
import AuthBoundry.Library.Replacement

/-!
# Mail templates

A captured mail is a template with its placeholders replaced by the variables
of the message.  The blocks that ask for a support address are resolved first;
then the variables are put in one after another, in the order in which the map
gives them, so that a later one is also put in where an earlier value has its
placeholder.
-/

namespace AuthBoundry

open Library

namespace MailTemplate

/-! ## Rendering -/

/-- The mark that opens a block. -/
@[irreducible] def opening : List Char :=
  "\x7b\x7b#if support_url\x7d\x7d".toList

/-- The mark that closes a block. -/
@[irreducible] def closing : List Char := "\x7b\x7b/if\x7d\x7d".toList

/-- The loop over the blocks, for at most as many rounds as there is fuel. -/
def resolveBlocks (keep : Bool) : Nat → List Char → List Char
  | 0, rendered => rendered
  | fuel + 1, rendered =>
      match cutAt opening rendered with
      | none => rendered
      | some (before, rest) =>
          -- The closing mark is looked for from the opening one on.
          match cutAt closing (opening ++ rest) with
          | none => rendered
          | some (block, after) =>
              let replacement :=
                if keep then block.drop opening.length else []
              resolveBlocks keep fuel (before ++ (replacement ++ after))

/-- A placeholder, with blanks around the name or without. -/
def placeholder : String × Bool → List Char
  | (name, true) => ("\x7b\x7b " ++ name ++ " \x7d\x7d").toList
  | (name, false) => ("\x7b\x7b" ++ name ++ "\x7d\x7d").toList

/-- One variable put in. -/
def putIn (rendered : List Char) (entry : String × String) : List Char :=
  let spaced := replaceAll (placeholder (entry.1, true)) entry.2.toList
    rendered
  replaceAll (placeholder (entry.1, false)) entry.2.toList spaced

/-- Whether the message has a support address. -/
def supported (values : KeyedMap String String) : Bool :=
  values["support_url"]?.any fun value => !value.isEmpty

/-- The variables are gone through in the order in which the map gives them. -/
def renderTemplate (template : String) (values : KeyedMap String String)
    (order : List (String × String)) : String :=
  let resolved := resolveBlocks (supported values) template.length
    template.toList
  String.ofList (order.foldl putIn resolved)

/-! ## What a template means -/

/-- Block after block, each from the first opening mark to the closing mark
that follows it, is kept or left out. -/
inductive Resolves (keep : Bool) : List Char → List Char → Prop where
  | block {before inner after resolved : List Char}
      (opens : Unmarked opening before
        (opening ++ (inner ++ (closing ++ after))))
      (closes : Unmarked closing inner (closing ++ after)) :
      Resolves keep (before ++ ((if keep then inner else []) ++ after))
        resolved →
      Resolves keep (before ++ (opening ++ (inner ++ (closing ++ after))))
        resolved
  | done {text : List Char}
      (none : ∀ before inner after,
        text ≠ before ++ (opening ++ (inner ++ (closing ++ after)))) :
      Resolves keep text text

/-- A text read with the placeholders of the variables as holes. -/
def readTemplate (values : KeyedMap String String) (text : List Char) :
    List (Piece Char (String × Bool)) :=
  Piece.read placeholder
    (values.toList.flatMap fun entry =>
      [(entry.1, true), (entry.1, false)]) text

/-- The values that the holes are filled with. -/
def valueOf (values : KeyedMap String String) (slot : String × Bool) :
    Option (List Char) :=
  values[slot.1]?.map String.toList

/-- Every placeholder replaced by the value of its variable. -/
def meant (values : KeyedMap String String) (resolved : List Char) :
    List Char :=
  Piece.spelled placeholder
    (Piece.fill (valueOf values) (readTemplate values resolved))

/-- The value that some variables give a slot. -/
def given (values : List (String × String)) (slot : String × Bool) :
    Option (List Char) :=
  (values.find? (·.1 == slot.1)).map fun entry => entry.2.toList

/-- The placeholders of a variable are in the text at its holes only. -/
def Apart (pieces : List (Piece Char (String × Bool)))
    (entry : String × String) : Prop :=
  Piece.Alone placeholder (entry.1, true) pieces ∧
    Piece.Alone placeholder (entry.1, false)
      (Piece.fill (Piece.only (entry.1, true) entry.2.toList) pieces)

instance (pieces : List (Piece Char (String × Bool)))
    (entry : String × String) : Decidable (Apart pieces entry) :=
  inferInstanceAs (Decidable (_ ∧ _))

/-- However many variables are put in, and in whatever order, the placeholders
of another one are those of the template: none comes from a value, and none
from a value and what is beside it. -/
def Settled (values : KeyedMap String String) (resolved : List Char) :
    Prop :=
  ∀ order : List (String × String), order.Perm values.toList →
  ∀ done entry later, order = done ++ entry :: later →
    Apart (Piece.fill (given done) (readTemplate values resolved)) entry

/-! ## Blocks -/

theorem opening_eq :
    opening = '\x7b' :: '\x7b' :: "#if support_url\x7d\x7d".toList := by
  unfold opening
  rfl

theorem closing_eq :
    closing = '\x7b' :: '\x7b' :: '/' :: "if\x7d\x7d".toList := by
  unfold closing
  rfl

theorem opening_ne_nil : opening ≠ [] := by
  rw [opening_eq]
  exact List.cons_ne_nil _ _

theorem closing_ne_nil : closing ≠ [] := by
  rw [closing_eq]
  exact List.cons_ne_nil _ _

theorem append_of_unmarked {mark stretch rest before after : List Char}
    (unmarked : Unmarked mark stretch rest)
    (same : stretch ++ rest = before ++ (mark ++ after)) :
    ∃ more, before = stretch ++ more := by
  induction stretch generalizing before with
  | nil => exact ⟨before, rfl⟩
  | cons first stretch induction =>
      cases before with
      | nil =>
          have dropped := dropPrefix?_append_self mark after
          rw [← List.nil_append (mark ++ after), ← same, unmarked.1] at dropped
          cases dropped
      | cons other before =>
          obtain ⟨rfl, later⟩ := List.cons.inj same
          obtain ⟨more, rfl⟩ := induction unmarked.2 later
          exact ⟨more, rfl⟩

/-- No closing mark begins within an opening one. -/
theorem unmarked_opening (rest : List Char) :
    Unmarked closing opening rest := by
  rw [opening_eq, closing_eq]
  exact ⟨rfl, rfl, unmarked_of_absent (by decide) rest⟩

theorem resolves_resolveBlocks (keep : Bool) {fuel : Nat} {text : List Char}
    (enough : text.length ≤ fuel) :
    Resolves keep text (resolveBlocks keep fuel text) := by
  induction fuel generalizing text with
  | zero =>
      obtain rfl := List.length_eq_zero_iff.mp (Nat.le_zero.mp enough)
      apply Resolves.done
      intro before inner after same
      have parts := List.append_eq_nil_iff.mp same.symm
      exact opening_ne_nil (List.append_eq_nil_iff.mp parts.2).1
  | succ fuel induction =>
      rw [resolveBlocks]
      cases opened : cutAt opening text with
      | none =>
          apply Resolves.done
          intro before inner after same
          apply cutAt_eq_none opening_ne_nil opened
          exact ⟨before, inner ++ (closing ++ after), by
            rw [same, List.append_assoc]⟩
      | some cut =>
          obtain ⟨before, rest⟩ := cut
          obtain ⟨whole, first⟩ := cutAt_eq_some opened
          dsimp only
          cases closed : cutAt closing (opening ++ rest) with
          | none =>
              apply Resolves.done
              intro other inner after same
              obtain ⟨more, rfl⟩ :=
                append_of_unmarked first (whole.symm.trans same)
              rw [whole, List.append_assoc] at same
              apply cutAt_eq_none closing_ne_nil closed
              refine ⟨more ++ (opening ++ inner), after, ?_⟩
              rw [List.append_cancel_left same]
              simp
          | some cut =>
              obtain ⟨block, after⟩ := cut
              obtain ⟨inside, closes⟩ := cutAt_eq_some closed
              obtain ⟨inner, rfl⟩ :=
                append_of_unmarked (unmarked_opening rest) inside
              rw [List.append_assoc] at inside
              have parts := List.append_cancel_left inside
              subst parts
              rw [unmarked_append] at closes
              dsimp only
              rw [List.drop_left, whole]
              apply Resolves.block first closes.2
              apply induction
              rw [whole] at enough
              simp only [List.length_append] at enough ⊢
              have long := List.length_pos_iff.mpr opening_ne_nil
              cases keep
              · simp only [Bool.false_eq_true, if_false, List.length_nil]
                omega
              · simp only [if_true]
                omega

/-- A template has one meaning. -/
theorem Resolves.unique {keep : Bool} {text left right : List Char}
    (first : Resolves keep text left) (second : Resolves keep text right) :
    left = right := by
  induction first with
  | @block before inner after resolved opens closes rest induction =>
      generalize same : before ++ (opening ++ (inner ++ (closing ++ after))) =
        text at second
      cases second with
      | done none => exact (none before inner after same.symm).elim
      | @block other content later _ otherOpens otherCloses otherRest =>
          have here := cutAt_unmarked opening_ne_nil opens
          rw [same, cutAt_unmarked opening_ne_nil otherOpens] at here
          obtain ⟨rfl, tails⟩ := Prod.mk.inj (Option.some.inj here)
          have inside := cutAt_unmarked closing_ne_nil closes
          rw [← tails, cutAt_unmarked closing_ne_nil otherCloses] at inside
          obtain ⟨rfl, rfl⟩ := Prod.mk.inj (Option.some.inj inside)
          exact induction otherRest
  | @done text none =>
      cases second with
      | done _ => rfl
      | block opens closes rest => exact (none _ _ _ rfl).elim

/-! ## Variables -/

theorem placeholder_ne_nil (slot : String × Bool) : placeholder slot ≠ [] := by
  obtain ⟨name, _ | _⟩ := slot <;> simp [placeholder]

theorem spelled_readTemplate (values : KeyedMap String String)
    (text : List Char) :
    Piece.spelled placeholder (readTemplate values text) = text :=
  Piece.spelled_read (fun slot _ => placeholder_ne_nil slot) text

/-- One variable more fills the holes of both its placeholders. -/
theorem given_concat (done : List (String × String)) (name value : String)
    (slot : String × Bool) :
    (given done slot).or ((Piece.only (name, true) value.toList slot).or
        (Piece.only (name, false) value.toList slot)) =
      given (done ++ [(name, value)]) slot := by
  obtain ⟨other, spaced⟩ := slot
  unfold given Piece.only
  rw [List.find?_append]
  cases done.find? (·.1 == other) with
  | some found => simp
  | none =>
      by_cases here : name = other
      · subst here
        cases spaced <;> simp
      · have apart : other ≠ name := fun same => here same.symm
        simp [here, apart]

theorem given_eq_valueOf {values : KeyedMap String String}
    {order : List (String × String)} (perm : order.Perm values.toList) :
    given order = valueOf values := by
  funext slot
  unfold given valueOf
  rw [← KeyedMap.find?_perm_toList values perm slot.1, Option.map_map]
  rfl

/-- Putting one variable after another in fills their holes. -/
theorem foldl_putIn {values : KeyedMap String String} {resolved : List Char}
    (settled : Settled values resolved)
    {done later : List (String × String)}
    (perm : (done ++ later).Perm values.toList) :
    later.foldl putIn (Piece.spelled placeholder
        (Piece.fill (given done) (readTemplate values resolved))) =
      Piece.spelled placeholder
        (Piece.fill (given (done ++ later))
          (readTemplate values resolved)) := by
  induction later generalizing done with
  | nil => rw [List.append_nil, List.foldl_nil]
  | cons entry later induction =>
      obtain ⟨name, value⟩ := entry
      obtain ⟨spaced, unspaced⟩ := settled (done ++ (name, value) :: later) perm
        done (name, value) later rfl
      have step : putIn (Piece.spelled placeholder
            (Piece.fill (given done) (readTemplate values resolved)))
            (name, value) =
          Piece.spelled placeholder
            (Piece.fill (given (done ++ [(name, value)]))
              (readTemplate values resolved)) := by
        unfold putIn
        dsimp only
        rw [Piece.replaceAll_spelled (placeholder_ne_nil _) spaced,
          Piece.replaceAll_spelled (placeholder_ne_nil _) unspaced,
          Piece.fill_fill, Piece.fill_fill]
        congr 2
        funext slot
        exact given_concat done name value slot
      have whole : done ++ (name, value) :: later =
          (done ++ [(name, value)]) ++ later := by simp
      rw [whole] at perm ⊢
      rw [List.foldl_cons, step, induction perm]

/-- Rendering ends, and where the template settles it gives the same text in
every order of the variables: every placeholder of the template is replaced by
the value of its variable, and nothing else is. -/
theorem renderTemplate_meant {template : String}
    {values : KeyedMap String String}
    (settled : ∀ resolved,
      Resolves (supported values) template.toList resolved →
        Settled values resolved) :
    ∃ resolved, Resolves (supported values) template.toList resolved ∧
      ∀ order : List (String × String), order.Perm values.toList →
        renderTemplate template values order =
          String.ofList (meant values resolved) := by
  have enough : template.toList.length ≤ template.length :=
    Nat.le_of_eq String.length_toList
  have resolves := resolves_resolveBlocks (supported values) enough
  refine ⟨_, resolves, ?_⟩
  intro order perm
  have filled := @foldl_putIn values _ (settled _ resolves) [] order perm
  have nothing : ∀ pieces : List (Piece Char (String × Bool)),
      Piece.fill (given []) pieces = pieces := Piece.fill_none
  rw [nothing, spelled_readTemplate, List.nil_append,
    given_eq_valueOf perm] at filled
  exact congrArg String.ofList filled

/-! ## Plain variables -/

/-- Neither a brace nor a blank. -/
def IsPlain (character : Char) : Prop :=
  character ≠ '\x7b' ∧ character ≠ '\x7d' ∧ character ≠ ' '

instance (character : Char) : Decidable (IsPlain character) :=
  inferInstanceAs (Decidable (_ ∧ _ ∧ _))

/-- What stands between the braces of a placeholder. -/
def asked (slot : String × Bool) : List Char :=
  if slot.2 then ' ' :: (slot.1.toList ++ [' ']) else slot.1.toList

theorem placeholder_eq (slot : String × Bool) :
    placeholder slot =
      '\x7b' :: '\x7b' :: (asked slot ++ ['\x7d', '\x7d']) := by
  obtain ⟨name, _ | _⟩ := slot <;> simp [placeholder, asked]

theorem asked_braceless {slot : String × Bool}
    (plain : ∀ character ∈ slot.1.toList, IsPlain character) :
    ∀ character ∈ asked slot, character ≠ '\x7b' ∧ character ≠ '\x7d' := by
  intro character member
  have inside : character = ' ' ∨ character ∈ slot.1.toList := by
    unfold asked at member
    split at member
    · simpa [or_comm] using member
    · exact .inr member
  rcases inside with rfl | written
  · decide
  · exact ⟨(plain character written).1, (plain character written).2.1⟩

theorem asked_injective {slot other : String × Bool}
    (plain : ∀ character ∈ slot.1.toList, IsPlain character)
    (plainOther : ∀ character ∈ other.1.toList, IsPlain character)
    (same : asked slot = asked other) : slot = other := by
  have solid : ∀ {name : String},
      (∀ character ∈ name.toList, IsPlain character) → ' ' ∉ name.toList :=
    fun plainName blank => (plainName ' ' blank).2.2 rfl
  obtain ⟨name, spaced⟩ := slot
  obtain ⟨second, spacedOther⟩ := other
  cases spaced <;> cases spacedOther <;>
    simp only [asked, if_true, Bool.false_eq_true, if_false] at same
  · rw [String.toList_inj.mp same]
  · exact (solid plain (by rw [same]; exact List.mem_cons_self)).elim
  · exact (solid plainOther (by rw [← same]; exact List.mem_cons_self)).elim
  · rw [String.toList_inj.mp (List.append_cancel_right (List.cons.inj same).2)]

/-- No placeholder begins within another one. -/
theorem unmarked_placeholder {slot other : String × Bool}
    (plain : ∀ character ∈ slot.1.toList, IsPlain character)
    (plainOther : ∀ character ∈ other.1.toList, IsPlain character)
    (apart : other ≠ slot) (rest : List Char) :
    Unmarked (placeholder slot) (placeholder other) rest := by
  have braceless := asked_braceless plain
  have bracelessOther := asked_braceless plainOther
  have unstarted : ∀ text : List Char,
      (∀ after, text ≠ placeholder slot ++ after) →
        text.dropPrefix? (placeholder slot) = none := by
    intro text other
    cases dropped : text.dropPrefix? (placeholder slot) with
    | none => rfl
    | some after => exact (other after (eq_append_of_dropPrefix? dropped)).elim
  have upTo : ∀ {inner rest : List Char}, (∀ character ∈ inner,
      character ≠ '\x7b' ∧ character ≠ '\x7d') →
        (inner ++ '\x7d' :: rest).takeWhile (· != '\x7d') = inner := by
    intro inner rest closed
    rw [List.takeWhile_append_of_pos fun character member =>
      bne_iff_ne.mpr (closed character member).2]
    simp
  rw [placeholder_eq other]
  refine ⟨unstarted _ ?_, unstarted _ ?_, ?_⟩
  · -- The two ask for the same up to the first closing brace.
    intro after same
    rw [placeholder_eq] at same
    simp only [List.cons_append, List.append_assoc, List.nil_append,
      List.cons.injEq, true_and] at same
    have inner := congrArg (List.takeWhile (· != '\x7d')) same
    rw [upTo bracelessOther, upTo braceless] at inner
    exact apart (asked_injective plainOther plain inner)
  · intro after same
    rw [placeholder_eq] at same
    simp only [List.cons_append, List.append_assoc, List.nil_append,
      List.cons.injEq, true_and] at same
    cases inner : asked other with
    | nil =>
        rw [inner] at same
        exact absurd (List.cons.inj same).1 (by decide)
    | cons first others =>
        have opens := bracelessOther first (by rw [inner]; exact
          List.mem_cons_self)
        rw [inner] at same
        exact opens.1 (List.cons.inj same).1
  · rw [placeholder_eq]
    apply unmarked_of_absent
    intro member
    rcases List.mem_append.mp member with inside | closing
    · exact (bracelessOther _ inside).1 rfl
    · revert closing
      decide

/-- No letter opens a placeholder, and the holes are for plain names. -/
def Braceless (pieces : List (Piece Char (String × Bool))) : Prop :=
  .letter '\x7b' ∉ pieces ∧
    ∀ slot, .hole slot ∈ pieces → ∀ character ∈ slot.1.toList,
      IsPlain character

theorem Braceless.alone {pieces : List (Piece Char (String × Bool))}
    (braceless : Braceless pieces) {slot : String × Bool}
    (plain : ∀ character ∈ slot.1.toList, IsPlain character) :
    Piece.Alone placeholder slot pieces := by
  refine Piece.alone_of_unmarked ?_ ?_
  · intro value member rest
    rw [placeholder_eq]
    apply unmarked_of_absent
    intro braced
    rw [← List.mem_singleton.mp braced] at member
    exact braceless.1 member
  · intro other member apart rest
    exact unmarked_placeholder plain (braceless.2 other member) apart rest

theorem Braceless.fill {pieces : List (Piece Char (String × Bool))}
    (braceless : Braceless pieces)
    {contents : String × Bool → Option (List Char)}
    (unbraced : ∀ slot, ∀ value ∈ contents slot, '\x7b' ∉ value) :
    Braceless (Piece.fill contents pieces) := by
  refine ⟨?_, ?_⟩
  · intro member
    rcases Piece.mem_fill member with
      kept | ⟨slot, value, found, letter, listed, same⟩
    · exact braceless.1 kept
    · cases same
      exact unbraced slot value found listed
  · intro slot member
    rcases Piece.mem_fill member with kept | ⟨_, _, _, _, _, same⟩
    · exact braceless.2 slot kept
    · cases same

/-- Where no value and no text beside a placeholder has a brace, and no name a
brace or a blank, no placeholder arises. -/
theorem settled_of_braceless {values : KeyedMap String String}
    {resolved : List Char}
    (names : ∀ entry ∈ values.toList, ∀ character ∈ entry.1.toList,
      IsPlain character)
    (contents : ∀ entry ∈ values.toList, '\x7b' ∉ entry.2.toList)
    (beside : .letter '\x7b' ∉ readTemplate values resolved) :
    Settled values resolved := by
  have read : Braceless (readTemplate values resolved) := by
    refine ⟨beside, ?_⟩
    intro slot member
    obtain ⟨entry, listed, asks⟩ := List.mem_flatMap.mp
      (Piece.mem_of_hole_mem_readFrom member)
    rcases List.mem_pair.mp asks with rfl | rfl
    · exact names entry listed
    · exact names entry listed
  intro order perm done entry later split
  have listed : entry ∈ values.toList := by
    rw [← perm.mem_iff, split]
    exact List.mem_append_right _ List.mem_cons_self
  have filled : Braceless
      (Piece.fill (given done) (readTemplate values resolved)) := by
    refine read.fill ?_
    intro slot value found
    obtain ⟨other, isOther, rfl⟩ := Option.map_eq_some_iff.mp found
    apply contents other
    rw [← perm.mem_iff, split]
    exact List.mem_append_left _ (List.mem_of_find?_eq_some isOther)
  have once : Braceless (Piece.fill
      (Piece.only (entry.1, true) entry.2.toList)
      (Piece.fill (given done) (readTemplate values resolved))) := by
    refine filled.fill ?_
    intro slot value found
    unfold Piece.only at found
    split at found
    · obtain rfl := Option.some.inj found
      exact contents entry listed
    · cases found
  exact ⟨filled.alone (names entry listed), once.alone (names entry listed)⟩

/-- A greeting and the link of a message. -/
def resetVariables : KeyedMap String String :=
  [("user.name", "Ada"), ("reset_url", "https://app/reset")].foldl
    (fun values entry => values.insert entry.1 entry.2) ∅

def resetTemplate : List Char :=
  "Hi \x7b\x7b user.name \x7d\x7d: \x7b\x7breset_url\x7d\x7d".toList

theorem resolves_resetTemplate {keep : Bool} {resolved : List Char}
    (resolves : Resolves keep resetTemplate resolved) :
    resolved = resetTemplate := by
  apply resolves.unique
  apply Resolves.done
  intro before inner after same
  have uncut : cutAt opening resetTemplate = none := by
    rw [opening_eq]
    decide +kernel
  apply cutAt_eq_none opening_ne_nil uncut
  exact ⟨before, inner ++ (closing ++ after), by
    rw [same, List.append_assoc]⟩

theorem settled_resetTemplate : Settled resetVariables resetTemplate := by
  have listed : resetVariables.toList =
      [("reset_url", "https://app/reset"), ("user.name", "Ada")] := by
    decide +kernel
  have plain : ∀ text ∈ ["reset_url", "user.name"],
      text.toList.all (fun character => decide (IsPlain character)) := by
    decide
  apply settled_of_braceless
  · intro entry member character
    rw [listed] at member
    have named : entry.1 ∈ ["reset_url", "user.name"] :=
      List.mem_map_of_mem (f := Prod.fst) member
    exact fun occurs => of_decide_eq_true
      (List.all_eq_true.mp (plain entry.1 named) character occurs)
  · rw [listed]
    decide
  · decide +kernel

/-- The template means the greeting with the link. -/
theorem renderTemplate_resetTemplate :
    ∃ resolved,
      Resolves (supported resetVariables)
          (String.ofList resetTemplate).toList resolved ∧
        ∀ order : List (String × String),
          order.Perm resetVariables.toList →
            renderTemplate (String.ofList resetTemplate) resetVariables
                order =
              String.ofList (meant resetVariables resolved) := by
  apply renderTemplate_meant
  intro resolved resolves
  rw [String.toList_ofList] at resolves
  rw [resolves_resetTemplate resolves]
  exact settled_resetTemplate

/-! ## A name that asks for the token -/

/-- The variables of a message about an account whose name is the placeholder
of the token. -/
def namedAfterToken : KeyedMap String String :=
  [("user.name", "\x7b\x7btoken\x7d\x7d"), ("token", "s3cret")].foldl
    (fun values entry => values.insert entry.1 entry.2) ∅

/-- The text depends on the order of the map, and in one order the token is
where the name was to be. -/
theorem namedAfterToken_pulls :
    let named := ("user.name", "\x7b\x7btoken\x7d\x7d")
    let secret := ("token", "s3cret")
    let template := "Hi \x7b\x7b user.name \x7d\x7d"
    [named, secret].Perm namedAfterToken.toList ∧
      [secret, named].Perm namedAfterToken.toList ∧
      renderTemplate template namedAfterToken [named, secret] =
        "Hi s3cret" ∧
      renderTemplate template namedAfterToken [secret, named] =
        "Hi \x7b\x7btoken\x7d\x7d" := by
  refine ⟨?_, ?_, ?_, ?_⟩
  · decide +kernel
  · decide +kernel
  · decide +kernel
  · decide +kernel

end MailTemplate

end AuthBoundry
