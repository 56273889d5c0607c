import AuthBoundry.Library.Accumulation
import AuthBoundry.Cli.ConfigUpgrade
import Mathlib.Data.List.Chain

/-!
# What an upgrade leaves

An upgrade takes nothing from a declaration and ends: every option is stated
afterwards, so that a second upgrade changes nothing.
-/

namespace AuthBoundry

open Library

/-! ## What an insertion keeps -/

/-- No carriage return stands right before a closing brace. -/
def Unreturned (text : List Char) : Prop :=
  text.IsChain fun ch next => ch = '\r' → next ≠ '\x7d'

instance : DecidablePred Unreturned :=
  fun text => inferInstanceAs
    (Decidable (text.IsChain fun ch next => ch = '\r' → next ≠ '\x7d'))

theorem Unreturned.last {before left right : List Char}
    (unreturned : Unreturned (before ++ (left ++ '\x7d' :: right))) :
    left.getLast? ≠ some '\r' := by
  intro last
  rw [← List.append_assoc] at unreturned
  refine (List.isChain_append.mp unreturned).2.2 '\r' ?_ '\x7d' rfl rfl rfl
  rw [List.getLast?_append, last]
  rfl

/-- A text without carriage returns may stand wherever no line is cut. -/
theorem Unreturned.insert {left right added : List Char}
    (unreturned : Unreturned (left ++ right))
    (last : left.getLast? ≠ some '\r') (plain : '\r' ∉ added) :
    Unreturned (left ++ (added ++ right)) := by
  obtain ⟨before, after, _⟩ := List.isChain_append.mp unreturned
  have unbroken : ∀ {text : List Char}, text.getLast? ≠ some '\r' →
      ∀ ch ∈ text.getLast?, ∀ next : Char, ch = '\r' → next ≠ '\x7d' := by
    intro text plain ch final next returned
    subst returned
    exact absurd final plain
  have inside : Unreturned added := by
    refine List.Pairwise.isChain ?_
    rw [List.pairwise_iff_forall_sublist]
    intro ch next within returned
    subst returned
    exact absurd (within.subset List.mem_cons_self) plain
  refine List.isChain_append.mpr ⟨before, List.isChain_append.mpr
    ⟨inside, after, fun ch final next _ => ?_⟩, fun ch final next _ => ?_⟩
  · exact unbroken (fun last => plain (List.mem_of_getLast? last))
      ch final next
  · exact unbroken last ch final next

/-- What an upgrade leaves of a text, and what it leaves to be found there. -/
structure Upgrades (old new : List Char) : Prop where
  kept : old.Sublist new
  marks : ∀ mark, '\x7d' ∉ mark → mark <:+: old → mark <:+: new
  unreturned : Unreturned old → Unreturned new
  fields : Unreturned old → ∀ field, '\x7d' ∉ field → field ≠ [] →
    authHasField old field = true → authHasField new field = true

namespace Upgrades

theorem refl (source : List Char) : Upgrades source source :=
  ⟨List.Sublist.refl source, fun _ _ => id, id, fun _ _ _ _ => id⟩

theorem trans {first second third : List Char}
    (before : Upgrades first second) (after : Upgrades second third) :
    Upgrades first third where
  kept := before.kept.trans after.kept
  marks := fun mark absent inside =>
    after.marks mark absent (before.marks mark absent inside)
  unreturned := fun unreturned =>
    after.unreturned (before.unreturned unreturned)
  fields := fun unreturned field absent named found =>
    after.fields (before.unreturned unreturned) field absent named
      (before.fields unreturned field absent named found)

end Upgrades

theorem insertInto_keeps (block : SourceBlock) {declaration : List Char}
    (declares : IsDeclaration declaration) :
    block.text.Sublist (insertInto block declaration) ∧
      (∀ mark, '\x7d' ∉ mark → mark <:+: block.text →
        mark <:+: insertInto block declaration) ∧
      (Unreturned block.text →
        Unreturned (insertInto block declaration)) := by
  have text : block.text =
      (block.before ++ '\x7b' :: block.body) ++ '\x7d' :: block.after := by
    simp [SourceBlock.text]
  obtain ⟨pad, padded, plain⟩ :=
    exists_ended (block.before ++ '\x7b' :: block.body)
  have grows : block.before ++ '\x7b' :: block.body <+:
      ended (block.before ++ '\x7b' :: block.body) := by
    rw [padded]
    exact List.prefix_append _ _
  rw [text, insertInto]
  refine ⟨?_, ?_, ?_⟩
  · refine List.Sublist.append (grows.sublist.trans ?_) (List.Sublist.refl _)
    exact List.sublist_append_left _ _
  · intro mark absent inside
    rw [infix_separator_iff absent] at inside ⊢
    refine inside.imp_left fun before => ?_
    exact before.trans (grows.trans (List.prefix_append _ _)).isInfix
  · intro unreturned
    rw [padded, List.append_assoc, List.append_assoc,
      ← List.append_assoc pad]
    refine unreturned.insert (@Unreturned.last [] _ _ unreturned) ?_
    rw [List.mem_append, not_or]
    exact ⟨plain, declares.unreturned⟩

theorem Braced.depthChange {body : List Char} (braced : Braced body) :
    depthChange body = 0 := by
  have counted := ClosesLast.countP_eq open_apart (Nat.le_refl 1) braced
  have last : ['\x7d'].countP isClose = 1 ∧ ['\x7d'].countP isOpen = 0 := by
    decide
  rw [List.countP_append, List.countP_append, last.1, last.2] at counted
  rw [AuthBoundry.depthChange]
  omega

theorem insertAuthDeclaration_upgrades {source declaration new : List Char}
    (declares : IsDeclaration declaration)
    (inserted : insertAuthDeclaration source declaration = some new) :
    Upgrades source new := by
  obtain ⟨block, bounds, rfl⟩ := Option.map_eq_some_iff.mp inserted
  obtain ⟨rfl, opens, braced⟩ := authBlockBounds_eq_some_iff.mp bounds
  obtain ⟨kept, marks, unreturned⟩ := insertInto_keeps block declares
  refine ⟨kept, marks, unreturned, ?_⟩
  intro plain field absent named found
  have changed := authBlockBounds_extended bounds declares
  have last : block.body.getLast? ≠ some '\r' := by
    refine @Unreturned.last (block.before ++ ['\x7b']) _ block.after ?_
    simpa [SourceBlock.text] using plain
  rw [authHasField, bounds] at found
  rw [authHasField, changed]
  have lines := @hasFieldFrom_insert _ absent named block.body [] _
    (by simp) last declares.whole declares.even 0
    (by simpa using found)
  simpa [SourceBlock.extended] using lines

theorem insertAuthDeclaration_declares {source field declaration new : List Char}
    (declares : IsDeclaration declaration)
    (states : hasFieldFrom field 0 (bareLines declaration) = true)
    (inserted : insertAuthDeclaration source declaration = some new) :
    authHasField new field = true := by
  obtain ⟨block, bounds, rfl⟩ := Option.map_eq_some_iff.mp inserted
  obtain ⟨_, _, braced⟩ := authBlockBounds_eq_some_iff.mp bounds
  rw [authHasField, authBlockBounds_extended bounds declares]
  dsimp only [SourceBlock.extended]
  rw [hasFieldFrom_whole _ _ (whole_ended _), depthChange_ended,
    braced.depthChange, Int.add_zero, states, Bool.or_true]

section Named

variable {isAlphanumeric : Char → Bool}

theorem NamedIn.text {auth found : SourceBlock} {lead inner : List Char}
    (lies : NamedIn auth found lead inner) : auth.text = found.text := by
  rw [SourceBlock.text, SourceBlock.text, lies.before, lies.after, lies.body]
  simp

theorem insertNamedBlockDeclaration_upgrades
    {source name declaration new : List Char} (absent : '\x7b' ∉ name)
    (named : name ≠ []) (declares : IsDeclaration declaration)
    (inserted : insertNamedBlockDeclaration isAlphanumeric source name
      declaration = some new) :
    Upgrades source new := by
  obtain ⟨found, bounds, rfl⟩ := Option.map_eq_some_iff.mp inserted
  obtain ⟨auth, lead, inner, authBounds, lies, changed, _⟩ :=
    namedBlockBounds_extended absent named bounds declares
  obtain ⟨whole, _, _⟩ := authBlockBounds_eq_some_iff.mp authBounds
  obtain ⟨kept, marks, unreturned⟩ := insertInto_keeps found declares
  rw [← lies.text, ← whole] at kept marks unreturned
  refine ⟨kept, marks, unreturned, ?_⟩
  intro plain field absent named fielded
  have last : (lead ++ '\x7b' :: found.body).getLast? ≠ some '\r' := by
    refine @Unreturned.last (auth.before ++ ['\x7b']) _
      (inner ++ '\x7d' :: auth.after) ?_
    rw [whole, SourceBlock.text, lies.body] at plain
    simpa using plain
  rw [authHasField, authBounds] at fielded
  rw [authHasField, changed]
  refine hasFieldFrom_insert absent named (by simp) last declares.whole
    declares.even ?_
  dsimp only at fielded
  rw [lies.body] at fielded
  simpa using fielded

theorem insertNamedBlockDeclaration_keeps
    {source name declaration new field : List Char} (absent : '\x7b' ∉ name)
    (named : name ≠ []) (declares : IsDeclaration declaration)
    (inserted : insertNamedBlockDeclaration isAlphanumeric source name
      declaration = some new) (unreturned : Unreturned source)
    (fielded : namedBlockHasField isAlphanumeric source name field = true) :
    namedBlockHasField isAlphanumeric new name field = true := by
  obtain ⟨found, bounds, rfl⟩ := Option.map_eq_some_iff.mp inserted
  obtain ⟨auth, lead, inner, authBounds, lies, _, changed⟩ :=
    namedBlockBounds_extended absent named bounds declares
  obtain ⟨whole, _, _⟩ := authBlockBounds_eq_some_iff.mp authBounds
  have last : found.body.getLast? ≠ some '\r' := by
    refine @Unreturned.last (found.before ++ ['\x7b']) _ found.after ?_
    rw [whole, lies.text, SourceBlock.text] at unreturned
    simpa using unreturned
  rw [namedBlockHasField, bounds] at fielded
  rw [namedBlockHasField, changed]
  dsimp only [SourceBlock.extended] at fielded ⊢
  have nonempty : found.body ≠ [] := by
    intro empty
    rw [empty] at fielded
    cases fielded
  rw [bareLines_append (whole_ended _), List.any_append,
    bareLines_ended nonempty last, fielded]
  rfl

theorem insertNamedBlockDeclaration_declares
    {source name declaration new field : List Char} (absent : '\x7b' ∉ name)
    (named : name ≠ []) (declares : IsDeclaration declaration)
    (states : (bareLines declaration).any (startsField
      (fun ch => isWhitespace ch || ch == '=' || ch == ':') field) = true)
    (inserted : insertNamedBlockDeclaration isAlphanumeric source name
      declaration = some new) :
    namedBlockHasField isAlphanumeric new name field = true := by
  obtain ⟨found, bounds, rfl⟩ := Option.map_eq_some_iff.mp inserted
  obtain ⟨_, _, _, _, _, _, changed⟩ :=
    namedBlockBounds_extended absent named bounds declares
  rw [namedBlockHasField, changed]
  dsimp only [SourceBlock.extended]
  rw [bareLines_append (whole_ended _), List.any_append, states, Bool.or_true]

end Named

/-! ## The whole upgrade -/

theorem containsMark_iff {mark source : List Char} :
    containsMark mark source = true ↔ mark <:+: source := by
  rw [containsMark, List.any_eq_true, List.infix_iff_prefix_suffix]
  simp only [List.mem_tails, List.isPrefixOf_iff_prefix]
  exact exists_congr fun tail => and_comm

/-- What is checked of a declaration before it is inserted anywhere. -/
def Insertable (text : List Char) : Prop :=
  openAfter isOpen isClose 0 text = some 0 ∧ Whole text ∧
    depthChange text = 0 ∧ '\r' ∉ text

instance (text : List Char) : Decidable (Insertable text) :=
  inferInstanceAs (Decidable (_ ∧ _))

theorem Insertable.declares {text : List Char} (insertable : Insertable text) :
    IsDeclaration text where
  passed := passed_of_openAfter insertable.1
  whole := insertable.2.1
  even := insertable.2.2.1
  unreturned := insertable.2.2.2

def StatesOption (option declaration : List Char) : Prop :=
  Insertable declaration ∧
    hasFieldFrom option 0 (bareLines declaration) = true ∧
    '\x7d' ∉ option ∧ option ≠ []

instance (option declaration : List Char) :
    Decidable (StatesOption option declaration) :=
  inferInstanceAs (Decidable (_ ∧ _))

theorem statesOption_cons {option declaration : List Char}
    (states : StatesOption option declaration)
    {others : List (String × String)}
    (later : ∀ item ∈ others, StatesOption item.1.toList item.2.toList) :
    ∀ item ∈ (String.ofList option, String.ofList declaration) :: others,
      StatesOption item.1.toList item.2.toList := by
  refine List.forall_mem_cons.mpr ⟨?_, later⟩
  rw [String.toList_ofList, String.toList_ofList]
  exact states

set_option maxRecDepth 8000 in
-- The texts are read from their characters: decoding them takes too long.
theorem authOptionDefaults_states :
    ∀ option ∈ authOptionDefaults,
      StatesOption option.1.toList option.2.toList := by
  unfold authOptionDefaults
  repeat refine statesOption_cons (by decide +kernel) ?_
  exact List.forall_mem_nil _

theorem uiScreenDefaults_states :
    ∀ screen ∈ uiScreenDefaults, Insertable (screenDeclaration screen) ∧
      (bareLines (screenDeclaration screen)).any (startsField
        (fun ch => isWhitespace ch || ch == '=' || ch == ':')
        screen.toList) = true := by
  decide +kernel

theorem withRoles_keeps {source new : List Char}
    (declared : withRoles source = some new) :
    source.Sublist new ∧ rolesMark <:+: new ∧
      (Unreturned source → Unreturned new) := by
  unfold withRoles at declared
  split at declared
  · next stated =>
      cases declared
      exact ⟨List.Sublist.refl _, containsMark_iff.mp stated, id⟩
  · obtain ⟨⟨before, after⟩, cut, rfl⟩ := Option.map_eq_some_iff.mp declared
    obtain ⟨rfl, _⟩ := cutAt_eq_some cut
    rw [← List.append_assoc]
    dsimp only
    have last : (before ++ providersMark).getLast? = some '\n' := by
      rw [List.getLast?_append_of_ne_nil _ (by decide)]
      decide
    refine ⟨?_, ?_, fun unreturned => ?_⟩
    · exact List.Sublist.append (List.sublist_append_left _ _)
        (List.Sublist.refl _)
    · have inside : rolesMark <:+: rolesDeclaration :=
        containsMark_iff.mp (by decide +kernel)
      exact inside.trans (List.infix_append _ _ _)
    · rw [List.append_assoc]
      refine unreturned.insert ?_ (by decide)
      rw [last]
      decide

section Upgrade

variable {isAlphanumeric : Char → Bool}

/-- A text that is behind the auth block changes nothing of it. -/
theorem authBlockBounds_append {source : List Char} {auth : SourceBlock}
    (bounds : authBlockBounds source = some auth) (more : List Char) :
    authBlockBounds (source ++ more) =
      some { auth with after := auth.after ++ more } := by
  obtain ⟨rfl, opens, braced⟩ := authBlockBounds_eq_some_iff.mp bounds
  refine authBlockBounds_eq_some_iff.mpr ⟨?_, opens, braced⟩
  simp [SourceBlock.text]

theorem namedFrom_append (auth : SourceBlock) (name more : List Char)
    (items : List (List Char × List Char)) :
    namedFrom isAlphanumeric { auth with after := auth.after ++ more } name
        items =
      (namedFrom isAlphanumeric auth name items).map fun found =>
        { found with after := found.after ++ more } := by
  induction items with
  | nil => rfl
  | cons item items induction =>
      obtain ⟨passed, behind⟩ := item
      rw [namedFrom, namedFrom]
      by_cases bounded :
          isBounded isAlphanumeric (auth.before ++ '\x7b' :: passed)
      · rw [if_pos bounded, if_pos bounded]
        rcases dropWhile_open behind with ⟨none, _⟩ | ⟨tail, dropped, _⟩
        · rw [none]
          rfl
        · rw [dropped]
          dsimp only
          by_cases flat : depthChange
              (passed ++ name ++ behind.takeWhile (!isOpen ·)) == 0
          · rw [if_pos flat, if_pos flat]
            cases bracedFrom (auth.before ++ '\x7b' ::
                (passed ++ name ++ behind.takeWhile (!isOpen ·)))
                ('\x7b' :: tail) with
            | none => exact induction
            | some block => simp
          · rw [if_neg flat, if_neg flat]
            exact induction
      · rw [if_neg bounded, if_neg bounded]
        exact induction

theorem namedBlockBounds_append {source name : List Char} {found : SourceBlock}
    (bounds : namedBlockBounds isAlphanumeric source name = some found)
    (more : List Char) :
    namedBlockBounds isAlphanumeric (source ++ more) name =
      some { found with after := found.after ++ more } := by
  obtain ⟨auth, authBounds, selected⟩ := Option.bind_eq_some_iff.mp bounds
  rw [namedBlockBounds, authBlockBounds_append authBounds, Option.bind_some,
    namedFrom_append, selected]
  rfl

/-- An upgrade that also leaves a block what it has. -/
def UpgradesBlock (isAlphanumeric : Char → Bool) (name old new : List Char) :
    Prop :=
  Upgrades old new ∧ (Unreturned old → ∀ field,
    namedBlockHasField isAlphanumeric old name field = true →
      namedBlockHasField isAlphanumeric new name field = true)

namespace UpgradesBlock

theorem refl (name source : List Char) :
    UpgradesBlock isAlphanumeric name source source :=
  ⟨Upgrades.refl source, fun _ _ => id⟩

theorem trans {name first second third : List Char}
    (before : UpgradesBlock isAlphanumeric name first second)
    (after : UpgradesBlock isAlphanumeric name second third) :
    UpgradesBlock isAlphanumeric name first third :=
  ⟨before.1.trans after.1, fun unreturned field fielded =>
    after.2 (before.1.unreturned unreturned) field
      (before.2 unreturned field fielded)⟩

end UpgradesBlock

theorem withMail_upgrades (name source : List Char) :
    UpgradesBlock isAlphanumeric name source (withMail source) ∧
      mailMark <:+: withMail source := by
  unfold withMail
  split
  · next stated => exact ⟨.refl _ _, containsMark_iff.mp stated⟩
  · refine ⟨⟨⟨List.sublist_append_left _ _, ?_, ?_, ?_⟩, ?_⟩, ?_⟩
    · intro mark _ inside
      exact inside.trans (List.prefix_append _ _).isInfix
    · intro unreturned
      refine List.isChain_append.mpr ⟨unreturned, ?_, ?_⟩
      · exact (by decide +kernel : Unreturned mailDeclaration)
      · intro ch _ next first _
        have starts : mailDeclaration.head? = some '\n' := by decide +kernel
        rw [starts] at first
        obtain rfl := Option.some.inj first
        decide
    · intro _ field _ _ found
      unfold authHasField at found ⊢
      cases bounds : authBlockBounds source with
      | none =>
          rw [bounds] at found
          cases found
      | some auth =>
          rw [bounds] at found
          rw [authBlockBounds_append bounds]
          exact found
    · intro _ field found
      unfold namedBlockHasField at found ⊢
      cases bounds : namedBlockBounds isAlphanumeric source name with
      | none =>
          rw [bounds] at found
          cases found
      | some block =>
          rw [bounds] at found
          rw [namedBlockBounds_append bounds]
          exact found
    · have inside : mailMark <:+: mailDeclaration :=
        containsMark_iff.mp (by decide +kernel)
      exact inside.trans (List.suffix_append _ _).isInfix

/-- A text that states everything the upgrade looks for. -/
structure StatesAll (isAlphanumeric : Char → Bool) (source : List Char) :
    Prop where
  roles : containsMark rolesMark source = true
  options : ∀ option ∈ authOptionDefaults,
    authHasField source option.1.toList = true
  screens : ∀ screen ∈ uiScreenDefaults,
    namedBlockHasField isAlphanumeric source "ui".toList screen.toList = true
  mail : containsMark mailMark source = true

theorem StatesAll.configUpgradeChange {source : List Char}
    (settled : StatesAll isAlphanumeric source) :
    configUpgradeChange isAlphanumeric source = none := by
  have options : authOptionDefaults.foldlM withOption source = some source :=
    foldlM_stays fun option listed => if_pos (settled.options option listed)
  have screens : uiScreenDefaults.foldlM (withScreen isAlphanumeric) source =
      some source :=
    foldlM_stays fun screen listed => if_pos (settled.screens screen listed)
  have roles : withRoles source = some source := if_pos settled.roles
  have mail : withMail source = source := if_pos settled.mail
  rw [AuthBoundry.configUpgradeChange, roles, Option.bind_eq_bind,
    Option.bind_some, options, Option.bind_some, screens, Option.bind_some]
  dsimp only
  rw [mail]
  exact if_pos rfl

theorem withOption_upgrades {source new : List Char}
    {option : String × String} (listed : option ∈ authOptionDefaults)
    (changed : withOption source option = some new) :
    Upgrades source new ∧ authHasField new option.1.toList = true := by
  obtain ⟨insertable, states, _⟩ := authOptionDefaults_states option listed
  unfold withOption at changed
  split at changed
  · next stated =>
      cases changed
      exact ⟨.refl source, stated⟩
  · exact ⟨insertAuthDeclaration_upgrades insertable.declares changed,
      insertAuthDeclaration_declares insertable.declares states changed⟩

theorem withScreen_upgrades {source new : List Char} {screen : String}
    (listed : screen ∈ uiScreenDefaults)
    (changed : withScreen isAlphanumeric source screen = some new) :
    UpgradesBlock isAlphanumeric "ui".toList source new ∧
      namedBlockHasField isAlphanumeric new "ui".toList screen.toList =
        true := by
  obtain ⟨insertable, states⟩ := uiScreenDefaults_states screen listed
  have absent : '\x7b' ∉ "ui".toList := by decide
  have named : "ui".toList ≠ [] := by decide
  unfold withScreen at changed
  split at changed
  · next stated =>
      cases changed
      exact ⟨.refl _ source, stated⟩
  · exact ⟨⟨insertNamedBlockDeclaration_upgrades absent named
        insertable.declares changed,
      fun unreturned field => insertNamedBlockDeclaration_keeps absent named
        insertable.declares changed unreturned⟩,
      insertNamedBlockDeclaration_declares absent named insertable.declares
        states changed⟩

theorem configUpgradeChange_eq_some_iff {before after : List Char} :
    configUpgradeChange isAlphanumeric before = some after ↔
      ∃ roles options screens, withRoles before = some roles ∧
        authOptionDefaults.foldlM withOption roles = some options ∧
        uiScreenDefaults.foldlM (withScreen isAlphanumeric) options =
          some screens ∧
        after = withMail screens ∧ after ≠ before := by
  simp only [configUpgradeChange, Option.bind_eq_bind,
    Option.bind_eq_some_iff, Option.ite_none_left_eq_some, Option.some.injEq]
  constructor
  · rintro ⟨roles, declared, options, stated, screens, shown, differs, rfl⟩
    exact ⟨roles, options, screens, declared, stated, shown, rfl, differs⟩
  · rintro ⟨roles, options, screens, declared, stated, shown, rfl, differs⟩
    exact ⟨roles, declared, options, stated, screens, shown, differs, rfl⟩

/-- A declaration that lacks an option, a screen and the mail block. -/
def olderDeclaration : List Char :=
  useAuthMark ++ " \x7b\n".toList ++ rolesMark ++ ['\n'] ++
    (authOptionDefaults.tail.dropLast.flatMap fun option =>
      option.1.toList ++ " =\n".toList) ++
    "ui \x7b\n".toList ++
    (uiScreenDefaults.tail.flatMap fun screen =>
      screen.toList ++ " =\n".toList) ++
    "\x7d\n\x7d\n".toList

/-- An upgrade takes nothing from a declaration, states everything it looks
for unless a carriage return stands before a brace, and is then the last. -/
theorem configUpgradeChange_settles {before after : List Char}
    (upgraded : configUpgradeChange isAlphanumeric before = some after) :
    before.Sublist after ∧
      (Unreturned before → StatesAll isAlphanumeric after ∧
        configUpgradeChange isAlphanumeric after = none) := by
  obtain ⟨roles, options, screens, declared, stated, shown, rfl, _⟩ :=
    configUpgradeChange_eq_some_iff.mp upgraded
  obtain ⟨rolesKept, rolesMarked, plain⟩ := withRoles_keeps declared
  obtain ⟨optionsPlain, optionsLead, allOptions⟩ := foldlM_settles
    (fun source => Unreturned before → Unreturned source) Upgrades
    (fun option source => Unreturned before →
      authHasField source option.1.toList = true ∧ option ∈ authOptionDefaults)
    Upgrades.refl Upgrades.trans
    (fun holds leads settled unreturned => by
      obtain ⟨found, listed⟩ := settled unreturned
      obtain ⟨_, _, absent, named⟩ := authOptionDefaults_states _ listed
      exact ⟨leads.fields (holds unreturned) _ absent named found, listed⟩)
    (fun option listed _ _ holds changed => by
      obtain ⟨leads, found⟩ := withOption_upgrades listed changed
      exact ⟨leads.unreturned ∘ holds, leads, fun _ => ⟨found, listed⟩⟩)
    plain stated
  obtain ⟨screensPlain, screensLead, allScreens⟩ := foldlM_settles
    (fun source => Unreturned before → Unreturned source)
    (UpgradesBlock isAlphanumeric "ui".toList)
    (fun screen source => Unreturned before →
      namedBlockHasField isAlphanumeric source "ui".toList screen.toList =
        true)
    (UpgradesBlock.refl _) UpgradesBlock.trans
    (fun {screen _ _} holds leads settled unreturned =>
      leads.2 (holds unreturned) screen.toList (settled unreturned))
    (fun screen listed _ _ holds changed => by
      obtain ⟨leads, found⟩ := withScreen_upgrades listed changed
      exact ⟨leads.1.unreturned ∘ holds, leads, fun _ => found⟩)
    optionsPlain shown
  obtain ⟨mailLeads, mailMarked⟩ := @withMail_upgrades
    isAlphanumeric "ui".toList screens
  have marks := (optionsLead.trans screensLead.1).trans mailLeads.1
  refine ⟨rolesKept.trans marks.kept, fun unreturned => ?_⟩
  have settled : StatesAll isAlphanumeric (withMail screens) := by
    refine ⟨?_, ?_, ?_, containsMark_iff.mpr mailMarked⟩
    · exact containsMark_iff.mpr (marks.marks rolesMark (by decide) rolesMarked)
    · intro option listed
      obtain ⟨_, _, absent, named⟩ := authOptionDefaults_states option listed
      exact (screensLead.1.trans mailLeads.1).fields (optionsPlain unreturned) _
        absent named (allOptions option listed unreturned).1
    · intro screen listed
      exact mailLeads.2 (screensPlain unreturned) _
        (allScreens screen listed unreturned)
  exact ⟨settled, settled.configUpgradeChange⟩

theorem configUpgradeChange_settles_older :
    ∃ after, configUpgradeChange Char.isAlphanum olderDeclaration = some after ∧
      olderDeclaration.Sublist after ∧
      configUpgradeChange Char.isAlphanum after = none := by
  obtain ⟨after, upgraded⟩ :
      ∃ after, configUpgradeChange Char.isAlphanum olderDeclaration =
        some after :=
    Option.isSome_iff_exists.mp (by decide +kernel)
  obtain ⟨kept, settles⟩ := configUpgradeChange_settles upgraded
  exact ⟨after, upgraded, kept, (settles (by decide +kernel)).2⟩

end Upgrade

end AuthBoundry
