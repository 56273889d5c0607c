import AuthBoundry.Library.Brackets
import AuthBoundry.Library.Lines
import AuthBoundry.Library.Replacement

/-!
# The upgrade of a declaration

The initialization adds to a declaration what it does not state.  It looks for
names at the starts of lines and counts braces, and never reads the
declaration as a parser would.  Offsets into the text are the lengths of what
stands before them.
-/

namespace AuthBoundry

open Library

/-! ## Blocks -/

def isOpen (ch : Char) : Bool := ch == '\x7b'

def isClose (ch : Char) : Bool := ch == '\x7d'

/-- A block of a text: what stands before its opening brace, between its
braces and behind its closing brace. -/
structure SourceBlock where
  before : List Char
  body : List Char
  after : List Char
deriving DecidableEq

/-- The block whose opening brace a text starts with. -/
def bracedFrom (before opening : List Char) : Option SourceBlock :=
  (upToClosing isOpen isClose 0 opening).map fun inside =>
    { before
      body := inside.drop 1
      after := opening.drop (inside.length + 1) }

def useAuthMark : List Char := "use auth".toList

def authBlockBounds (source : List Char) : Option SourceBlock :=
  match cutAt useAuthMark source with
  | none => none
  | some (head, rest) =>
      match (useAuthMark ++ rest).dropWhile (!isOpen ·) with
      | [] => none
      | opening =>
          bracedFrom (head ++ (useAuthMark ++ rest).takeWhile (!isOpen ·))
            opening

/-- A line begins with a field and what separates it from its value. -/
def startsField (separates : Char → Bool) (field line : List Char) : Bool :=
  match (line.dropWhile isWhitespace).dropPrefix? field with
  | some (next :: _) => separates next
  | _ => false

def depthChange (line : List Char) : Int :=
  line.countP isOpen - line.countP isClose

def hasFieldFrom (field : List Char) : Int → List (List Char) → Bool
  | _, [] => false
  | depth, line :: lines =>
      (depth == 0 && startsField
        (fun ch => isWhitespace ch || ch == '=' || ch == ':' || ch == '\x7b')
        field line) ||
        hasFieldFrom field (depth + depthChange line) lines

def authHasField (source field : List Char) : Bool :=
  match authBlockBounds source with
  | none => false
  | some block => hasFieldFrom field 0 (bareLines block.body)

/-- A declaration on lines of its own, before the closing brace of a block. -/
def insertInto (block : SourceBlock) (declaration : List Char) : List Char :=
  ended (block.before ++ '\x7b' :: block.body) ++ declaration ++
    '\x7d' :: block.after

def insertAuthDeclaration (source declaration : List Char) :
    Option (List Char) :=
  (authBlockBounds source).map fun block => insertInto block declaration

/-! ## Blocks with a name -/

/-- What stands before and behind each occurrence of a name, from left to
right; occurrences do not overlap. -/
def matchesFrom (name : List Char) (passed : List Char) :
    Nat → List Char → List (List Char × List Char)
  | _, [] => []
  | skipped + 1, ch :: rest =>
      matchesFrom name (passed ++ [ch]) skipped rest
  | 0, ch :: rest =>
      match (ch :: rest).dropPrefix? name with
      | some behind =>
          (passed, behind) ::
            matchesFrom name (passed ++ [ch]) (name.length - 1) rest
      | none => matchesFrom name (passed ++ [ch]) 0 rest

section Named

-- Which characters are letters or digits is a matter of Unicode tables.
variable (isAlphanumeric : Char → Bool)

/-- Nothing before an occurrence belongs to the same word. -/
def isBounded (before : List Char) : Bool :=
  before.getLast?.all fun ch => !isAlphanumeric ch && ch != '_'

def namedFrom (auth : SourceBlock) (name : List Char) :
    List (List Char × List Char) → Option SourceBlock
  | [] => none
  | (passed, behind) :: others =>
      if isBounded isAlphanumeric (auth.before ++ '\x7b' :: passed) then
        match behind.dropWhile (!isOpen ·) with
        | [] => none
        | opening =>
            let lead := passed ++ name ++ behind.takeWhile (!isOpen ·)
            if depthChange lead == 0 then
              match bracedFrom (auth.before ++ '\x7b' :: lead) opening with
              | some block =>
                  some { block with
                    after := block.after ++ '\x7d' :: auth.after }
              | none => namedFrom auth name others
            else
              namedFrom auth name others
      else
        namedFrom auth name others

def namedBlockBounds (source name : List Char) : Option SourceBlock :=
  (authBlockBounds source).bind fun auth =>
    namedFrom isAlphanumeric auth name (matchesFrom name [] 0 auth.body)

def namedBlockHasField (source block field : List Char) : Bool :=
  match namedBlockBounds isAlphanumeric source block with
  | none => false
  | some found =>
      (bareLines found.body).any
        (startsField (fun ch => isWhitespace ch || ch == '=' || ch == ':')
          field)

def insertNamedBlockDeclaration (source block declaration : List Char) :
    Option (List Char) :=
  (namedBlockBounds isAlphanumeric source block).map fun found =>
    insertInto found declaration

/-! ## The upgrade -/

def authOptionDefaults : List (String × String) :=
  [("tenant", "  tenant = false\n"),
    ("isolation", "  isolation = \"strict\"\n"),
    ("agents", "  agents = false\n"),
    ("policy", "  policy = \x7b\x7d\n"),
    ("experience", "  experience = \x7b\n    sign_in = enabled\n    sign_up = enabled\n    sign_out = enabled\n    password = enabled\n    password_reset = enabled\n    password_change = enabled\n    external_identity = enabled\n    account_linking = enabled\n    email_verification = enabled\n    mfa = disabled\n    passkeys = disabled\n    device_management = disabled\n    session_management = enabled\n    profile = disabled\n    tenant_switching = false\n    recovery = disabled\n  \x7d\n"),
    ("password", "  password = \x7b\n    min_length = 12\n    max_length = 128\n    require_uppercase = false\n    require_lowercase = false\n    require_number = false\n    require_special_character = false\n    expiration_days = null\n    history_count = 5\n    allow_password_change = true\n    allow_password_reset = true\n  \x7d\n"),
    ("storage", "  storage = \x7b\n    authority = \"feltdb\"\n    audit = \"feltdb\"\n    reporting = \"authboundry_projection\"\n  \x7d\n"),
    ("ui", "  ui = \x7b\n    mode = \"generated\"\n    theme = \"authboundry-default\"\n    login = \"default\"\n    signup = \"default\"\n    account = \"default\"\n    password_forgot = \"default\"\n    password_reset = \"default\"\n    password_change = \"default\"\n    email_verification = \"default\"\n    account_links = \"default\"\n    profile = \"default\"\n    devices = \"default\"\n    sessions = \"default\"\n    mfa = \"default\"\n    passkeys = \"default\"\n    recovery = \"default\"\n    tenant = \"default\"\n    agents = \"default\"\n  \x7d\n")]

def uiScreenDefaults : List String :=
  ["login", "signup", "account", "password_forgot", "password_reset",
    "password_change", "email_verification", "account_links", "profile",
    "devices", "sessions", "mfa", "passkeys", "recovery", "tenant", "agents"]

def rolesMark : List Char := "role = enum[".toList

def providersMark : List Char := "  providers = [local]\n".toList

def rolesDeclaration : List Char :=
  "  claims = \x7b\n    role = enum[\"admin\", \"user\"]\n  \x7d\n".toList

def mailMark : List Char := "use mail".toList

def mailDeclaration : List Char :=
  "\nuse mail\nmail \x7b\n  identities \x7b\n    auth = \"auth@example.com\"\n  \x7d\n  templates \x7b\n    password_reset = \"./emails/password-reset.html\"\n    email_verification = \"./emails/email-verification.html\"\n  \x7d\n\x7d\n".toList

def containsMark (mark source : List Char) : Bool :=
  source.tails.any mark.isPrefixOf

def withRoles (source : List Char) : Option (List Char) :=
  if containsMark rolesMark source then
    some source
  else
    (cutAt providersMark source).map fun (before, after) =>
      before ++ providersMark ++ rolesDeclaration ++ after

def withOption (source : List Char) (option : String × String) :
    Option (List Char) :=
  if authHasField source option.1.toList then
    some source
  else
    insertAuthDeclaration source option.2.toList

def screenDeclaration (screen : String) : List Char :=
  ("    " ++ screen ++ " = \"default\"\n").toList

def withScreen (source : List Char) (screen : String) : Option (List Char) :=
  if namedBlockHasField isAlphanumeric source "ui".toList screen.toList then
    some source
  else
    insertNamedBlockDeclaration isAlphanumeric source "ui".toList
      (screenDeclaration screen)

def withMail (source : List Char) : List Char :=
  if containsMark mailMark source then source else source ++ mailDeclaration

/-- The upgraded text of a declaration, if it differs. -/
def configUpgradeChange (before : List Char) : Option (List Char) := do
  let after ← withRoles before
  let after ← authOptionDefaults.foldlM withOption after
  let after ← uiScreenDefaults.foldlM (withScreen isAlphanumeric) after
  let after := withMail after
  if after = before then none else some after

end Named

/-! ## Lines of a changed text -/

theorem depthChange_append (left right : List Char) :
    depthChange (left ++ right) = depthChange left + depthChange right := by
  simp only [depthChange, List.countP_append]
  omega

theorem depthChange_bareLine (line : List Char) :
    depthChange (bareLine line) = depthChange line := by
  have dropped : ∀ {text : List Char} {ch : Char},
      text.getLast? = some ch → isOpen ch = false → isClose ch = false →
        depthChange text.dropLast = depthChange text := by
    intro text ch last unopened unclosed
    have whole := List.dropLast_append_getLast? ch last
    have counted := depthChange_append text.dropLast [ch]
    rw [whole] at counted
    have nothing : depthChange [ch] = 0 := by
      simp [depthChange, unopened, unclosed]
    omega
  unfold bareLine
  split
  · next broken =>
      have last := dropped (beq_iff_eq.mp broken) rfl rfl
      split
      · next returned => rw [dropped (beq_iff_eq.mp returned) rfl rfl, last]
      · exact last
  · rfl

theorem depthChange_bareLines (text : List Char) :
    depthChange (bareLines text).flatten = depthChange text := by
  have bare : ∀ lines : List (List Char),
      depthChange (lines.map bareLine).flatten = depthChange lines.flatten := by
    intro lines
    induction lines with
    | nil => rfl
    | cons line lines induction =>
        rw [List.map_cons, List.flatten_cons, List.flatten_cons,
          depthChange_append, depthChange_append, induction,
          depthChange_bareLine]
  rw [bareLines, bare, flatten_splitInclusive]

theorem hasFieldFrom_append (field : List Char) (depth : Int)
    (left right : List (List Char)) :
    hasFieldFrom field depth (left ++ right) =
      (hasFieldFrom field depth left ||
        hasFieldFrom field (depth + depthChange left.flatten) right) := by
  induction left generalizing depth with
  | nil => simp [hasFieldFrom, depthChange]
  | cons line left induction =>
      rw [List.cons_append, hasFieldFrom, hasFieldFrom, induction,
        Bool.or_assoc, List.flatten_cons, depthChange_append, Int.add_assoc]

theorem hasFieldFrom_whole (field : List Char) (depth : Int)
    {left : List Char} (whole : Whole left) (right : List Char) :
    hasFieldFrom field depth (bareLines (left ++ right)) =
      (hasFieldFrom field depth (bareLines left) ||
        hasFieldFrom field (depth + depthChange left) (bareLines right)) := by
  rw [bareLines_append whole, hasFieldFrom_append, depthChange_bareLines]

theorem startsField_iff {separates : Char → Bool} {field line : List Char} :
    startsField separates field line = true ↔
      ∃ next rest, line.dropWhile isWhitespace = field ++ next :: rest ∧
        separates next = true := by
  unfold startsField
  constructor
  · intro starts
    split at starts
    · next next rest dropped =>
        exact ⟨next, rest, eq_append_of_dropPrefix? dropped, starts⟩
    · cases starts
  · rintro ⟨next, rest, cut, separated⟩
    rw [cut, dropPrefix?_append_self]
    exact separated

theorem startsField_cut {separates : Char → Bool} {field : List Char}
    (closing : separates '\x7d' = false) (absent : '\x7d' ∉ field)
    (named : field ≠ []) {left right : List Char}
    (starts : startsField separates field (left ++ '\x7d' :: right) = true) :
    startsField separates field left = true := by
  obtain ⟨next, rest, cut, separated⟩ := startsField_iff.mp starts
  have apart : '\x7d' ∉ field ++ [next] := by
    rw [List.mem_append, List.mem_singleton]
    rintro (inside | rfl)
    · exact absent inside
    · rw [closing] at separated
      cases separated
  rw [List.dropWhile_append] at cut
  split at cut
  · obtain ⟨first, others, rfl⟩ := List.exists_cons_of_ne_nil named
    have solid : isWhitespace '\x7d' = false := by decide
    rw [List.dropWhile_cons_of_neg (by simp [solid])] at cut
    obtain rfl := (List.cons.inj cut).1
    exact absurd List.mem_cons_self absent
  · have starts : field ++ [next] <+:
        left.dropWhile isWhitespace ++ '\x7d' :: right :=
      ⟨rest, by rw [cut]; simp⟩
    obtain ⟨more, before⟩ := (prefix_separator_iff apart).mp starts
    refine startsField_iff.mpr ⟨next, more, ?_, separated⟩
    rw [← before]
    simp

theorem depthChange_ended (text : List Char) :
    depthChange (ended text) = depthChange text := by
  unfold ended
  split
  · rfl
  · rw [depthChange_append]
    exact Int.add_zero _

/-- The lines before a closing brace take no field away when they get a brace
of their own. -/
theorem hasFieldFrom_ended {field : List Char} (absent : '\x7d' ∉ field)
    (named : field ≠ []) {left right : List Char}
    (rightEnds : ∀ next ∈ right.head?, next = '\x7d')
    (returned : left.getLast? ≠ some '\r') {depth : Int}
    (found : hasFieldFrom field depth (bareLines (left ++ right)) = true) :
    hasFieldFrom field depth (bareLines (ended left)) = true ∨
      hasFieldFrom field (depth + depthChange left) (bareLines right) =
        true := by
  obtain ⟨whole, partly, rfl, ends, plain⟩ := exists_whole left
  rw [List.append_assoc, hasFieldFrom_whole _ _ ends,
    Bool.or_eq_true] at found
  rcases List.eq_nil_or_concat partly with rfl | ⟨before, last, concat⟩
  · simp only [List.append_nil, List.nil_append] at found ⊢
    refine found.imp_left fun early => ?_
    unfold ended
    split
    · exact early
    · rw [hasFieldFrom_whole _ _ ends, early]
      rfl
  · have nonempty : partly ≠ [] := by
      rw [concat]
      simp
    have finished : ended (whole ++ partly) = whole ++ (partly ++ ['\n']) := by
      have unbroken : (whole ++ partly).getLast? ≠ some '\n' := by
        rw [List.getLast?_append_of_ne_nil _ nonempty]
        exact fun last => plain (List.mem_of_getLast? last)
      rw [ended, if_neg (by simpa using unbroken), List.append_assoc]
    have unreturned : partly.getLast? ≠ some '\r' := by
      rwa [List.getLast?_append_of_ne_nil _ nonempty] at returned
    rw [finished, hasFieldFrom_whole _ _ ends, bareLines_line plain unreturned,
      Bool.or_eq_true]
    rcases found with early | found
    · exact .inl (.inl early)
    · cases right with
      | nil =>
          rw [List.append_nil, bareLines_partly plain nonempty] at found
          exact .inl (.inr found)
      | cons next right =>
          obtain rfl := rightEnds next rfl
          obtain ⟨line, others, lines⟩ : ∃ line others,
              splitInclusive ('\x7d' :: right) =
                ('\x7d' :: line) :: others := by
            rw [splitInclusive, if_neg (by decide)]
            split
            · exact ⟨[], [], rfl⟩
            · exact ⟨_, _, rfl⟩
          have bare : bareLine (partly ++ '\x7d' :: line) =
              partly ++ bareLine ('\x7d' :: line) :=
            bareLine_append partly line (by decide)
          rw [bareLines, splitInclusive_partly plain lines, List.map_cons,
            hasFieldFrom, bare, depthChange_append, Bool.or_eq_true] at found
          rcases found with here | later
          · refine .inl (.inr ?_)
            rw [Bool.and_eq_true] at here
            obtain ⟨flat, starts⟩ := here
            obtain ⟨rest, closes⟩ := 
              @exists_bareLine_cons '\x7d' line (by decide) (by decide)
            rw [closes] at starts
            rw [hasFieldFrom, flat,
              startsField_cut (by decide) absent named starts]
            rfl
          · refine .inr ?_
            rw [bareLines, lines, List.map_cons, hasFieldFrom,
              depthChange_append, Bool.or_eq_true]
            refine .inr ?_
            convert later using 2
            omega

/-- Lines of their own before a closing brace take no field away. -/
theorem hasFieldFrom_insert {field : List Char} (absent : '\x7d' ∉ field)
    (named : field ≠ []) {left right declaration : List Char}
    (rightEnds : ∀ next ∈ right.head?, next = '\x7d')
    (returned : left.getLast? ≠ some '\r') (whole : Whole declaration)
    (even : depthChange declaration = 0) {depth : Int}
    (found : hasFieldFrom field depth (bareLines (left ++ right)) = true) :
    hasFieldFrom field depth
      (bareLines (ended left ++ (declaration ++ right))) = true := by
  rw [hasFieldFrom_whole _ _ (whole_ended left), hasFieldFrom_whole _ _ whole,
    depthChange_ended, even, Int.add_zero, Bool.or_eq_true, Bool.or_eq_true]
  exact (hasFieldFrom_ended absent named rightEnds returned found).imp_right
    Or.inr

/-! ## Blocks of a changed text -/

namespace SourceBlock

def text (self : SourceBlock) : List Char :=
  self.before ++ '\x7b' :: (self.body ++ '\x7d' :: self.after)

def extended (self : SourceBlock) (declaration : List Char) : SourceBlock :=
  { self with body := ended self.body ++ declaration }

end SourceBlock

/-- The braces inside of a body are closed before its block is. -/
def Braced (body : List Char) : Prop :=
  ClosesLast isOpen isClose 1 (body ++ ['\x7d'])

theorem open_apart (ch : Char) (opened : isOpen ch = true) :
    isClose ch = false := by
  rw [isOpen, beq_iff_eq] at opened
  subst opened
  rfl

theorem bracedFrom_eq_some_iff {before rest : List Char}
    {block : SourceBlock} :
    bracedFrom before ('\x7b' :: rest) = some block ↔
      block.before = before ∧ rest = block.body ++ '\x7d' :: block.after ∧
        Braced block.body := by
  have opening : ∀ tail, ClosesLast isOpen isClose 0 ('\x7b' :: tail) ↔
      ClosesLast isOpen isClose 1 tail := by
    intro tail
    rw [ClosesLast]
    exact Iff.rfl
  rw [bracedFrom, Option.map_eq_some_iff]
  constructor
  · rintro ⟨inside, found, rfl⟩
    obtain ⟨last, others, split, closed⟩ := upToClosing_eq_some_iff.mp found
    cases inside with
    | nil =>
        obtain ⟨rfl, -⟩ := List.cons.inj split
        rw [List.nil_append, opening] at closed
        exact closed.elim
    | cons first body =>
        obtain ⟨rfl, rfl⟩ := List.cons.inj split
        rw [List.cons_append, opening] at closed
        have closing : last = '\x7d' := by
          simpa [isClose] using closed.last
        subst closing
        have behind : ('\x7b' :: (body ++ '\x7d' :: others)).drop
            (('\x7b' :: body).length + 1) = others := by
          rw [List.length_cons, List.drop_succ_cons, ← List.singleton_append,
            ← List.append_assoc]
          exact List.drop_left' (by simp)
        exact ⟨rfl, congrArg (fun tail => body ++ '\x7d' :: tail) behind.symm,
          closed⟩
  · rintro ⟨rfl, rfl, braced⟩
    refine ⟨'\x7b' :: block.body, upToClosing_eq_some_iff.mpr
      ⟨'\x7d', block.after, rfl, (opening _).mpr braced⟩, ?_⟩
    have behind : ('\x7b' :: (block.body ++ '\x7d' :: block.after)).drop
        (('\x7b' :: block.body).length + 1) = block.after := by
      rw [List.length_cons, List.drop_succ_cons, ← List.singleton_append,
        ← List.append_assoc]
      exact List.drop_left' (by simp)
    rw [behind]
    rfl

/-- A text is read up to its first opening brace, if there is one. -/
theorem dropWhile_open (text : List Char) :
    (text.dropWhile (!isOpen ·) = [] ∧ ∀ ch ∈ text, isOpen ch = false) ∨
      ∃ tail, text.dropWhile (!isOpen ·) = '\x7b' :: tail ∧
        text = text.takeWhile (!isOpen ·) ++ '\x7b' :: tail := by
  have whole := List.takeWhile_append_dropWhile (p := (!isOpen ·)) (l := text)
  cases dropped : text.dropWhile (!isOpen ·) with
  | nil =>
      refine .inl ⟨rfl, fun ch member => ?_⟩
      have plain := List.dropWhile_eq_nil_iff.mp dropped ch member
      simpa using plain
  | cons first tail =>
      have opened := List.head?_dropWhile_not (!isOpen ·) text
      rw [dropped] at opened whole
      have brace : first = '\x7b' := by
        simpa [isOpen] using opened
      subst brace
      exact .inr ⟨tail, rfl, whole.symm⟩

theorem takeWhile_open (text : List Char) :
    ∀ ch ∈ text.takeWhile (!isOpen ·), isOpen ch = false := by
  intro ch member
  simpa using List.mem_takeWhile_imp member

theorem dropWhile_bare {lead : List Char}
    (bare : ∀ ch ∈ lead, isOpen ch = false) (tail : List Char) :
    (lead ++ '\x7b' :: tail).dropWhile (!isOpen ·) = '\x7b' :: tail ∧
      (lead ++ '\x7b' :: tail).takeWhile (!isOpen ·) = lead := by
  have passes : ∀ ch ∈ lead, (!isOpen ch) = true := by
    intro ch member
    rw [bare ch member]
    rfl
  rw [List.dropWhile_append_of_pos passes, List.takeWhile_append_of_pos passes]
  exact ⟨rfl, List.append_nil lead⟩

/-- The text before the brace of the auth block. -/
def OpensAuth (before : List Char) : Prop :=
  ∃ head lead, before = head ++ (useAuthMark ++ lead) ∧
    (∀ ch ∈ lead, isOpen ch = false) ∧ Unmarked useAuthMark head useAuthMark

theorem authBlockBounds_eq_some_iff {source : List Char}
    {block : SourceBlock} :
    authBlockBounds source = some block ↔
      source = block.text ∧ OpensAuth block.before ∧ Braced block.body := by
  have bare : ∀ ch ∈ useAuthMark, isOpen ch = false := by
    unfold useAuthMark
    simp [isOpen]
  have passes : ∀ ch ∈ useAuthMark, (!isOpen ch) = true := by
    simpa using bare
  unfold authBlockBounds
  constructor
  · intro found
    cases cut : cutAt useAuthMark source with
    | none =>
        rw [cut] at found
        cases found
    | some parts =>
        obtain ⟨head, rest⟩ := parts
        obtain ⟨rfl, unmarked⟩ := cutAt_eq_some cut
        rw [cut] at found
        dsimp only at found
        rw [List.dropWhile_append_of_pos passes,
          List.takeWhile_append_of_pos passes] at found
        rcases dropWhile_open rest with ⟨none, _⟩ | ⟨tail, dropped, whole⟩
        · rw [none] at found
          cases found
        · rw [dropped] at found
          obtain ⟨before, inside, braced⟩ := bracedFrom_eq_some_iff.mp found
          refine ⟨?_, ⟨head, rest.takeWhile (!isOpen ·), before,
            takeWhile_open rest, unmarked_mark_iff.mp unmarked⟩, braced⟩
          rw [SourceBlock.text, before, ← inside]
          conv_lhs => rw [whole]
          simp
  · rintro ⟨rfl, ⟨head, lead, before, plain, unmarked⟩, braced⟩
    have text : block.text = head ++ (useAuthMark ++
        (lead ++ '\x7b' :: (block.body ++ '\x7d' :: block.after))) := by
      rw [SourceBlock.text, before]
      simp
    obtain ⟨dropped, taken⟩ := dropWhile_bare plain
      (block.body ++ '\x7d' :: block.after)
    rw [text, cutAt_unmarked (by decide) (unmarked_mark_iff.mpr unmarked)]
    dsimp only
    rw [List.dropWhile_append_of_pos passes,
      List.takeWhile_append_of_pos passes, dropped, taken]
    exact bracedFrom_eq_some_iff.mpr ⟨before, rfl, braced⟩

/-- What may be inserted into a block. -/
structure IsDeclaration (text : List Char) : Prop where
  passed : Passed isOpen isClose text
  whole : Whole text
  even : depthChange text = 0
  unreturned : '\r' ∉ text

theorem passed_break : Passed isOpen isClose ['\n'] :=
  .of_bracketless (by simp [isOpen, isClose])

/-- A body may get a declaration wherever a brace closes. -/
theorem Braced.insert {left right declaration : List Char}
    (braced : Braced (left ++ right)) (declares : IsDeclaration declaration) :
    Braced (ended left ++ (declaration ++ right)) := by
  have added : Braced (left ++ (declaration ++ right)) := by
    rw [Braced, List.append_assoc] at braced ⊢
    rw [List.append_assoc]
    exact (closesLast_insert declares.passed (Nat.le_refl 1)
      (by simp)).mpr braced
  unfold ended
  split
  · exact added
  · rw [Braced, List.append_assoc] at added
    rw [Braced, List.append_assoc, List.append_assoc]
    exact (closesLast_insert passed_break (Nat.le_refl 1)
      (by simp)).mpr added

theorem Braced.extended {body declaration : List Char}
    (braced : Braced body) (declares : IsDeclaration declaration) :
    Braced (ended body ++ declaration) := by
  rw [← List.append_nil body] at braced
  simpa using braced.insert declares

theorem insertInto_eq (block : SourceBlock) (declaration : List Char) :
    insertInto block declaration = (block.extended declaration).text := by
  rw [insertInto, ended_cons _ (by decide), SourceBlock.text,
    SourceBlock.extended]
  simp

theorem authBlockBounds_extended {source declaration : List Char}
    {block : SourceBlock} (found : authBlockBounds source = some block)
    (declares : IsDeclaration declaration) :
    authBlockBounds (insertInto block declaration) =
      some (block.extended declaration) := by
  obtain ⟨_, opens, braced⟩ := authBlockBounds_eq_some_iff.mp found
  rw [insertInto_eq]
  exact authBlockBounds_eq_some_iff.mpr ⟨rfl, opens, braced.extended declares⟩

/-! ## Occurrences of a name -/

theorem of_mem_matchesFrom {name passed text : List Char} {skipped : Nat}
    {found : List Char × List Char}
    (member : found ∈ matchesFrom name passed skipped text) :
    passed <+: found.1 ∧ found.1 ++ (name ++ found.2) = passed ++ text := by
  have step : ∀ {passed : List Char} {ch : Char} {rest : List Char},
      passed ++ [ch] <+: found.1 ∧
        found.1 ++ (name ++ found.2) = passed ++ [ch] ++ rest →
      passed <+: found.1 ∧
        found.1 ++ (name ++ found.2) = passed ++ ch :: rest := by
    rintro passed ch rest ⟨starts, whole⟩
    exact ⟨(List.prefix_append passed [ch]).trans starts, by simp [whole]⟩
  induction text generalizing passed skipped with
  | nil => cases skipped <;> cases member
  | cons ch rest induction =>
      cases skipped with
      | succ skipped => exact step (induction member)
      | zero =>
          rw [matchesFrom] at member
          cases dropped : (ch :: rest).dropPrefix? name with
          | none =>
              rw [dropped] at member
              exact step (induction member)
          | some behind =>
              rw [dropped] at member
              rcases List.mem_cons.mp member with rfl | later
              · refine ⟨List.prefix_refl passed, ?_⟩
                rw [← eq_append_of_dropPrefix? dropped]
              · exact step (induction later)

/-- A name without a brace occurs on one side of it. -/
theorem matchesFrom_append {name left : List Char} (absent : '\x7b' ∉ name)
    {passed : List Char} {skipped : Nat} (within : skipped ≤ left.length)
    (tail : List Char) :
    matchesFrom name passed skipped (left ++ '\x7b' :: tail) =
      (matchesFrom name passed skipped left).map
          (fun found => (found.1, found.2 ++ '\x7b' :: tail)) ++
        matchesFrom name (passed ++ left) 0 ('\x7b' :: tail) := by
  induction left generalizing passed skipped with
  | nil =>
      obtain rfl := Nat.le_zero.mp within
      simp [matchesFrom]
  | cons ch left induction =>
      have moved : passed ++ ch :: left = passed ++ [ch] ++ left := by simp
      rw [moved, List.cons_append]
      cases skipped with
      | succ skipped =>
          rw [matchesFrom, matchesFrom]
          exact induction (Nat.le_of_succ_le_succ within)
      | zero =>
          rw [matchesFrom, matchesFrom]
          cases dropped : (ch :: left).dropPrefix? name with
          | none =>
              have unmatched :
                  (ch :: (left ++ '\x7b' :: tail)).dropPrefix? name = none := by
                cases found :
                    (ch :: (left ++ '\x7b' :: tail)).dropPrefix? name with
                | none => rfl
                | some behind =>
                    have starts : name <+: ch :: left ++ '\x7b' :: tail :=
                      ⟨behind, (eq_append_of_dropPrefix? found).symm⟩
                    obtain ⟨more, whole⟩ :=
                      (prefix_separator_iff absent).mp starts
                    rw [← whole, dropPrefix?_append_self] at dropped
                    cases dropped
              rw [unmatched]
              exact induction (Nat.zero_le _)
          | some behind =>
              have whole := eq_append_of_dropPrefix? dropped
              have matched : (ch :: (left ++ '\x7b' :: tail)).dropPrefix? name =
                  some (behind ++ '\x7b' :: tail) := by
                rw [← List.cons_append, whole, List.append_assoc,
                  dropPrefix?_append_self]
              have short : name.length - 1 ≤ left.length := by
                have lengths := congrArg List.length whole
                rw [List.length_append, List.length_cons] at lengths
                omega
              rw [matched]
              dsimp only
              rw [induction short]
              rfl

section Named

variable {isAlphanumeric : Char → Bool}

/-- In a body whose braces are closed, an occurrence on the outermost level
leads to a block. -/
theorem exists_bracedFrom {lead tail before : List Char}
    (braced : Braced (lead ++ '\x7b' :: tail)) (flat : depthChange lead = 0) :
    ∃ block, bracedFrom before ('\x7b' :: tail) = some block := by
  have even : lead.countP isOpen = lead.countP isClose := by
    rw [depthChange] at flat
    omega
  rw [Braced, List.append_assoc] at braced
  have rest := braced.drop open_apart (Nat.le_refl 1) (by simp) even
  rw [List.cons_append, ClosesLast] at rest
  obtain ⟨inside, found⟩ := exists_upToClosing (Nat.le_refl 1) rest
  refine ⟨_, Option.map_eq_some_iff.mpr ⟨'\x7b' :: inside, ?_, rfl⟩⟩
  have opens : isOpen '\x7b' = true := rfl
  rw [upToClosing, if_pos opens, found]
  rfl

/-- Where a block with a name is found, and how it lies in the auth block. -/
structure NamedIn (auth found : SourceBlock) (lead inner : List Char) :
    Prop where
  before : found.before = auth.before ++ '\x7b' :: lead
  after : found.after = inner ++ '\x7d' :: auth.after
  body : auth.body = lead ++ '\x7b' :: (found.body ++ '\x7d' :: inner)
  flat : depthChange lead = 0
  braced : Braced found.body

theorem exists_namedIn {auth found : SourceBlock} {name : List Char}
    {items : List (List Char × List Char)}
    (split : ∀ item ∈ items, item.1 ++ (name ++ item.2) = auth.body)
    (result : namedFrom isAlphanumeric auth name items = some found) :
    ∃ lead inner, NamedIn auth found lead inner ∧
      ∃ item ∈ items, item.1 ++ name <+: lead := by
  induction items with
  | nil => cases result
  | cons item items induction =>
      obtain ⟨passed, behind⟩ := item
      obtain ⟨here, others⟩ := List.forall_mem_cons.mp split
      have later : namedFrom isAlphanumeric auth name items = some found →
          ∃ lead inner, NamedIn auth found lead inner ∧
            ∃ item ∈ (passed, behind) :: items, item.1 ++ name <+: lead := by
        intro result
        obtain ⟨lead, inner, lies, item, listed, starts⟩ :=
          induction others result
        exact ⟨lead, inner, lies, item, List.mem_cons_of_mem _ listed, starts⟩
      rw [namedFrom] at result
      split at result
      · rcases dropWhile_open behind with ⟨none, _⟩ | ⟨tail, dropped, whole⟩
        · rw [none] at result
          cases result
        · rw [dropped] at result
          dsimp only at result
          split at result
          · next flat =>
              split at result
              · next block braced =>
                  cases result
                  obtain ⟨before, rfl, closed⟩ :=
                    bracedFrom_eq_some_iff.mp braced
                  refine ⟨_, block.after, ⟨before, rfl, ?_,
                    beq_iff_eq.mp flat, closed⟩,
                    (passed, behind), List.mem_cons_self,
                    List.prefix_append _ _⟩
                  rw [← here]
                  conv_lhs => rw [whole]
                  simp
              · exact later result
          · exact later result
      · exact later result

/-- Where a name occurs, the depth before the next brace is no difference that
an unsigned number cannot hold, and on the outermost level a block is found. -/
theorem namedFrom_counts {source name passed behind : List Char}
    {auth : SourceBlock} (bounds : authBlockBounds source = some auth)
    (occurs : (passed, behind) ∈ matchesFrom name [] 0 auth.body) :
    let lead := passed ++ name ++ behind.takeWhile (!isOpen ·)
    lead.countP isClose ≤ lead.countP isOpen ∧
      ∀ opening ≠ [], behind.dropWhile (!isOpen ·) = opening →
        depthChange lead = 0 →
          ∃ block, bracedFrom (auth.before ++ '\x7b' :: lead) opening =
            some block := by
  obtain ⟨_, _, braced⟩ := authBlockBounds_eq_some_iff.mp bounds
  have body : auth.body = passed ++ name ++
      behind.takeWhile (!isOpen ·) ++ behind.dropWhile (!isOpen ·) := by
    rw [List.append_assoc _ (behind.takeWhile _),
      List.takeWhile_append_dropWhile, List.append_assoc]
    exact (of_mem_matchesFrom occurs).2.symm
  refine ⟨?_, ?_⟩
  · rw [Braced, body, List.append_assoc] at braced
    have fewer := braced.countP_lt open_apart (Nat.le_refl 1) (by simp)
    omega
  · intro opening nonempty dropped flat
    rcases dropWhile_open behind with ⟨none, _⟩ | ⟨tail, found, _⟩
    · exact absurd (dropped.symm.trans none) nonempty
    · obtain rfl := dropped.symm.trans found
      rw [body, found] at braced
      exact exists_bracedFrom braced flat

theorem namedFrom_counts_ui :
    ∃ block, bracedFrom ("use auth \x7b".toList ++ "ui ".toList)
      "\x7b\x7d".toList = some block :=
  (@namedFrom_counts "use auth \x7bui \x7b\x7d\x7d".toList "ui".toList []
    " \x7b\x7d".toList ⟨"use auth ".toList, "ui \x7b\x7d".toList, []⟩
    (by decide) (by decide)).2 _ (by decide) (by decide) (by decide)

theorem namedFrom_kept {auth found : SourceBlock} {name lead inner : List Char}
    (absent : '\x7b' ∉ name) (named : name ≠ [])
    (braced : Braced auth.body) (lies : NamedIn auth found lead inner)
    (result : namedFrom isAlphanumeric auth name
      (matchesFrom name [] 0 auth.body) = some found)
    {body : List Char} (closed : Braced body) :
    namedFrom isAlphanumeric
        { auth with body := lead ++ '\x7b' :: (body ++ '\x7d' :: inner) } name
        (matchesFrom name [] 0
          (lead ++ '\x7b' :: (body ++ '\x7d' :: inner))) =
      some { found with body } := by
  have sameLead : ∀ {other otherInner : List Char},
      NamedIn auth found other otherInner → other = lead := by
    intro other otherInner otherLies
    have same := otherLies.before.symm.trans lies.before
    exact (List.cons.inj (List.append_cancel_left same)).2
  rw [lies.body, matchesFrom_append absent (Nat.zero_le _)] at result
  rw [matchesFrom_append absent (Nat.zero_le _)]
  have split : ∀ item ∈ matchesFrom name [] 0 lead,
      item.1 ++ (name ++ item.2) = lead :=
    fun item member => (of_mem_matchesFrom member).2
  generalize matchesFrom name [] 0 lead = items at result split ⊢
  induction items with
  | nil =>
      exfalso
      have whole : ∀ item ∈ matchesFrom name ([] ++ lead) 0
          ('\x7b' :: (found.body ++ '\x7d' :: inner)),
          item.1 ++ (name ++ item.2) = auth.body := by
        intro item member
        rw [(of_mem_matchesFrom member).2, lies.body]
        rfl
      obtain ⟨other, otherInner, otherLies, item, member, starts⟩ :=
        exists_namedIn whole result
      obtain rfl := sameLead otherLies
      have behind := (of_mem_matchesFrom member).1.length_le
      have before := starts.length_le
      have positive := List.length_pos_of_ne_nil named
      rw [List.length_append] at before
      rw [List.nil_append] at behind
      omega
  | cons item items induction =>
      obtain ⟨passed, behind⟩ := item
      obtain ⟨here, others⟩ := List.forall_mem_cons.mp split
      rw [List.map_cons, List.cons_append, namedFrom] at result ⊢
      dsimp only at result here ⊢
      split at result
      · next bounded =>
          rw [if_pos bounded]
          rcases dropWhile_open behind with ⟨_, bare⟩ | ⟨tail, _, whole⟩
          · obtain ⟨dropped, taken⟩ := dropWhile_bare bare
              (body ++ '\x7d' :: inner)
            have found' : bracedFrom (auth.before ++ '\x7b' :: lead)
                ('\x7b' :: (body ++ '\x7d' :: inner)) =
              some
                { before := auth.before ++ '\x7b' :: lead
                  body
                  after := inner } :=
              bracedFrom_eq_some_iff.mpr ⟨rfl, rfl, closed⟩
            have flat : (depthChange lead == 0) = true :=
              beq_iff_eq.mpr lies.flat
            rw [dropped, taken, List.append_assoc, here]
            dsimp only
            rw [if_pos flat, found']
            dsimp only
            rw [← lies.before, ← lies.after]
          · have bare := takeWhile_open behind
            have longer : ∀ rest : List Char, behind ++ rest =
                behind.takeWhile (!isOpen ·) ++ '\x7b' :: (tail ++ rest) := by
              intro rest
              conv_lhs => rw [whole]
              simp
            obtain ⟨droppedOld, takenOld⟩ := dropWhile_bare bare
              (tail ++ '\x7b' :: (found.body ++ '\x7d' :: inner))
            obtain ⟨dropped, taken⟩ := dropWhile_bare bare
              (tail ++ '\x7b' :: (body ++ '\x7d' :: inner))
            rw [longer, droppedOld, takenOld] at result
            rw [longer, dropped, taken]
            dsimp only at result ⊢
            split at result
            · next flat =>
                exfalso
                have cut : lead = passed ++ name ++
                    behind.takeWhile (!isOpen ·) ++ '\x7b' :: tail := by
                  rw [← here]
                  conv_lhs => rw [whole]
                  simp
                have inBody : Braced (passed ++ name ++
                    behind.takeWhile (!isOpen ·) ++ '\x7b' ::
                      (tail ++ '\x7b' ::
                        (found.body ++ '\x7d' :: inner))) := by
                  rw [lies.body, cut] at braced
                  simpa using braced
                obtain ⟨block, bracedBlock⟩ := @exists_bracedFrom _ _
                  (auth.before ++ '\x7b' :: (passed ++ name ++
                    behind.takeWhile (!isOpen ·)))
                  inBody (beq_iff_eq.mp flat)
                rw [bracedBlock] at result
                dsimp only at result
                have before := (bracedFrom_eq_some_iff.mp bracedBlock).1
                have same : block.before = found.before := by
                  rw [← Option.some.inj result]
                rw [before, lies.before, cut] at same
                have lengths := congrArg List.length same
                simp only [List.length_append, List.length_cons] at lengths
                omega
            · next deep =>
                rw [if_neg deep]
                exact induction result others
      · next unbounded =>
          rw [if_neg unbounded]
          exact induction result others

theorem namedBlockBounds_extended {source name declaration : List Char}
    {found : SourceBlock} (absent : '\x7b' ∉ name) (named : name ≠ [])
    (result : namedBlockBounds isAlphanumeric source name = some found)
    (declares : IsDeclaration declaration) :
    ∃ auth lead inner, authBlockBounds source = some auth ∧
      NamedIn auth found lead inner ∧
      authBlockBounds (insertInto found declaration) =
        some { auth with
          body := ended (lead ++ '\x7b' :: found.body) ++
            (declaration ++ '\x7d' :: inner) } ∧
      namedBlockBounds isAlphanumeric (insertInto found declaration) name =
        some (found.extended declaration) := by
  obtain ⟨auth, bounds, selected⟩ := Option.bind_eq_some_iff.mp result
  obtain ⟨whole, opens, braced⟩ := authBlockBounds_eq_some_iff.mp bounds
  have split : ∀ item ∈ matchesFrom name [] 0 auth.body,
      item.1 ++ (name ++ item.2) = auth.body :=
    fun item member => (of_mem_matchesFrom member).2
  obtain ⟨lead, inner, lies, _⟩ := exists_namedIn split selected
  have pads : ended (lead ++ '\x7b' :: found.body) =
      lead ++ '\x7b' :: ended found.body :=
    ended_cons lead (by decide) found.body
  have inside : Braced (lead ++ '\x7b' :: (ended found.body ++ declaration ++
      '\x7d' :: inner)) := by
    have added := @Braced.insert (lead ++ '\x7b' :: found.body)
      ('\x7d' :: inner) declaration (by simpa [lies.body] using braced) declares
    rw [pads] at added
    simpa using added
  have changed : authBlockBounds (insertInto found declaration) =
      some { auth with
        body := lead ++ '\x7b' :: (ended found.body ++ declaration ++
          '\x7d' :: inner) } := by
    refine authBlockBounds_eq_some_iff.mpr ⟨?_, opens, inside⟩
    rw [insertInto_eq, SourceBlock.text, SourceBlock.extended,
      SourceBlock.text]
    dsimp only
    rw [lies.before, lies.after]
    simp
  refine ⟨auth, lead, inner, bounds, lies, ?_, ?_⟩
  · rw [changed, pads]
    simp
  · rw [namedBlockBounds, changed]
    exact namedFrom_kept absent named braced lies selected
      (lies.braced.extended declares)

end Named

end AuthBoundry
