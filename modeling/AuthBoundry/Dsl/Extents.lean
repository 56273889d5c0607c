import AuthBoundry.Dsl.Parser
import AuthBoundry.Library.Brackets

/-!
# The extent of a block

The text of a block is cut out by counting all braces, and then read by a
parser for which quoted strings and comments are opaque.  Both agree on where
the block ends as long as the braces in strings and comments do not change the
count.
-/

namespace AuthBoundry

open Library
open Library.Stateful

/-! ## Marked characters -/

/-- Where a character stands. -/
inductive Place where
  | code
  | quoted
  | comment
  deriving DecidableEq, Repr

/-- The characters of a text, and which of them are code: neither within a
quoted string nor within a comment. -/
def marked : Place → List Char → List (Char × Bool)
  | _, [] => []
  | .code, '/' :: '/' :: rest =>
      ('/', true) :: ('/', true) :: marked .comment rest
  | .code, ch :: rest =>
      (ch, true) :: marked
        (if ch == '"' then .quoted else if ch == '#' then .comment else .code)
        rest
  | .quoted, ch :: rest =>
      (ch, false) :: marked (if ch == '"' then .code else .quoted) rest
  | .comment, ch :: rest =>
      (ch, false) :: marked (if ch == '\n' then .code else .comment) rest

def opensAny (item : Char × Bool) : Bool := item.1 == '\x7b'

def closesAny (item : Char × Bool) : Bool := item.1 == '\x7d'

def opensCode (item : Char × Bool) : Bool := item.2 && item.1 == '\x7b'

def closesCode (item : Char × Bool) : Bool := item.2 && item.1 == '\x7d'

/-- The braces are closed by the last character of a beginning of the text,
counted all, exactly if they are so without those in quoted strings and
comments. -/
def CountsAlike (text : List Char) : Prop :=
  ∀ block rest, marked .code text = block ++ rest →
    (ClosesLast opensAny closesAny 0 block ↔
      ClosesLast opensCode closesCode 0 block)

theorem marked_opening (inner : List Char) :
    marked .code ('\x7b' :: inner) = ('\x7b', true) :: marked .code inner := by
  rw [marked]
  · rfl
  · intro rest same
    cases same

/-- A text that leads from a place back to code, with as many braces opened as
closed. -/
structure Leads (place : Place) (text : List Char) : Prop where
  back : ∀ rest, marked place (text ++ rest) =
    marked place text ++ marked .code rest
  passed : Passed opensCode closesCode (marked place text)

theorem Leads.nil : Leads .code [] :=
  ⟨fun _ => rfl, .nil⟩

theorem Leads.append {place : Place} {left right : List Char}
    (first : Leads place left) (second : Leads .code right) :
    Leads place (left ++ right) := by
  constructor
  · intro rest
    rw [List.append_assoc, first.back, second.back, first.back,
      List.append_assoc]
  · rw [first.back]
    exact first.passed.append second.passed

theorem marked_plain {ch : Char} (quote : ch ≠ '"') (hash : ch ≠ '#')
    (slash : ch ≠ '/') (rest : List Char) :
    marked .code (ch :: rest) = (ch, true) :: marked .code rest := by
  rw [marked]
  · simp [quote, hash]
  · intro others same
    exact (slash same).elim

theorem Leads.plain {ch : Char} (quote : ch ≠ '"') (hash : ch ≠ '#')
    (slash : ch ≠ '/') (opening : ch ≠ '\x7b') (closing : ch ≠ '\x7d')
    {text : List Char} (leads : Leads .code text) :
    Leads .code (ch :: text) := by
  constructor
  · intro rest
    rw [List.cons_append, marked_plain quote hash slash,
      marked_plain quote hash slash, leads.back]
    rfl
  · rw [marked_plain quote hash slash]
    apply Passed.cons
    · simp [opensCode, opening]
    · simp [closesCode, closing]
    · exact leads.passed

theorem Leads.quote {text : List Char} (leads : Leads .quoted text) :
    Leads .code ('"' :: text) := by
  have step : ∀ rest, marked .code ('"' :: rest) =
      ('"', true) :: marked .quoted rest := by
    intro rest
    rw [marked]
    · rfl
    · intro others same
      cases same
  constructor
  · intro rest
    rw [List.cons_append, step, step, leads.back]
    rfl
  · rw [step]
    exact .cons rfl rfl leads.passed

theorem Leads.hash {text : List Char} (leads : Leads .comment text) :
    Leads .code ('#' :: text) := by
  have step : ∀ rest, marked .code ('#' :: rest) =
      ('#', true) :: marked .comment rest := by
    intro rest
    rw [marked]
    · rfl
    · intro others same
      cases same
  constructor
  · intro rest
    rw [List.cons_append, step, step, leads.back]
    rfl
  · rw [step]
    exact .cons rfl rfl leads.passed

theorem Leads.slashes {text : List Char} (leads : Leads .comment text) :
    Leads .code ('/' :: '/' :: text) := by
  constructor
  · intro rest
    rw [List.cons_append, List.cons_append, marked, marked, leads.back]
    rfl
  · rw [marked]
    exact .cons rfl rfl (.cons rfl rfl leads.passed)

theorem Leads.comment {ch : Char} (line : ch ≠ '\n') {text : List Char}
    (leads : Leads .comment text) : Leads .comment (ch :: text) := by
  have step : ∀ rest, marked .comment (ch :: rest) =
      (ch, false) :: marked .comment rest := by
    intro rest
    simp [marked, line]
  constructor
  · intro rest
    rw [List.cons_append, step, step, leads.back]
    rfl
  · rw [step]
    exact .cons rfl rfl leads.passed

theorem Leads.newline {text : List Char} (leads : Leads .code text) :
    Leads .comment ('\n' :: text) := by
  constructor
  · intro rest
    rw [List.cons_append, marked, marked]
    exact congrArg _ (leads.back rest)
  · rw [marked]
    exact .cons rfl rfl leads.passed

theorem Leads.quoted {text : List Char} (quoteless : '"' ∉ text) :
    Leads .quoted (text ++ ['"']) := by
  induction text with
  | nil =>
      constructor
      · intro rest
        simp [marked]
      · exact .cons rfl rfl .nil
  | cons ch text induction =>
      rw [List.mem_cons, not_or] at quoteless
      obtain ⟨other, later⟩ := quoteless
      have step : ∀ rest, marked .quoted (ch :: rest) =
          (ch, false) :: marked .quoted rest := by
        intro rest
        simp [marked, Ne.symm other]
      constructor
      · intro rest
        rw [List.cons_append, List.cons_append, step, step,
          (induction later).back]
        rfl
      · rw [List.cons_append, step]
        exact .cons rfl rfl (induction later).passed

theorem skipTrivia_leads (text : List Char) :
    (∃ skipped, text = skipped ++ skipTrivia text ∧
      (skipTrivia text ≠ [] → Leads .code skipped)) ∧
    (∃ skipped, text = skipped ++ skipLine text ∧
      (skipLine text ≠ [] → Leads .comment skipped)) := by
  induction long : text.length using Nat.strong_induction_on
    generalizing text with
  | _ length induction =>
    subst long
    cases text with
    | nil =>
        rw [skipTrivia, skipLine]
        exact ⟨⟨[], rfl, fun _ => .nil⟩, ⟨[], rfl, fun more => (more rfl).elim⟩⟩
    | cons ch rest =>
        obtain ⟨⟨trivia, apart, leads⟩, ⟨line, ends, comments⟩⟩ :=
          induction rest.length (Nat.lt_succ_self _) rest rfl
        constructor
        · rw [skipTrivia]
          by_cases blank : (isWhitespace ch || ch == ',') = true
          · rw [if_pos blank]
            refine ⟨ch :: trivia, congrArg _ apart, ?_⟩
            intro more
            apply Leads.plain _ _ _ _ _ (leads more)
            all_goals
              intro same
              rw [same] at blank
              exact absurd blank (by decide)
          · rw [if_neg blank]
            by_cases hash : (ch == '#') = true
            · rw [if_pos hash]
              obtain rfl := beq_iff_eq.mp hash
              exact ⟨'#' :: line, congrArg _ ends,
                fun more => .hash (comments more)⟩
            · rw [if_neg hash]
              by_cases slashes : (ch == '/' && rest.head? == some '/') = true
              · rw [if_pos slashes]
                rw [Bool.and_eq_true, beq_iff_eq, beq_iff_eq] at slashes
                obtain ⟨rfl, second⟩ := slashes
                obtain ⟨others, rfl⟩ := List.head?_eq_some_iff.mp second
                obtain ⟨-, line, ends, comments⟩ := induction others.length
                  (by simp only [List.length_cons]; omega) others rfl
                have second : skipLine ('/' :: others) = skipLine others := rfl
                rw [second]
                exact ⟨'/' :: '/' :: line, congrArg ('/' :: '/' :: ·) ends,
                  fun more => .slashes (comments more)⟩
              · rw [if_neg slashes]
                exact ⟨[], rfl, fun _ => .nil⟩
        · rw [skipLine]
          by_cases newline : (ch == '\n') = true
          · rw [if_pos newline]
            obtain rfl := beq_iff_eq.mp newline
            exact ⟨'\n' :: trivia, congrArg _ apart,
              fun more => .newline (leads more)⟩
          · rw [if_neg newline]
            refine ⟨ch :: line, congrArg _ ends, ?_⟩
            intro more
            exact .comment (fun same => newline (beq_iff_eq.mpr same))
              (comments more)

def ReadsCode {α : Type}
    (reader : List Char → Except AuthDslError (α × List Char)) : Prop :=
  ∀ text value rest, reader text = .ok (value, rest) →
    ∃ read, text = read ++ rest ∧ Leads .code read

theorem isIdentChar_plain {ch : Char} (letter : isIdentChar ch = true) :
    ch ≠ '"' ∧ ch ≠ '#' ∧ ch ≠ '/' ∧ ch ≠ '\x7b' ∧ ch ≠ '\x7d' := by
  refine ⟨?_, ?_, ?_, ?_, ?_⟩
  all_goals
    intro same
    rw [same] at letter
    exact absurd letter (by decide)

theorem leads_ident {text : List Char}
    (letters : ∀ ch ∈ text, isIdentChar ch = true) : Leads .code text := by
  induction text with
  | nil => exact .nil
  | cons ch text induction =>
      obtain ⟨letter, later⟩ := List.forall_mem_cons.mp letters
      obtain ⟨quote, hash, slash, opening, closing⟩ := isIdentChar_plain letter
      exact .plain quote hash slash opening closing (induction later)

theorem parseIdent_reads : ReadsCode parseIdent := by
  intro text value rest read
  unfold parseIdent at read
  have split := List.takeWhile_append_dropWhile (p := isIdentChar) (l := text)
  cases name : text.takeWhile isIdentChar with
  | nil =>
      rw [name] at read
      cases read
  | cons ch letters =>
      rw [name] at read split
      cases read
      refine ⟨_, split.symm, leads_ident ?_⟩
      rw [← name]
      exact fun _ member => List.mem_takeWhile_imp member

theorem parseQuoted_reads {text rest : List Char} {value : String}
    (read : parseQuoted text = .ok (value, rest)) :
    text = value.toList ++ '"' :: rest ∧ '"' ∉ value.toList := by
  unfold parseQuoted at read
  have split :=
    List.takeWhile_append_dropWhile (p := (· != '"')) (l := text)
  cases ending : text.dropWhile (· != '"') with
  | nil =>
      rw [ending] at read
      cases read
  | cons ch others =>
      have stops := List.head?_dropWhile_not (· != '"') text
      rw [ending] at read split stops
      cases read
      have quote : ch = '"' := by simpa using stops
      rw [String.toList_ofList]
      rw [quote] at split
      refine ⟨split.symm, ?_⟩
      intro member
      have other := List.mem_takeWhile_imp member
      exact absurd other (by decide)

theorem parseItem_reads {ch : Char} {text rest : List Char} {item : String}
    (read : parseItem ch text = .ok (item, rest)) :
    ∃ read, ch :: text = read ++ rest ∧ Leads .code read := by
  unfold parseItem at read
  by_cases quote : (ch == '"') = true
  · rw [if_pos quote] at read
    obtain rfl := beq_iff_eq.mp quote
    obtain ⟨whole, quoteless⟩ := parseQuoted_reads read
    refine ⟨'"' :: (item.toList ++ ['"']), ?_, .quote (.quoted quoteless)⟩
    rw [whole]
    simp
  · rw [if_neg quote] at read
    by_cases letter : isIdentChar ch = true
    · rw [if_pos letter] at read
      exact parseIdent_reads _ _ _ read
    · rw [if_neg letter] at read
      cases read

theorem parseItems_reads (fuel : Nat) : ReadsCode (parseItems fuel) := by
  induction fuel with
  | zero =>
      intro text value rest read
      cases read
  | succ fuel induction =>
      intro text value rest read
      rw [parseItems] at read
      obtain ⟨⟨trivia, apart, leads⟩, -⟩ := skipTrivia_leads text
      cases first : skipTrivia text with
      | nil =>
          rw [first] at read
          cases read
      | cons ch others =>
          rw [first] at read apart leads
          have skipped := leads (List.cons_ne_nil _ _)
          dsimp only at read
          by_cases closing : (ch == ']') = true
          · rw [if_pos closing] at read
            cases read
            obtain rfl := beq_iff_eq.mp closing
            refine ⟨trivia ++ [']'], by rw [apart, List.append_assoc]; rfl, ?_⟩
            exact skipped.append (.plain (by decide) (by decide) (by decide)
              (by decide) (by decide) .nil)
          · rw [if_neg closing, except_bind_eq_ok_iff] at read
            obtain ⟨⟨item, behind⟩, one, read⟩ := read
            rw [except_bind_eq_ok_iff] at read
            obtain ⟨⟨items, left⟩, several, done⟩ := read
            cases done
            obtain ⟨later, same, closes⟩ := induction _ _ _ several
            obtain ⟨middle, whole, inner⟩ := parseItem_reads one
            dsimp only at same ⊢
            refine ⟨trivia ++ (middle ++ later), ?_,
              skipped.append (inner.append closes)⟩
            rw [apart, whole, same]
            simp

theorem parseAssigned_reads
    {parseValue : List Char → Except AuthDslError (Value × List Char)}
    (reads : ReadsCode parseValue) (key : String) :
    ReadsCode (parseAssigned parseValue key) := by
  intro text value rest read
  unfold parseAssigned at read
  obtain ⟨⟨trivia, apart, leads⟩, -⟩ := skipTrivia_leads text
  cases first : skipTrivia text with
  | nil =>
      rw [first] at read
      cases read
  | cons ch others =>
      rw [first] at read apart leads
      have skipped := leads (List.cons_ne_nil _ _)
      dsimp only at read
      by_cases assigned : (ch == ':' || ch == '=') = true
      · rw [if_pos assigned] at read
        obtain ⟨later, same, closes⟩ := reads _ _ _ read
        have sign : Leads .code (ch :: later) := by
          apply Leads.plain _ _ _ _ _ closes
          all_goals
            intro other
            rw [other] at assigned
            exact absurd assigned (by decide)
        refine ⟨trivia ++ ch :: later, ?_, skipped.append sign⟩
        rw [apart, same]
        simp
      · rw [if_neg assigned] at read
        by_cases opening : (ch == '\x7b') = true
        · rw [if_pos opening] at read
          obtain ⟨later, same, closes⟩ := reads _ _ _ read
          refine ⟨trivia ++ later, ?_, skipped.append closes⟩
          rw [apart, same]
          simp
        · rw [if_neg opening] at read
          cases read

/-- What stands between braces leads back to code with them. -/
theorem Leads.braces {text : List Char} (leads : Leads .code text) :
    Leads .code ('\x7b' :: (text ++ ['\x7d'])) := by
  have closing : ∀ rest, marked .code ('\x7d' :: rest) =
      ('\x7d', true) :: marked .code rest :=
    marked_plain (by decide) (by decide) (by decide)
  constructor
  · intro rest
    have opening := marked_opening (text ++ '\x7d' :: rest)
    rw [List.cons_append, List.append_assoc, List.singleton_append, opening,
      marked_opening, leads.back, leads.back, closing, closing]
    simp [marked]
  · rw [marked_opening, leads.back, closing]
    exact leads.passed.enclosed rfl rfl rfl

/-- A reader of a nested block, up to its closing brace. -/
def ReadsBlock
    (reader : List Char → Except AuthDslError (Entries × List Char)) : Prop :=
  ∀ text entries rest, reader text = .ok (entries, rest) →
    ∃ body, text = body ++ '\x7d' :: rest ∧ Leads .code body

theorem parseValue_reads {fuel : Nat}
    (block : ReadsBlock (parseEntries fuel true)) :
    ReadsCode (parseValue (fuel + 1)) := by
  intro text value rest read
  rw [parseValue] at read
  obtain ⟨⟨trivia, apart, leads⟩, -⟩ := skipTrivia_leads text
  cases first : skipTrivia text with
  | nil =>
      rw [first] at read
      cases read
  | cons ch others =>
      rw [first] at read apart leads
      have skipped := leads (List.cons_ne_nil _ _)
      have inner : ∃ read, ch :: others = read ++ rest ∧
          Leads .code read := by
        dsimp only at read
        by_cases opening : (ch == '\x7b') = true
        · rw [if_pos opening, except_bind_eq_ok_iff] at read
          obtain ⟨⟨entries, behind⟩, body, done⟩ := read
          cases done
          obtain rfl := beq_iff_eq.mp opening
          obtain ⟨between, same, bodyLeads⟩ := block _ _ _ body
          refine ⟨'\x7b' :: (between ++ ['\x7d']), ?_, bodyLeads.braces⟩
          rw [same]
          simp
        rw [if_neg opening] at read
        by_cases list : (ch == '[') = true
        · rw [if_pos list, except_bind_eq_ok_iff] at read
          obtain ⟨⟨items, behind⟩, several, done⟩ := read
          cases done
          obtain rfl := beq_iff_eq.mp list
          obtain ⟨between, same, itemsLead⟩ :=
            parseItems_reads _ _ _ _ several
          refine ⟨'[' :: between, ?_, .plain (by decide) (by decide)
            (by decide) (by decide) (by decide) itemsLead⟩
          rw [same]
          simp
        rw [if_neg list] at read
        by_cases quote : (ch == '"') = true
        · rw [if_pos quote, except_bind_eq_ok_iff] at read
          obtain ⟨⟨scalar, behind⟩, string, done⟩ := read
          cases done
          have item : parseItem ch others = .ok (scalar, behind) := by
            rw [parseItem, if_pos quote, string]
          exact parseItem_reads item
        rw [if_neg quote] at read
        by_cases letter : isIdentChar ch = true
        · rw [if_pos letter, except_bind_eq_ok_iff] at read
          obtain ⟨⟨ident, behind⟩, named, read⟩ := read
          obtain ⟨name, same, nameLeads⟩ := parseIdent_reads _ _ _ named
          dsimp only at read
          by_cases enumerated :
              (ident == "enum" && behind.head? == some '[') = true
          · rw [if_pos enumerated, except_bind_eq_ok_iff] at read
            obtain ⟨⟨items, left⟩, several, done⟩ := read
            cases done
            rw [Bool.and_eq_true, beq_iff_eq, beq_iff_eq] at enumerated
            obtain ⟨inside, rfl⟩ :=
              List.head?_eq_some_iff.mp enumerated.2
            obtain ⟨between, same', itemsLead⟩ :=
              parseItems_reads _ _ _ _ several
            rw [List.drop_one, List.tail_cons] at same'
            refine ⟨name ++ '[' :: between, ?_, nameLeads.append
              (.plain (by decide) (by decide) (by decide) (by decide)
                (by decide) itemsLead)⟩
            rw [same, same']
            simp
          · rw [if_neg enumerated] at read
            cases read
            exact ⟨name, same, nameLeads⟩
        · rw [if_neg letter] at read
          cases read
      obtain ⟨middle, whole, leading⟩ := inner
      refine ⟨trivia ++ middle, ?_, skipped.append leading⟩
      rw [apart, whole, List.append_assoc]

/-- A nested block is read up to its closing brace, and all that is read leads
back to code. -/
theorem parseEntries_reads (fuel : Nat) :
    ReadsBlock (parseEntries fuel true) ∧ ReadsCode (parseValue fuel) := by
  induction fuel with
  | zero =>
      refine ⟨?_, ?_⟩
      · intro text entries rest read
        cases read
      · intro text value rest read
        cases read
  | succ fuel induction =>
      obtain ⟨entriesRead, valueReads⟩ := induction
      refine ⟨?_, parseValue_reads entriesRead⟩
      intro text entries rest read
      rw [parseEntries] at read
      obtain ⟨⟨trivia, apart, leads⟩, -⟩ := skipTrivia_leads text
      cases first : skipTrivia text with
      | nil =>
          rw [first] at read
          cases read
      | cons ch others =>
          rw [first] at read apart leads
          have skipped := leads (List.cons_ne_nil _ _)
          dsimp only at read
          by_cases closing : (ch == '\x7d') = true
          · rw [if_pos closing] at read
            cases read
            obtain rfl := beq_iff_eq.mp closing
            exact ⟨trivia, apart, skipped⟩
          · rw [if_neg closing, except_bind_eq_ok_iff] at read
            obtain ⟨⟨key, behind⟩, named, read⟩ := read
            rw [except_bind_eq_ok_iff] at read
            obtain ⟨⟨value, further⟩, assigned, read⟩ := read
            rw [except_bind_eq_ok_iff] at read
            obtain ⟨⟨later, left⟩, remaining, done⟩ := read
            cases done
            obtain ⟨name, same, nameLeads⟩ := parseIdent_reads _ _ _ named
            obtain ⟨middle, between, valueLeads⟩ :=
              parseAssigned_reads valueReads key _ _ _ assigned
            obtain ⟨body, whole, bodyLeads⟩ := entriesRead _ _ _ remaining
            dsimp only at between whole ⊢
            refine ⟨trivia ++ (name ++ (middle ++ body)), ?_,
              skipped.append
                (nameLeads.append (valueLeads.append bodyLeads))⟩
            rw [apart, same, between, whole]
            simp

end AuthBoundry
