import AuthBoundry.Library.Replacement
import AuthBoundry.Library.Stateful

/-!
# The parser of declarations

The text of a declaration is cut out between the first brace and the one that
closes it, and read as entries of names and values.  Every reader gives what it
has read and the characters that follow.
-/

namespace AuthBoundry

open Library

structure AuthDslError where
  message : String
  deriving DecidableEq, Repr

/-- A parsed value inside an auth block. -/
inductive Value where
  | scalar (value : String)
  | list (values : List String)
  | enum (values : List String)
  | block (entries : List (String × Value))

abbrev Entries := List (String × Value)

def Value.kind : Value → String
  | .scalar _ => "scalar"
  | .list _ => "list"
  | .enum _ => "enum"
  | .block _ => "block"

mutual

def Value.sameAs : Value → Value → Bool
  | .scalar left, .scalar right => left == right
  | .list left, .list right => left == right
  | .enum left, .enum right => left == right
  | .block left, .block right => sameEntries left right
  | _, _ => false

def sameEntries : List (String × Value) → List (String × Value) → Bool
  | [], [] => true
  | left :: lefts, right :: rights =>
      sameEntry left right && sameEntries lefts rights
  | _, _ => false

def sameEntry : String × Value → String × Value → Bool
  | (leftName, left), (rightName, right) =>
      leftName == rightName && left.sameAs right

end

mutual

theorem Value.sameAs_iff : (left right : Value) →
    (left.sameAs right = true ↔ left = right)
  | .scalar left, right => by cases right <;> simp [Value.sameAs]
  | .list left, right => by cases right <;> simp [Value.sameAs]
  | .enum left, right => by cases right <;> simp [Value.sameAs]
  | .block left, right => by
      cases right with
      | block right => simp [Value.sameAs, sameEntries_iff left right]
      | _ => simp [Value.sameAs]

theorem sameEntries_iff : (left right : List (String × Value)) →
    (sameEntries left right = true ↔ left = right)
  | [], right => by cases right <;> simp [sameEntries]
  | left :: lefts, right => by
      cases right with
      | nil => simp [sameEntries]
      | cons right rights =>
          simp [sameEntries, sameEntry_iff left right,
            sameEntries_iff lefts rights]

theorem sameEntry_iff : (left right : String × Value) →
    (sameEntry left right = true ↔ left = right)
  | (leftName, left), (rightName, right) => by
      simp [sameEntry, Value.sameAs_iff left right]

end

instance : DecidableEq Value := fun left right =>
  decidable_of_iff _ (Value.sameAs_iff left right)

/-! ## Braced bodies -/

/-- The text up to the brace that closes the last open one. -/
def untilClosed : Nat → List Char → Option (List Char)
  | _, [] => none
  | depth, ch :: rest =>
      if ch == '\x7b' then
        (untilClosed (depth + 1) rest).map (ch :: ·)
      else if ch == '\x7d' then
        if depth - 1 == 0 then some []
        else (untilClosed (depth - 1) rest).map (ch :: ·)
      else
        (untilClosed depth rest).map (ch :: ·)

/-- The body of the block that a text starts with; the text is given from the
opening brace on. -/
def extractBracedBody (name : String) (text : List Char) :
    Except AuthDslError (List Char) :=
  match untilClosed 0 text with
  | some block => .ok (block.drop 1)
  | none => .error ⟨s!"missing closing `\x7d` in {name} block"⟩

def useAuth : List Char := "use auth".toList

/-- The text from the opening brace of the auth block on. -/
def openingOf (src : List Char) : Except AuthDslError (List Char) :=
  match cutAt useAuth src with
  | none => .error ⟨"missing `use auth` block"⟩
  | some (_, rest) =>
      match (useAuth ++ rest).dropWhile (· != '\x7b') with
      | [] => .error ⟨"missing `\x7b` in auth block"⟩
      | opening => .ok opening

def extractAuthBlock (src : List Char) : Except AuthDslError (List Char) := do
  extractBracedBody "auth" (← openingOf src)

/-! ## Readers -/

def isIdentChar (ch : Char) : Bool :=
  ch.isAlphanum || ch == '_' || ch == '-' || ch == '.'

mutual

/-- White space, commas and comments carry no meaning. -/
def skipTrivia : List Char → List Char
  | [] => []
  | ch :: rest =>
      if isWhitespace ch || ch == ',' then skipTrivia rest
      else if ch == '#' then skipLine rest
      else if ch == '/' && rest.head? == some '/' then skipLine rest
      else ch :: rest

/-- A comment ends with its line. -/
def skipLine : List Char → List Char
  | [] => []
  | ch :: rest => if ch == '\n' then skipTrivia rest else skipLine rest

end

def parseIdent (text : List Char) :
    Except AuthDslError (String × List Char) :=
  match text.takeWhile isIdentChar with
  | [] =>
      let found := text.head?.getD ' '
      .error ⟨s!"expected an identifier, found `{found}`"⟩
  | name => .ok (String.ofList name, text.dropWhile isIdentChar)

/-- The text of a string whose opening quotation mark has been read. -/
def parseQuoted (text : List Char) :
    Except AuthDslError (String × List Char) :=
  match text.dropWhile (· != '"') with
  | [] => .error ⟨"unterminated string"⟩
  | _ :: rest => .ok (String.ofList (text.takeWhile (· != '"')), rest)

def parseItem (ch : Char) (rest : List Char) :
    Except AuthDslError (String × List Char) :=
  if ch == '"' then parseQuoted rest
  else if isIdentChar ch then parseIdent (ch :: rest)
  else .error ⟨s!"unexpected character `{ch}` in list"⟩

/-- The items of a list whose opening bracket has been read; every item takes
fuel. -/
def parseItems : Nat → List Char →
    Except AuthDslError (List String × List Char)
  | 0, _ => .error ⟨"missing closing `]`"⟩
  | fuel + 1, text =>
      match skipTrivia text with
      | [] => .error ⟨"missing closing `]`"⟩
      | ch :: rest =>
          if ch == ']' then .ok ([], rest)
          else do
            let (item, rest) ← parseItem ch rest
            let (items, rest) ← parseItems fuel rest
            return (item :: items, rest)

def parseList (text : List Char) :
    Except AuthDslError (List String × List Char) :=
  parseItems (text.length + 1) text

def parseAssigned
    (parseValue : List Char → Except AuthDslError (Value × List Char))
    (key : String) (text : List Char) :
    Except AuthDslError (Value × List Char) :=
  match skipTrivia text with
  | ch :: rest =>
      if ch == ':' || ch == '=' then parseValue rest
      else if ch == '\x7b' then parseValue (ch :: rest)
      else .error ⟨s!"expected `:`, `=` or `\x7b` after `{key}`"⟩
  | [] => .error ⟨s!"expected `:`, `=` or `\x7b` after `{key}`"⟩

mutual

/-- The entries of a block, up to its closing brace if it is nested. -/
def parseEntries : Nat → Bool → List Char →
    Except AuthDslError (Entries × List Char)
  | 0, _, _ => .error ⟨"missing closing `\x7d`"⟩
  | fuel + 1, nested, text =>
      match skipTrivia text with
      | [] =>
          if nested then .error ⟨"missing closing `\x7d`"⟩ else .ok ([], [])
      | ch :: rest =>
          if ch == '\x7d' then
            if nested then .ok ([], rest) else .error ⟨"unexpected `\x7d`"⟩
          else do
            let (key, rest) ← parseIdent (ch :: rest)
            let (value, rest) ← parseAssigned (parseValue fuel) key rest
            let (entries, rest) ← parseEntries fuel nested rest
            return ((key, value) :: entries, rest)

def parseValue : Nat → List Char → Except AuthDslError (Value × List Char)
  | 0, _ => .error ⟨"unexpected end of auth block"⟩
  | fuel + 1, text =>
      match skipTrivia text with
      | [] => .error ⟨"unexpected end of auth block"⟩
      | ch :: rest =>
          if ch == '\x7b' then do
            let (entries, rest) ← parseEntries fuel true rest
            return (.block entries, rest)
          else if ch == '[' then do
            let (items, rest) ← parseList rest
            return (.list items, rest)
          else if ch == '"' then do
            let (value, rest) ← parseQuoted rest
            return (.scalar value, rest)
          else if isIdentChar ch then do
            let (ident, rest) ← parseIdent (ch :: rest)
            if ident == "enum" && rest.head? == some '[' then do
              let (items, rest) ← parseList (rest.drop 1)
              return (.enum items, rest)
            else
              return (.scalar ident, rest)
          else
            .error ⟨s!"unexpected character `{ch}`"⟩

end

/-- The entries of a text that is the whole of a block. -/
def entriesOf (body : List Char) : Except AuthDslError Entries := do
  let (entries, _) ← parseEntries (body.length + 1) false body
  return entries

end AuthBoundry
