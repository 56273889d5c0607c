import AuthBoundry.Library.JsonText
import AuthBoundry.Library.Encoding

/-!
# Reading data

A reader that takes the grammar of JSON as it stands.  A control character
inside a string, a leading zero or a comma before a closing bracket refuses the
whole text, and so does anything after the data but blanks.

Each reader returns what it read with the rest of the text.  Only data inside
of data needs fuel: one unit for each level.
-/

namespace Library

open scoped Listed

abbrev Reader (α : Type) := List Char → Option (α × List Char)

def blankChars : List Char := [' ', '\t', '\n', '\r']

def skipBlanks (text : List Char) : List Char :=
  text.dropWhile blankChars.contains

def Begun (text : List Char) : Prop := ∀ first ∈ text.head?, first ∉ blankChars

theorem Begun.skipBlanks_eq {text : List Char} (begun : Begun text) :
    skipBlanks text = text := by
  cases text with
  | nil => rfl
  | cons first rest =>
      have solid : first ∉ blankChars := begun first rfl
      exact List.dropWhile_cons_of_neg (by simpa using solid)

theorem skipBlanks_text (blanks : Blanks) (text : List Char) :
    skipBlanks (blanks.text ++ text) = skipBlanks text := by
  induction blanks with
  | nil => rfl
  | cons blank blanks induction =>
      have listed : blankChars.contains blank.char = true := by
        cases blank <;> decide
      exact (List.dropWhile_cons_of_pos listed).trans induction

/-! ## Strings -/

def readUnit : Reader Nat
  | first :: second :: third :: fourth :: rest =>
      (codeUnit first second third fourth).map (·, rest)
  | _ => none

/-- What a backslash is followed by. -/
def readEscape : Reader Char
  | [] => none
  | letter :: rest =>
      if letter = 'u' then do
        let (unit, rest) ← readUnit rest
        if unit < 0xD800 ∨ 0xDFFF < unit then
          return (Char.ofNat unit, rest)
        else if unit ≤ 0xDBFF ∧ ['\\', 'u'].isPrefixOf rest then
          let (low, rest) ← readUnit (rest.drop 2)
          if 0xDC00 ≤ low ∧ low ≤ 0xDFFF then
            return (Char.ofNat
              (0x10000 + (unit - 0xD800) * 0x400 + (low - 0xDC00)), rest)
          else
            none
        else
          none
      else
        (shortEscapes.lookup letter).map (·, rest)

/-- The first of the characters that only an escape may stand for. -/
def firstPlainCode : Nat := 0x20

/-- One character of a string, escaped or not. -/
def readChar : Reader Char
  | [] => none
  | first :: rest =>
      if first = '\\' then readEscape rest
      else if first.toNat < firstPlainCode then none
      else some (first, rest)

/-- A string from behind its opening quotation mark. -/
def readString : Nat → Reader (List Char)
  | 0, _ => none
  | _ + 1, [] => none
  | fuel + 1, first :: rest =>
      if first = '"' then
        some ([], rest)
      else do
        let (character, rest) ← readChar (first :: rest)
        let (characters, rest) ← readString fuel rest
        return (character :: characters, rest)

theorem readChar_short {letter value : Char}
    (listed : (letter, value) ∈ shortEscapes) (rest : List Char) :
    readChar ('\\' :: letter :: rest) = some (value, rest) := by
  have reads : readChar ('\\' :: letter :: rest) =
      readEscape (letter :: rest) := by
    rw [readChar, if_pos rfl]
  have known : letter ≠ 'u' ∧ shortEscapes.lookup letter = some value := by
    revert listed
    unfold shortEscapes
    simp only [List.mem_cons, List.not_mem_nil, or_false, Prod.mk.injEq]
    rintro (⟨rfl, rfl⟩ | ⟨rfl, rfl⟩ | ⟨rfl, rfl⟩ | ⟨rfl, rfl⟩ | ⟨rfl, rfl⟩ |
      ⟨rfl, rfl⟩ | ⟨rfl, rfl⟩ | ⟨rfl, rfl⟩) <;> decide
  rw [reads, readEscape, if_neg known.1, known.2]
  rfl

theorem readChar_raw {character : Char} (different : character ≠ '\\')
    (rest : List Char) :
    readChar (character :: rest) =
      if firstPlainCode ≤ character.toNat then
        some (character, rest)
      else
        none := by
  rw [readChar, if_neg different]
  by_cases control : character.toNat < firstPlainCode
  · rw [if_pos control, if_neg (by omega)]
  · rw [if_neg control, if_pos (by omega)]

/-! ## Numbers -/

/-- The digits after a point, if there is a point. -/
def readFraction : Reader (List Char)
  | [] => some ([], [])
  | first :: rest =>
      if first = '.' then
        let (digits, rest) := rest.span Char.isDigit
        if digits.isEmpty then none else some (digits, rest)
      else
        some ([], first :: rest)

def readSign : List Char → Int × List Char
  | '-' :: rest => (-1, rest)
  | '+' :: rest => (1, rest)
  | text => (1, text)

/-- The power of ten, if one is written. -/
def readExponent : Reader Int
  | [] => some (0, [])
  | first :: rest =>
      if first = 'e' ∨ first = 'E' then
        let (sign, rest) := readSign rest
        let (digits, rest) := rest.span Char.isDigit
        if digits.isEmpty then
          none
        else
          some (sign * Nat.ofDigitChars 10 digits 0, rest)
      else
        some (0, first :: rest)

def readUnsigned (text : List Char) : Option (ℚ × List Char) := do
  let (whole, rest) := text.span Char.isDigit
  if whole.isEmpty ∨ (whole.head? = some '0' ∧ 1 < whole.length) then
    none
  else
    let (fraction, rest) ← readFraction rest
    let (exponent, rest) ← readExponent rest
    let digits : ℚ := Nat.ofDigitChars 10 (whole ++ fraction) 0
    return (digits * 10 ^ (exponent - fraction.length), rest)

def readNumber : Reader ℚ
  | '-' :: rest => (readUnsigned rest).map fun (value, rest) => (-value, rest)
  | text => readUnsigned text

/-- Only zero is written with a zero in front. -/
theorem head_toDigits {number : Nat} (positive : 0 < number) :
    (Nat.toDigits 10 number).head? ≠ some '0' := by
  induction number using Nat.strong_induction_on with
  | h number induction =>
      by_cases small : number < 10
      · rw [Nat.toDigits_of_lt_base small]
        have digits : ∀ digit < 10, 0 < digit →
            Nat.digitChar digit ≠ '0' := by decide
        simpa using digits number small positive
      · have shorter := induction (number / 10) (by omega) (by omega)
        rw [Nat.toDigits_of_base_le (by omega) (by omega),
          List.head?_append_of_ne_nil _ Nat.toDigits_ne_nil]
        exact shorter

theorem toList_decimal_ne_nil (whole : Nat) : (toString whole).toList ≠ [] := by
  rw [Nat.toString_eq_repr, Nat.toList_repr]
  exact Nat.toDigits_ne_nil

/-- What closes a piece of data is not a part of a number. -/
theorem not_numeral_of_closer {closer : Char} (closes : closer ∈ closers) :
    closer.isDigit = false ∧ closer ≠ '.' ∧ closer ≠ 'e' ∧ closer ≠ 'E' := by
  revert closer
  decide

theorem span_decimal (number : Nat) {rest : List Char}
    (separated : Separated rest) :
    ((toString number).toList ++ rest).span Char.isDigit =
      ((toString number).toList, rest) := by
  have digits : ∀ digit ∈ (toString number).toList, digit.isDigit = true :=
    fun digit => isDigit_of_mem_decimal
  have stops : rest.takeWhile Char.isDigit = [] ∧
      rest.dropWhile Char.isDigit = rest := by
    cases rest with
    | nil => exact ⟨rfl, rfl⟩
    | cons first rest =>
        have nonDigit := (not_numeral_of_closer (separated first rfl)).1
        simp [nonDigit]
  rw [List.span_eq_takeWhile_dropWhile,
    List.takeWhile_append_of_pos digits, List.dropWhile_append_of_pos digits,
    stops.1, stops.2, List.append_nil]

theorem readUnsigned_decimal (number : Nat) {rest : List Char}
    (separated : Separated rest) :
    readUnsigned ((toString number).toList ++ rest) =
      some ((number : ℚ), rest) := by
  have written : (toString number).toList = Nat.toDigits 10 number := by
    rw [Nat.toString_eq_repr, Nat.toList_repr]
  have nonempty : (toString number).toList.isEmpty = false :=
    List.isEmpty_eq_false_iff.mpr (toList_decimal_ne_nil number)
  have leads : ¬((toString number).toList.head? = some '0' ∧
      1 < (toString number).toList.length) := by
    rw [written]
    rintro ⟨zero, long⟩
    cases number with
    | zero => exact absurd long (by decide)
    | succ number => exact head_toDigits (Nat.succ_pos number) zero
  have pointless : readFraction rest = some ([], rest) ∧
      readExponent rest = some (0, rest) := by
    cases rest with
    | nil => exact ⟨rfl, rfl⟩
    | cons first rest =>
        obtain ⟨_, point, small, capital⟩ :=
          not_numeral_of_closer (separated first rfl)
        exact ⟨if_neg point, if_neg (not_or.mpr ⟨small, capital⟩)⟩
  have value : Nat.ofDigitChars 10 (toString number).toList 0 = number := by
    rw [written, Nat.ofDigitChars_ten_toDigits]
  unfold readUnsigned
  simp only [span_decimal number separated, nonempty, leads, pointless.1,
    pointless.2, Bool.false_eq_true, or_self, if_false, Option.bind_eq_bind,
    Option.bind_some, List.append_nil, value, List.length_nil]
  simp

/-- A character that a number may begin with. -/
def Numeric (first : Char) : Prop := first = '-' ∨ first.isDigit = true

theorem toList_negSucc (whole : Nat) :
    (toString (Int.negSucc whole)).toList =
      '-' :: (toString (whole + 1)).toList := by
  change ("-" ++ Nat.repr (whole + 1)).toList = _
  rw [String.toList_append]
  rfl

theorem Numeric.of_mem_decimal {number : Int} {character : Char}
    (member : character ∈ (toString number).toList) : Numeric character := by
  cases number with
  | ofNat whole => exact .inr (@isDigit_of_mem_decimal whole _ member)
  | negSucc whole =>
      rw [toList_negSucc] at member
      exact (List.mem_cons.mp member).imp_right isDigit_of_mem_decimal

theorem Numeric.of_decimal (number : Int) :
    ∃ first others, (toString number).toList = first :: others ∧
      Numeric first := by
  have numeric := @Numeric.of_mem_decimal number
  cases text : (toString number).toList with
  | nil =>
      cases number with
      | ofNat whole => exact absurd text (toList_decimal_ne_nil whole)
      | negSucc whole =>
          rw [toList_negSucc] at text
          cases text
  | cons first others =>
      rw [text] at numeric
      exact ⟨first, others, rfl, numeric List.mem_cons_self⟩

theorem Numeric.ne {first other : Char} (numeric : Numeric first)
    (different : other ≠ '-') (nonDigit : other.isDigit = false) :
    first ≠ other := by
  rintro rfl
  rcases numeric with minus | digit
  · exact different minus
  · rw [nonDigit] at digit
    cases digit

theorem readNumber_decimal (number : Int) {rest : List Char}
    (separated : Separated rest) :
    readNumber ((toString number).toList ++ rest) =
      some ((number : ℚ), rest) := by
  cases number with
  | ofNat whole =>
      have digits := @isDigit_of_mem_decimal whole
      have nonempty := toList_decimal_ne_nil whole
      have reads := readUnsigned_decimal whole separated
      change readNumber ((toString whole).toList ++ rest) = _
      unfold readNumber
      split
      · rename_i tail sign
        cases text : (toString whole).toList with
        | nil => exact absurd text nonempty
        | cons first others =>
            rw [text] at sign digits
            obtain rfl := (List.cons.inj sign).1
            exact absurd (digits List.mem_cons_self) (by decide)
      · rw [reads]
        rfl
  | negSucc whole =>
      rw [toList_negSucc]
      change (readUnsigned ((toString (whole + 1)).toList ++ rest)).map _ = _
      rw [readUnsigned_decimal (whole + 1) separated, Option.map_some,
        Int.cast_negSucc]

/-! ## Series -/

section Series

variable {α : Type} (read : Reader α) (closer : Char)

/-- One or more items, with a comma between any two. -/
def readItems : Nat → Reader (List α)
  | 0, _ => none
  | fuel + 1, text => do
      let (item, rest) ← read (skipBlanks text)
      match skipBlanks rest with
      | [] => none
      | mark :: rest =>
          if mark = closer then
            return ([item], rest)
          else if mark = ',' then
            let (items, rest) ← readItems fuel rest
            return (item :: items, rest)
          else
            none

/-- The items from behind the opening bracket. -/
def readSeries (text : List Char) : Option (List α × List Char) :=
  match skipBlanks text with
  | [] => none
  | mark :: rest =>
      if mark = closer then
        some ([], rest)
      else
        readItems read closer text.length text

end Series

/-! ## Data -/

def readWord (word : List Char) (value : JsonValue) : Reader JsonValue :=
  fun text =>
    if word.isPrefixOf text then
      some (value, text.drop word.length)
    else
      none

def readQuoted : Reader String
  | [] => none
  | first :: rest =>
      if first = '"' then
        (readString (rest.length + 1) rest).map fun (characters, rest) =>
          (String.ofList characters, rest)
      else
        none

def readMember (read : Reader JsonValue) : Reader (String × JsonValue) :=
  fun text => do
    let (name, rest) ← readQuoted text
    match skipBlanks rest with
    | [] => none
    | mark :: rest =>
        if mark = ':' then
          let (value, rest) ← read (skipBlanks rest)
          return ((name, value), rest)
        else
          none

/-- A piece of data at the start of a text, without blanks before it. -/
def readValue : Nat → Reader JsonValue
  | 0, _ => none
  | _ + 1, [] => none
  | fuel + 1, first :: rest =>
      if first = '"' then
        (readQuoted (first :: rest)).map fun (value, rest) =>
          (.string value, rest)
      else if first = '[' then
        (readSeries (readValue fuel) ']' rest).map fun (items, rest) =>
          (.array items, rest)
      else if first = '\x7b' then
        (readSeries (readMember (readValue fuel)) '\x7d' rest).map
          fun (members, rest) => (.object members, rest)
      else if first = 't' then
        readWord ['t', 'r', 'u', 'e'] (.bool true) (first :: rest)
      else if first = 'f' then
        readWord ['f', 'a', 'l', 's', 'e'] (.bool false) (first :: rest)
      else if first = 'n' then
        readWord ['n', 'u', 'l', 'l'] .null (first :: rest)
      else
        (readNumber (first :: rest)).map fun (value, rest) =>
          (.number value, rest)

/-- A number is told from other data by its first character. -/
theorem readValue_of_numeric {first : Char} (numeric : Numeric first)
    (fuel : Nat) (rest : List Char) :
    readValue (fuel + 1) (first :: rest) =
      (readNumber (first :: rest)).map fun (value, rest) =>
        (.number value, rest) := by
  rw [readValue, if_neg (numeric.ne (by decide) (by decide)),
    if_neg (numeric.ne (by decide) (by decide)),
    if_neg (numeric.ne (by decide) (by decide)),
    if_neg (numeric.ne (by decide) (by decide)),
    if_neg (numeric.ne (by decide) (by decide)),
    if_neg (numeric.ne (by decide) (by decide))]

theorem readWord_append (word : List Char) (value : JsonValue)
    (rest : List Char) :
    readWord word value (word ++ rest) = some (value, rest) := by
  have begins : word.isPrefixOf (word ++ rest) = true :=
    List.isPrefixOf_iff_prefix.mpr (List.prefix_append word rest)
  rw [readWord, if_pos begins, List.drop_left]

/-- The data that a whole text stands for. -/
def decodeJson (text : String) : Option JsonValue :=
  match readValue (text.toList.length + 1) (skipBlanks text.toList) with
  | none => none
  | some (value, rest) =>
      if (skipBlanks rest).isEmpty then some value else none

end Library
