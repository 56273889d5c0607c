import Mathlib.Data.List.Infix
import Mathlib.Data.String.Basic

/-!
# Text and hashing

Trimming by the Unicode white space property, cutting a text at a character or
at its ends, fixed-width hexadecimal numbers, signed 64-bit decimals, and the
64-bit FNV-1a hash.  All of them work on character or byte lists, so that
closed terms evaluate.
-/

namespace Library

/-- The characters with the Unicode property `White_Space`. -/
def isWhitespace (character : Char) : Bool :=
  let code := character.toNat
  (0x9 ≤ code && code ≤ 0xD) || code == 0x20 || code == 0x85 || code == 0xA0 ||
    code == 0x1680 || (0x2000 ≤ code && code ≤ 0x200A) || code == 0x2028 ||
    code == 0x2029 || code == 0x202F || code == 0x205F || code == 0x3000

/-- A list of characters without the white space at its ends. -/
def trimList (characters : List Char) : List Char :=
  ((characters.dropWhile isWhitespace).reverse.dropWhile isWhitespace).reverse

def trim (text : String) : String :=
  String.ofList (trimList text.toList)

/-- Whether nothing is left after trimming. -/
def isBlank (text : String) : Bool :=
  (trimList text.toList).isEmpty

def asciiLower (text : String) : String :=
  String.ofList (text.toList.map Char.toLower)

def asciiUpper (text : String) : String :=
  String.ofList (text.toList.map Char.toUpper)

def containsText (part text : String) : Bool :=
  text.toList.tails.any part.toList.isPrefixOf

theorem containsText_iff (part text : String) :
    containsText part text = true ↔ part.toList <:+: text.toList := by
  simp only [containsText, List.any_eq_true, List.mem_tails,
    List.isPrefixOf_iff_prefix, List.infix_iff_prefix_suffix, and_comm]

/-- What follows `start` in a text that begins with it. -/
def stripStart (start text : String) : Option String :=
  (text.toList.dropPrefix? start.toList).map String.ofList

/-- What precedes `finish` in a text that ends with it. -/
def stripFinish (finish text : String) : Option String :=
  (text.toList.reverse.dropPrefix? finish.toList.reverse).map fun rest =>
    String.ofList rest.reverse

/-- What is left when a pattern is dropped from the start again and again. -/
def dropRepeated (pattern : List Char) : Nat → List Char → List Char
  | 0, text => text
  | fuel + 1, text =>
      match text.dropPrefix? pattern with
      | some rest => dropRepeated pattern fuel rest
      | none => text

/-- A text without the occurrences of `finish` at its end. -/
def trimFinish (finish text : String) : String :=
  String.ofList
    (dropRepeated finish.toList.reverse text.length text.toList.reverse).reverse

/-- The parts before and after the first occurrence of a character. -/
def splitOnce (separator : Char) (text : String) : Option (String × String) :=
  match text.toList.span (· != separator) with
  | (_, []) => none
  | (before, _ :: after) => some (String.ofList before, String.ofList after)

/-- A list of characters without the occurrences of one at its ends. -/
def trimChar (removed : Char) (characters : List Char) : List Char :=
  ((characters.dropWhile (· == removed)).reverse.dropWhile
    (· == removed)).reverse

/-- The nonempty parts between the occurrences of a character. -/
def segmentsOf (separator : Char) (text : String) : List String :=
  (((trimChar separator text.toList).splitOn separator).filter
    fun segment => !segment.isEmpty).map String.ofList

def replaceChar (replaced : Char) (replacement text : String) : String :=
  String.ofList <| text.toList.flatMap fun character =>
    if character == replaced then replacement.toList else [character]

/-- The last `width` hexadecimal digits of a number, in lower case. -/
def hexDigits : Nat → Nat → List Char
  | 0, _ => []
  | width + 1, number =>
      hexDigits width (number / 16) ++ [Nat.digitChar (number % 16)]

/-- A hash written with sixteen hexadecimal digits. -/
def hex16 (hash : UInt64) : String :=
  String.ofList (hexDigits 16 hash.toNat)

def fnv1a (bytes : List UInt8) : UInt64 :=
  bytes.foldl (fun hash byte => (hash ^^^ byte.toUInt64) * 0x100000001b3)
    0xcbf29ce484222325

def utf8 (text : String) : List UInt8 :=
  text.toUTF8.toList

/-- The value of a nonempty sequence of decimal digits. -/
def decimalValue (digits : List Char) : Option Nat :=
  if digits.isEmpty then
    none
  else
    digits.foldl
      (fun value digit =>
        value.bind fun value =>
          if digit.isDigit then
            some (value * 10 + (digit.toNat - '0'.toNat))
          else
            none)
      (some 0)

/-- A signed decimal that fits 64 bits; a leading sign is optional. -/
def parseI64 (text : String) : Option Int :=
  let bounded (value : Int) : Option Int :=
    if -9223372036854775808 ≤ value ∧ value ≤ 9223372036854775807 then
      some value
    else
      none
  match text.toList with
  | '-' :: digits => (decimalValue digits).bind fun value => bounded (-value)
  | '+' :: digits => (decimalValue digits).bind fun value => bounded value
  | digits => (decimalValue digits).bind fun value => bounded value

/-- An unsigned decimal that fits 64 bits; a leading plus is optional. -/
def parseU64 (text : String) : Option Nat :=
  let bounded (value : Nat) : Option Nat :=
    if value < 2 ^ 64 then some value else none
  match text.toList with
  | '+' :: digits => (decimalValue digits).bind bounded
  | digits => (decimalValue digits).bind bounded

/-! ## Trimmed texts -/

/-- White space around a text is trimmed with it. -/
theorem trimList_between {before middle after : List Char}
    (blankBefore : ∀ character ∈ before, isWhitespace character = true)
    (blankAfter : ∀ character ∈ after, isWhitespace character = true) :
    trimList (before ++ (middle ++ after)) = trimList middle := by
  have blankTurned : ∀ character ∈ after.reverse,
      isWhitespace character = true := by
    intro character member
    exact blankAfter character (List.mem_reverse.mp member)
  unfold trimList
  rw [List.dropWhile_append_of_pos blankBefore, List.dropWhile_append]
  split
  · rename_i empty
    rw [List.isEmpty_iff.mp empty]
    have none : (after ++ []).dropWhile isWhitespace = [] :=
      List.dropWhile_append_of_pos blankAfter
    rw [List.append_nil] at none
    rw [none]
  · rw [List.reverse_append, List.dropWhile_append_of_pos blankTurned]

theorem trimList_eq_self_of_ends {text : List Char}
    (begins : ∀ first ∈ text.head?, isWhitespace first = false)
    (ends : ∀ last ∈ text.getLast?, isWhitespace last = false) :
    trimList text = text := by
  have kept : ∀ {other : List Char},
      (∀ first ∈ other.head?, isWhitespace first = false) →
      other.dropWhile isWhitespace = other := by
    intro other visible
    cases other with
    | nil => rfl
    | cons first rest =>
        rw [List.dropWhile_cons_of_neg]
        rw [visible first rfl]
        exact Bool.false_ne_true
  have turned : ∀ first ∈ text.reverse.head?, isWhitespace first = false := by
    intro first member
    rw [List.head?_reverse] at member
    exact ends first member
  unfold trimList
  rw [kept begins, kept turned, List.reverse_reverse]

theorem trimList_eq_self {text : List Char}
    (visible : ∀ character ∈ text, isWhitespace character = false) :
    trimList text = text := by
  apply trimList_eq_self_of_ends
  · intro first member
    exact visible first (List.mem_of_head? member)
  · intro last member
    exact visible last (List.mem_of_getLast? member)

/-! ## Lower case -/

theorem toNat_toLower {character : Char} (least : 65 ≤ character.toNat)
    (most : character.toNat ≤ 90) :
    character.toLower.toNat = character.toNat + 32 := by
  have bounds : 'A'.val ≤ character.val ∧ character.val ≤ 'Z'.val :=
    ⟨least, most⟩
  have lower : 65 ≤ character.val.toNat := least
  have upper : character.val.toNat ≤ 90 := most
  have distance : (32 : UInt32).toNat = 32 := rfl
  unfold Char.toLower
  rw [dif_pos bounds]
  change (character.val + 32).toNat = character.val.toNat + 32
  rw [UInt32.toNat_add]
  omega

theorem toLower_cases (character : Char) :
    character.toLower = character ∨
      (65 ≤ character.toNat ∧ character.toNat ≤ 90) ∧
        character.toLower.toNat = character.toNat + 32 := by
  by_cases bounds : 65 ≤ character.toNat ∧ character.toNat ≤ 90
  · exact .inr ⟨bounds, toNat_toLower bounds.1 bounds.2⟩
  · exact .inl (dif_neg bounds)

theorem isWhitespace_toLower (character : Char) :
    isWhitespace character.toLower = isWhitespace character := by
  rcases toLower_cases character with same | ⟨bounds, moved⟩
  · rw [same]
  · unfold isWhitespace
    rw [moved, Bool.eq_iff_iff]
    simp only [Bool.or_eq_true, Bool.and_eq_true, decide_eq_true_eq,
      beq_iff_eq]
    omega

theorem toLower_toLower (character : Char) :
    character.toLower.toLower = character.toLower := by
  rcases toLower_cases character with same | ⟨bounds, moved⟩
  · rw [same, same]
  · rcases toLower_cases character.toLower with same | ⟨lowered, _⟩
    · exact same
    · omega

/-! ## Upper case -/

theorem toNat_toUpper {character : Char} (least : 97 ≤ character.toNat)
    (most : character.toNat ≤ 122) :
    character.toUpper.toNat + 32 = character.toNat := by
  have bounds : 'a'.val ≤ character.val ∧ character.val ≤ 'z'.val :=
    ⟨least, most⟩
  have lower : 97 ≤ character.val.toNat := least
  have upper : character.val.toNat ≤ 122 := most
  have distance : ('A'.val - 'a'.val).toNat = 2 ^ 32 - 32 := by decide
  unfold Char.toUpper
  rw [dif_pos bounds]
  change (character.val + ('A'.val - 'a'.val)).toNat + 32 =
    character.val.toNat
  rw [UInt32.toNat_add, distance]
  omega

theorem toUpper_cases (character : Char) :
    character.toUpper = character ∨
      (97 ≤ character.toNat ∧ character.toNat ≤ 122) ∧
        character.toUpper.toNat + 32 = character.toNat := by
  by_cases bounds : 97 ≤ character.toNat ∧ character.toNat ≤ 122
  · exact .inr ⟨bounds, toNat_toUpper bounds.1 bounds.2⟩
  · exact .inl (dif_neg bounds)

theorem toLower_toUpper (character : Char) :
    character.toUpper.toLower = character.toLower := by
  rcases toUpper_cases character with same | ⟨bounds, moved⟩
  · rw [same]
  · rcases toLower_cases character with kept | ⟨capital, _⟩
    · have back := @toNat_toLower character.toUpper (by omega) (by omega)
      rw [kept]
      apply Char.toNat_inj.mp
      omega
    · omega

theorem toUpper_toLower (character : Char) :
    character.toLower.toUpper = character.toUpper := by
  rcases toLower_cases character with same | ⟨bounds, moved⟩
  · rw [same]
  · rcases toUpper_cases character with kept | ⟨small, _⟩
    · have back := @toNat_toUpper character.toLower (by omega) (by omega)
      rw [kept]
      apply Char.toNat_inj.mp
      omega
    · omega

theorem asciiLower_asciiUpper (text : String) :
    asciiLower (asciiUpper text) = asciiLower text := by
  unfold asciiLower asciiUpper
  rw [String.toList_ofList, List.map_map]
  simp only [Function.comp_def, toLower_toUpper]

theorem asciiUpper_asciiLower (text : String) :
    asciiUpper (asciiLower text) = asciiUpper text := by
  unfold asciiLower asciiUpper
  rw [String.toList_ofList, List.map_map]
  simp only [Function.comp_def, toUpper_toLower]

theorem asciiUpper_asciiUpper (text : String) :
    asciiUpper (asciiUpper text) = asciiUpper text := by
  rw [← asciiUpper_asciiLower (asciiUpper text), asciiLower_asciiUpper,
    asciiUpper_asciiLower]

end Library
