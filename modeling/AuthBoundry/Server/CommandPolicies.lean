import AuthBoundry.Server.CommandChanges

/-!
# Password policies proposed from the command line

Only the settings that are given are written, and the control plane reads the
settings that are not written as they stand without being set.
-/

namespace AuthBoundry

open Library
open scoped Library.Listed

namespace Cli

/-! ## Counts -/

theorem exists_digit {character : Char} (isDigit : character.isDigit = true) :
    ∃ digit : Fin 10, Nat.digitChar digit.val = character ∧
      digit.val = character.toNat - '0'.toNat := by
  have zero : '0'.toNat = 48 := rfl
  have bounds : 48 ≤ character.toNat ∧ character.toNat ≤ 57 := by
    rw [Char.isDigit, Bool.and_eq_true, decide_eq_true_eq,
      decide_eq_true_eq] at isDigit
    exact ⟨UInt32.le_iff_toNat_le.mp isDigit.1,
      UInt32.le_iff_toNat_le.mp isDigit.2⟩
  have chars : ∀ digit : Fin 10,
      Nat.digitChar digit.val = Char.ofNat (48 + digit.val) := by decide
  refine ⟨⟨character.toNat - 48, by omega⟩, ?_, by rw [zero]⟩
  rw [chars]
  have same : 48 + (character.toNat - 48) = character.toNat := by omega
  rw [same, Char.ofNat_toNat]

/-- A step of reading a decimal number. -/
def decimalStep (value : Option Nat) (digit : Char) : Option Nat :=
  value.bind fun value =>
    if digit.isDigit then
      some (value * 10 + (digit.toNat - '0'.toNat))
    else
      none

theorem foldl_decimalStep_none (text : List Char) :
    text.foldl decimalStep none = none := by
  induction text with
  | nil => rfl
  | cons first text inductionHypothesis => exact inductionHypothesis

theorem exists_digits_of_foldl (text : List Char) (start value : Nat)
    (read : text.foldl decimalStep (some start) = some value) :
    ∃ digits : Digits, digits.text = text ∧
      digits.foldl (fun value digit => value * 10 + digit.val) start =
        value := by
  induction text generalizing start with
  | nil => exact ⟨[], rfl, Option.some.inj read⟩
  | cons first text inductionHypothesis =>
      rw [List.foldl_cons] at read
      by_cases isDigit : first.isDigit = true
      · have step : decimalStep (some start) first =
            some (start * 10 + (first.toNat - '0'.toNat)) := by
          simp [decimalStep, isDigit]
        rw [step] at read
        obtain ⟨digits, written, same⟩ := inductionHypothesis _ read
        obtain ⟨digit, shown, counts⟩ := exists_digit isDigit
        refine ⟨digit :: digits, ?_, ?_⟩
        · rw [Digits.text, List.map_cons, shown]
          exact congrArg _ written
        · rw [List.foldl_cons, counts]
          exact same
      · have step : decimalStep (some start) first = none := by
          simp [decimalStep, isDigit]
        rw [step, foldl_decimalStep_none] at read
        cases read

theorem exists_digits {text : List Char} {value : Nat}
    (read : decimalValue text = some value) :
    ∃ digits : Digits, digits ≠ [] ∧ digits.text = text ∧
      digits.value = value := by
  rw [decimalValue] at read
  split at read
  · cases read
  · next written =>
      obtain ⟨digits, same, counts⟩ := exists_digits_of_foldl text 0 value read
      refine ⟨digits, ?_, same, counts⟩
      rintro rfl
      exact written (by rw [← same]; rfl)

theorem exists_numeral_of_parseU64 {written : String} {count : Nat}
    (parsed : parseU64 written = some count) :
    ∃ numeral : Numeral, numeral.text = written.toList ∧
      ∀ read : ℤ, numberText (.number numeral) = some read ↔
        PlainCount written count ∧ read = count := by
  have counted : ∀ digits : List Char, (decimalValue digits).bind
      (fun value => if value < 2 ^ 64 then some value else none) = some count →
        decimalValue digits = some count := by
    intro digits bound
    obtain ⟨value, read, small⟩ := Option.bind_eq_some_iff.mp bound
    split at small
    · rw [read, small]
    · cases small
  rw [parseU64] at parsed
  split at parsed
  · next rest signed =>
      obtain ⟨digits, nonempty, same, -⟩ := exists_digits (counted _ parsed)
      refine ⟨⟨.plus, digits, nonempty, [], none⟩, ?_, fun read => ?_⟩
      · rw [signed, ← same]
        simp [Numeral.text, Numeral.tail, Sign.text]
      · simp [numberText, wholePart, PlainCount, signed]
  · next rest unsigned =>
      obtain ⟨digits, nonempty, same, counts⟩ := exists_digits (counted _ parsed)
      refine ⟨⟨.unsigned, digits, nonempty, [], none⟩, ?_, fun read => ?_⟩
      · rw [← same]
        simp [Numeral.text, Numeral.tail, Sign.text]
      · have noPlus : written.toList.head? ≠ some '+' := by
          intro plus
          obtain ⟨rest, signed⟩ := List.head?_eq_some_iff.mp plus
          exact unsigned rest signed
        have lower : (-9223372036854775808 : ℤ) ≤ 1 * (count : ℤ) := by omega
        have notPlus : Sign.unsigned ≠ .plus := by decide
        have positive : Sign.unsigned.factor = 1 := rfl
        rw [numberText, wholePart, counts, positive, if_neg notPlus,
          PlainCount]
        by_cases small : count ≤ 9223372036854775807
        · have upper : (1 * (count : ℤ)) ≤ 9223372036854775807 := by omega
          rw [if_pos ⟨lower, upper⟩]
          simp [noPlus, small, eq_comm]
        · have beyond : ¬ (1 * (count : ℤ)) ≤ 9223372036854775807 := by omega
          rw [if_neg fun both => beyond both.2]
          simp [small]

/-! ## The fields of a password policy -/

/-- A field that may be given or not. -/
abbrev Setting := String × Option JsonText

def givenFields (settings : List Setting) : List Field :=
  settings.filterMap fun setting =>
    setting.2.map fun value => (setting.1, value)

theorem mem_givenFields_iff {settings : List Setting} {field : Field} :
    field ∈ givenFields settings ↔ (field.1, some field.2) ∈ settings := by
  rw [givenFields, List.mem_filterMap]
  constructor
  · rintro ⟨⟨name, value⟩, member, same⟩
    obtain ⟨found, rfl, rfl⟩ := Option.map_eq_some_iff.mp same
    exact member
  · intro member
    exact ⟨_, member, rfl⟩

theorem givenFields_nodup {settings : List Setting}
    (apart : settings.Pairwise fun left right =>
      left.1 = right.1 → left.2 = none ∨ right.2 = none) :
    ((givenFields settings).map Prod.fst).Nodup := by
  induction apart with
  | nil => exact List.nodup_nil
  | @cons setting settings different _ inductionHypothesis =>
      obtain ⟨name, value⟩ := setting
      cases value with
      | none => exact inductionHypothesis
      | some value =>
          have split : givenFields ((name, some value) :: settings) =
              (name, value) :: givenFields settings := rfl
          rw [split, List.map_cons, List.nodup_cons]
          refine ⟨fun member => ?_, inductionHypothesis⟩
          obtain ⟨field, inside, same⟩ := List.mem_map.mp member
          rcases different _ (mem_givenFields_iff.mp inside) same.symm with
            notGiven | notGiven
          · cases notGiven
          · cases notGiven

/-- The numbers that are given for the counts of a policy. -/
structure Counts where
  minLength : Option Numeral
  maxLength : Option Numeral
  expiration : Option Numeral
  history : Option Numeral

def switched (args : List String) (value : JsonText) :
    String × String → Setting :=
  fun (flag, field) =>
    (field, if args.contains flag then some value else none)

/-- The number is the text that is given for the flag. -/
def Writes (args : List String) (flag : String) (numeral : Option Numeral) :
    Prop :=
  (optionValue args flag).map String.toList = numeral.map Numeral.text

structure WritesCounts (args : List String) (counts : Counts) : Prop where
  minLength : Writes args "--min-length" counts.minLength
  maxLength : Writes args "--max-length" counts.maxLength
  expiration : Writes args "--expiration-days" counts.expiration
  history : Writes args "--history-count" counts.history

theorem fieldText_number {args : List String} {flag : String}
    {numeral : Option Numeral} (writes : Writes args flag numeral)
    (field : String) :
    (optionValue args flag).map (bareField field) =
      numeral.map fun numeral => fieldText (field, .number numeral) := by
  rw [Writes] at writes
  cases given : optionValue args flag with
  | none =>
      rw [given] at writes
      cases numeral with
      | none => rfl
      | some numeral => cases writes
  | some written =>
      rw [given] at writes
      cases numeral with
      | none => cases writes
      | some numeral =>
          have text : written.toList = numeral.text := Option.some.inj writes
          rw [Option.map_some, Option.map_some, fieldText, JsonText.text,
            ← text, String.ofList_toList]

theorem givenFields_append (left right : List Setting) :
    givenFields (left ++ right) = givenFields left ++ givenFields right :=
  List.filterMap_append

theorem givenFields_switched (args : List String) (value : JsonText)
    (flags : List (String × String)) :
    (givenFields (flags.map (switched args value))).map fieldText =
      flags.filterMap fun (flag, field) =>
        if args.contains flag then
          some (bareField field (String.ofList value.text))
        else
          none := by
  induction flags with
  | nil => rfl
  | cons flag flags inductionHypothesis =>
      obtain ⟨flag, field⟩ := flag
      rw [givenFields] at inductionHypothesis
      by_cases given : args.contains flag = true
      · simp only [List.map_cons, givenFields, switched, given, if_true,
          List.filterMap_cons, Option.map_some, ← inductionHypothesis]
        rfl
      · simp only [List.map_cons, givenFields, switched, given,
          Bool.false_eq_true, if_false, List.filterMap_cons, Option.map_none,
          ← inductionHypothesis]

def countSettings (counts : Counts) : List Setting :=
  [("min_length", counts.minLength.map .number),
    ("max_length", counts.maxLength.map .number),
    ("expiration_days", counts.expiration.map .number),
    ("history_count", counts.history.map .number)]

theorem givenFields_counts {args : List String} {counts : Counts}
    (writes : WritesCounts args counts) :
    (givenFields (countSettings counts)).map fieldText =
      numberFlags.filterMap fun (flag, field) =>
        (optionValue args flag).map (bareField field) := by
  obtain ⟨minimum, maximum, expiration, history⟩ := counts
  simp only [numberFlags, List.filterMap_cons,
    fieldText_number writes.minLength, fieldText_number writes.maxLength,
    fieldText_number writes.expiration, fieldText_number writes.history]
  cases minimum <;> cases maximum <;> cases expiration <;> cases history <;>
    rfl

/-- All fields that are given, in the order in which they are written. -/
def settings (args : List String) (counts : Counts) : List Setting :=
  countSettings counts ++ trueFlags.map (switched args (.bool true)) ++
    falseFlags.map (switched args (.bool false)) ++
    [("--no-expiration", "expiration_days")].map (switched args .null)

theorem passwordPolicyFields_eq {args : List String} {counts : Counts}
    (writes : WritesCounts args counts) :
    passwordPolicyFields args =
      (givenFields (settings args counts)).map fieldText := by
  have ends : (givenFields ([("--no-expiration", "expiration_days")].map
      (switched args .null))).map fieldText =
        if args.contains "--no-expiration" then
          [bareField "expiration_days" "null"]
        else
          [] := by
    rw [givenFields_switched]
    cases given : args.contains "--no-expiration" with
    | true =>
        simp only [List.filterMap_cons, List.filterMap_nil, given, if_true]
        rfl
    | false =>
        simp only [List.filterMap_cons, List.filterMap_nil, given,
          Bool.false_eq_true, if_false]
  rw [settings, givenFields_append, givenFields_append, givenFields_append,
    List.map_append, List.map_append, List.map_append,
    givenFields_counts writes, givenFields_switched, givenFields_switched,
    ends]
  rfl

/-! ## The settings of a policy that is asked for -/

theorem AsksFlag.notBoth {args : List String} {switchOn switchOff : String}
    {unset value : Bool} (asks : AsksFlag args switchOn switchOff unset value) :
    switchOn ∉ args ∨ switchOff ∉ args := by
  by_contra both
  rw [not_or, not_not, not_not] at both
  have on := asks.on (List.contains_iff_mem.mpr both.1)
  have off := asks.off (List.contains_iff_mem.mpr both.2)
  rw [on] at off
  cases off

section Policies

variable {args : List String} {counts : Counts} {policy : PasswordPolicy}

theorem AsksPolicy.expiration_apart (asks : AsksPolicy args policy)
    (writes : Writes args "--expiration-days" counts.expiration) :
    counts.expiration = none ∨ "--no-expiration" ∉ args := by
  cases given : optionValue args "--expiration-days" with
  | none =>
      rw [Writes, given] at writes
      exact .inl (Option.map_eq_none_iff.mp writes.symm)
  | some written =>
      obtain ⟨days, limited, -, -⟩ := asks.expiration written given
      refine .inr fun unlimited => ?_
      have unset := asks.noExpiration (List.contains_iff_mem.mpr unlimited)
      rw [limited] at unset
      cases unset

/-- No name is given twice. -/
theorem settings_apart (asks : AsksPolicy args policy)
    (writes : Writes args "--expiration-days" counts.expiration) :
    (settings args counts).Pairwise fun left right =>
      left.1 = right.1 → left.2 = none ∨ right.2 = none := by
  have expiration := asks.expiration_apart writes
  have uppercase := asks.uppercase.notBoth
  have lowercase := asks.lowercase.notBoth
  have number := asks.number.notBoth
  have special := asks.special.notBoth
  have change := asks.change.notBoth
  have reset := asks.reset.notBoth
  simp [settings, countSettings, trueFlags, falseFlags, switched, expiration,
    uppercase, lowercase, number, special, change, reset]

def settingNames : List String :=
  ["min_length", "max_length", "expiration_days", "history_count"] ++
    trueFlags.map Prod.snd ++ falseFlags.map Prod.snd ++ ["expiration_days"]

theorem settings_names :
    (settings args counts).map Prod.fst = settingNames := rfl

theorem value_of_switched {flags : List (String × String)} {name : String}
    {given value : JsonText}
    (member : (name, some value) ∈ flags.map (switched args given)) :
    value = given := by
  obtain ⟨⟨flag, field⟩, -, same⟩ := List.mem_map.mp member
  have values := (Prod.mk.inj same).2
  split at values
  · exact (Option.some.inj values).symm
  · cases values

/-- Every value that is given is a number or a word. -/
theorem settings_scalar {name : String} {value : JsonText}
    (member : (name, some value) ∈ settings args counts) :
    value.entries = [] ∧ value.strings = [] := by
  rw [settings, List.mem_append, List.mem_append, List.mem_append] at member
  rcases member with ((inCounts | inTrue) | inFalse) | inNull
  · have number : ∃ numeral, value = .number numeral := by
      simp only [countSettings, List.mem_cons, Prod.mk.injEq,
        List.not_mem_nil, or_false, eq_comm, Option.map_eq_some_iff] at inCounts
      rcases inCounts with ⟨-, numeral, -, same⟩ | ⟨-, numeral, -, same⟩ |
        ⟨-, numeral, -, same⟩ | ⟨-, numeral, -, same⟩ <;>
        exact ⟨numeral, same⟩
    obtain ⟨numeral, rfl⟩ := number
    exact ⟨rfl, rfl⟩
  · obtain rfl := value_of_switched inTrue
    exact ⟨rfl, rfl⟩
  · obtain rfl := value_of_switched inFalse
    exact ⟨rfl, rfl⟩
  · obtain rfl := value_of_switched inNull
    exact ⟨rfl, rfl⟩

theorem givenFields_named :
    ∀ field ∈ givenFields (settings args counts), field.1 ∈ settingNames := by
  intro field member
  rw [← @settings_names args counts]
  exact List.mem_map_of_mem (mem_givenFields_iff.mp member)

theorem policyBody_wellFormed (asks : AsksPolicy args policy)
    (writes : Writes args "--expiration-days" counts.expiration) :
    WellFormed "set_password_policy" (givenFields (settings args counts)) := by
  have named := @givenFields_named args counts
  have plain : ∀ name ∈ settingNames, NeedsNoEscape name := by decide
  have other : "type" ∉ settingNames := by decide
  refine ⟨by decide, fun field member => plain _ (named field member),
    fun field member => (settings_scalar (mem_givenFields_iff.mp member)).1, ?_⟩
  refine List.nodup_cons.mpr ⟨fun member => ?_,
    givenFields_nodup (settings_apart asks writes)⟩
  obtain ⟨field, inside, same⟩ := List.mem_map.mp member
  exact other (same ▸ named field inside)

/-! ## What the body of a policy has -/

/-- The body of a policy. -/
abbrev policyRequest (args : List String) (counts : Counts) : Document :=
  request "set_password_policy" (givenFields (settings args counts))

theorem policyRequest_stated
    (wellFormed : WellFormed "set_password_policy"
      (givenFields (settings args counts))) {name : String} {value : JsonText}
    (member : (name, some value) ∈ settings args counts) :
    (name, value.value) ∈ (policyRequest args counts).value.entries := by
  have given : (name, value) ∈ givenFields (settings args counts) :=
    mem_givenFields_iff.mpr member
  exact wellFormed.stated given

theorem policyRequest_unstated
    (wellFormed : WellFormed "set_password_policy"
      (givenFields (settings args counts))) {name : String}
    (other : name ≠ "type")
    (absent : ∀ value, (name, some value) ∉ settings args counts) :
    name ∉ (policyRequest args counts).value.entries.map Prod.fst := by
  apply wellFormed.unstated other
  intro member
  obtain ⟨field, inside, rfl⟩ := List.mem_map.mp member
  exact absent field.2 (mem_givenFields_iff.mp inside)

theorem policyRequest_shows_iff
    (wellFormed : WellFormed "set_password_policy"
      (givenFields (settings args counts))) {name : String} {value : JsonText}
    (member : (name, some value) ∈ settings args counts)
    (holds : JsonText → Prop) :
    ((policyRequest args counts).Shows name fun entry => holds entry.value) ↔
      holds value := by
  have given : (name, value) ∈ givenFields (settings args counts) :=
    mem_givenFields_iff.mpr member
  exact wellFormed.shows_iff given

/-- The switches of a flag are all that is given under its name. -/
def GivesFlag (args : List String) (counts : Counts)
    (switchOn switchOff field : String) : Prop :=
  ∀ value, (field, some value) ∈ settings args counts ↔
    switchOn ∈ args ∧ value = .bool true ∨
      switchOff ∈ args ∧ value = .bool false

def flagSwitches : List (String × String × String) :=
  [("--require-uppercase", "--no-uppercase", "require_uppercase"),
    ("--require-lowercase", "--no-lowercase", "require_lowercase"),
    ("--require-number", "--no-number", "require_number"),
    ("--require-special-character", "--no-special-character",
      "require_special_character"),
    ("--allow-password-change", "--no-password-change",
      "allow_password_change"),
    ("--allow-password-reset", "--no-password-reset", "allow_password_reset")]

theorem givesFlag_of_mem {switchOn switchOff field : String}
    (listed : (switchOn, switchOff, field) ∈ flagSwitches) :
    GivesFlag args counts switchOn switchOff field := by
  intro value
  simp only [flagSwitches, List.mem_cons, Prod.mk.injEq, List.not_mem_nil,
    or_false] at listed
  rcases listed with ⟨rfl, rfl, rfl⟩ | ⟨rfl, rfl, rfl⟩ | ⟨rfl, rfl, rfl⟩ |
    ⟨rfl, rfl, rfl⟩ | ⟨rfl, rfl, rfl⟩ | ⟨rfl, rfl, rfl⟩ <;>
    simp [settings, countSettings, trueFlags, falseFlags, switched, eq_comm]

theorem statesFlag_of_asks
    (wellFormed : WellFormed "set_password_policy"
      (givenFields (settings args counts)))
    {switchOn switchOff field : String} {unset value : Bool}
    (asks : AsksFlag args switchOn switchOff unset value)
    (listed : (switchOn, switchOff, field) ∈ flagSwitches) :
    StatesFlag (policyRequest args counts) field value ∧
      (ShowsPlainly (policyRequest args counts) field ∨ value = unset) := by
  have gives : GivesFlag args counts switchOn switchOff field :=
    givesFlag_of_mem listed
  have named : ∀ switches ∈ flagSwitches, switches.2.2 ≠ "type" := by decide
  have other : field ≠ "type" := named _ listed
  by_cases on : switchOn ∈ args
  · obtain rfl : value = true := asks.on (List.contains_iff_mem.mpr on)
    have member := (gives (.bool true)).mpr (.inl ⟨on, rfl⟩)
    exact ⟨.inl (policyRequest_stated wellFormed member),
      .inl ((policyRequest_shows_iff wellFormed member
        fun _ => True).mpr trivial)⟩
  · by_cases off : switchOff ∈ args
    · obtain rfl : value = false := asks.off (List.contains_iff_mem.mpr off)
      have member := (gives (.bool false)).mpr (.inr ⟨off, rfl⟩)
      exact ⟨.inl (policyRequest_stated wellFormed member),
        .inl ((policyRequest_shows_iff wellFormed member
          fun _ => True).mpr trivial)⟩
    · refine ⟨.inr (policyRequest_unstated wellFormed other ?_), .inr ?_⟩
      · intro given member
        rcases (gives given).mp member with ⟨inArgs, -⟩ | ⟨inArgs, -⟩
        · exact on inArgs
        · exact off inArgs
      · apply asks.neither
        · simpa using on
        · simpa using off

/-- A count of the body is the number that is given for the flag. -/
structure WritesCount (args : List String) (flag : String) (count : Nat)
    (numeral : Option Numeral) : Prop where
  writes : Writes args flag numeral
  reads : ∀ written given, optionValue args flag = some written →
    numeral = some given → ∀ read : ℤ,
      numberText (.number given) = some read ↔
        PlainCount written count ∧ read = count

theorem exists_writesCount {flag : String} {count : Nat}
    (parsed : ∀ written, optionValue args flag = some written →
      parseU64 written = some count) :
    ∃ numeral, WritesCount args flag count numeral := by
  cases given : optionValue args flag with
  | none =>
      refine ⟨none, ?_, fun written found isGiven => ?_⟩
      · rw [Writes, given]
        rfl
      · rw [given] at isGiven
        cases isGiven
  | some written =>
      obtain ⟨numeral, text, reads⟩ :=
        exists_numeral_of_parseU64 (parsed written given)
      refine ⟨some numeral, ?_, fun other found isGiven same => ?_⟩
      · rw [Writes, given, Option.map_some, Option.map_some, text]
      · rw [given] at isGiven
        obtain rfl := Option.some.inj isGiven
        obtain rfl := Option.some.inj same
        exact reads

def GivesCount (args : List String) (counts : Counts) (field : String)
    (numeral : Option Numeral) : Prop :=
  ∀ value, (field, some value) ∈ settings args counts ↔
    ∃ given, numeral = some given ∧ value = .number given

theorem tells_iff
    (wellFormed : WellFormed "set_password_policy"
      (givenFields (settings args counts)))
    {flag field : String} {unset count : Nat} {numeral : Option Numeral}
    (asks : AsksCount args flag unset count)
    (writesCount : WritesCount args flag count numeral)
    (gives : GivesCount args counts field numeral) (other : field ≠ "type") :
    Tells (policyRequest args counts) field unset count ↔
      ∀ written, optionValue args flag = some written →
        PlainCount written count ∨ count = unset := by
  have text := writesCount.writes
  rw [Writes] at text
  rw [AsksCount] at asks
  cases given : optionValue args flag with
  | none =>
      rw [given] at text asks
      have absent : numeral = none := Option.map_eq_none_iff.mp text.symm
      have unread : ∀ holds, ¬ (policyRequest args counts).Shows field holds :=
        fun holds => Document.not_shows_of_unstated
          (policyRequest_unstated wellFormed other fun value member => by
            obtain ⟨found, same, -⟩ := (gives value).mp member
            rw [absent] at same
            cases same)
      have same : count = unset := asks
      simp [Tells, unread, same]
  | some written =>
      rw [given] at text
      obtain ⟨found, same, -⟩ := Option.map_eq_some_iff.mp text.symm
      have member := (gives (.number found)).mpr ⟨found, same, rfl⟩
      have reads := writesCount.reads written found given same
      have shown : ∀ read : ℤ, ((policyRequest args counts).Shows field
          fun entry => numberText entry.value = some read) ↔
            PlainCount written count ∧ read = count := by
        intro read
        rw [policyRequest_shows_iff wellFormed member
          fun value => numberText value = some read]
        exact reads read
      simp only [Tells, shown, and_true, Option.some.injEq]
      constructor
      · rintro (plain | ⟨-, same⟩) other rfl
        · exact .inl plain
        · exact .inr same
      · intro plainOrUnset
        by_cases plain : PlainCount written count
        · exact .inl plain
        · exact .inr ⟨fun read both => plain both.1,
            (plainOrUnset written rfl).resolve_left plain⟩

/-! ## The policy that is read -/

theorem policyRequest_states (asks : AsksPolicy args policy)
    (writes : Writes args "--expiration-days" counts.expiration) :
    StatesPolicy (policyRequest args counts) policy := by
  have wellFormed := policyBody_wellFormed asks writes
  have givesExpiration : ∀ value,
      ("expiration_days", some value) ∈ settings args counts ↔
        (∃ numeral, counts.expiration = some numeral ∧
          value = .number numeral) ∨
        "--no-expiration" ∈ args ∧ value = .null := by
    intro value
    simp [settings, countSettings, trueFlags, falseFlags, switched, eq_comm]
  exact
    { uppercase :=
        (statesFlag_of_asks wellFormed asks.uppercase (by decide)).1
      lowercase :=
        (statesFlag_of_asks wellFormed asks.lowercase (by decide)).1
      number :=
        (statesFlag_of_asks wellFormed asks.number (by decide)).1
      special :=
        (statesFlag_of_asks wellFormed asks.special (by decide)).1
      change :=
        (statesFlag_of_asks wellFormed asks.change (by decide)).1
      reset :=
        (statesFlag_of_asks wellFormed asks.reset (by decide)).1
      expires := by
        intro days limited
        cases given : optionValue args "--expiration-days" with
        | none =>
            have unlimited := asks.unlimited given
            rw [limited] at unlimited
            cases unlimited
        | some written =>
            rw [Writes, given] at writes
            obtain ⟨numeral, same, -⟩ := Option.map_eq_some_iff.mp writes.symm
            have member := (givesExpiration (.number numeral)).mpr
              (.inl ⟨numeral, same, rfl⟩)
            exact ⟨numeral.value, policyRequest_stated wellFormed member⟩
      unlimited := by
        intro unlimited
        by_cases noExpiration : "--no-expiration" ∈ args
        · have member := (givesExpiration .null).mpr (.inr ⟨noExpiration, rfl⟩)
          exact .inl (policyRequest_stated wellFormed member)
        · refine .inr (policyRequest_unstated wellFormed (by decide) ?_)
          intro value member
          rcases (givesExpiration value).mp member with
            ⟨numeral, same, -⟩ | ⟨inArgs, -⟩
          · rw [Writes, same] at writes
            obtain ⟨written, given, -⟩ := Option.map_eq_some_iff.mp writes
            obtain ⟨days, limited, -, -⟩ := asks.expiration written given
            rw [unlimited] at limited
            cases limited
          · exact noExpiration inArgs
      noOtherExpiration := by
        apply policyRequest_unstated wellFormed (by decide)
        simp [settings, countSettings, trueFlags, falseFlags, switched]
      noOtherHistory := by
        apply policyRequest_unstated wellFormed (by decide)
        simp [settings, countSettings, trueFlags, falseFlags, switched] }

/-- The body of a policy is not taken for another change. -/
theorem policyRequest_silent
    (wellFormed : WellFormed "set_password_policy"
      (givenFields (settings args counts))) :
    ∀ word ∈ ["protect_route", "set_policy", "set_capability_policy",
      "set_provider_enabled", "enable_provider", "disable_provider"],
      ¬ Says (policyRequest args counts) word := by
  intro word listed
  have silent : ∀ word ∈ ["protect_route", "set_policy",
      "set_capability_policy", "set_provider_enabled", "enable_provider",
      "disable_provider"],
      ∀ text ∈ "type" :: "set_password_policy" :: settingNames,
        ¬ word.toList <:+: text.toList := by decide
  rw [wellFormed.not_says_iff rfl]
  · rintro field member ⟨spelling, inValue, -⟩
    rw [(settings_scalar (mem_givenFields_iff.mp member)).2] at inValue
    exact List.not_mem_nil inValue
  · intro text member
    apply silent word listed
    rcases List.mem_cons.mp member with rfl | member
    · exact List.mem_cons_self
    · rcases List.mem_cons.mp member with rfl | member
      · exact List.mem_cons_of_mem _ List.mem_cons_self
      · obtain ⟨field, inside, rfl⟩ := List.mem_map.mp member
        exact List.mem_cons_of_mem _
          (List.mem_cons_of_mem _ (givenFields_named field inside))

theorem AsksCount.parsed {flag : String} {unset count : Nat}
    (asks : AsksCount args flag unset count) {written : String}
    (given : optionValue args flag = some written) :
    parseU64 written = some count := by
  rwa [AsksCount, given] at asks

/-- The days are read where they are written without a sign. -/
theorem expiration_legible_iff (asks : AsksPolicy args policy)
    (wellFormed : WellFormed "set_password_policy"
      (givenFields (settings args counts)))
    (writesCount : WritesCount args "--expiration-days"
      (policy.passwordExpirationDays.getD 0) counts.expiration) :
    (∀ days, policy.passwordExpirationDays = some days →
        ((policyRequest args counts).Shows "expiration_days" fun entry =>
          numberText entry.value = some (days : ℤ)) ∧ days < 2 ^ 32) ↔
      ∀ written, optionValue args "--expiration-days" = some written →
        written.toList.head? ≠ some '+' := by
  have shown : ∀ written, optionValue args "--expiration-days" = some written →
      ∀ days, policy.passwordExpirationDays = some days →
        (((policyRequest args counts).Shows "expiration_days" fun entry =>
          numberText entry.value = some (days : ℤ)) ↔
            PlainCount written days) := by
    intro written given days limited
    have text := writesCount.writes
    rw [Writes, given] at text
    obtain ⟨numeral, same, -⟩ := Option.map_eq_some_iff.mp text.symm
    have member : ("expiration_days", some (JsonText.number numeral)) ∈
        settings args counts := by
      simp [settings, countSettings, same]
    have reads := writesCount.reads written numeral given same days
    rw [limited, Option.getD_some] at reads
    rw [policyRequest_shows_iff wellFormed member
      fun value => numberText value = some (days : ℤ), reads]
    exact and_iff_left rfl
  constructor
  · intro legible written given
    obtain ⟨days, limited, -, -⟩ := asks.expiration written given
    exact ((shown written given days limited).mp (legible days limited).1).1
  · intro plain days limited
    cases given : optionValue args "--expiration-days" with
    | none =>
        have unlimited := asks.unlimited given
        rw [limited] at unlimited
        cases unlimited
    | some written =>
        obtain ⟨asked, same, -, small⟩ := asks.expiration written given
        rw [limited] at same
        obtain rfl := Option.some.inj same
        exact ⟨(shown written given days limited).mpr
          ⟨plain written given, by omega⟩, small⟩

theorem proposalBody_policy {body : String}
    (writes : WritesCounts args counts)
    (built : proposalBody "password-policy" args = .ok body) :
    body = braced (typeField "set_password_policy" ::
      (givenFields (settings args counts)).map fieldText) := by
  rw [← passwordPolicyFields_eq writes]
  change passwordPolicyBody args = .ok body at built
  rw [passwordPolicyBody] at built
  split at built
  · cases built
  · exact (Except.ok.inj built).symm

theorem setPasswordPolicy_parse_iff {changeType body : String}
    (asks : Asks changeType args (.setPasswordPolicy policy))
    (built : proposalBody changeType args = .ok body) :
    parseAuthorityChange body = .ok (.setPasswordPolicy policy) ↔
      PlainPolicy args policy := by
  obtain ⟨rfl, asks⟩ := asks
  obtain ⟨minLength, writesMinLength⟩ :=
    exists_writesCount fun written given => asks.minLength.parsed given
  obtain ⟨maxLength, writesMaxLength⟩ :=
    exists_writesCount fun written given => asks.maxLength.parsed given
  obtain ⟨history, writesHistory⟩ :=
    exists_writesCount fun written given => asks.history.parsed given
  have daysParsed : ∀ written,
      optionValue args "--expiration-days" = some written →
        parseU64 written = some (policy.passwordExpirationDays.getD 0) := by
    intro written given
    obtain ⟨days, limited, parsed, -⟩ := asks.expiration written given
    rw [limited]
    exact parsed
  obtain ⟨expiration, writesExpiration⟩ := exists_writesCount daysParsed
  let counts : Counts := ⟨minLength, maxLength, expiration, history⟩
  have wellFormed : WellFormed "set_password_policy"
      (givenFields (settings args counts)) :=
    policyBody_wellFormed asks writesExpiration.writes
  have states : States (policyRequest args counts)
      (.setPasswordPolicy policy) :=
    policyRequest_states asks writesExpiration.writes
  have writes : WritesCounts args counts :=
    ⟨writesMinLength.writes, writesMaxLength.writes, writesExpiration.writes,
      writesHistory.writes⟩
  have same := proposalBody_policy writes built
  have givesMinLength : GivesCount args counts "min_length" minLength := by
    intro value
    simp [settings, countSettings, counts, trueFlags, falseFlags, switched,
      eq_comm]
  have givesMaxLength : GivesCount args counts "max_length" maxLength := by
    intro value
    simp [settings, countSettings, counts, trueFlags, falseFlags, switched,
      eq_comm]
  have givesHistory : GivesCount args counts "history_count" history := by
    intro value
    simp [settings, countSettings, counts, trueFlags, falseFlags, switched,
      eq_comm]
  have minLengthIff := tells_iff wellFormed asks.minLength writesMinLength
    givesMinLength (by decide)
  have maxLengthIff := tells_iff wellFormed asks.maxLength writesMaxLength
    givesMaxLength (by decide)
  have historyIff := tells_iff wellFormed asks.history writesHistory
    givesHistory (by decide)
  have expirationIff := expiration_legible_iff asks wellFormed writesExpiration
  obtain ⟨protects, sets, setsCapability, setsProvider, enables, disables, -⟩ :=
    by simpa only [List.forall_mem_cons] using policyRequest_silent wellFormed
  have said : Says (policyRequest args counts) "password_policy" :=
    (wellFormed.mentions_iff "password_policy").mpr (.inr (.inl (by decide)))
  rw [wellFormed.parse_iff states same, Legible, SaysFirst, WritesPlainly]
  constructor
  · rintro ⟨-, legible⟩
    exact ⟨minLengthIff.mp legible.minLength, maxLengthIff.mp legible.maxLength,
      historyIff.mp legible.history, expirationIff.mp legible.expiration,
      legible.valid⟩
  · intro plain
    exact ⟨⟨protects, sets, setsCapability, setsProvider, enables, disables,
      said⟩,
      { minLength := minLengthIff.mpr plain.minLength
        maxLength := maxLengthIff.mpr plain.maxLength
        expiration := expirationIff.mpr plain.expiration
        history := historyIff.mpr plain.history
        uppercase :=
          (statesFlag_of_asks wellFormed asks.uppercase (by decide)).2
        lowercase :=
          (statesFlag_of_asks wellFormed asks.lowercase (by decide)).2
        number := (statesFlag_of_asks wellFormed asks.number (by decide)).2
        special := (statesFlag_of_asks wellFormed asks.special (by decide)).2
        change := (statesFlag_of_asks wellFormed asks.change (by decide)).2
        reset := (statesFlag_of_asks wellFormed asks.reset (by decide)).2
        valid := plain.valid }⟩

end Policies

end Cli

end AuthBoundry
