import AuthBoundry.Server.ForwardedBodies

/-!
# Query strings

The query of a forwarded request is written from the map that the boundary has
read.  Every byte of a name or a value is a letter that is left alone or an
escape, so that none of them is taken for a separator, and reading the text
gives the map again.
-/

namespace AuthBoundry

open Library

namespace UpstreamProxy

/-- What one byte of a name or a value is written as. -/
def encodedByte (byte : UInt8) : List Char :=
  if keptInQuery byte then
    [Char.ofNat byte.toNat]
  else
    '%' :: (hexDigits 2 byte.toNat).map Char.toUpper

/-- What follows the question mark in a forwarded target. -/
def queryString (query : KeyedMap String String) : String :=
  "&".intercalate (query.toList.map fun (name, value) =>
    percentEncode name ++ "=" ++ percentEncode value)

/-- The characters with a meaning of their own in a target or a query. -/
def separators : List Char := ['?', '&', '=', '+']

theorem percentEncode_toList (value : String) :
    (percentEncode value).toList = (utf8 value).flatMap encodedByte := by
  unfold percentEncode
  rw [String.toList_ofList]
  rfl

theorem kept_plain : ∀ code < 256, keptInQuery (UInt8.ofNat code) = true →
    (Char.ofNat code).toNat = code ∧ code < 128 ∧ code ≠ 0x25 ∧
      Char.ofNat code ∉ separators := by
  decide +kernel

theorem plain_of_kept {byte : UInt8} (kept : keptInQuery byte = true) :
    (Char.ofNat byte.toNat).toNat = byte.toNat ∧ byte.toNat < 128 ∧
      byte.toNat ≠ 0x25 ∧ Char.ofNat byte.toNat ∉ separators := by
  apply kept_plain byte.toNat byte.toNat_lt
  rw [UInt8.ofNat_toNat]
  exact kept

theorem digit_plain : ∀ digit < 16,
    (Nat.digitChar digit).toUpper.toNat < 128 ∧
      (Nat.digitChar digit).toUpper ∉ separators ∧
      hexValue (UInt8.ofNat (Nat.digitChar digit).toUpper.toNat) =
        some digit := by
  decide

theorem encodedByte_kept {byte : UInt8} (kept : keptInQuery byte = true) :
    encodedByte byte = [Char.ofNat byte.toNat] := if_pos kept

theorem encodedByte_escaped {byte : UInt8} (other : ¬keptInQuery byte = true) :
    encodedByte byte =
      ['%', (Nat.digitChar (byte.toNat / 16 % 16)).toUpper,
        (Nat.digitChar (byte.toNat % 16)).toUpper] := if_neg other

theorem plain_of_mem_encodedByte {byte : UInt8} {character : Char}
    (member : character ∈ encodedByte byte) :
    character.toNat < 128 ∧ character ∉ separators := by
  by_cases kept : keptInQuery byte = true
  · rw [encodedByte_kept kept, List.mem_singleton] at member
    obtain ⟨code, ascii, _, apart⟩ := plain_of_kept kept
    rw [member]
    exact ⟨by omega, apart⟩
  · rw [encodedByte_escaped kept] at member
    have digit := fun number => digit_plain (number % 16)
      (Nat.mod_lt number (by decide))
    rcases member with _ | ⟨_, _ | ⟨_, _ | ⟨_, none⟩⟩⟩
    · decide
    · exact ⟨(digit _).1, (digit _).2.1⟩
    · exact ⟨(digit _).1, (digit _).2.1⟩
    · cases none

theorem plain_of_mem_percentEncode {value : String} {character : Char}
    (member : character ∈ (percentEncode value).toList) :
    character.toNat < 128 ∧ character ∉ separators := by
  rw [percentEncode_toList] at member
  obtain ⟨byte, _, written⟩ := List.mem_flatMap.mp member
  exact plain_of_mem_encodedByte written

theorem separator_notMem_percentEncode {separator : Char}
    (separates : separator ∈ separators) (value : String) :
    separator ∉ (percentEncode value).toList := by
  intro member
  exact (plain_of_mem_percentEncode member).2 separates

/-! ## Names and values -/

theorem percentDecodeBytes_cons {byte : UInt8} (plain : byte ≠ 0x25)
    (rest : List UInt8) :
    percentDecodeBytes (byte :: rest) = byte :: percentDecodeBytes rest := by
  rcases rest with _ | ⟨high, _ | ⟨low, rest⟩⟩
  · rfl
  · rfl
  · rw [percentDecodeBytes, if_neg (by simpa using plain)]

theorem percentDecodeBytes_encodedByte (byte : UInt8) (rest : List UInt8) :
    percentDecodeBytes (asciiBytes (encodedByte byte) ++ rest) =
      byte :: percentDecodeBytes rest := by
  by_cases kept : keptInQuery byte = true
  · obtain ⟨code, _, unlike, _⟩ := plain_of_kept kept
    have single : asciiBytes (encodedByte byte) = [byte] := by
      rw [encodedByte_kept kept]
      unfold asciiBytes
      rw [List.map_singleton, code, UInt8.ofNat_toNat]
    have apart : byte ≠ 0x25 := by
      intro same
      exact unlike (congrArg UInt8.toNat same)
    rw [single, List.singleton_append, percentDecodeBytes_cons apart]
  · have high := (digit_plain (byte.toNat / 16 % 16)
      (Nat.mod_lt _ (by decide))).2.2
    have low := (digit_plain (byte.toNat % 16)
      (Nat.mod_lt _ (by decide))).2.2
    have below := byte.toNat_lt
    have number : 16 * (byte.toNat / 16 % 16) + byte.toNat % 16 =
        byte.toNat := by omega
    rw [encodedByte_escaped kept]
    unfold asciiBytes
    simp only [List.map_cons, List.map_nil, List.cons_append, List.nil_append]
    rw [percentDecodeBytes, if_pos (by rfl)]
    simp only [high, low, number, UInt8.ofNat_toNat]

/-- A name or a value is read as what was written. -/
theorem percentDecode_percentEncode (value : String) :
    percentDecode (percentEncode value) = value := by
  have ascii : IsAscii ((utf8 value).flatMap encodedByte) := by
    intro character member
    rw [← percentEncode_toList] at member
    exact (plain_of_mem_percentEncode member).1
  have unspaced : replaceChar '+' " " (percentEncode value) =
      percentEncode value := by
    apply String.toList_inj.mp
    unfold replaceChar
    rw [String.toList_ofList]
    have same : ∀ character ∈ (percentEncode value).toList,
        (if character == '+' then " ".toList else [character]) =
          [character] := by
      intro character member
      rw [if_neg]
      rw [beq_iff_eq]
      rintro rfl
      exact separator_notMem_percentEncode (by decide) value member
    rw [List.flatMap_congr same, List.flatMap_singleton']
  have decoded : ∀ bytes : List UInt8,
      percentDecodeBytes (asciiBytes (bytes.flatMap encodedByte)) = bytes := by
    intro bytes
    induction bytes with
    | nil => rfl
    | cons byte bytes induction =>
        have parts : asciiBytes ((byte :: bytes).flatMap encodedByte) =
            asciiBytes (encodedByte byte) ++
              asciiBytes (bytes.flatMap encodedByte) := List.map_append
        rw [parts, percentDecodeBytes_encodedByte, induction]
  have written : percentEncode value =
      String.ofList ((utf8 value).flatMap encodedByte) := rfl
  unfold percentDecode
  rw [unspaced, written, utf8_ascii ascii, decoded, fromUtf8Lossy_utf8]

/-! ## The whole query -/

theorem isWhitespace_of_isBlank {text : String} (blank : isBlank text = true)
    {character : Char} (member : character ∈ text.toList) :
    isWhitespace character = true := by
  have nothing := List.reverse_eq_nil_iff.mp (List.isEmpty_iff.mp blank)
  rw [List.dropWhile_eq_nil_iff] at nothing
  rw [← List.takeWhile_append_dropWhile (p := isWhitespace)
    (l := text.toList), List.mem_append] at member
  rcases member with first | later
  · exact List.mem_takeWhile_imp first
  · exact nothing character (List.mem_reverse.mpr later)

/-- One pair as it is written. -/
def queryPart (pair : String × String) : String :=
  percentEncode pair.1 ++ "=" ++ percentEncode pair.2

theorem queryPart_toList (pair : String × String) :
    (queryPart pair).toList = (percentEncode pair.1).toList ++
      '=' :: (percentEncode pair.2).toList := by
  unfold queryPart
  rw [String.toList_append, String.toList_append, List.append_assoc]
  rfl

theorem ampersand_notMem_queryPart (pair : String × String) :
    '&' ∉ (queryPart pair).toList := by
  rw [queryPart_toList, List.mem_append, List.mem_cons, not_or, not_or]
  refine ⟨separator_notMem_percentEncode (by decide) pair.1, by decide,
    separator_notMem_percentEncode (by decide) pair.2⟩

theorem splitOnce_queryPart (pair : String × String) :
    splitOnce '=' (queryPart pair) =
      some (percentEncode pair.1, percentEncode pair.2) :=
  splitOnce_append (separator_notMem_percentEncode (by decide) pair.1) _

/-- The equals sign makes a written pair visible. -/
theorem isBlank_queryPart (pair : String × String) :
    isBlank (queryPart pair) = false := by
  apply Bool.eq_false_iff.mpr
  intro blank
  have equals : '=' ∈ (queryPart pair).toList := by
    rw [queryPart_toList]
    exact List.mem_append_right _ List.mem_cons_self
  cases isWhitespace_of_isBlank blank equals

/-- Written pairs are read as they were. -/
theorem pairsOf_queryParts (pairs : List (String × String)) :
    pairsOf (pairs.map queryPart) = pairs := by
  induction pairs with
  | nil => rfl
  | cons pair pairs induction =>
      unfold pairsOf at induction ⊢
      rw [List.map_cons, List.filter_cons_of_pos
        (by rw [isBlank_queryPart]; rfl), List.filterMap_cons_some
        (splitOnce_queryPart pair), List.map_cons, induction]
      simp only [percentDecode_percentEncode]

theorem splitParts_queryString {query : KeyedMap String String}
    (nonempty : query.toList ≠ []) :
    splitParts '&' (queryString query) = query.toList.map queryPart := by
  have text : queryString query =
      "&".intercalate (query.toList.map queryPart) := rfl
  have apart : ∀ part ∈ (query.toList.map queryPart).map String.toList,
      '&' ∉ part := by
    intro part member
    rw [List.map_map] at member
    obtain ⟨pair, _, rfl⟩ := List.mem_map.mp member
    exact ampersand_notMem_queryPart pair
  have filled : (query.toList.map queryPart).map String.toList ≠ [] := by
    simpa using nonempty
  have cut : (queryString query).toList.splitOn '&' =
      (query.toList.map queryPart).map String.toList := by
    rw [text, String.toList_intercalate]
    exact List.splitOn_intercalate '&' apart filled
  unfold splitParts
  rw [cut, List.map_map, List.map_map]
  apply List.map_congr_left
  intro pair _
  exact String.ofList_toList

theorem parseForm_queryString (query : KeyedMap String String) :
    parseForm (queryString query) = query := by
  rw [parseForm_eq]
  by_cases empty : query.toList = []
  · have text : queryString query = "" := by
      unfold queryString
      rw [empty]
      rfl
    have same := collectPairs_toList query
    rw [empty] at same
    rw [text]
    exact same
  · rw [splitParts_queryString empty, pairsOf_queryParts,
      collectPairs_toList]

theorem targetOf_eq (request : BoundaryRequest) :
    targetOf request = if request.query.isEmpty then request.path
      else request.path ++ "?" ++ queryString request.query := rfl

/-- The upstream application reads the path and the map that the boundary has
authorized on. -/
theorem splitTarget_targetOf {request : BoundaryRequest}
    (plain : '?' ∉ request.path.toList) :
    splitTarget (targetOf request) = (request.path, request.query) := by
  unfold splitTarget
  rw [targetOf_eq]
  by_cases empty : request.query.isEmpty
  · rw [if_pos empty, splitOnce_eq_none plain,
      Std.ExtTreeMap.isEmpty_iff.mp empty]
  · have cut : splitOnce '?' (request.path ++ "?" ++
        queryString request.query) =
        some (request.path, queryString request.query) :=
      splitOnce_append plain _
    rw [if_neg empty, cut]
    simp only [parseForm_queryString]

/-- The parameters are those the boundary has read, in the query that is
written and in the target that is received. -/
theorem query_returns (request : BoundaryRequest) :
    parseForm (queryString request.query) = request.query ∧
      targetOf request = (if request.query.isEmpty then request.path
        else request.path ++ "?" ++ queryString request.query) ∧
      ('?' ∉ request.path.toList →
        splitTarget (targetOf request) = (request.path, request.query)) := by
  refine ⟨parseForm_queryString request.query, targetOf_eq request, ?_⟩
  intro plain
  exact splitTarget_targetOf plain

end UpstreamProxy

end AuthBoundry
