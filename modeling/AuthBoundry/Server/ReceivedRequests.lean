import AuthBoundry.Server.CombinedFields

/-!
# Requests that are received as they were sent

A request that is read is the one that was sent exactly if no two of its fields
share a name, no value is trimmed, and its body has a length within the limit
and no transfer coding.
-/

namespace AuthBoundry

open Library
open scoped Library.Listed

/-! ## The head -/

theorem Method.parse_asStr (method : Method) :
    Method.parse method.asStr = some method := by
  cases method <;> decide

/-- The part of `readFrom` after the first line. -/
def readFieldsAndBody (method : Method) (target : String)
    (stream : List UInt8) : ReadResult ReceivedRequest := do
  let (lines, rest) ← readHeaders stream
  let headers := collectPairs lines
  let length :=
    min ((headers["content-length"]?.bind parseU64).getD 0) maxBodyBytes
  let (body, _) ← readExact length rest
  .ok (.assemble method target headers body)

section FirstLines

variable {stream rest : List UInt8} {line word target : String}
  {words : List String} {method : Method}

theorem readFrom_of_line (isLine : readLine stream = .ok (line, rest))
    (isWords : splitWhitespace line = word :: target :: words)
    (supported : Method.parse word = some method) :
    ReceivedRequest.readFrom stream =
      readFieldsAndBody method target rest := by
  have given : (line == "") = false := by
    rw [beq_eq_false_iff_ne]
    intro empty
    rw [empty] at isWords
    cases isWords
  unfold ReceivedRequest.readFrom
  rw [isLine, except_ok_bind]
  dsimp only
  have first : (word :: target :: words)[0]?.bind Method.parse =
      some method :=
    supported
  rw [given, isWords, first]
  rfl

theorem readFrom_eq_ok {read : ReceivedRequest}
    (found : ReceivedRequest.readFrom stream = .ok read) :
    ∃ line rest word target words method,
      readLine stream = .ok (line, rest) ∧
      splitWhitespace line = word :: target :: words ∧
      Method.parse word = some method ∧
      readFieldsAndBody method target rest = .ok read := by
  have whole := found
  obtain ⟨⟨line, rest⟩, isLine, found⟩ := except_bind_eq_ok_iff.mp found
  obtain ⟨_, found⟩ := except_check_bind_eq_ok_iff.mp found
  dsimp only at found
  rcases spelled : splitWhitespace line with
    _ | ⟨word, _ | ⟨target, words⟩⟩
  · rw [spelled] at found
    cases found
  · have first : [word][0]?.bind Method.parse = Method.parse word := rfl
    rw [spelled, first] at found
    cases supported : Method.parse word with
    | none =>
        rw [supported] at found
        cases found
    | some method =>
        rw [supported] at found
        cases found
  · cases supported : Method.parse word with
    | none =>
        have first : (word :: target :: words)[0]?.bind Method.parse = none :=
          supported
        rw [spelled, first] at found
        cases found
    | some method =>
        rw [readFrom_of_line isLine spelled supported] at whole
        exact ⟨line, rest, word, target, _, method, isLine, spelled, supported,
          whole⟩

end FirstLines

def takenLength (fields : List FieldLine) : Nat :=
  min (((lastField fields "content-length").bind fun field =>
    parseU64 (trim (fieldText field))).getD 0) maxBodyBytes

section Heads

variable {head : RequestHead} {method : Method}

theorem readLine_requestLine (wellFormed : head.WellFormed)
    (rest : List UInt8) :
    readLine (head.requestLine ++ rest) =
      .ok (String.ofList (head.method ++
        ' ' :: (head.target ++ ' ' :: ("HTTP/1.1".toList ++ lineEnd))),
          rest) := by
  have version : ∀ character ∈ ' ' :: "HTTP/1.1".toList,
      character.toNat < 128 ∧ character ≠ '\n' := by
    decide
  have plain : ∀ character ∈ head.method ++
      ' ' :: (head.target ++ ' ' :: "HTTP/1.1".toList),
        character.toNat < 128 ∧ character ≠ '\n' := by
    have visible : ∀ {character : Char},
        33 ≤ character.toNat ∧ character.toNat < 127 →
          character.toNat < 128 ∧ character ≠ '\n' := by
      intro character bounds
      refine ⟨by omega, ?_⟩
      rintro rfl
      exact absurd bounds (by decide)
    intro character member
    rcases List.mem_append.mp member with inMethod | later
    · exact visible (isTokenChar_bounds (wellFormed.method _ inMethod)).1
    · rcases List.mem_cons.mp later with isBlank | later
      · rw [isBlank]
        decide
      · rcases List.mem_append.mp later with inTarget | inVersion
        · exact visible (wellFormed.target _ inTarget)
        · exact version character inVersion
  have ret : IsAscii ['\r'] := by decide
  have empty : decodeUtf8 [] = some "" :=
    decodeUtf8_eq_some_iff.mpr (utf8_eq_nil_iff.mpr rfl).symm
  have read := @readLine_between _ ['\r'] [] rest
    (fun character member => (plain character member).1) ret
    (fun member => (plain '\n' member).2 rfl) (by decide) (by decide)
  rw [empty] at read
  have sameLine : head.requestLine ++ rest =
      asciiBytes (head.method ++
        ' ' :: (head.target ++ ' ' :: "HTTP/1.1".toList)) ++
          ([] ++ asciiBytes (['\r'] ++ ['\n'])) ++ rest := by
    unfold RequestHead.requestLine asciiBytes lineEnd
    simp
  rw [sameLine, read]
  simp [lineEnd]

theorem readFrom_head (wellFormed : head.WellFormed)
    (supported : head.method = method.asStr.toList) (rest : List UInt8) :
    ReceivedRequest.readFrom (head.bytes ++ rest) =
      readFieldsAndBody method (String.ofList head.target)
        (head.fields.flatMap FieldLine.bytes ++
          (asciiBytes lineEnd ++ rest)) := by
  have nonempty : method.asStr.toList ≠ [] := by
    cases method <;> decide
  have visible : ∀ character ∈ head.method,
      isWhitespace character = false := by
    intro character member
    exact isWhitespace_visible
      (isTokenChar_bounds (wellFormed.method _ member)).1
  have aim : ∀ character ∈ head.target, isWhitespace character = false := by
    intro character member
    exact isWhitespace_visible (wellFormed.target _ member)
  have whole : head.bytes ++ rest = head.requestLine ++
      (head.fields.flatMap FieldLine.bytes ++
        (asciiBytes lineEnd ++ rest)) := by
    unfold RequestHead.bytes
    simp only [List.append_assoc]
  have words : splitWhitespace (String.ofList (head.method ++
      ' ' :: (head.target ++ ' ' :: ("HTTP/1.1".toList ++ lineEnd)))) =
        method.asStr :: String.ofList head.target ::
          splitWhitespace (String.ofList ("HTTP/1.1".toList ++ lineEnd)) := by
    rw [splitWhitespace_word (by rw [supported]; exact nonempty) visible,
      splitWhitespace_word wellFormed.aimed aim, supported,
      String.ofList_toList]
  rw [whole]
  exact readFrom_of_line (readLine_requestLine wellFormed _) words
    method.parse_asStr

theorem readFieldsAndBody_fields (wellFormed : head.WellFormed)
    (texts : ∀ field ∈ head.fields,
      ∃ text, decodeUtf8 field.value = some text) (target : String)
    (rest : List UInt8) :
    readFieldsAndBody method target (head.fields.flatMap FieldLine.bytes ++
        (asciiBytes lineEnd ++ rest)) = (do
      let (body, _) ← readExact (takenLength head.fields) rest
      .ok (.assemble method target
        (collectPairs (head.fields.map readField)) body)) := by
  unfold readFieldsAndBody
  rw [readHeaders_fields wellFormed.fields texts, except_ok_bind]
  dsimp only
  rw [getElem?_readFields, Option.bind_map]
  simp only [takenLength, Function.comp_def]

end Heads

/-! ## The fields -/

/-- What is read is the request that was sent. -/
structure ReadAsSent (head : RequestHead) (method : Method)
    (rest : List UInt8) (read : ReceivedRequest) : Prop where
  method : read.method = method
  target : read.target = String.ofList head.target
  headers : ∀ name, read.headers[name]?.map utf8 = head.combined name
  body : ∃ length, head.bodyLength = some length ∧ length ≤ maxBodyBytes ∧
    length ≤ rest.length ∧ read.body = rest.take length

/-- No two fields share a name, no value is trimmed, and the length of the body
is within the limit. -/
structure PlainRequest (head : RequestHead) : Prop where
  single : (head.fields.map FieldLine.key).Nodup
  tight : ∀ field ∈ head.fields, trim (fieldText field) = fieldText field
  framed : ∃ length, head.bodyLength = some length ∧ length ≤ maxBodyBytes

section Fields

variable {head : RequestHead} {method : Method}

theorem headers_iff
    (texts : ∀ field ∈ head.fields,
      ∃ text, decodeUtf8 field.value = some text) :
    (∀ name, (collectPairs (head.fields.map readField))[name]?.map utf8 =
        head.combined name) ↔
      (head.fields.map FieldLine.key).Nodup ∧
        ∀ field ∈ head.fields, trim (fieldText field) = fieldText field := by
  have pairs := @collected_iff
    (head.fields.map fun field => (field.key, fieldText field))
  rw [List.map_map, List.map_map, List.map_map, List.forall_mem_map] at pairs
  have sent : head.fields.map (sentPair ∘ fun field =>
      (field.key, fieldText field)) =
        head.fields.map fun field => (field.key, field.value) := by
    apply List.map_congr_left
    intro field member
    exact congrArg _ (fieldText_bytes (texts field member))
  rw [sent] at pairs
  exact pairs

theorem decimalValue_plus (digits : List Char) :
    decimalValue ('+' :: digits) = none := by
  unfold decimalValue
  rw [if_neg (by simp), List.foldl_cons]
  induction digits with
  | nil => rfl
  | cons digit digits induction => exact induction

/-- A length within the limit is taken as it was declared. -/
theorem takenLength_framed
    (texts : ∀ field ∈ head.fields,
      ∃ text, decodeUtf8 field.value = some text)
    (single : (head.fields.map FieldLine.key).Nodup)
    (tight : ∀ field ∈ head.fields, trim (fieldText field) = fieldText field)
    {length : Nat} (framed : head.bodyLength = some length)
    (fits : length ≤ maxBodyBytes) : takenLength head.fields = length := by
  have few := List.nodup_iff_count_le_one.mp single "content-length"
  rw [List.count_eq_countP, List.countP_map,
    List.countP_eq_length_filter] at few
  change (fieldsNamed head.fields "content-length").length ≤ 1 at few
  unfold RequestHead.bodyLength at framed
  split at framed
  · match chosen : fieldsNamed head.fields "content-length" with
    | [] =>
        rw [chosen] at framed
        unfold takenLength
        rw [lastField_none chosen]
        cases framed
        rfl
    | [field] =>
        have member : field ∈ head.fields := by
          have listed : field ∈ fieldsNamed head.fields "content-length" := by
            rw [chosen]
            exact List.mem_cons_self
          exact (mem_fieldsNamed.mp listed).1
        obtain ⟨text, decoded⟩ := texts field member
        have isText : fieldText field = text := by
          unfold fieldText
          rw [decoded]
          rfl
        have number : decimalValue text.toList = some length := by
          rw [chosen] at framed
          simpa [RequestHead.numberOf, decoded] using framed
        have parsed : parseU64 text = some length := by
          have small : length < 2 ^ 64 := by
            unfold maxBodyBytes at fits
            omega
          unfold parseU64
          dsimp only
          split
          · rename_i digits plus
            rw [plus, decimalValue_plus] at number
            cases number
          · rw [number, Option.bind_some, if_pos small]
        unfold takenLength
        rw [lastField_single chosen, Option.bind_some, tight field member,
          isText, parsed, Option.getD_some]
        exact Nat.min_eq_left fits
    | first :: second :: others =>
        rw [chosen] at few
        simp only [List.length_cons] at few
        omega
  · cases framed

theorem readAsSent_iff (wellFormed : head.WellFormed)
    (supported : head.method = method.asStr.toList) (rest : List UInt8) :
    (∀ read, ReceivedRequest.readFrom (head.bytes ++ rest) = .ok read →
        ReadAsSent head method rest read) ↔
      (∃ field ∈ head.fields, decodeUtf8 field.value = none) ∨
        rest.length < takenLength head.fields ∨ PlainRequest head := by
  rw [readFrom_head wellFormed supported]
  by_cases broken : ∃ field ∈ head.fields, decodeUtf8 field.value = none
  · obtain ⟨field, member, undecodable⟩ := broken
    obtain ⟨failure, failed⟩ :=
      readHeaders_broken wellFormed.fields member undecodable rest
    unfold readFieldsAndBody
    rw [failed]
    constructor
    · intro _
      exact .inl ⟨field, member, undecodable⟩
    · intro _ read impossible
      cases impossible
  have texts : ∀ field ∈ head.fields,
      ∃ text, decodeUtf8 field.value = some text := by
    intro field member
    cases value : decodeUtf8 field.value with
    | none => exact (broken ⟨field, member, value⟩).elim
    | some text => exact ⟨text, rfl⟩
  rw [readFieldsAndBody_fields wellFormed texts]
  rcases readExact_cases (takenLength head.fields) rest with
    ⟨body, after, found, whole, length⟩ | ⟨short, message, failed⟩
  · have taken : body = rest.take (takenLength head.fields) := by
      rw [whole, ← length, List.take_left]
    rw [found, except_ok_bind]
    dsimp only
    constructor
    · intro asSent
      have read := asSent _ rfl
      obtain ⟨single, tight⟩ := (headers_iff texts).mp read.headers
      obtain ⟨length, framed, fits, _⟩ := read.body
      exact .inr (.inr ⟨single, tight, length, framed, fits⟩)
    · rintro (impossible | short | plain) read isRead
      · exact (broken impossible).elim
      · have lengths := congrArg List.length whole
        rw [List.length_append] at lengths
        omega
      · cases isRead
        obtain ⟨length, framed, fits⟩ := plain.framed
        have same := takenLength_framed texts plain.single plain.tight framed
          fits
        refine ⟨rfl, rfl, ?_, length, framed, fits, ?_, ?_⟩
        · exact (headers_iff texts).mpr ⟨plain.single, plain.tight⟩
        · rw [← same, whole, List.length_append]
          omega
        · rw [← same]
          exact taken
  · rw [failed]
    constructor
    · intro _
      exact .inr (.inl short)
    · intro _ read impossible
      cases impossible

end Fields

end AuthBoundry
