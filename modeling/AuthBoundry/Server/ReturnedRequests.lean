import AuthBoundry.Server.WrittenRequests

/-!
# What the reader and the writers agree on

A request is received as it was sent exactly if it is plain or is refused, and a
request that the client writes is given back exactly if it can be written.
-/

namespace AuthBoundry

open Library
open scoped Library.Listed

/-- Reading gives the written request back, with all fields that were
written. -/
structure GivenBack (request : ClientRequest) (host : String)
    (read : ReceivedRequest) : Prop where
  method : read.method = request.method
  target : read.target = request.path
  headers : ∀ name, read.headers[name]?.map utf8 =
    combineFields ((request.writtenFields host).map fun field =>
      (asciiLower field.1, utf8 field.2)) name
  body : read.body = request.body

/-- Nothing in the request is taken for a separator or trimmed, no two fields
share a name, and the body is within the limit. -/
structure WritableRequest (request : ClientRequest) (host : String) : Prop where
  aimed : request.path ≠ ""
  path : ∀ character ∈ request.path.toList, isWhitespace character = false
  fields : ∀ field ∈ request.writtenFields host, UnseparatedField field
  tight : ∀ field ∈ request.writtenFields host, trim field.2 = field.2
  single : ((request.writtenFields host).map fun field =>
    asciiLower field.1).Nodup
  body : request.body.length ≤ maxBodyBytes

section Writing

variable {request : ClientRequest} {host : String}

/-- The first line without its last character. -/
def firstLine (request : ClientRequest) : String :=
  String.ofList (request.method.asStr.toList ++
    ' ' :: (request.path.toList ++ ' ' :: ("HTTP/1.1".toList ++ ['\r'])))

theorem written_eq (request : ClientRequest) (host : String) :
    request.written host = utf8 (firstLine request ++ "\n") ++
      ((request.writtenFields host).flatMap (fun field =>
        utf8 (writtenLine field)) ++ (utf8 "\r\n" ++ request.body)) := by
  have first : s!"{request.method.asStr} {request.path} HTTP/1.1\r\n" =
      firstLine request ++ "\n" := by
    change request.method.asStr ++ " " ++ request.path ++ " HTTP/1.1\r\n" = _
    rw [← String.toList_inj]
    simp [firstLine]
  have joined : ∀ lines : List String,
      utf8 (String.join lines) = lines.flatMap utf8 := by
    intro lines
    induction lines with
    | nil => exact utf8_eq_nil_iff.mpr rfl
    | cons line lines induction =>
        rw [String.join_cons, utf8_append, induction, List.flatMap_cons]
  unfold ClientRequest.written ClientRequest.writtenHead
  rw [first, utf8_append, utf8_append, joined, List.flatMap_map,
    List.append_assoc, List.append_assoc]

theorem readLine_firstLine
    (path : ∀ character ∈ request.path.toList, isWhitespace character = false)
    (rest : List UInt8) :
    readLine (utf8 (firstLine request ++ "\n") ++ rest) =
      .ok (firstLine request ++ "\n", rest) := by
  apply readLine_text
  unfold firstLine
  rw [String.toList_ofList]
  intro member
  rcases List.mem_append.mp member with inMethod | later
  · have plain : '\n' ∉ request.method.asStr.toList := by
      cases request.method <;> decide
    exact plain inMethod
  · rcases List.mem_cons.mp later with isBlank | later
    · exact absurd isBlank (by decide)
    · rcases List.mem_append.mp later with inPath | later
      · exact absurd (path '\n' inPath) (by decide)
      · exact absurd later (by decide)

theorem words_firstLine (aimed : request.path ≠ "")
    (path : ∀ character ∈ request.path.toList,
      isWhitespace character = false) :
    ∃ words, splitWhitespace (firstLine request ++ "\n") =
      request.method.asStr :: request.path :: words := by
  have method : request.method.asStr.toList ≠ [] ∧
      ∀ character ∈ request.method.asStr.toList,
        isWhitespace character = false := by
    cases request.method <;> decide
  have given : request.path.toList ≠ [] := by
    intro empty
    exact aimed (String.toList_inj.mp empty)
  have whole : firstLine request ++ "\n" =
      String.ofList (request.method.asStr.toList ++
        ' ' :: (request.path.toList ++
          ' ' :: ("HTTP/1.1".toList ++ lineEnd))) := by
    rw [← String.toList_inj]
    simp [firstLine, lineEnd]
  rw [whole, splitWhitespace_word method.1 method.2,
    splitWhitespace_word given path, String.ofList_toList,
    String.ofList_toList]
  exact ⟨_, rfl⟩

/-- The fields that are written, by their names in lower case. -/
def loweredFields (request : ClientRequest) (host : String) :
    List (String × String) :=
  (request.writtenFields host).map fun field => (asciiLower field.1, field.2)

theorem declaredLength_written (request : ClientRequest) (host : String) :
    (collectPairs ((loweredFields request host).map readPair))[
        "content-length"]?.bind parseU64 =
      if request.body.length < 2 ^ 64 then some request.body.length
      else none := by
  have last : (loweredFields request host).reverse.find? (fun pair =>
      pair.1 == "content-length") =
        some ("content-length", toString request.body.length) := by
    have connection : asciiLower "connection" = "connection" := by decide
    have contentLength : asciiLower "content-length" = "content-length" := by
      decide
    have other : ("connection" == "content-length") = false := by decide
    unfold loweredFields ClientRequest.writtenFields
    rw [List.map_cons, List.map_append, List.reverse_cons,
      List.reverse_append, List.map_cons, List.map_cons, List.map_nil]
    simp [connection, contentLength, other]
  rw [getElem?_readPairs, last, Option.map_some, Option.bind_some]
  dsimp only
  rw [trim_decimal, parseU64_decimal]

theorem readFrom_written (aimed : request.path ≠ "")
    (path : ∀ character ∈ request.path.toList, isWhitespace character = false)
    (unseparated : ∀ field ∈ request.writtenFields host,
      UnseparatedField field) :
    ReceivedRequest.readFrom (request.written host) = (do
      let (body, _) ← readExact
        (min ((if request.body.length < 2 ^ 64 then some request.body.length
          else none).getD 0) maxBodyBytes) request.body
      .ok (.assemble request.method request.path
        (collectPairs ((loweredFields request host).map readPair)) body)) := by
  obtain ⟨words, isWords⟩ := words_firstLine aimed path
  rw [written_eq, readFrom_of_line (readLine_firstLine path _) isWords
    request.method.parse_asStr]
  unfold readFieldsAndBody
  rw [readHeaders_written unseparated, except_ok_bind]
  dsimp only
  change (do
    let (body, _) ← readExact
      (min ((((collectPairs ((loweredFields request host).map readPair))[
        "content-length"]?).bind parseU64).getD 0) maxBodyBytes) request.body
    .ok (ReceivedRequest.assemble request.method request.path
      (collectPairs ((loweredFields request host).map readPair)) body)) = _
  rw [declaredLength_written]

theorem loweredFields_names :
    (loweredFields request host).map Prod.fst =
      (request.writtenFields host).map fun field => asciiLower field.1 := by
  unfold loweredFields
  rw [List.map_map]
  rfl

theorem loweredFields_sent :
    (loweredFields request host).map sentPair =
      (request.writtenFields host).map fun field =>
        (asciiLower field.1, utf8 field.2) := by
  unfold loweredFields
  rw [List.map_map]
  rfl

theorem givenBack_of_writable (writable : WritableRequest request host) :
    ∃ read, ReceivedRequest.readFrom (request.written host) = .ok read ∧
      GivenBack request host read := by
  have small : request.body.length < 2 ^ 64 := by
    have fits := writable.body
    unfold maxBodyBytes at fits
    omega
  have whole := readExact_append request.body []
  rw [List.append_nil] at whole
  rw [readFrom_written writable.aimed writable.path writable.fields,
    if_pos small, Option.getD_some, Nat.min_eq_left writable.body, whole,
    except_ok_bind]
  refine ⟨_, rfl, rfl, rfl, ?_, rfl⟩
  have combined := (@collected_iff (loweredFields request host)).mpr
    ⟨by rw [loweredFields_names]; exact writable.single, ?_⟩
  · rw [loweredFields_sent] at combined
    exact combined
  · intro pair member
    obtain ⟨field, inFields, rfl⟩ := List.mem_map.mp member
    exact writable.tight field inFields

theorem mem_intercalate {separator value : List UInt8}
    {values : List (List UInt8)} (member : value ∈ values) {byte : UInt8}
    (inValue : byte ∈ value) : byte ∈ List.intercalate separator values := by
  induction values with
  | nil => cases member
  | cons first rest induction =>
      cases rest with
      | nil =>
          rw [List.mem_singleton.mp member] at inValue
          rwa [List.intercalate_singleton]
      | cons second rest =>
          rw [List.intercalate_cons_cons, List.mem_append, List.mem_append]
          rcases List.mem_cons.mp member with same | later
          · rw [same] at inValue
            exact .inl (.inl inValue)
          · exact .inr (induction later)

/-- The bytes of a field are among those of the combined value. -/
theorem combineFields_member {pairs : List (String × String)}
    {pair : String × String} (member : pair ∈ pairs) :
    ∃ whole, combineFields (pairs.map sentPair) pair.1 = some whole ∧
      ∀ byte ∈ utf8 pair.2, byte ∈ whole := by
  have listed : utf8 pair.2 ∈
      (pairs.filter fun other => other.1 == pair.1).map fun other =>
        utf8 other.2 :=
    List.mem_map.mpr ⟨pair,
      List.mem_filter.mpr ⟨member, beq_self_eq_true pair.1⟩, rfl⟩
  rw [combineFields_sentPairs]
  split
  · rename_i none
    rw [none] at listed
    cases listed
  · rename_i values _
    exact ⟨_, rfl, fun byte => mem_intercalate listed⟩

theorem splitOnP_parts {α : Type} {mark : α → Bool} (text : List α) :
    ∀ part ∈ text.splitOnP mark, ∀ item ∈ part, mark item = false := by
  induction text with
  | nil =>
      intro part member item inPart
      rw [List.splitOnP_nil] at member
      rw [List.mem_singleton.mp member] at inPart
      cases inPart
  | cons first rest induction =>
      rw [List.splitOnP_cons_eq_if_modifyHead]
      split
      · intro part member item inPart
        rcases List.mem_cons.mp member with empty | later
        · rw [empty] at inPart
          cases inPart
        · exact induction part later item inPart
      · rename_i other
        cases parts : rest.splitOnP mark with
        | nil => exact (List.splitOnP_ne_nil mark rest parts).elim
        | cons head tail =>
            rw [parts] at induction
            obtain ⟨inHead, inTail⟩ := List.forall_mem_cons.mp induction
            rw [List.modifyHead_cons]
            refine List.forall_mem_cons.mpr ⟨?_, inTail⟩
            refine List.forall_mem_cons.mpr ⟨?_, inHead⟩
            exact Bool.eq_false_of_not_eq_true other

theorem mem_splitWhitespace {text word : String}
    (member : word ∈ splitWhitespace text) :
    word ≠ "" ∧ ∀ character ∈ word.toList, isWhitespace character = false := by
  unfold splitWhitespace at member
  obtain ⟨characters, inParts, rfl⟩ := List.mem_map.mp member
  obtain ⟨inSplit, nonempty⟩ := List.mem_filter.mp inParts
  constructor
  · intro empty
    have isNil := congrArg String.toList empty
    rw [String.toList_ofList] at isNil
    rw [isNil] at nonempty
    cases nonempty
  · rw [String.toList_ofList]
    exact splitOnP_parts text.toList characters inSplit

theorem trim_of_lower {text : String}
    (tight : asciiLower (trim text) = asciiLower text) : trim text = text := by
  have lengths := congrArg (fun lowered => lowered.toList.length) tight
  unfold asciiLower trim at lengths
  simp only [String.toList_ofList, List.length_map] at lengths
  unfold trim
  rw [(trimList_sublist text.toList).eq_of_length lengths,
    String.ofList_toList]

theorem unseparated_of_givenBack {read : ReceivedRequest}
    (found : ReceivedRequest.readFrom (request.written host) = .ok read)
    (back : GivenBack request host read) :
    (request.path ≠ "" ∧
      ∀ character ∈ request.path.toList, isWhitespace character = false) ∧
      ∀ field ∈ request.writtenFields host, UnseparatedField field := by
  obtain ⟨line, rest, word, target, words, method, _, isWords, _, found⟩ :=
    readFrom_eq_ok found
  unfold readFieldsAndBody at found
  obtain ⟨⟨lines, after⟩, isLines, found⟩ := except_bind_eq_ok_iff.mp found
  obtain ⟨⟨body, last⟩, _, found⟩ := except_bind_eq_ok_iff.mp found
  cases found
  constructor
  · have isTarget : target = request.path := back.target
    rw [← isTarget]
    apply mem_splitWhitespace
    rw [isWords]
    exact List.mem_cons_of_mem _ List.mem_cons_self
  · intro field member
    have lowered : (asciiLower field.1, field.2) ∈ loweredFields request host :=
      List.mem_map_of_mem member
    obtain ⟨whole, combined, bytes⟩ := combineFields_member lowered
    rw [loweredFields_sent] at combined
    have stored := (back.headers (asciiLower field.1)).trans combined
    obtain ⟨value, isValue, isWhole⟩ := Option.map_eq_some_iff.mp stored
    have isHeader : (asciiLower field.1, value) ∈ lines :=
      mem_of_collectPairs isValue
    have headers : HeaderLines rest lines after := by
      rcases readHeaders_cases rest with
        ⟨headers, ended, isRead, isHeaders⟩ | ⟨message, failed⟩
      · rw [isLines] at isRead
        cases isRead
        exact isHeaders
      · rw [isLines] at failed
        cases failed
    obtain ⟨⟨colon, feed, tight⟩, single⟩ :=
      headerLines_bounds headers _ isHeader
    dsimp only at colon feed tight single
    rw [mem_asciiLower (by decide)] at colon feed
    rw [trim_asciiLower] at tight
    refine ⟨⟨colon, feed, ?_⟩, ?_⟩
    · exact trim_of_lower tight
    · intro inValue
      have inWhole := bytes _ (feed_mem_utf8.mpr inValue)
      rw [← isWhole, feed_mem_utf8] at inWhole
      exact single inWhole

theorem givenBack_iff :
    (∃ read, ReceivedRequest.readFrom (request.written host) = .ok read ∧
      GivenBack request host read) ↔ WritableRequest request host := by
  constructor
  · intro ⟨read, found, back⟩
    obtain ⟨⟨aimed, path⟩, unseparated⟩ := unseparated_of_givenBack found back
    rw [readFrom_written aimed path unseparated] at found
    obtain ⟨⟨body, last⟩, isBody, found⟩ := except_bind_eq_ok_iff.mp found
    cases found
    have combined := back.headers
    rw [← loweredFields_sent] at combined
    obtain ⟨single, tight⟩ := collected_iff.mp combined
    rw [loweredFields_names] at single
    have length := (readExact_eq_ok isBody).2
    have isWhole : body = request.body := back.body
    rw [isWhole] at length
    refine ⟨aimed, path, unseparated, ?_, single, ?_⟩
    · intro field member
      have lowered : (asciiLower field.1, field.2) ∈
          loweredFields request host := List.mem_map_of_mem member
      have kept := tight _ lowered
      exact kept
    · rw [length]
      exact Nat.min_le_right _ _
  · exact givenBack_of_writable

end Writing

/-! ## All requests -/

/-- A request is received as it was sent exactly if it is plain or is refused,
and a written request is given back exactly if it can be written. -/
theorem readFrom_faithful_iff {head : RequestHead} {method : Method}
    (wellFormed : head.WellFormed)
    (supported : head.method = method.asStr.toList) (rest : List UInt8)
    (request : ClientRequest) (host : String) :
    ((∀ read, ReceivedRequest.readFrom (head.bytes ++ rest) = .ok read →
          ReadAsSent head method rest read) ↔
        (∃ field ∈ head.fields, decodeUtf8 field.value = none) ∨
          rest.length < takenLength head.fields ∨ PlainRequest head) ∧
      ((∃ read, ReceivedRequest.readFrom (request.written host) = .ok read ∧
          GivenBack request host read) ↔ WritableRequest request host) := by
  constructor
  · exact readAsSent_iff wellFormed supported rest
  · exact givenBack_iff

/-- A request that brings a body of two bytes. -/
def postedRequest : RequestHead where
  method := "POST".toList
  target := "/invoices".toList
  fields :=
    [{ name := "Host".toList
       before := [' ']
       value := asciiBytes "app:8080".toList
       after := [] },
      { name := "Content-Length".toList
        before := [' ']
        value := asciiBytes "2".toList
        after := [' '] }]

theorem postedRequest_wellFormed : postedRequest.WellFormed where
  method := by decide
  aimed := by decide
  target := by decide
  fields := by
    intro field member
    rcases List.mem_pair.mp member with rfl | rfl <;>
      constructor <;> decide

theorem postedRequest_texts : ∀ field ∈ postedRequest.fields,
    ∃ text, decodeUtf8 field.value = some text ∧ trim text = text := by
  intro field member
  rcases List.mem_pair.mp member with rfl | rfl
  · exact ⟨_, decodeUtf8_ascii (by decide), by decide⟩
  · exact ⟨_, decodeUtf8_ascii (by decide), by decide⟩

theorem postedRequest_plain : PlainRequest postedRequest where
  single := by decide
  tight := by
    intro field member
    obtain ⟨text, decoded, tight⟩ := postedRequest_texts field member
    rw [fieldText, decoded]
    exact tight
  framed := ⟨2, by decide, by decide⟩

/-- It is read, with its fields and its body. -/
theorem postedRequest_received :
    ∃ read, ReceivedRequest.readFrom
        (postedRequest.bytes ++ asciiBytes "hi".toList) = .ok read ∧
      ReadAsSent postedRequest .post (asciiBytes "hi".toList) read := by
  have texts : ∀ field ∈ postedRequest.fields,
      ∃ text, decodeUtf8 field.value = some text := by
    intro field member
    obtain ⟨text, decoded, _⟩ := postedRequest_texts field member
    exact ⟨text, decoded⟩
  have isPost : postedRequest.method = Method.post.asStr.toList := rfl
  have read := readFrom_head postedRequest_wellFormed isPost
    (asciiBytes "hi".toList)
  have taken := takenLength_framed texts postedRequest_plain.single
    postedRequest_plain.tight (by decide : _ = some 2) (by decide)
  rw [readFieldsAndBody_fields postedRequest_wellFormed texts, taken] at read
  refine ⟨_, read, ?_⟩
  exact (readFrom_faithful_iff postedRequest_wellFormed isPost
    (asciiBytes "hi".toList) (.new .get "/") "app").1.mpr
      (.inr (.inr postedRequest_plain)) _ read

/-- A request for the front page with a body that is sent in chunks. -/
def chunkedRequest : RequestHead where
  method := "POST".toList
  target := ['/']
  fields :=
    [{ name := "transfer-encoding".toList
       before := [' ']
       value := asciiBytes "chunked".toList
       after := [] }]

theorem chunkedRequest_wellFormed : chunkedRequest.WellFormed where
  method := by decide
  aimed := by decide
  target := by decide
  fields := by
    intro field member
    rw [List.mem_singleton.mp member]
    constructor
    · decide
    · decide
    · decide
    · decide
    · decide
    · decide
    · decide

/-- The body of a chunked request is replaced by an empty one. -/
theorem chunkedRequest_emptied :
    ∃ (head : RequestHead) (method : Method) (rest : List UInt8)
      (read : ReceivedRequest),
      head.WellFormed ∧ head.method = method.asStr.toList ∧
        ReceivedRequest.readFrom (head.bytes ++ rest) = .ok read ∧
        ¬ReadAsSent head method rest read := by
  have texts : ∀ field ∈ chunkedRequest.fields,
      ∃ text, decodeUtf8 field.value = some text := by
    intro field member
    rw [List.mem_singleton.mp member]
    exact ⟨_, decodeUtf8_ascii (by decide)⟩
  have isPost : chunkedRequest.method = Method.post.asStr.toList := rfl
  have read := readFrom_head chunkedRequest_wellFormed isPost
    (asciiBytes "2\r\nhi\r\n0\r\n\r\n".toList)
  rw [readFieldsAndBody_fields chunkedRequest_wellFormed texts] at read
  have nothing : takenLength chunkedRequest.fields = 0 := by
    unfold takenLength
    rw [lastField_none rfl]
    rfl
  have empty : ∀ rest : List UInt8, readExact 0 rest = .ok ([], rest) := by
    intro rest
    rfl
  rw [nothing, empty, except_ok_bind] at read
  refine ⟨chunkedRequest, .post, _, _, chunkedRequest_wellFormed, rfl, read,
    ?_⟩
  intro asSent
  obtain ⟨length, framed, _⟩ := asSent.body
  have unframed : chunkedRequest.bodyLength = none := by
    unfold RequestHead.bodyLength
    rw [if_neg]
    intro absent
    have present : fieldsNamed chunkedRequest.fields "transfer-encoding" =
        chunkedRequest.fields := rfl
    rw [present] at absent
    cases absent
  rw [unframed] at framed
  cases framed

end AuthBoundry
