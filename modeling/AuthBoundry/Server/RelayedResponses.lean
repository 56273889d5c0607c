import AuthBoundry.Server.ReturnedRequests

/-!
# Responses that are passed on

A response is written with its length and without the headers that frame a
connection.  The client gets back exactly the responses in which nothing is
taken for a separator, and whatever it has read it reads again when it is passed
on.
-/

namespace AuthBoundry

open Library
open scoped Library.Listed

/-! ## Writing a response -/

def reasonPhrase (status : Nat) : String :=
  match status with
  | 200 => "OK"
  | 201 => "Created"
  | 302 => "Found"
  | 304 => "Not Modified"
  | 400 => "Bad Request"
  | 401 => "Unauthorized"
  | 403 => "Forbidden"
  | 404 => "Not Found"
  | 405 => "Method Not Allowed"
  | 500 => "Internal Server Error"
  | 502 => "Bad Gateway"
  | _ => "Unknown"

def connectionHeaders : List String :=
  ["content-length", "connection", "transfer-encoding", "keep-alive",
    "proxy-connection", "upgrade"]

namespace HttpResponse

def statusLine (self : HttpResponse) : String :=
  s!"HTTP/1.1 {self.status} {reasonPhrase self.status}\r\n"

def writtenFields (self : HttpResponse) : List (String × String) :=
  (self.headers.filter fun header =>
    !connectionHeaders.contains (asciiLower header.1)) ++
    [("content-length", toString self.body.length), ("connection", "close")]

def writeTo (self : HttpResponse) : List UInt8 :=
  utf8 (self.statusLine ++ String.join (self.writtenFields.map writtenLine) ++
    "\r\n") ++ self.body

end HttpResponse

section Written

variable {heap : Heap} {response : HttpResponse}

theorem utf8_join (lines : List String) :
    utf8 (String.join lines) = lines.flatMap utf8 := by
  induction lines with
  | nil => exact utf8_eq_nil_iff.mpr rfl
  | cons line lines induction =>
      rw [String.join_cons, utf8_append, induction, List.flatMap_cons]

theorem writeTo_eq (response : HttpResponse) :
    response.writeTo = utf8 response.statusLine ++
      (response.writtenFields.flatMap (fun field => utf8 (writtenLine field)) ++
        (utf8 "\r\n" ++ response.body)) := by
  unfold HttpResponse.writeTo
  rw [utf8_append, utf8_append, utf8_join, List.flatMap_map, List.append_assoc,
    List.append_assoc]

theorem parseU16_decimal {number : Nat} (fits : number < 2 ^ 16) :
    parseU16 (toString number) = some number := by
  unfold parseU16
  dsimp only
  split
  · rename_i digits plus
    have digit := @isDigit_of_mem_decimal number '+'
      (by rw [plus]; exact List.mem_cons_self)
    exact absurd digit (by decide)
  · rw [decimalValue_decimal, Option.bind_some, if_pos fits]

theorem statusLine_eq (response : HttpResponse) :
    response.statusLine = String.ofList ("HTTP/1.1".toList ++
      ' ' :: ((toString response.status).toList ++
        ' ' :: ((reasonPhrase response.status).toList ++ ['\r']))) ++
      "\n" := by
  change "HTTP/1.1 " ++ toString response.status ++ " " ++
    reasonPhrase response.status ++ "\r\n" = _
  rw [← String.toList_inj]
  simp

theorem readLine_responseLine (rest : List UInt8) :
    readLine (utf8 response.statusLine ++ rest) =
      .ok (response.statusLine, rest) := by
  rw [statusLine_eq]
  apply readLine_text
  have digits := @not_mem_decimal '\n' (by decide)
    response.status
  have phrase : '\n' ∉ (reasonPhrase response.status).toList := by
    unfold reasonPhrase
    split <;> decide
  rw [String.toList_ofList]
  simp only [List.mem_append, List.mem_cons, digits, phrase]
  decide

theorem status_responseLine (fits : response.status < 2 ^ 16) :
    (splitWhitespace response.statusLine)[1]?.bind parseU16 =
      some response.status := by
  have version : ∀ character ∈ "HTTP/1.1".toList,
      isWhitespace character = false := by
    decide
  have digits : ∀ character ∈ (toString response.status).toList,
      isWhitespace character = false := by
    intro character member
    have bounds := isDigit_bounds (isDigit_of_mem_decimal member)
    exact isWhitespace_visible (by omega)
  have whole : response.statusLine = String.ofList ("HTTP/1.1".toList ++
      ' ' :: ((toString response.status).toList ++
        ' ' :: ((reasonPhrase response.status).toList ++ lineEnd))) := by
    rw [statusLine_eq, ← String.toList_inj]
    simp [lineEnd]
  have nonempty : (toString response.status).toList ≠ [] := by
    rw [Nat.toString_eq_repr, Nat.toList_repr]
    exact Nat.toDigits_ne_nil
  rw [whole, splitWhitespace_word (by decide) version,
    splitWhitespace_word nonempty digits, String.ofList_toList,
    String.ofList_toList, List.getElem?_cons_succ, List.getElem?_cons_zero,
    Option.bind_some, parseU16_decimal fits]

/-- The fields as the client names them. -/
def loweredHeaders (response : HttpResponse) : List (String × String) :=
  response.writtenFields.map fun field => (asciiLower field.1, field.2)

theorem isChunked_loweredHeaders :
    isChunked (collectPairs ((loweredHeaders response).map readPair)) =
      false := by
  have absent : (loweredHeaders response).reverse.find? (fun pair =>
      pair.1 == "transfer-encoding") = none := by
    rw [List.find?_eq_none]
    intro pair member
    obtain ⟨field, written, rfl⟩ :=
      List.mem_map.mp (List.mem_reverse.mp member)
    unfold HttpResponse.writtenFields at written
    rcases List.mem_append.mp written with kept | added
    · intro named
      have passed := (List.mem_filter.mp kept).2
      dsimp only at named
      rw [beq_iff_eq.mp named] at passed
      exact absurd passed (by decide)
    · have other : ∀ name ∈ ["content-length", "connection"],
          ¬(asciiLower name == "transfer-encoding") = true := by
        decide
      rcases List.mem_pair.mp added with rfl | rfl
      · exact other _ (by simp)
      · exact other _ (by simp)
  unfold isChunked
  rw [getElem?_readPairs, absent]
  rfl

theorem contentLength_loweredHeaders (bounded : response.body.length < 2 ^ 64) :
    (collectPairs ((loweredHeaders response).map readPair))[
        "content-length"]?.bind parseU64 = some response.body.length := by
  have last : (loweredHeaders response).reverse.find? (fun pair =>
      pair.1 == "content-length") =
        some ("content-length", toString response.body.length) := by
    have connection : asciiLower "connection" = "connection" := by decide
    have contentLength : asciiLower "content-length" = "content-length" := by
      decide
    unfold loweredHeaders HttpResponse.writtenFields
    rw [List.map_append, List.reverse_append, List.map_cons, List.map_cons,
      List.map_nil]
    simp [connection, contentLength]
  rw [getElem?_readPairs, last, Option.map_some, Option.bind_some]
  dsimp only
  rw [trim_decimal, parseU64_decimal, if_pos bounded]

/-- What the client reads of a response in which nothing separates. -/
theorem readResponse_writeTo (fits : response.status < 2 ^ 16)
    (bounded : response.body.length ≤ heap.granted)
    (unseparated : ∀ field ∈ response.writtenFields, UnseparatedField field) :
    readResponse heap response.writeTo =
      .ok { response with
        headers := (loweredHeaders response).map readPair } := by
  have exact := readExact_append response.body []
  rw [List.append_nil] at exact
  unfold readResponse
  rw [writeTo_eq, readLine_responseLine, except_ok_bind]
  dsimp only
  rw [status_responseLine fits]
  dsimp only
  rw [except_ok_bind, readHeaders_written unseparated, except_ok_bind]
  dsimp only
  have chunked := @isChunked_loweredHeaders response
  have length := @contentLength_loweredHeaders response
    (bounded.trans_lt (heap.bounded.trans_lt (by decide)))
  unfold loweredHeaders at chunked length ⊢
  rw [chunked, if_neg (by simp), length]
  dsimp only
  rw [resize_ok bounded, except_ok_bind, exact]
  rfl

end Written

/-! ## What the client has read -/

variable {heap : Heap}

theorem parseU16_lt {text : String} {status : Nat}
    (parsed : parseU16 text = some status) : status < 2 ^ 16 := by
  have bounded : ∀ digits : List Char,
      ((decimalValue digits).bind fun value =>
        if value < 2 ^ 16 then some value else none) = some status →
        status < 2 ^ 16 := by
    intro digits found
    obtain ⟨value, _, fits⟩ := Option.bind_eq_some_iff.mp found
    split at fits
    · cases fits
      assumption
    · cases fits
  unfold parseU16 at parsed
  dsimp only at parsed
  split at parsed
  · exact bounded _ parsed
  · exact bounded _ parsed

theorem resize_eq_ok {length : Nat} {value : Unit}
    (fits : resize heap length = .ok value) : length ≤ heap.granted := by
  unfold resize at fits
  have small := refuseIf_eq_ok_iff.mp fits
  simpa using small

theorem readChunk_fits {stream chunk rest : List UInt8} {start : Nat}
    (found : readChunk heap stream start = .ok (some (chunk, rest))) :
    start + chunk.length ≤ heap.granted := by
  obtain ⟨⟨line, after⟩, _, found⟩ := except_bind_eq_ok_iff.mp found
  dsimp only at found
  cases declared : chunkSize line with
  | none =>
      rw [declared] at found
      cases found
  | some size =>
      rw [declared] at found
      cases size with
      | zero =>
          obtain ⟨_, _, found⟩ := except_bind_eq_ok_iff.mp found
          cases found
      | succ size =>
          obtain ⟨_, fits, found⟩ := except_bind_eq_ok_iff.mp found
          obtain ⟨⟨first, second⟩, isChunk, found⟩ :=
            except_bind_eq_ok_iff.mp found
          obtain ⟨⟨ending, last⟩, _, found⟩ := except_bind_eq_ok_iff.mp found
          dsimp only at found
          split at found
          · cases found
          · cases found
            rw [(readExact_eq_ok isChunk).2]
            exact resize_eq_ok fits

theorem readChunked_fits {stream body data : List UInt8}
    (within : body.length ≤ heap.granted)
    (found : readChunked heap stream body = .ok data) :
    data.length ≤ heap.granted := by
  induction stream, body using readChunked.induct heap with
  | case1 stream body failure broken =>
      rw [readChunked_of_error broken] at found
      cases found
  | case2 stream body ended =>
      rw [readChunked_of_last ended] at found
      cases found
      exact within
  | case3 stream body chunk rest next induction =>
      rw [readChunked_of_chunk next] at found
      refine induction ?_ found
      rw [List.length_append]
      exact readChunk_fits next

theorem readResponse_ok {stream : List UInt8} {response : HttpResponse}
    (read : readResponse heap stream = .ok response) :
    response.status < 2 ^ 16 ∧ response.body.length ≤ heap.granted ∧
      ∃ start headers rest, HeaderLines start headers rest ∧
        ∀ header ∈ response.headers, header ∈ headers := by
  obtain ⟨⟨line, after⟩, _, read⟩ := except_bind_eq_ok_iff.mp read
  dsimp only at read
  cases words : (splitWhitespace line)[1]?.bind parseU16 with
  | none =>
      rw [words] at read
      cases read
  | some status =>
      rw [words] at read
      dsimp only at read
      rw [except_ok_bind] at read
      obtain ⟨⟨headers, rest⟩, isHeaders, read⟩ := except_bind_eq_ok_iff.mp read
      dsimp only at read
      have lines : HeaderLines after headers rest := by
        rcases readHeaders_cases after with
          ⟨others, ended, isRead, lines⟩ | ⟨message, failed⟩
        · rw [isHeaders] at isRead
          cases isRead
          exact lines
        · rw [isHeaders] at failed
          cases failed
      have small := parseU16_lt (Option.bind_eq_some_iff.mp words).choose_spec.2
      split at read
      · obtain ⟨body, isBody, read⟩ := except_bind_eq_ok_iff.mp read
        cases read
        exact ⟨small, readChunked_fits (Nat.zero_le _) isBody, after, headers,
          rest, lines, fun header member => List.mem_of_mem_filter member⟩
      · split at read
        · obtain ⟨_, fits, read⟩ := except_bind_eq_ok_iff.mp read
          obtain ⟨⟨body, last⟩, isBody, read⟩ := except_bind_eq_ok_iff.mp read
          cases read
          dsimp only
          rw [(readExact_eq_ok isBody).2]
          exact ⟨small, resize_eq_ok fits, after, headers, rest, lines,
            fun _ => id⟩
        · obtain ⟨_, fits, read⟩ := except_bind_eq_ok_iff.mp read
          cases read
          exact ⟨small, resize_eq_ok fits, after, headers, rest, lines,
            fun _ => id⟩

/-- Names are in lower case and values are trimmed, whatever is read. -/
theorem headerLines_settled {stream rest : List UInt8}
    {headers : List (String × String)}
    (lines : HeaderLines stream headers rest) :
    ∀ header ∈ headers,
      asciiLower header.1 = header.1 ∧ trim header.2 = header.2 := by
  induction lines with
  | ended => intro header member; cases member
  | line _ _ _ induction =>
      intro header member
      rcases List.mem_append.mp member with here | later
      · obtain ⟨⟨name, content⟩, _, rfl⟩ :=
          Option.map_eq_some_iff.mp (Option.mem_toList.mp here)
        refine ⟨?_, ?_⟩
        · unfold asciiLower
          rw [String.toList_ofList, List.map_map]
          congr 2
          exact funext toLower_toLower
        · unfold trim
          rw [String.toList_ofList, trimList_trimList]
      · exact induction header later

theorem readResponse_writeTo_trimmed {response : HttpResponse}
    (fits : response.status < 2 ^ 16)
    (bounded : response.body.length ≤ heap.granted)
    (writable : ∀ field ∈ response.writtenFields,
      UnseparatedField field ∧ trim field.2 = field.2) :
    readResponse heap response.writeTo =
      .ok { response with headers := loweredHeaders response } := by
  rw [readResponse_writeTo fits bounded fun field written =>
    (writable field written).1]
  have same : (loweredHeaders response).map readPair =
      loweredHeaders response := by
    unfold loweredHeaders
    rw [List.map_map]
    refine List.map_congr_left fun field written => ?_
    exact congrArg (asciiLower field.1, ·) (writable field written).2
  rw [same]

/-- A response is given back exactly if nothing in it is taken for a separator
or trimmed. -/
theorem readResponse_writeTo_iff {response : HttpResponse}
    (fits : response.status < 2 ^ 16)
    (bounded : response.body.length ≤ heap.granted) :
    readResponse heap response.writeTo =
        .ok { response with headers := loweredHeaders response } ↔
      ∀ field ∈ response.writtenFields,
        UnseparatedField field ∧ trim field.2 = field.2 := by
  constructor
  · intro back field written
    obtain ⟨_, _, start, headers, rest, lines, listed⟩ := readResponse_ok back
    have member : (asciiLower field.1, field.2) ∈ headers :=
      listed _ (List.mem_map_of_mem written)
    obtain ⟨⟨colon, feed, tight⟩, single⟩ := headerLines_bounds lines _ member
    have trimmed := (headerLines_settled lines _ member).2
    dsimp only at colon feed tight single trimmed
    rw [mem_asciiLower (by decide)] at colon feed
    rw [trim_asciiLower] at tight
    exact ⟨⟨⟨colon, feed, trim_of_lower tight⟩, single⟩, trimmed⟩
  · exact readResponse_writeTo_trimmed fits bounded

/-- A value that goes on with another line. -/
def brokenResponse : HttpResponse :=
  { status := 302
    headers := [("location", "/\r\nset-cookie: authboundry_session=other")]
    body := [] }

theorem readResponse_writeTo_iff_broken :
    readResponse megabyte brokenResponse.writeTo ≠
      .ok { brokenResponse with headers := loweredHeaders brokenResponse } := by
  intro back
  have whole := ((@readResponse_writeTo_iff megabyte brokenResponse
    (by decide) (by decide)).mp back _ List.mem_cons_self).1.value
  exact absurd whole (by decide)

/-! ## Passing a response on -/

/-- What the proxy passes on of the response of an application. -/
def relayed (path : String) (response : HttpResponse) : HttpResponse :=
  if ["/src/", "/@vite/", "/node_modules/"].any fun folder =>
      folder.toList.isPrefixOf path.toList then
    { response with
      headers := (response.headers.filter fun header =>
        !(["etag", "last-modified", "cache-control"].contains header.1)) ++
          [("cache-control", "no-store")] }
  else
    response

/-- A header as the client reads one. -/
structure IsReadHeader (header : String × String) : Prop where
  unseparated : UnseparatedField header
  lower : asciiLower header.1 = header.1
  trimmed : trim header.2 = header.2

theorem isReadHeader_of_read {stream : List UInt8} {response : HttpResponse}
    (read : readResponse heap stream = .ok response) :
    ∀ header ∈ response.headers, IsReadHeader header := by
  obtain ⟨_, _, start, headers, rest, lines, listed⟩ := readResponse_ok read
  intro header member
  have bounds := headerLines_bounds lines header (listed header member)
  have settled := headerLines_settled lines header (listed header member)
  exact ⟨⟨bounds.1, bounds.2⟩, settled.1, settled.2⟩

theorem isReadHeader_written {response : HttpResponse}
    (read : ∀ header ∈ response.headers, IsReadHeader header) :
    ∀ header ∈ response.writtenFields, IsReadHeader header := by
  intro header written
  unfold HttpResponse.writtenFields at written
  rcases List.mem_append.mp written with kept | added
  · exact read header (List.mem_of_mem_filter kept)
  · rcases List.mem_pair.mp added with rfl | rfl
    · have name : (':' ∉ "content-length".toList ∧
          '\n' ∉ "content-length".toList ∧
          trim "content-length" = "content-length") ∧
          asciiLower "content-length" = "content-length" := by
        decide
      exact ⟨⟨name.1, not_mem_decimal (by decide) _⟩, name.2, trim_decimal _⟩
    · exact ⟨⟨by decide, by decide⟩, by decide, by decide⟩

theorem isReadHeader_relayed {response : HttpResponse} (path : String)
    (read : ∀ header ∈ response.headers, IsReadHeader header) :
    ∀ header ∈ (relayed path response).headers, IsReadHeader header := by
  unfold relayed
  split
  · intro header member
    rcases List.mem_append.mp member with kept | added
    · exact read header (List.mem_of_mem_filter kept)
    · rw [List.mem_singleton.mp added]
      exact ⟨⟨by decide, by decide⟩, by decide, by decide⟩
  · exact read

/-- Whatever an application sends, what the proxy has read of it is read
again from what the proxy writes. -/
theorem readResponse_relayed {stream : List UInt8} {response : HttpResponse}
    (read : readResponse heap stream = .ok response) (path : String) :
    readResponse heap (relayed path response).writeTo =
      .ok { relayed path response with
        headers := (relayed path response).writtenFields } := by
  obtain ⟨small, fits, _⟩ := readResponse_ok read
  have same : (relayed path response).status = response.status ∧
      (relayed path response).body = response.body := by
    unfold relayed
    split <;> exact ⟨rfl, rfl⟩
  rw [← same.1] at small
  rw [← same.2] at fits
  have written := isReadHeader_written
    (isReadHeader_relayed path (isReadHeader_of_read read))
  have lowered : loweredHeaders (relayed path response) =
      (relayed path response).writtenFields := by
    unfold loweredHeaders
    conv_rhs => rw [← List.map_id (HttpResponse.writtenFields _)]
    refine List.map_congr_left fun field member => ?_
    exact Prod.ext (written field member).lower rfl
  rw [readResponse_writeTo_trimmed small fits fun field member =>
    ⟨(written field member).unseparated, (written field member).trimmed⟩,
    lowered]

/-- What an application sends of a source file. -/
def sourceResponse : HttpResponse :=
  { status := 200, headers := [("etag", "1"), ("x-served", "dev")], body := [] }

theorem readResponse_relayed_source :
    readResponse megabyte (relayed "/src/main.ts" { sourceResponse with
        headers := (loweredHeaders sourceResponse).map readPair }).writeTo =
      .ok { sourceResponse with
        headers := [("x-served", "dev"), ("cache-control", "no-store"),
          ("content-length", "0"), ("connection", "close")] } :=
  readResponse_relayed (@readResponse_writeTo megabyte sourceResponse
    (by decide) (by decide) (by
      have read := @isReadHeader_written sourceResponse (by
        have plain : ∀ header ∈ sourceResponse.headers,
            ((':' ∉ header.1.toList ∧ '\n' ∉ header.1.toList ∧
              trim header.1 = header.1) ∧ '\n' ∉ header.2.toList) ∧
              asciiLower header.1 = header.1 ∧ trim header.2 = header.2 := by
          decide
        exact fun header member => ⟨⟨(plain header member).1.1,
          (plain header member).1.2⟩, (plain header member).2.1,
          (plain header member).2.2⟩)
      exact fun field member => (read field member).unseparated))
    "/src/main.ts"

end AuthBoundry
