import AuthBoundry.Library.HttpMessage
import AuthBoundry.Server.Requests

/-!
# Reading the response of an upstream

A response is read from the bytes that an upstream sends until it closes the
connection or falls silent.  Reading ends with a response or with an error,
unless the program stops because a body gets longer than the memory that is
granted for it.
-/

namespace AuthBoundry

open Library

/-! ## The reader -/

inductive ReadFailure where
  | error (message : String)
  /-- The program panics or is aborted. -/
  | outOfMemory
  deriving DecidableEq, Repr

/-- The length up to which the allocator grants a buffer for a body.  None is
longer than `isize::MAX`. -/
structure Heap where
  granted : Nat
  bounded : granted ≤ 2 ^ 63 - 1

abbrev ReadResult (α : Type) := Except ReadFailure α

/-- A buffer grows to a length. -/
def resize (heap : Heap) (length : Nat) : ReadResult Unit :=
  refuseIf (decide (heap.granted < length)) .outOfMemory

def readLine (stream : List UInt8) : ReadResult (String × List UInt8) :=
  match decodeUtf8 (takeLine stream).1 with
  | some line => .ok (line, (takeLine stream).2)
  | none => .error (.error "stream did not contain valid UTF-8")

def readExact (length : Nat) (stream : List UInt8) :
    ReadResult (List UInt8 × List UInt8) :=
  if stream.length < length then
    .error (.error "failed to fill whole buffer")
  else
    .ok (stream.take length, stream.drop length)

theorem readLine_eq_ok_iff {stream rest : List UInt8} {line : String} :
    readLine stream = .ok (line, rest) ↔ takeLine stream = (utf8 line, rest) := by
  unfold readLine
  cases decoded : decodeUtf8 (takeLine stream).1 with
  | none =>
      constructor
      · intro impossible
        cases impossible
      · intro taken
        rw [taken, decodeUtf8_eq_some_iff.mpr rfl] at decoded
        cases decoded
  | some text =>
      have bytes := decodeUtf8_eq_some_iff.mp decoded
      constructor
      · intro found
        cases found
        exact Prod.ext bytes rfl
      · intro taken
        rw [taken] at bytes ⊢
        rw [utf8_inj bytes]

theorem readLine_length_lt {stream rest : List UInt8} {line : String}
    (found : readLine stream = .ok (line, rest)) (nonempty : line ≠ "") :
    rest.length < stream.length := by
  have taken := readLine_eq_ok_iff.mp found
  have shorter := @takeLine_length_lt stream (by
    rw [taken]
    intro empty
    exact nonempty (utf8_eq_nil_iff.mp empty))
  rwa [taken] at shorter

/-! ## Numbers and words -/

def splitWhitespace (text : String) : List String :=
  ((text.toList.splitOnP isWhitespace).filter fun word =>
    !word.isEmpty).map String.ofList

/-- An unsigned decimal that fits 16 bits; a leading plus is optional. -/
def parseU16 (text : String) : Option Nat :=
  let bounded (value : Nat) : Option Nat :=
    if value < 2 ^ 16 then some value else none
  match text.toList with
  | '+' :: digits => (decimalValue digits).bind bounded
  | digits => (decimalValue digits).bind bounded

/-- An unsigned hexadecimal number that fits 64 bits; a leading plus is
optional. -/
def parseHexU64 (text : String) : Option Nat :=
  let bounded (value : Nat) : Option Nat :=
    if value < 2 ^ 64 then some value else none
  match text.toList with
  | '+' :: digits => (hexadecimalValue digits).bind bounded
  | digits => (hexadecimalValue digits).bind bounded

/-! ## The response -/

def isLineEnd (character : Char) : Bool :=
  character == '\r' || character == '\n'

def trimLineEnd (line : String) : String :=
  String.ofList (line.toList.reverse.dropWhile isLineEnd).reverse

/-- The header of a line; a line without a colon has none. -/
def headerOf (line : String) : Option (String × String) :=
  (splitOnce ':' line).map fun (name, value) =>
    (asciiLower (trim name), trim value)

def readHeaders (stream : List UInt8) :
    ReadResult (List (String × String) × List UInt8) :=
  match _found : readLine stream with
  | .error failure => .error failure
  | .ok (line, rest) =>
      if _ended : line = "" then
        .ok ([], rest)
      else if trimLineEnd line = "" then
        .ok ([], rest)
      else do
        let (headers, after) ← readHeaders rest
        .ok ((headerOf (trimLineEnd line)).toList ++ headers, after)
termination_by stream.length
decreasing_by exact readLine_length_lt _found _ended

/-- The lines after the last chunk, up to the empty one. -/
def readTrailers (stream : List UInt8) : ReadResult Unit :=
  match _found : readLine stream with
  | .error failure => .error failure
  | .ok (line, rest) =>
      if _ended : line = "\r\n" ∨ line = "\n" ∨ line = "" then
        .ok ()
      else
        readTrailers rest
termination_by stream.length
decreasing_by
  exact readLine_length_lt _found fun empty => _ended (.inr (.inr empty))

/-- The size that a chunk declares in its first line. -/
def chunkSize (line : String) : Option Nat :=
  parseHexU64 (String.ofList ((trim line).toList.takeWhile (· != ';')))

theorem chunkSize_empty : chunkSize "" = none := by decide

/-- One round of the loop: the next chunk and what follows it, or nothing after
the last chunk. -/
def readChunk (heap : Heap) (stream : List UInt8) (start : Nat) :
    ReadResult (Option (List UInt8 × List UInt8)) := do
  let (line, rest) ← readLine stream
  match chunkSize line with
  | none => .error (.error "malformed chunked response")
  | some 0 => do
      readTrailers rest
      .ok none
  | some size => do
      resize heap (start + size)
      let (chunk, rest) ← readExact size rest
      let (ending, rest) ← readExact 2 rest
      if ending != [0x0D, 0x0A] then
        .error (.error "malformed chunk boundary")
      else
        .ok (some (chunk, rest))

theorem readExact_eq_ok {length : Nat} {stream taken rest : List UInt8}
    (found : readExact length stream = .ok (taken, rest)) :
    stream = taken ++ rest ∧ taken.length = length := by
  unfold readExact at found
  split at found
  · cases found
  · cases found
    exact ⟨(List.take_append_drop length stream).symm,
      List.length_take_of_le (by omega)⟩

/-- A round that reads a chunk shortens the stream. -/
theorem readChunk_length_lt {heap : Heap} {stream chunk rest : List UInt8}
    {start : Nat}
    (found : readChunk heap stream start = .ok (some (chunk, rest))) :
    rest.length < stream.length := by
  obtain ⟨⟨line, after⟩, isLine, found⟩ := except_bind_eq_ok_iff.mp found
  dsimp only at found
  cases declared : chunkSize line with
  | none =>
      rw [declared] at found
      cases found
  | some size =>
      have nonempty : line ≠ "" := by
        intro empty
        rw [empty, chunkSize_empty] at declared
        cases declared
      have shorter := readLine_length_lt isLine nonempty
      rw [declared] at found
      cases size with
      | zero =>
          obtain ⟨_, _, found⟩ := except_bind_eq_ok_iff.mp found
          cases found
      | succ size =>
          obtain ⟨_, _, found⟩ := except_bind_eq_ok_iff.mp found
          obtain ⟨⟨first, second⟩, isChunk, found⟩ :=
            except_bind_eq_ok_iff.mp found
          obtain ⟨⟨ending, last⟩, isEnding, found⟩ :=
            except_bind_eq_ok_iff.mp found
          dsimp only at found isEnding
          split at found
          · cases found
          · cases found
            have firstLengths := congrArg List.length
              (readExact_eq_ok isChunk).1
            have lastLengths := congrArg List.length
              (readExact_eq_ok isEnding).1
            rw [List.length_append] at firstLengths lastLengths
            omega

/-- The bytes of the chunks that are left, after those that were read. -/
def readChunked (heap : Heap) (stream body : List UInt8) :
    ReadResult (List UInt8) :=
  match _found : readChunk heap stream body.length with
  | .error failure => .error failure
  | .ok none => .ok body
  | .ok (some (chunk, rest)) => readChunked heap rest (body ++ chunk)
termination_by stream.length
decreasing_by exact readChunk_length_lt _found

/-! ### One step of each loop -/

section Steps

variable {heap : Heap} {stream rest body : List UInt8} {line : String}
  {failure : ReadFailure}

theorem readHeaders_of_error (broken : readLine stream = .error failure) :
    readHeaders stream = .error failure := by
  rw [readHeaders]
  split
  · rename_i other found
    rw [broken] at found
    cases found
    rfl
  · rename_i found
    rw [broken] at found
    cases found

theorem readHeaders_of_end (found : readLine stream = .ok (line, rest))
    (blank : trimLineEnd line = "") :
    readHeaders stream = .ok ([], rest) := by
  rw [readHeaders]
  split
  · rename_i broken
    rw [found] at broken
    cases broken
  · rename_i other after again
    rw [found] at again
    cases again
    split
    · rfl
    · rfl

theorem readHeaders_of_line (found : readLine stream = .ok (line, rest))
    (content : trimLineEnd line ≠ "") :
    readHeaders stream = (do
      let (headers, after) ← readHeaders rest
      .ok ((headerOf (trimLineEnd line)).toList ++ headers, after)) := by
  have nonempty : line ≠ "" := by
    intro empty
    rw [empty] at content
    exact content rfl
  rw [readHeaders]
  split
  · rename_i broken
    rw [found] at broken
    cases broken
  · rename_i other after again
    rw [found] at again
    cases again
    rw [dif_neg nonempty, if_neg content]

theorem readChunked_of_error
    (broken : readChunk heap stream body.length = .error failure) :
    readChunked heap stream body = .error failure := by
  rw [readChunked]
  split
  · rename_i other found
    rw [broken] at found
    cases found
    rfl
  · rename_i found
    rw [broken] at found
    cases found
  · rename_i found
    rw [broken] at found
    cases found

theorem readChunked_of_last
    (found : readChunk heap stream body.length = .ok none) :
    readChunked heap stream body = .ok body := by
  rw [readChunked]
  split
  · rename_i broken
    rw [found] at broken
    cases broken
  · rfl
  · rename_i other
    rw [found] at other
    cases other

theorem readChunked_of_chunk {chunk : List UInt8}
    (found : readChunk heap stream body.length = .ok (some (chunk, rest))) :
    readChunked heap stream body = readChunked heap rest (body ++ chunk) := by
  rw [readChunked]
  split
  · rename_i broken
    rw [found] at broken
    cases broken
  · rename_i other
    rw [found] at other
    cases other
  · rename_i other after again
    rw [found] at again
    cases again
    rfl

end Steps

def isChunked (headerMap : KeyedMap String String) : Bool :=
  (headerMap["transfer-encoding"]?.map fun value =>
    containsText "chunked" (asciiLower value)).getD false

/-- The whole response, whatever request it answers. -/
def readResponse (heap : Heap) (stream : List UInt8) :
    ReadResult HttpResponse := do
  let (statusLine, rest) ← readLine stream
  let status ←
    match (splitWhitespace statusLine)[1]?.bind parseU16 with
    | some status => .ok status
    | none => .error (.error "malformed status line")
  let (headers, rest) ← readHeaders rest
  let headerMap := collectPairs headers
  if isChunked headerMap then
    let body ← readChunked heap rest []
    .ok
      { status
        headers := headers.filter fun header =>
          header.1 != "transfer-encoding"
        body }
  else
    match headerMap["content-length"]?.bind parseU64 with
    | some length => do
        resize heap length
        let (body, _) ← readExact length rest
        .ok { status, headers, body }
    | none => do
        resize heap rest.length
        .ok { status, headers, body := rest }

end AuthBoundry
