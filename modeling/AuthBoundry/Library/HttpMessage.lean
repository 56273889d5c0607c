import AuthBoundry.Library.ByteStreams
import AuthBoundry.Library.JsonText

/-!
# HTTP/1.1 messages

What a server may send in answer to a request: a status line, field lines, and
a body that is absent, chunked, of a declared length, or ended by the end of the
stream.  A response is kept as it was written, so that its bytes can be stated;
what it means is its status, its fields and its body.  Of a request, the head is
kept, and how it frames the body that follows.
-/

namespace Library

/-! ## Characters and numbers -/

/-- Letters, digits, and some marks, the last two of which are the apostrophe
and the grave accent. -/
def isTokenChar (character : Char) : Bool :=
  character.isAlphanum || "!#$%&*+-.^_|~".toList.contains character ||
    character.toNat == 0x27 || character.toNat == 0x60

def isBlankChar (character : Char) : Bool :=
  character == ' ' || character == '\t'

/-- The bytes of a field value or of a reason: blanks, visible ASCII, and
whatever is not ASCII. -/
def isFieldByte (byte : UInt8) : Bool :=
  byte == 0x09 || (0x20 ≤ byte.toNat && byte.toNat != 0x7F)

def isBlankByte (byte : UInt8) : Bool := byte == 0x20 || byte == 0x09

def lowerByte (byte : UInt8) : UInt8 :=
  if 0x41 ≤ byte.toNat && byte.toNat ≤ 0x5A then byte + 0x20 else byte

/-- The value of a nonempty sequence of hexadecimal digits. -/
def hexadecimalValue (digits : List Char) : Option Nat :=
  if digits.isEmpty then
    none
  else
    digits.foldl
      (fun value digit =>
        value.bind fun value => (hexDigitValue digit).map (value * 16 + ·))
      (some 0)

def lineEnd : List Char := ['\r', '\n']

/-! ## Fields -/

/-- A field as it was written. -/
structure FieldLine where
  name : List Char
  before : List Char
  value : List UInt8
  after : List Char
  deriving DecidableEq, Repr

namespace FieldLine

def bytes (self : FieldLine) : List UInt8 :=
  asciiBytes (self.name ++ ':' :: self.before) ++
    (self.value ++ asciiBytes (self.after ++ lineEnd))

structure WellFormed (field : FieldLine) : Prop where
  named : field.name ≠ []
  token : ∀ character ∈ field.name, isTokenChar character = true
  before : ∀ character ∈ field.before, isBlankChar character = true
  after : ∀ character ∈ field.after, isBlankChar character = true
  value : ∀ byte ∈ field.value, isFieldByte byte = true
  first : ∀ byte, field.value.head? = some byte → isBlankByte byte = false
  last : ∀ byte, field.value.getLast? = some byte → isBlankByte byte = false

/-- The name without regard to case. -/
def key (self : FieldLine) : String := asciiLower (String.ofList self.name)

end FieldLine

def fieldsNamed (fields : List FieldLine) (name : String) : List FieldLine :=
  fields.filter fun field => field.key == name

/-- The value of a name; several fields of a name are one, with commas between
their values. -/
def combineFields (fields : List (String × List UInt8)) (name : String) :
    Option (List UInt8) :=
  match (fields.filter fun field => field.1 == name).map Prod.snd with
  | [] => none
  | values => some (List.intercalate (asciiBytes [',', ' ']) values)

def transferCodings (fields : List FieldLine) : List (List UInt8) :=
  (((fieldsNamed fields "transfer-encoding").flatMap
    fun field => field.value.splitOn 0x2C).map fun coding =>
      ((coding.dropWhile isBlankByte).reverse.dropWhile
        isBlankByte).reverse).filter fun coding => !coding.isEmpty

def endsChunked (fields : List FieldLine) : Bool :=
  ((transferCodings fields).getLast?.map fun coding =>
    coding.map lowerByte == asciiBytes "chunked".toList).getD false

/-! ## Chunks -/

/-- A line that declares a size, with whatever extends it. -/
structure SizeLine where
  digits : List Char
  blanks : List Char
  extension : List UInt8
  deriving DecidableEq, Repr

namespace SizeLine

def bytes (self : SizeLine) : List UInt8 :=
  asciiBytes (self.digits ++ self.blanks) ++
    (self.extension ++ asciiBytes lineEnd)

/-- The line declares the size. -/
structure Declares (line : SizeLine) (size : Nat) : Prop where
  size : hexadecimalValue line.digits = some size
  blanks : ∀ character ∈ line.blanks, isBlankChar character = true
  bare : line.extension = [] → line.blanks = []
  extended : ∀ byte, line.extension.head? = some byte → byte = 0x3B
  whole : 0x0A ∉ line.extension ∧ 0x0D ∉ line.extension

end SizeLine

structure Chunk where
  line : SizeLine
  data : List UInt8
  deriving DecidableEq, Repr

namespace Chunk

def bytes (self : Chunk) : List UInt8 :=
  self.line.bytes ++ (self.data ++ asciiBytes lineEnd)

structure WellFormed (chunk : Chunk) : Prop where
  filled : chunk.data ≠ []
  declared : chunk.line.Declares chunk.data.length

end Chunk

structure ChunkedBody where
  chunks : List Chunk
  last : SizeLine
  trailers : List FieldLine
  deriving DecidableEq, Repr

namespace ChunkedBody

def bytes (self : ChunkedBody) : List UInt8 :=
  self.chunks.flatMap Chunk.bytes ++
    (self.last.bytes ++
      (self.trailers.flatMap FieldLine.bytes ++ asciiBytes lineEnd))

def data (self : ChunkedBody) : List UInt8 := self.chunks.flatMap Chunk.data

structure WellFormed (body : ChunkedBody) : Prop where
  chunks : ∀ chunk ∈ body.chunks, chunk.WellFormed
  last : body.last.Declares 0
  trailers : ∀ field ∈ body.trailers, field.WellFormed

end ChunkedBody

/-! ## Responses -/

structure ResponseHead where
  status : List Char
  reason : List UInt8
  fields : List FieldLine
  deriving DecidableEq, Repr

namespace ResponseHead

def statusLine (self : ResponseHead) : List UInt8 :=
  asciiBytes ("HTTP/1.1 ".toList ++ (self.status ++ [' '])) ++
    (self.reason ++ asciiBytes lineEnd)

def bytes (self : ResponseHead) : List UInt8 :=
  self.statusLine ++
    (self.fields.flatMap FieldLine.bytes ++ asciiBytes lineEnd)

structure WellFormed (head : ResponseHead) : Prop where
  threeDigits : head.status.length = 3
  digits : ∀ character ∈ head.status, character.isDigit = true
  reason : ∀ byte ∈ head.reason, isFieldByte byte = true
  fields : ∀ field ∈ head.fields, field.WellFormed

def code (self : ResponseHead) : Nat := (decimalValue self.status).getD 0

/-- The statuses whose responses never have a body. -/
def IsBodiless (self : ResponseHead) : Prop :=
  (100 ≤ self.code ∧ self.code < 200) ∨ self.code = 204 ∨ self.code = 304

instance (head : ResponseHead) : Decidable head.IsBodiless :=
  inferInstanceAs (Decidable (_ ∨ _ ∨ _))

end ResponseHead

/-- How the end of the body is told. -/
inductive SentBody where
  | absent
  | chunked (body : ChunkedBody)
  | sized (data : List UInt8)
  | closed (data : List UInt8)
  deriving DecidableEq, Repr

namespace SentBody

def bytes : SentBody → List UInt8
  | absent => []
  | chunked body => body.bytes
  | sized data => data
  | closed data => data

/-- The body that is meant. -/
def data : SentBody → List UInt8
  | absent => []
  | chunked body => body.data
  | sized data => data
  | closed data => data

end SentBody

structure SentResponse where
  head : ResponseHead
  body : SentBody
  deriving DecidableEq, Repr

namespace SentResponse

def bytes (self : SentResponse) : List UInt8 :=
  self.head.bytes ++ self.body.bytes

def DeclaresLength (head : ResponseHead) (length : Nat) : Prop :=
  ∃ field digits, fieldsNamed head.fields "content-length" = [field] ∧
    field.value = asciiBytes digits ∧
    (∀ character ∈ digits, character.isDigit = true) ∧
    decimalValue digits = some length

/-- The body is framed as the request and the head require. -/
def Framed (answersHead : Bool) (response : SentResponse) : Prop :=
  match response.body with
  | .absent => answersHead = true ∨ response.head.IsBodiless
  | .chunked body =>
      answersHead = false ∧ ¬response.head.IsBodiless ∧
        endsChunked response.head.fields = true ∧
        fieldsNamed response.head.fields "content-length" = [] ∧ body.WellFormed
  | .sized data =>
      answersHead = false ∧ ¬response.head.IsBodiless ∧
        fieldsNamed response.head.fields "transfer-encoding" = [] ∧
        DeclaresLength response.head data.length
  | .closed _ =>
      answersHead = false ∧ ¬response.head.IsBodiless ∧
        endsChunked response.head.fields = false ∧
        fieldsNamed response.head.fields "content-length" = []

/-- A response that may be sent; `answersHead` tells whether the request asked
for the head alone. -/
structure WellFormed (answersHead : Bool) (response : SentResponse) : Prop where
  head : response.head.WellFormed
  framed : response.Framed answersHead

/-- The fields that are left once the framing is undone. -/
def headers (self : SentResponse) : List (String × List UInt8) :=
  let all := self.head.fields.map fun field => (field.key, field.value)
  match self.body with
  | .chunked _ => all.filter fun header => header.1 != "transfer-encoding"
  | _ => all

end SentResponse

/-! ## Requests -/

structure RequestHead where
  method : List Char
  target : List Char
  fields : List FieldLine
  deriving DecidableEq, Repr

namespace RequestHead

def requestLine (self : RequestHead) : List UInt8 :=
  asciiBytes (self.method ++
    ' ' :: (self.target ++ ' ' :: ("HTTP/1.1".toList ++ lineEnd)))

def bytes (self : RequestHead) : List UInt8 :=
  self.requestLine ++
    (self.fields.flatMap FieldLine.bytes ++ asciiBytes lineEnd)

structure WellFormed (head : RequestHead) : Prop where
  method : ∀ character ∈ head.method, isTokenChar character = true
  aimed : head.target ≠ []
  target : ∀ character ∈ head.target,
    33 ≤ character.toNat ∧ character.toNat < 127
  fields : ∀ field ∈ head.fields, field.WellFormed

def combined (self : RequestHead) (name : String) : Option (List UInt8) :=
  combineFields (self.fields.map fun field => (field.key, field.value)) name

def numberOf (value : List UInt8) : Option Nat :=
  (decodeUtf8 value).bind fun text => decimalValue text.toList

/-- The length that frames the body.  There is none if the body has a transfer
coding, or if the declared lengths are not numbers or disagree. -/
def bodyLength (self : RequestHead) : Option Nat :=
  if fieldsNamed self.fields "transfer-encoding" = [] then
    match (fieldsNamed self.fields "content-length").map (numberOf ·.value) with
    | [] => some 0
    | first :: others => if others.all (· == first) then first else none
  else
    none

end RequestHead

end Library
