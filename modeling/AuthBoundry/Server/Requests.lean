import AuthBoundry.Server.Control

/-!
# Reading requests

The target of a request is cut into a path and a query, its `cookie` header
into cookies, and its body, a form or a flat JSON object, into fields.  The
boundary receives all of it, except for the headers that only the server may
speak.
-/

namespace AuthBoundry

open Library

/-! ## Text from bytes -/

/-- How many bytes follow a first byte, and the bounds of the second one. -/
def sequenceOf (first : Nat) : Option (Nat × Nat × Nat) :=
  if 0xC2 ≤ first && first ≤ 0xDF then some (1, 0x80, 0xBF)
  else if first == 0xE0 then some (2, 0xA0, 0xBF)
  else if first == 0xED then some (2, 0x80, 0x9F)
  else if 0xE1 ≤ first && first ≤ 0xEF then some (2, 0x80, 0xBF)
  else if first == 0xF0 then some (3, 0x90, 0xBF)
  else if 0xF1 ≤ first && first ≤ 0xF3 then some (3, 0x80, 0xBF)
  else if first == 0xF4 then some (3, 0x80, 0x8F)
  else none

/-- The bytes that continue a sequence, as far as they do. -/
def followers (low high : Nat) : Nat → List UInt8 → List UInt8
  | count + 1, byte :: bytes =>
      if low ≤ byte.toNat && byte.toNat ≤ high then
        byte :: followers 0x80 0xBF count bytes
      else
        []
  | _, _ => []

/-- UTF-8, with a replacement character for each broken sequence. -/
def decodeLossy : Nat → List UInt8 → List Char
  | fuel + 1, first :: bytes =>
      if first.toNat < 0x80 then
        Char.ofNat first.toNat :: decodeLossy fuel bytes
      else
        match sequenceOf first.toNat with
        | none => '\uFFFD' :: decodeLossy fuel bytes
        | some (count, low, high) =>
            let taken := followers low high count bytes
            let character :=
              if taken.length == count then
                Char.ofNat (taken.foldl
                  (fun value byte => value * 64 + byte.toNat % 64)
                  (first.toNat % 2 ^ (6 - count)))
              else
                '\uFFFD'
            character :: decodeLossy fuel (bytes.drop taken.length)
  | _, _ => []

def fromUtf8Lossy (bytes : List UInt8) : String :=
  String.ofList (decodeLossy bytes.length bytes)

/-! ## Forms -/

def hexValue (byte : UInt8) : Option Nat :=
  let code := byte.toNat
  if 0x30 ≤ code && code ≤ 0x39 then some (code - 0x30)
  else if 0x41 ≤ code && code ≤ 0x46 then some (code - 0x41 + 10)
  else if 0x61 ≤ code && code ≤ 0x66 then some (code - 0x61 + 10)
  else none

/-- Bytes with every `%` before two hexadecimal digits taken literally. -/
def percentDecodeBytes : List UInt8 → List UInt8
  | byte :: high :: low :: rest =>
      if byte == 0x25 then
        match hexValue high, hexValue low with
        | some left, some right =>
            UInt8.ofNat (16 * left + right) :: percentDecodeBytes rest
        | _, _ => byte :: percentDecodeBytes (high :: low :: rest)
      else
        byte :: percentDecodeBytes (high :: low :: rest)
  | bytes => bytes

def percentDecode (input : String) : String :=
  fromUtf8Lossy (percentDecodeBytes (utf8 (replaceChar '+' " " input)))

/-- The parts between the occurrences of a character. -/
def splitParts (separator : Char) (text : String) : List String :=
  (text.toList.splitOn separator).map String.ofList

/-- A map from pairs, the last one of a key counting. -/
def collectPairs (pairs : List (String × String)) : KeyedMap String String :=
  pairs.foldl (fun map pair => map.insert pair.1 pair.2) ∅

def parseForm (input : String) : KeyedMap String String :=
  collectPairs <|
    (((splitParts '&' input).filter fun pair => !isBlank pair).filterMap
      (splitOnce '=')).map fun (name, value) =>
        (percentDecode name, percentDecode value)

def splitTarget (target : String) : String × KeyedMap String String :=
  match splitOnce '?' target with
  | some (path, query) => (path, parseForm query)
  | none => (target, ∅)

def parseCookies (value : String) : KeyedMap String String :=
  collectPairs <|
    ((splitParts ';' value).filterMap fun pair =>
      splitOnce '=' (trim pair)).map fun (name, value) =>
        (trim name, trim value)

/-! ## Flat JSON -/

/-- The text of a JSON string whose opening quotation mark has been read, and
what follows it. -/
def readJsonString : List Char → List Char × List Char
  | '\\' :: character :: rest =>
      let read := readJsonString rest
      let meant :=
        if character == 'n' then '\n'
        else if character == 't' then '\t'
        else character
      (meant :: read.1, read.2)
  | '"' :: rest => ([], rest)
  | character :: rest =>
      let read := readJsonString rest
      (character :: read.1, read.2)
  | [] => ([], [])

def opens (character : Char) : Bool := character == '\x7b' || character == '['

def closes (character : Char) : Bool := character == '\x7d' || character == ']'

/-- What follows a nested value; it starts with its opening bracket. -/
def skipNested : Nat → List Char → List Char
  | _, [] => []
  | nested, character :: rest =>
      if opens character then
        skipNested (nested + 1) rest
      else if closes character then
        if nested - 1 == 0 then rest else skipNested (nested - 1) rest
      else
        skipNested nested rest

/-- What follows a key: a value for it, if it has one that counts. -/
def readFlatValue (key : String) (fields : KeyedMap String String)
    (text : List Char) : KeyedMap String String × List Char :=
  match text.dropWhile isWhitespace with
  | ':' :: text =>
      match text.dropWhile isWhitespace with
      | [] => (fields, [])
      | '"' :: text =>
          let (value, rest) := readJsonString text
          (fields.insert key (String.ofList value), rest)
      | character :: text =>
          if opens character then
            (fields, skipNested 0 (character :: text))
          else
            let (value, rest) := (character :: text).span fun character =>
              character != ',' && !closes character
            (fields.insert key (trim (String.ofList value)), rest)
  | text => (fields, text)

/-- The loop of `parseFlatJson`: only the fields of the outermost object
count. -/
def readFlatJson : Nat → Nat → KeyedMap String String → List Char →
    KeyedMap String String
  | fuel + 1, depth, fields, character :: text =>
      if opens character then
        readFlatJson fuel (depth + 1) fields text
      else if closes character then
        readFlatJson fuel (depth - 1) fields text
      else if character == '"' && depth == 1 then
        let (key, rest) := readJsonString text
        let (fields, rest) := readFlatValue (String.ofList key) fields rest
        readFlatJson fuel depth fields rest
      else
        readFlatJson fuel depth fields text
  | _, _, fields, _ => fields

def parseFlatJson (input : String) : KeyedMap String String :=
  readFlatJson input.length 0 ∅ input.toList

/-! ## Requests -/

/-- Headers a client is never allowed to speak. -/
def reservedHeaderPrefix : String := "x-authboundry-"

def BoundaryRequest.sanitized (self : BoundaryRequest) : BoundaryRequest :=
  { self with
    headers := self.headers.filter fun name _ =>
      !reservedHeaderPrefix.toList.isPrefixOf name.toList }

namespace HttpRequest

def assemble (method : Method) (target : String)
    (headers : KeyedMap String String) (body : String) : HttpRequest :=
  let (path, query) := splitTarget target
  { method
    path
    query
    headers
    cookies := (headers["cookie"]?.map parseCookies).getD ∅
    body }

def header (self : HttpRequest) (name : String) : Option String :=
  self.headers[asciiLower name]?

def parsedBody (self : HttpRequest) : KeyedMap String String :=
  let contentType := (self.header "content-type").getD ""
  if containsText "json" contentType then
    parseFlatJson self.body
  else if containsText "form-urlencoded" contentType then
    parseForm self.body
  else if (self.body.toList.dropWhile isWhitespace).head? == some '\x7b' then
    parseFlatJson self.body
  else
    parseForm self.body

def toBoundary (self : HttpRequest) : BoundaryRequest :=
  BoundaryRequest.sanitized
    { method := self.method
      path := self.path
      headers := self.headers
      cookies := self.cookies
      query := self.query
      body := self.parsedBody }

@[simp] theorem toBoundary_method (self : HttpRequest) :
    self.toBoundary.method = self.method := rfl

@[simp] theorem toBoundary_path (self : HttpRequest) :
    self.toBoundary.path = self.path := rfl

end HttpRequest

end AuthBoundry
