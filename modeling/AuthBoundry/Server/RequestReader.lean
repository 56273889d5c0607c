import AuthBoundry.Server.OutgrownLengths
import AuthBoundry.Server.UpstreamProxy

/-!
# Reading requests from a stream

A request is read from what a client sends: its first line, its headers, and as
many bytes as the last content length says, up to a limit.  The client of this
repository writes requests in the same form.
-/

namespace AuthBoundry

open Library
open scoped Library.Listed

/-! ## The reader -/

/-- A request as it was received. -/
structure ReceivedRequest where
  method : Method
  target : String
  path : String
  query : KeyedMap String String
  headers : KeyedMap String String
  cookies : KeyedMap String String
  body : List UInt8

def maxBodyBytes : Nat := 2 ^ 20

namespace ReceivedRequest

def assemble (method : Method) (target : String)
    (headers : KeyedMap String String) (body : List UInt8) :
    ReceivedRequest :=
  let (path, query) := splitTarget target
  { method
    target
    path
    query
    headers
    cookies := (headers["cookie"]?.map parseCookies).getD ∅
    body }

def readFrom (stream : List UInt8) : ReadResult ReceivedRequest := do
  let (requestLine, rest) ← readLine stream
  refuseIf (requestLine == "") (.error "empty request")
  let parts := splitWhitespace requestLine
  let method ←
    match parts[0]?.bind Method.parse with
    | some method => .ok method
    | none => .error (.error "unsupported method")
  let target ←
    match parts[1]? with
    | some target => .ok target
    | none => .error (.error "missing request target")
  let (lines, rest) ← readHeaders rest
  let headers := collectPairs lines
  let length :=
    min ((headers["content-length"]?.bind parseU64).getD 0) maxBodyBytes
  let (body, _) ← readExact length rest
  .ok (assemble method target headers body)

end ReceivedRequest

/-! ## The writers -/

def writtenLine (field : String × String) : String :=
  s!"{field.1}: {field.2}\r\n"

namespace ClientRequest

/-- The fields that are written, the first of which names the host. -/
def writtenFields (self : ClientRequest) (host : String) :
    List (String × String) :=
  ("host", host) :: (self.headers ++
    [("content-length", toString self.body.length), ("connection", "close")])

/-- The text before the body. -/
def writtenHead (self : ClientRequest) (host : String) : String :=
  s!"{self.method.asStr} {self.path} HTTP/1.1\r\n" ++
    String.join ((self.writtenFields host).map writtenLine) ++ "\r\n"

/-- What `send` and `exchange` write to the stream. -/
def written (self : ClientRequest) (host : String) : List UInt8 :=
  utf8 (self.writtenHead host) ++ self.body

end ClientRequest

end AuthBoundry
