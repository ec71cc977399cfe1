import Volley.Count
import Volley.Json.Value
import Volley.Text.Utf8

/-!
# Requests and responses

A request as it goes on the wire and the response to it, their sizes in bytes, and the look-up of
headers. A size counts the first line, one line for each header, the empty line and the body, each
line with its two-byte end.
-/

namespace Volley

/-- A pair of a header's name and value. -/
abbrev Header : Type := String × String

/-- A request with all placeholders filled in. -/
structure Request where
  /-- The method. -/
  method : String
  /-- The address, with everything that follows the host. -/
  url : String
  /-- The headers, in the order of the file. -/
  headers : List Header
  /-- The body. -/
  body : String
  deriving DecidableEq, Repr, Inhabited

/-- A response that was received in full. -/
structure Response where
  /-- The status code. -/
  status : Nat
  /-- The headers, in the order they came in. -/
  headers : List Header
  /-- The bytes of the body. -/
  body : List UInt8
  /-- The nanoseconds of the round trip. -/
  elapsed : Nat
  /-- The bytes received. -/
  size : Nat
  deriving DecidableEq, Repr, Inhabited

/-- Whether two texts are equal but for the case of ASCII letters. -/
def sameLetters (a b : String) : Bool :=
  a.toList.map Char.toLower == b.toList.map Char.toLower

/-- The value of the first header with a name, where the case of letters does not count. -/
def findHeader? (headers : List Header) (name : String) : Option String :=
  (headers.find? fun header => sameLetters header.1 name).map (·.2)

/-- The bytes of one header line. -/
def headerSize (header : Header) : Nat :=
  header.1.utf8ByteSize + 2 + header.2.utf8ByteSize + 2

/-- The bytes of all header lines. -/
def headersSize (headers : List Header) : Nat :=
  total (headers.map headerSize)

namespace Request

/-- The value of the first header with a name. -/
def header? (r : Request) (name : String) : Option String :=
  findHeader? r.headers name

/-- The bytes of a request on the wire. -/
def size (r : Request) : Nat :=
  r.method.utf8ByteSize + 1 + r.url.utf8ByteSize + " HTTP/1.1\r\n".utf8ByteSize +
    headersSize r.headers + 2 + r.body.utf8ByteSize

/-- The compact JSON text of a request, whose parts stand in the order of a request. -/
def json (r : Request) : String :=
  let pairs := r.headers.map fun (name, value) => Json.array [.string name, .string value]
  String.ofList <| '\x7b' :: Json.writeMembers [
    ("method", .string r.method), ("url", .string r.url), ("headers", .array pairs),
    ("body", .string r.body)] ++ ['\x7d']

end Request

/-- The bytes of a response on the wire, from its parts. -/
def responseSize (status : Nat) (headers : List Header) (body : List UInt8) : Nat :=
  "HTTP/1.1 ".utf8ByteSize + (toString status).utf8ByteSize + 2 + headersSize headers + 2 +
    body.length

namespace Response

/-- The value of the first header with a name. -/
def header? (r : Response) (name : String) : Option String :=
  findHeader? r.headers name

/-- The body as text, with the replacement character for what is not valid. -/
def bodyText (r : Response) : String :=
  String.ofList (Text.Utf8.decodeLossy r.body)

end Response

/-- A body that is nothing but ASCII white space holds no document. -/
def isBlankBody (body : List UInt8) : Bool :=
  body.all fun b => b = 9 || b = 10 || b = 12 || b = 13 || b = 32

/-- The JSON document of a body, if it holds one. -/
def bodyDocument? (body : List UInt8) : Option Json :=
  if isBlankBody body then none else (Text.Utf8.decode? body).bind Json.parse?

/-- What one case sent and received. -/
structure Exchange where
  /-- The request that was sent. -/
  request : Request
  /-- The response that came back. -/
  response : Response
  deriving DecidableEq, Repr, Inhabited

namespace Exchange

/-- The JSON document of the request's body. -/
def requestDocument? (e : Exchange) : Option Json :=
  bodyDocument? (Text.Utf8.encode e.request.body.toList)

/-- The JSON document of the response's body. -/
def responseDocument? (e : Exchange) : Option Json :=
  bodyDocument? e.response.body

end Exchange

end Volley
