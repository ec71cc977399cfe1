import Volley.Fault
import Volley.Message
import Volley.Network.Address

/-!
# The network

A network answers requests with the replies of a script, one after the other. A request that cannot
go on the wire is refused before anything is sent: its method has to be a token, its address has to
name a host, its headers have to be sendable, and its host has to be one that requests can be sent
to, in this order. What comes back is recorded with the names of headers in lower case, the values
of one name side by side, and without values that are not text.
-/

namespace Volley

/-- What a host sends back. -/
structure Reply where
  /-- The status code. -/
  status : Nat := 200
  /-- The headers, in the order in which they are sent. -/
  headers : List Header := []
  /-- The bytes of the body. -/
  body : List UInt8 := []
  /-- The nanoseconds of the round trip. -/
  elapsed : Nat := 0
  /-- Whether the body is as long as it was announced to be. -/
  isComplete : Bool := true
  deriving DecidableEq, Repr, Inhabited

namespace Reply

/-- Headers with those of one name side by side, where the first of them stood. -/
def grouped (headers : List Header) : List Header :=
  (headers.map Prod.fst).eraseDups.flatMap fun name => headers.filter fun header => header.1 == name

/-- The value of a header without the blanks around it. -/
def trimBlanks (value : String) : String :=
  let isBlank (c : Char) : Bool := c = ' ' || c = '\t'
  String.ofList ((value.toList.dropWhile isBlank).reverse.dropWhile isBlank).reverse

/-- Whether the value of a header is text: visible ASCII characters, spaces and tabs. -/
def isText (value : String) : Bool :=
  value.toList.all fun c => c = '\t' || (0x20 ≤ c.toNat && c.toNat < 0x7F)

/-- The headers of a reply as they are recorded. -/
def recordedHeaders (r : Reply) : List Header :=
  let received := r.headers.map fun header =>
    (String.ofList (header.1.toList.map Char.toLower), trimBlanks header.2)
  (grouped received).filter fun header => isText header.2

/-- The response that a reply amounts to. -/
def response (r : Reply) : Response where
  status := r.status
  headers := r.recordedHeaders
  body := r.body
  elapsed := r.elapsed
  size := responseSize r.status r.recordedHeaders r.body

/-- Whether a reply only says where else to ask. -/
def isRedirection (r : Reply) : Bool :=
  (r.status = 301 || r.status = 302) && (findHeader? r.headers "location").isSome

end Reply

/-- How requests reach a host and its replies come back. -/
abbrev Transport (σ : Type) : Type := Request → σ → Except Fault Reply × σ

/-- Sends a request over a transport. What is recorded is the response that the reply amounts to. -/
def Transport.send {σ : Type} (transport : Transport σ) (request : Request) (network : σ) :
    Except Fault Response × σ :=
  let (answer, network) := transport request network
  (answer.map Reply.response, network)

/-- Whether a character can stand in a token. -/
def isTokenChar (c : Char) : Bool :=
  c.isAlphanum || "!#$%&\x27*+-.^_\x60|~".toList.contains c

/-- Whether a text is a token, as a method and the name of a header have to be. -/
def isToken (s : String) : Bool :=
  !s.isEmpty && s.toList.all isTokenChar

/-- Whether a header can go on the wire: its value has no control characters other than tabs. -/
def isSendable (header : Header) : Bool :=
  isToken header.1 &&
    header.2.toList.all fun c => c = '\t' || (0x20 ≤ c.toNat && c.toNat ≠ 0x7F)

/-- A network with a script of replies; in the place of a reply there may be a closed connection. -/
structure Network where
  /-- Whether hosts can be reached at all. -/
  isUp : Bool := true
  /-- What the hosts will answer. -/
  script : List (Option Reply) := []
  /-- Whether the last entry of the script is never used up. -/
  lastRepeats : Bool := false
  /-- How many redirections of one request are followed; none of them if redirections are recorded
  as they are. -/
  redirections : Option Nat := none
  /-- How many requests have reached a host. -/
  served : Nat := 0
  deriving Inhabited

namespace Network

/-- The next reply, and the network after it. -/
def next (n : Network) : Option Reply × Network :=
  match n.script with
  | [] => (none, { n with served := n.served + 1 })
  | [last] =>
    (last, { n with script := if n.lastRepeats then [last] else [], served := n.served + 1 })
  | reply :: rest => (reply, { n with script := rest, served := n.served + 1 })

/-- One round trip to an address. -/
def roundTrip (address : String) (n : Network) : Except SendFailure Reply × Network :=
  if n.isUp then
    match n.next with
    | (some reply, n) => (.ok reply, n)
    | (none, n) => (.error (.unanswered address), n)
  else (.error (.unanswered address), n)

/-- Round trips until a reply is no redirection, but at most `allowed` beyond the first. -/
def follow (address : String) (allowed : Nat) (n : Network) : Except SendFailure Reply × Network :=
  match n.roundTrip address with
  | (.error cause, n) => (.error cause, n)
  | (.ok reply, n) =>
    if reply.isRedirection then
      match allowed with
      | 0 => (.error (.redirected address), n)
      | allowed + 1 => n.follow address allowed
    else (.ok reply, n)

/-- The reply to a request for an address. -/
def fetch (address : String) (n : Network) : Except SendFailure Reply × Network :=
  match n.redirections with
  | none => n.roundTrip address
  | some allowed => n.follow address allowed

/-- Why a request for an address cannot go on the wire, if so. -/
def refusal? (request : Request) (address : Address) : Option SendFailure :=
  if address.host?.isNone then some (.unsupported address.toText)
  else if !request.headers.all isSendable then some .unsendable
  else if !address.isSendable then some (.unsupported address.toText)
  else none

/-- Sends a request and waits for the whole reply. -/
def answer (request : Request) (n : Network) : Except Fault Reply × Network :=
  if !isToken request.method then (.error (.invalid (.method request.method)), n)
  else
    match Address.ofString? request.url with
    | none => (.error (.request request.url .unsendable), n)
    | some address =>
      match refusal? request address with
      | some cause => (.error (.request request.url cause), n)
      | none =>
        match n.fetch address.toText with
        | (.error cause, n) => (.error (.request request.url cause), n)
        | (.ok reply, n) =>
          if reply.isComplete then (.ok reply, n)
          else (.error (.request request.url .cutShort), n)

/-- Sends a request and waits for the whole response. -/
def send : Request → Network → Except Fault Response × Network :=
  Transport.send answer

end Network

end Volley
