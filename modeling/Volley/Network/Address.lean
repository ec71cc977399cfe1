import Volley.Count
import Volley.Host.Basic
import Volley.Network.Target

/-!
# Addresses

The address of a request, read from its text and written in the one canonical form that all of its
spellings share: the scheme in lower case, the host in its canonical form, no number after the host
if it is the usual one, a path without detours, and every byte that may not stand for itself
encoded.

There are three kinds of schemes. Those of the web have a host, with any number of slashes of either
kind before it and in the path. That of files may have a host, and knows the letters of drives. All
others have a host if two slashes say so, and else may have a path that is any text.

`Address.ofString?` fails where a text is no address of any scheme: it has no scheme, its host
cannot be one or is missing where there has to be one, or what follows the colon after the host is
no number of 16 bits. Nothing that follows the host makes an address invalid. Whether a request can
be sent to an address is another question: `Address.isSendable` answers it.
-/

namespace Volley

/-- The part of an address between two slashes and the path. -/
structure Authority where
  /-- What stands before the host, in its encoded form. It is left out if it is text, since then it
  goes into a header. -/
  user : List Char := []
  /-- The host. -/
  host : Host
  /-- The number after the host, unless it is the usual one. -/
  number : Option Nat := none
  deriving DecidableEq, Repr, Inhabited

/-- Where a request goes. -/
structure Address where
  /-- The scheme, in lower case. -/
  scheme : List Char
  /-- The host and what is around it, if there are slashes before it. -/
  authority : Option Authority
  /-- The path, the query and the fragment, in their canonical form. -/
  target : List Char
  deriving DecidableEq, Repr, Inhabited

/-! ## The part with the host -/

namespace Authority

/-- What has to be encoded in a user's name and password. -/
def userReserved : List Char :=
  Target.pathReserved ++ "/:;=@[\\]^|".toList

/-- Whether bytes are text. -/
def isText (s : List Char) : Bool :=
  (Text.Utf8.decode? (Text.Percent.decode s)).isSome

/-- What remains in an address of a user's name and password, with the mark that ends them. They are
left out if the name is text, and the password too if there is no name. -/
def userOf (s : List Char) : List Char :=
  let (name, password) := (Text.cut? [':'] s).getD (s, [])
  let name := Text.Percent.encode userReserved name
  let password := Text.Percent.encode userReserved password
  if name.isEmpty ∧ password.isEmpty then []
  else if isText (if name.isEmpty then password else name) then []
  else name ++ (if password.isEmpty then [] else ':' :: password) ++ ['@']

/-- Whether there is a user's name or a password in the text before the host. -/
def hasUser (s : List Char) : Bool :=
  !s.isEmpty && s != [':']

/-- The number after the host and a colon, where the usual one is as good as none. -/
def number? (usual : Option Nat) : List Char → Option (Option Nat)
  | [] => some none
  | [':'] => some none
  | ':' :: digits => do
    let n ← Text.natural? digits
    if n < word16Bound then some (if usual = some n then none else some n) else none
  | _ => none

/-- The text of a host and what follows it. A colon ends a host outside of brackets. -/
def cutHost (s : List Char) : List Char × List Char :=
  if s.head? = some '[' then
    let inner := s.takeWhile (· != ']')
    let rest := s.dropWhile (· != ']')
    (inner ++ rest.take 1, rest.drop 1)
  else (s.takeWhile (· != ':'), s.dropWhile (· != ':'))

/-- The authority with a text, where `host?` reads the host and `usual` is the usual number. -/
def ofText? (host? : List Char → Option Host) (usual : Option Nat) (s : List Char) :
    Option Authority := do
  let (user, rest) := (Text.cutLast? '@' s).getD ([], s)
  let (hostText, rest) := cutHost rest
  let host ← host? hostText
  if host = .name [] ∧ (hasUser user ∨ !rest.isEmpty) then none
  return ⟨userOf user, host, ← number? usual rest⟩

/-- An authority as it stands in an address. -/
def toText (a : Authority) : List Char :=
  let number := match a.number with
    | some n => ':' :: (toString n).toList
    | none => []
  a.user ++ a.host.toText ++ number

end Authority

namespace Address

/-! ## Schemes -/

/-- The schemes of the web and the usual number of each. -/
def webSchemes : List (List Char × Nat) :=
  [("http".toList, 80), ("https".toList, 443), ("ws".toList, 80), ("wss".toList, 443),
    ("ftp".toList, 21)]

/-- The usual number of a scheme of the web. -/
def usualNumber? (scheme : List Char) : Option Nat :=
  (webSchemes.find? (·.1 == scheme)).map Prod.snd

/-- The scheme of files. -/
def fileScheme : List Char := "file".toList

/-- Whether a character can stand in a scheme. -/
def isSchemeChar (c : Char) : Bool :=
  c.isAlphanum || c = '+' || c = '-' || c = '.'

/-- The scheme of an address and what follows its colon. -/
def cutScheme? (s : List Char) : Option (List Char × List Char) := do
  let (scheme, rest) ← Text.cut? [':'] s
  if scheme.head?.any Char.isAlpha ∧ scheme.all isSchemeChar then
    some (scheme.map Char.toLower, rest)
  else none

/-! ## Slashes and paths -/

/-- Whether a character is a slash of the schemes of the web and of files. -/
def isSlash (c : Char) : Bool :=
  c = '/' || c = '\\'

/-- Whether a character is a slash of the other schemes. -/
def isPlainSlash (c : Char) : Bool :=
  c = '/'

/-- Whether a character comes before the path. -/
def isBeforePath (isSlash : Char → Bool) (c : Char) : Bool :=
  !isSlash c && c != '?' && c != '#'

/-- A path of a scheme of the web. -/
def webPath (s : List Char) : List Char :=
  Target.ofSegments (Target.segments isSlash s)

/-- What has to be encoded in a query of a scheme of the web. -/
def webQueryReserved : List Char :=
  '\x27' :: Target.queryReserved

/-- A path of a file: the letters of drives have a colon, and there is one slash at the start. -/
def filePath (s : List Char) : List Char :=
  let withColon (segment : List Char) : List Char :=
    if Target.isDrive segment then segment.take 1 ++ [':'] else segment
  '/' :: (Target.ofSegments ((Target.segments isSlash s).map withColon)).dropWhile (· = '/')

/-- A path after a host of any other scheme. -/
def plainPath : List Char → List Char
  | [] => []
  | s => Target.ofSegments (Target.segments isPlainSlash s)

/-- A path of any other scheme that has no host. It must not look as if it had one. -/
def lonePath (s : List Char) : List Char :=
  if s.head? = some '/' then
    let path := plainPath s
    if "//".toList.isPrefixOf path then "/.".toList ++ path else path
  else Text.Percent.encode [] s

/-! ## Reading -/

/-- The address of a scheme of the web, after the slashes. -/
def ofWeb? (scheme s : List Char) : Option Address := do
  let inside := isBeforePath isSlash
  let authority ← Authority.ofText? Host.ofText? (usualNumber? scheme) (s.takeWhile inside)
  return ⟨scheme, some authority, Target.canonical webPath webQueryReserved (s.dropWhile inside)⟩

/-- The host of a file, if it is not the letter of a drive. The local host is as good as none. -/
def fileHost? (s : List Char) : Option Host :=
  if s.isEmpty then some (.name [])
  else (Host.ofText? s).map fun host => if host = .name "localhost".toList then .name [] else host

/-- The address of a file. A path with the letter of a drive has no host. -/
def ofFile? (s : List Char) : Option Address := do
  let target (rest : List Char) : List Char := Target.canonical filePath webQueryReserved rest
  let withHost (host : Host) (rest : List Char) : Address :=
    ⟨fileScheme, some { host }, target rest⟩
  let inside := isBeforePath isSlash
  match s with
  | a :: b :: rest =>
    let hostText := rest.takeWhile inside
    let afterHost := rest.dropWhile inside
    if !isSlash a || !isSlash b then return withHost (.name []) s
    else if Target.isDrive hostText then return withHost (.name []) rest
    else
      let host ← fileHost? hostText
      let path := afterHost.takeWhile fun c => c != '?' && c != '#'
      let hasDrive := (Target.segments isSlash path).any Target.isDrive
      return withHost (if hasDrive then .name [] else host) afterHost
  | _ => return withHost (.name []) s

/-- The address of any other scheme. -/
def ofOther? (scheme : List Char) : List Char → Option Address
  | '/' :: '/' :: s => do
    let inside := isBeforePath isPlainSlash
    let user := s.takeWhile inside
    let rest := s.dropWhile inside
    let authority ← Authority.ofText? Host.verbatim? none user
    if user = ['@'] ∧ !rest.isEmpty then none
    return ⟨scheme, some authority, Target.canonical plainPath Target.queryReserved rest⟩
  | s => some ⟨scheme, none, Target.canonical lonePath Target.queryReserved s⟩

/-- Whether a character is dropped from both ends of an address. -/
def isMargin (c : Char) : Bool :=
  c.toNat ≤ 0x20

/-- An address without the characters that mean nothing in it. -/
def cleaned (s : List Char) : List Char :=
  ((s.dropWhile isMargin).reverse.dropWhile isMargin).reverse.filter fun c =>
    c != '\t' && c != '\n' && c != '\r'

/-- The address with a text. -/
def ofString? (text : String) : Option Address := do
  let (scheme, rest) ← cutScheme? (cleaned text.toList)
  if scheme = fileScheme then ofFile? rest
  else if (usualNumber? scheme).isSome then ofWeb? scheme (rest.dropWhile isSlash)
  else ofOther? scheme rest

/-! ## Writing -/

/-- The canonical text of an address. -/
def toText (a : Address) : String :=
  let authority := match a.authority with
    | some authority => "//".toList ++ authority.toText
    | none => []
  String.ofList (a.scheme ++ ':' :: authority ++ a.target)

/-! ## Sending -/

/-- The host of an address, if it names one. -/
def host? (a : Address) : Option Host :=
  (a.authority.map Authority.host).filter (· != .name [])

/-- Whether a host can be named on the wire. -/
def isNameable (host : Host) : Bool :=
  host.toText.all fun c => !"\"\x60\x7b\x7d".toList.contains c

/-- The most bytes of an address on the wire. -/
def mostBytes : Nat := 65534

/-- Whether a request can be sent to an address. -/
def isSendable (a : Address) : Bool :=
  ["http".toList, "https".toList].contains a.scheme && a.host?.any isNameable &&
    a.toText.utf8ByteSize ≤ mostBytes

end Address

end Volley
