import Volley.Host.Domain
import Volley.Host.Grouped
import Volley.Text.Percent

/-!
# Hosts

A host is a name or a number. Between brackets stands a number of sixteen bytes; else the text of a
host may be percent-encoded, and is a number of four bytes if it ends in a number. Only the schemes
of the web read hosts in this way: other schemes take every text for a name as it stands.
-/

namespace Volley

/-- Where a request can be sent. -/
inductive Host where
  /-- A name, as it is written. Without characters it is no host at all. -/
  | name (text : List Char)
  /-- Four bytes. -/
  | dotted (bytes : List Nat)
  /-- Eight groups of two bytes. -/
  | grouped (groups : List Nat)
  deriving DecidableEq, Repr, Inhabited

namespace Host

/-- The host that stands between brackets from an opening one on. -/
def ofBrackets? (s : List Char) : Option Host := do
  let inner ← Text.dropStop? [']'] s
  return .grouped (← Grouped.ofText? inner)

/-- The host with a text, as the schemes of the web have it. -/
def ofText? : List Char → Option Host
  | '[' :: rest => ofBrackets? rest
  | s => do
    let name ← Domain.ofText? (← Text.Utf8.decode? (Text.Percent.decode s))
    if name.isEmpty then none
    if Dotted.endsInNumber name then
      return .dotted (← Dotted.ofText? name)
    return .name name

/-- Whether a character is not allowed in a host of any scheme. -/
def isForbidden (c : Char) : Bool :=
  "\x00\t\n\r #/:<>?@[\\]^|".toList.contains c

/-- The host with a text, as the other schemes have it. -/
def verbatim? : List Char → Option Host
  | '[' :: rest => ofBrackets? rest
  | s => if s.any isForbidden then none else some (.name (Text.Percent.encode [] s))

/-- A host in its canonical form. -/
def toText : Host → List Char
  | .name text => text
  | .dotted bytes => Dotted.toText bytes
  | .grouped groups => '[' :: Grouped.toText groups ++ [']']

end Host

end Volley
