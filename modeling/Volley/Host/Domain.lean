import Volley.Text.Composition
import Volley.Text.Direction
import Volley.Text.Excluded
import Volley.Text.Folding
import Volley.Text.Joining
import Volley.Text.Punycode

/-!
# Names of hosts

A name is written with the characters of ASCII alone. Its labels are the parts between dots: one
with other characters is written in Punycode behind a marker, after its characters were folded and
composed. A label that has the marker from the start has to read as one that would be written just
so.

A name that could be taken for another one is none: no label begins with a mark, join controls stand
only where they matter, and if anything in the name goes from right to left, then each of its labels
goes one way as a whole.
-/

namespace Volley.Host.Domain

/-- Whether a character is one of ASCII. -/
def isAscii (c : Char) : Bool :=
  c.toNat < 0x80

/-- Whether a character of ASCII ends the name of a host or is not allowed in it. -/
def isDenied (c : Char) : Bool :=
  c.toNat ≤ 0x20 || c.toNat = 0x7F || "#/:<>?@[\\]^|%".toList.contains c

/-- The characters of a name in the form that all of its spellings share, if a name can hold them.
Characters of ASCII are composed as they stand. -/
def normal? (s : List Char) : Option (List Char) :=
  let normal := if s.all isAscii then s.map Char.toLower else Text.composed (Text.folded s)
  if s.any (fun c => !isAscii c && Text.isExcluded c) || normal.any isDenied then none
  else some normal

/-- A part of a name between dots. -/
structure Label where
  /-- The characters that it reads as. -/
  shown : List Char
  /-- The characters of ASCII that it is written with. -/
  written : List Char
  deriving DecidableEq, Repr, Inhabited

namespace Label

/-- What stands before Punycode. -/
def marker : List Char := "xn--".toList

/-- The most characters of a label that is written in Punycode. -/
def mostCharacters : Nat := 1000

/-- The label that is written in Punycode as the text after the marker. It reads as something that
is not ASCII, that is in the shared form already, and that has no marker of its own. -/
def ofMarked? (rest : List Char) : Option Label := do
  let shown ← Text.Punycode.decode? rest
  if shown.all isAscii ∨ normal? shown ≠ some shown ∨ marker.isPrefixOf shown then none
  return ⟨shown, marker ++ rest⟩

/-- The label with characters in the shared form. -/
def ofText? (s : List Char) : Option Label :=
  match Text.dropStart? marker s with
  | some rest => ofMarked? rest
  | none =>
    if s.all isAscii then some ⟨s, s⟩
    else if s.length ≤ mostCharacters then some ⟨s, marker ++ Text.Punycode.encode s⟩
    else none

/-- Whether a label does not begin with a mark and has join controls only where they matter. -/
def isSound (label : Label) : Bool :=
  !label.shown.head?.any Text.isMark && Text.joinsWell [] label.shown

end Label

/-- A name as it is written, if it can be the name of a host. -/
def ofText? (s : List Char) : Option (List Char) := do
  let labels ← (Text.split (· = '.') (← normal? s)).mapM Label.ofText?
  let isMixed := labels.any fun label => Text.hasRightToLeft label.shown
  if !labels.all Label.isSound ∨
      (isMixed ∧ !labels.all fun label => Text.readsOneWay label.shown) then none
  return ['.'].intercalate (labels.map Label.written)

end Volley.Host.Domain
