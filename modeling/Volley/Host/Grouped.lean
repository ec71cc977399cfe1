import Volley.Host.Dotted

/-!
# Hosts written as groups of digits

An address of sixteen bytes is written as eight groups of up to four hexadecimal digits with colons
between them. Two colons stand for as many groups of zeros as are missing, at least one, and the
last two groups may be written as four bytes with dots. In the canonical form the digits are in
lower case and two colons stand for the first longest run of zero groups, if it has two or more.
-/

namespace Volley.Host.Grouped

/-- One group of digits. -/
def group? (s : List Char) : Option Nat :=
  if s.isEmpty ∨ 4 < s.length then none else Dotted.inBase? 16 s

/-- A byte in decimal, without leading zeros. -/
def byte? (s : List Char) : Option Nat :=
  if s.head? = some '0' ∧ s ≠ ['0'] then none
  else (Text.natural? s).filter (· < 256)

/-- Four bytes with dots, as two groups. -/
def pair? (s : List Char) : Option (List Nat) := do
  match ← (Text.split (· = '.') s).mapM byte? with
  | [a, b, c, d] => some [a * 256 + b, c * 256 + d]
  | _ => none

/-- The groups of a text without double colons; its end may be in dotted form if it is the end of
the host. -/
def groups? (isEnd : Bool) (s : List Char) : Option (List Nat) :=
  if s.isEmpty then some []
  else
    let parts := Text.split (· = ':') s
    let last := parts.getLast?.getD []
    if isEnd ∧ last.contains '.' then do
      return (← parts.dropLast.mapM group?) ++ (← pair? last)
    else parts.mapM group?

/-- The eight groups of a host. -/
def ofText? (s : List Char) : Option (List Nat) :=
  match Text.cut? [':', ':'] s with
  | none => (groups? true s).filter (·.length = 8)
  | some (before, after) => do
    let before ← groups? false before
    let after ← groups? true after
    let given := before.length + after.length
    if given < 8 then some (before ++ List.replicate (8 - given) 0 ++ after) else none

/-- How many zeros begin a list. -/
def zeros (groups : List Nat) : Nat :=
  (groups.takeWhile (· = 0)).length

/-- The place of the first longest run of zeros and its length. -/
def longestRun (groups : List Nat) : Nat × Nat :=
  (List.range groups.length).foldl (fun best place =>
    let length := zeros (groups.drop place)
    if best.2 < length then (place, length) else best) (0, 0)

/-- Groups with single colons between them. -/
def joined (groups : List Nat) : List Char :=
  [':'].intercalate (groups.map (Nat.toDigits 16))

/-- Groups in the canonical form. -/
def toText (groups : List Nat) : List Char :=
  match longestRun groups with
  | (place, length) =>
    if length < 2 then joined groups
    else joined (groups.take place) ++ [':', ':'] ++ joined (groups.drop (place + length))

end Volley.Host.Grouped
