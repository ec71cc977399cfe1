import Volley.Count
import Volley.Json.Basic
import Volley.Json.Written

/-!
# The value of a JSON text

What a tree of JSON text means as a value. A text has no value if it nests deeper than `maxDepth`,
if a string has half of a surrogate pair, or if a number is too large for floating point.

Whole numbers of 64 bits are exact. Any other number is made by one scaling: as many of its digits
as fit into 64 bits, times or divided by a power of ten. Digits that do not fit only count for the
power, so the result can differ from the nearest floating-point number in the last place.
-/

namespace Volley.Json

/-- The deepest nesting of arrays and objects that a value may have. -/
def maxDepth : Nat := 127

/-- One past the largest number that a significand holds. -/
def significandBound : Nat := word64Bound

/-- Appends decimal digits to a significand as long as it stays in bounds, and counts the digits
that it took. The first digit that does not fit ends it. -/
def absorb (significand : Nat) : List Nat → Nat × Nat
  | [] => (significand, 0)
  | d :: rest =>
    if significand * 10 + d < significandBound then
      let (result, taken) := absorb (significand * 10 + d) rest
      (result, taken + 1)
    else (significand, 0)

/-- The number that decimal digits denote. -/
def digitsValue (ds : List Nat) : Nat :=
  ds.foldl (fun n d => n * 10 + d) 0

/-- A floating-point number times ten to a power, by one multiplication or division, and none if
that is too large. Below the range of a single divisor it is divided in steps, which `fuel` bounds.
-/
def scaleByTen (x : Float) (power : Int) : Nat → Option Float
  | 0 => some x
  | fuel + 1 =>
    if power.natAbs ≤ 308 then
      let factor := Float.ofScientific 1 false power.natAbs
      if 0 ≤ power then
        let y := x * factor
        if y.isInf then none else some y
      else some (x / factor)
    else if x == 0 then some x
    else if 0 ≤ power then none
    else scaleByTen (x / 1e308) (power + 308) fuel

/-- The largest power of ten that the exponent of a number may name. -/
def exponentBound : Nat := 0x7FFFFFFF

/-- The value of a number that is not a 64-bit integer: `significand` times ten to `power` and to
the written exponent. Two divisions by the largest divisor take any significand to zero, so three
steps of scaling are enough. -/
def Numeral.realValue (n : Numeral) (significand : Nat) (power : Int) : Option Number := do
  let signed (x : Float) : Number := .real (if n.negative then -x else x)
  match n.exponent with
  | none => (scaleByTen significand.toUInt64.toFloat power 8).map signed
  | some (down, ds) =>
    let e := digitsValue ds
    if e ≤ exponentBound then
      let power := if down then power - e else power + e
      (scaleByTen significand.toUInt64.toFloat power 8).map signed
    else if significand ≠ 0 ∧ !down then none
    else some (signed 0.0)

/-- The value of a number. A whole number of 64 bits is exact; minus zero is a floating-point
number, because no integer has that sign. -/
def Numeral.value? (n : Numeral) : Option Number :=
  let (significand, taken) := absorb 0 n.whole
  let skipped := n.whole.length - taken
  match n.fraction with
  | some fraction =>
    let (significand, taken) := absorb significand fraction
    n.realValue significand ((skipped : Int) - taken)
  | none =>
    if n.exponent.isSome ∨ skipped ≠ 0 then n.realValue significand skipped
    else if !n.negative then some (.whole significand)
    else if 0 < significand ∧ significand ≤ int64Bound then some (.whole (-significand))
    else some (.real (-significand.toUInt64.toFloat))

/-- The text of a string: two codes that form a surrogate pair are one character, and half of a pair
is nothing. -/
def joinUnits : List StringUnit → Option (List Char)
  | [] => some []
  | .char c :: rest => (joinUnits rest).map (c :: ·)
  | .code high :: .code low :: rest =>
    if 0xD800 ≤ high ∧ high < 0xDC00 then
      if 0xDC00 ≤ low ∧ low < 0xE000 then
        (joinUnits rest).map (Char.ofNat (0x10000 + (high - 0xD800) * 0x400 + (low - 0xDC00)) :: ·)
      else none
    else if 0xDC00 ≤ high ∧ high < 0xE000 then none
    else (joinUnits (.code low :: rest)).map (Char.ofNat high :: ·)
  | .code n :: rest =>
    if 0xD800 ≤ n ∧ n < 0xE000 then none else (joinUnits rest).map (Char.ofNat n :: ·)

/-- The text of a string, as a string. -/
def unitsText? (units : List StringUnit) : Option String :=
  (joinUnits units).map String.ofList

mutual

/-- The value of a tree that may nest at most `depth` deep. -/
def Written.valueWithin? (depth : Nat) : Written → Option Json
  | .null => some .null
  | .bool b => some (.bool b)
  | .numeral n => n.value?.map .number
  | .string units => (unitsText? units).map .string
  | .array items => if depth = 0 then none else (itemsWithin? (depth - 1) items).map .array
  | .object members =>
    if depth = 0 then none
    else (membersWithin? (depth - 1) members).map fun pairs => .object (Entries.ofPairs pairs)

/-- The values of the items of an array. -/
def itemsWithin? (depth : Nat) : List Written → Option (List Json)
  | [] => some []
  | item :: rest => do
    let first ← item.valueWithin? depth
    let later ← itemsWithin? depth rest
    return first :: later

/-- The names and values of the members of an object, as they stand. -/
def membersWithin? (depth : Nat) : List (List StringUnit × Written) → Option (List (String × Json))
  | [] => some []
  | (units, value) :: rest => do
    let name ← unitsText? units
    let first ← value.valueWithin? depth
    let later ← membersWithin? depth rest
    return (name, first) :: later

end

/-- The value of a tree. -/
def Written.value? (tree : Written) : Option Json :=
  tree.valueWithin? maxDepth

/-- The value of a JSON text. -/
def parse? (s : List Char) : Option Json :=
  (Written.read? s).bind Written.value?

end Volley.Json
