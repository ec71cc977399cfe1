import Volley.Report.Quantity
import Volley.Text.Integer

/-!
# Amounts as they are read

A quantity for the eye is a number with its unit, or several of these in a row, as in `2m3.25s`. Here
such a text is read back into its amounts. It is normalised if no number in it reaches the next larger
unit: there is always one that would have been shown instead.
-/

namespace Volley.Quantity

/-- A number and the name of the unit behind it. -/
structure Amount where
  /-- The characters of the number. -/
  number : List Char
  /-- The characters of the unit. -/
  unit : List Char
  deriving DecidableEq, Repr

/-- Whether a character belongs to a number. -/
def isNumeric (c : Char) : Bool :=
  c.isDigit || c == '.' || c == '-'

/-- Amounts with one character more before them. -/
def prepend (c : Char) (amounts : List Amount) : List Amount :=
  if isNumeric c then
    match amounts with
    | [] => [⟨[c], []⟩]
    | first :: rest => { first with number := c :: first.number } :: rest
  else
    match amounts with
    | ⟨[], unit⟩ :: rest => ⟨[], c :: unit⟩ :: rest
    | amounts => ⟨[], [c]⟩ :: amounts

/-- The amounts of a text: runs of numeric characters, each with the characters up to the next run.
-/
def amounts (s : List Char) : List Amount :=
  s.foldr prepend []

/-- The whole part of a number, which is below a limit exactly if the number is. -/
def whole? (number : List Char) : Option Int :=
  Text.signed? (number.takeWhile (· != '.'))

/-- The units of durations and sizes. What makes one of the next larger unit is the limit of a unit;
the largest ones have none. -/
def units : List (String × Option Nat) := [
  ("ns", some 1000), ("µs", some 1000), ("ms", some 1000), ("s", some 60), ("m", some 60),
  ("h", none), ("B", some 1024), ("K", some 1024), ("M", some 1024), ("G", none)]

/-- Whether an amount is a number below the limit of a known unit. -/
def Amount.isNormal (a : Amount) : Bool :=
  match whole? a.number, units.lookup (String.ofList a.unit) with
  | some whole, some limit => limit.all fun limit => decide (whole < limit)
  | _, _ => false

/-- Whether a text is made of amounts below the limits of their units. -/
def isNormalized (text : String) : Bool :=
  !(amounts text.toList).isEmpty && (amounts text.toList).all Amount.isNormal

end Volley.Quantity
