import Volley.Count

/-!
# Integers as text

A signed 64-bit integer is written with an optional sign of either kind and at least one ASCII
digit, and nothing else. Out of range it is no integer at all.
-/

namespace Volley.Text

/-- An ASCII digit's value. -/
def asciiDigit? (c : Char) : Option Nat :=
  if '0' ≤ c ∧ c ≤ '9' then some (c.toNat - '0'.toNat) else none

/-- The number that one ASCII digit or more denotes. -/
def natural? (s : List Char) : Option Nat :=
  if s.isEmpty then none
  else s.foldlM (fun n c => (asciiDigit? c).map (n * 10 + ·)) 0

/-- An integer with an optional sign. -/
def signed? : List Char → Option Int
  | '-' :: rest => (natural? rest).map fun n => -(n : Int)
  | '+' :: rest => (natural? rest).map fun n => (n : Int)
  | s => (natural? s).map fun n => (n : Int)

/-- The least and the greatest signed 64-bit integer bound a range. -/
def inInt64 (n : Int) : Bool :=
  decide (-(int64Bound : Int) ≤ n) && decide (n < int64Bound)

/-- A signed 64-bit integer. -/
def int64? (s : List Char) : Option Int :=
  (signed? s).filter inInt64

end Volley.Text
