import Volley.Decimal.Binary

/-!
# The fewest digits that read back

A floating-point number stands for every real that rounds to it: an interval around the number, with
its ends if the significand is even. Of the decimals in that interval the ones with the fewest
digits are wanted, and of those the one nearest to the number. On the grid of decimals with a given
number of digits it is enough to look at the two neighbours of the number; the first grid with a
neighbour in the interval decides.
-/

namespace Volley.Decimal

/-- A natural number times a power of ten. -/
structure Scientific where
  /-- The digits, as a number. -/
  digits : Nat
  /-- The power of ten of the last digit. -/
  exponent : Int
  deriving DecidableEq, Repr

namespace Scientific

/-- Moves the zeros at the end of the digits into the exponent, as far as `fuel` lets it. -/
def stripZeros : Nat → Scientific → Scientific
  | 0, s => s
  | fuel + 1, s =>
    if s.digits ≠ 0 ∧ s.digits % 10 = 0 then stripZeros fuel ⟨s.digits / 10, s.exponent + 1⟩ else s

end Scientific

/-- How a decimal exactly between two candidates is settled. -/
inductive Tie where
  /-- To the larger magnitude. -/
  | up
  /-- To the even last digit. -/
  | even
  deriving DecidableEq, Repr

/-- The place of the leading digit: the magnitude is below ten to this power, and not below a tenth
of it. The shift by 400 places keeps every positive number in sight of the integer division. -/
def magnitude (b : Binary) : Int :=
  ((Nat.toDigits 10 (b.numerator * Nat.pow 10 400 / b.denominator)).length : Int) - 400

/-- The decimal with `count` digits that reads back as the number and is nearest to it, if any does.
All quantities are multiplied by one power of two and one of ten that make them natural: `quarter`
is a quarter of the significand's unit, `step` the distance of two decimals on the grid, `value` the
number, `low` and `high` the ends of its interval. Below a power of two the numbers lie twice as
dense, so there the lower end is only a quarter of a unit away. -/
def candidate? (tie : Tie) (b : Binary) (count : Nat) : Option Scientific :=
  let place := magnitude b - count
  let quarter := Nat.pow 2 (b.exponent - 2).toNat * Nat.pow 10 (-place).toNat
  let step := Nat.pow 10 place.toNat * Nat.pow 2 (2 - b.exponent).toNat
  let value := 4 * b.significand * quarter
  let low := (4 * b.significand -
    (if b.significand = hiddenBit ∧ -1074 < b.exponent then 1 else 2)) * quarter
  let high := (4 * b.significand + 2) * quarter
  let inside (x : Nat) : Bool :=
    if b.significand % 2 = 0 then low ≤ x && x ≤ high else low < x && x < high
  let below := value / step
  match inside (below * step), inside ((below + 1) * step) with
  | false, false => none
  | true, false => some ⟨below, place⟩
  | false, true => some ⟨below + 1, place⟩
  | true, true =>
    let toLow := value - below * step
    let toHigh := (below + 1) * step - value
    if toLow < toHigh then some ⟨below, place⟩
    else if toHigh < toLow then some ⟨below + 1, place⟩
    else match tie with
      | .up => some ⟨below + 1, place⟩
      | .even => some ⟨below + below % 2, place⟩

/-- The decimal with the fewest digits that reads back as the number, and of those the nearest.
Seventeen digits always suffice. -/
def shortest (tie : Tie) (b : Binary) : Scientific :=
  if b.significand = 0 then ⟨0, 0⟩
  else
    match (List.range 17).findSome? fun i => candidate? tie b (i + 1) with
    | some s => s.stripZeros 20
    | none => ⟨0, 0⟩

end Volley.Decimal
