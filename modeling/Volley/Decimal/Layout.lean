import Volley.Decimal.Shortest

/-!
# Two ways to write a floating-point number

`plain` writes every digit in its place and never an exponent. `compact` is the form of numbers in
JSON text: in place while the leading digit stands between five places behind the point and sixteen
before it, always with a fraction, and with an exponent elsewhere.
-/

namespace Volley.Decimal

/-- The decimal digits of a number. -/
def digitsOf (n : Nat) : List Char :=
  Nat.toDigits 10 n

/-- Digits with the point put `exponent` places from their end; zeros fill the places between. The
fraction is empty when there is none. -/
def inPlace (s : Scientific) : List Char × List Char :=
  let digits := digitsOf s.digits
  if 0 ≤ s.exponent then (digits ++ List.replicate s.exponent.toNat '0', [])
  else
    let places := (-s.exponent).toNat
    if places < digits.length then
      (digits.take (digits.length - places), digits.drop (digits.length - places))
    else (['0'], List.replicate (places - digits.length) '0' ++ digits)

/-- A number with all its digits in place: the fewest that read back, no exponent, and no fraction
for a whole number. -/
def plain (x : Float) : String :=
  match Decoded.ofFloat x with
  | .nan => "NaN"
  | .infinite negative => if negative then "-inf" else "inf"
  | .finite b =>
    let (whole, fraction) := inPlace (shortest .up b)
    String.ofList <|
      (if b.negative then ['-'] else []) ++ whole ++
        if fraction.isEmpty then [] else '.' :: fraction

/-- A number with an exponent: the leading digit, the point if more digits follow, and the exponent
with its sign. -/
def withExponent (s : Scientific) : List Char :=
  let digits := digitsOf s.digits
  let leading := s.exponent + digits.length - 1
  digits.take 1 ++ (if digits.length = 1 then [] else '.' :: digits.drop 1) ++ ['e'] ++
    (if leading < 0 then '-' :: digitsOf (-leading).toNat else '+' :: digitsOf leading.toNat)

/-- A number as JSON text has it. What JSON cannot say, an infinity or no number, is `null`. -/
def compact (x : Float) : String :=
  match Decoded.ofFloat x with
  | .nan | .infinite _ => "null"
  | .finite b =>
    let s := shortest .even b
    let leading := s.exponent + (digitsOf s.digits).length - 1
    let sign := if b.negative then ['-'] else []
    if -5 ≤ leading ∧ leading ≤ 15 then
      let (whole, fraction) := inPlace s
      String.ofList (sign ++ whole ++ '.' :: if fraction.isEmpty then ['0'] else fraction)
    else String.ofList (sign ++ withExponent s)

end Volley.Decimal
