import Volley.Decimal.Layout

/-!
# A fixed number of places

Numbers for the eye are rounded to a fixed number of places. The rounding is that of the exact value
of the floating-point number, and half a unit goes to the even neighbour.
-/

namespace Volley.Decimal

/-- A quotient rounded to the nearest natural number, a half to the even one. -/
def roundDiv (num den : Nat) : Nat :=
  let quotient := num / den
  let twice := 2 * (num % den)
  if twice < den ∨ (twice = den ∧ quotient % 2 = 0) then quotient else quotient + 1

/-- A number with exactly `places` digits after the point. -/
def fixed (places : Nat) (x : Float) : String :=
  match Decoded.ofFloat x with
  | .nan => "NaN"
  | .infinite negative => if negative then "-inf" else "inf"
  | .finite b =>
    let units := roundDiv (b.numerator * Nat.pow 10 places) b.denominator
    let fraction := digitsOf (units % Nat.pow 10 places)
    let padded := List.replicate (places - fraction.length) '0' ++ fraction
    String.ofList <|
      (if b.negative then ['-'] else []) ++ digitsOf (units / Nat.pow 10 places) ++
        if places = 0 then [] else '.' :: padded

/-- Rounding moves a quotient by at most half a unit. -/
theorem roundDiv_le (num den : Nat) (h : 0 < den) :
    2 * (roundDiv num den * den) ≤ 2 * num + den ∧
      2 * num ≤ 2 * (roundDiv num den * den) + den := by
  have hdiv : den * (num / den) + num % den = num := Nat.div_add_mod num den
  have hlt : num % den < den := Nat.mod_lt _ h
  have hcomm : num / den * den = den * (num / den) := Nat.mul_comm ..
  unfold roundDiv
  dsimp only
  split
  · omega
  · rw [Nat.add_mul]
    omega

end Volley.Decimal
