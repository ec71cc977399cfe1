import Volley.Count

/-!
# Floating-point numbers taken apart

A binary floating-point number is not a number, an infinity, or a sign with a natural number times a
power of two. All texts of numbers are written from this form by exact arithmetic on naturals.
-/

namespace Volley.Decimal

/-- A finite number: the significand times two to the exponent, under a sign. Zero has both signs.
-/
structure Binary where
  /-- Whether the sign is minus. -/
  negative : Bool
  /-- The significand. -/
  significand : Nat
  /-- The power of two that it is scaled by. -/
  exponent : Int
  deriving DecidableEq, Repr

/-- What a floating-point number stands for. -/
inductive Decoded where
  /-- Not a number. -/
  | nan
  /-- An infinity, with its sign. -/
  | infinite (negative : Bool)
  /-- A number, with the sign of zero kept. -/
  | finite (value : Binary)
  deriving DecidableEq, Repr

/-- What the leading digit of a significand counts for where it is not written. -/
def hiddenBit : Nat := 0x10000000000000

/-- Reads the fields of a word of the 64-bit format: the sign, eleven bits of exponent and 52 of
fraction. -/
def Decoded.ofWord (bits : Nat) : Decoded :=
  let negative := decide (int64Bound ≤ bits)
  let scale : Nat := bits / hiddenBit % 2048
  let fraction : Nat := bits % hiddenBit
  if scale = 2047 then
    if fraction = 0 then .infinite negative else .nan
  else if scale = 0 then .finite ⟨negative, fraction, -1074⟩
  else .finite ⟨negative, fraction + hiddenBit, (scale : Int) - 1075⟩

/-- What a floating-point number stands for. -/
def Decoded.ofFloat (x : Float) : Decoded :=
  .ofWord x.toBits.toNat

namespace Binary

/-- The numerator of the magnitude over `denominator`. -/
def numerator (b : Binary) : Nat :=
  b.significand * Nat.pow 2 b.exponent.toNat

/-- The denominator of the magnitude, a power of two. -/
def denominator (b : Binary) : Nat :=
  Nat.pow 2 (-b.exponent).toNat

theorem denominator_pos (b : Binary) : 0 < b.denominator :=
  Nat.pow_pos (by decide)

/-- The whole part of the magnitude. -/
def whole (b : Binary) : Nat :=
  b.numerator / b.denominator

end Binary

/-- The whole part of a number as a word of 64 bits: none of what is below zero or no number, and
the largest word of what is too large. -/
def Decoded.wholeWord : Decoded → Nat
  | .nan => 0
  | .infinite negative => if negative then 0 else word64Bound - 1
  | .finite b => if b.negative then 0 else min b.whole (word64Bound - 1)

end Volley.Decimal
