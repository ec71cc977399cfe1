import Volley.Decimal.Fixed
import Volley.Proofs.Decimal.Order

/-!
# Numbers with three places

A number that is not below zero is shown as so many thousandths (`toList_fixed`). It is rounded to
these, so that a number just below a whole one is shown as that one: the last half of a thousandth is
lost (`thousandths_lt_iff`).
-/

namespace Volley.Decimal

/-! ## Rounded quotients -/

/-- A quotient is rounded up to an even number if at most half a unit is missing. -/
theorem roundDiv_lt_iff {num den n : Nat} (h : 0 < den) (hpos : 0 < n) (heven : n % 2 = 0) :
    roundDiv num den < n ↔ 2 * num < (2 * n - 1) * den := by
  have hcut : num / den * den + num % den = num := Nat.div_add_mod' num den
  have hrest : num % den < den := Nat.mod_lt _ h
  unfold roundDiv
  dsimp only
  generalize num / den = quotient at *
  generalize num % den = rest at *
  rcases Nat.lt_trichotomy (quotient + 1) n with hbelow | rfl | habove
  · -- The quotient is below the number by more than one.
    obtain ⟨gap, rfl⟩ : ∃ gap, n = quotient + 2 + gap := ⟨n - (quotient + 2), by omega⟩
    have hscaled : (2 * (quotient + 2 + gap) - 1) * den =
        2 * (quotient * den) + 3 * den + 2 * (gap * den) := by
      have hone : 2 * (quotient + 2 + gap) - 1 = 2 * quotient + 3 + 2 * gap := by omega
      rw [hone]
      ring
    rw [hscaled]
    split <;> omega
  · -- One is missing, and the quotient is odd.
    have hscaled : (2 * (quotient + 1) - 1) * den = 2 * (quotient * den) + den := by
      have hone : 2 * (quotient + 1) - 1 = 2 * quotient + 1 := by omega
      rw [hone]
      ring
    rw [hscaled]
    split <;> omega
  · obtain ⟨gap, rfl⟩ : ∃ gap, quotient = n + gap := ⟨quotient - n, by omega⟩
    obtain ⟨pred, rfl⟩ : ∃ pred, n = pred + 1 := ⟨n - 1, by omega⟩
    have hscaled : (2 * (pred + 1) - 1) * den + den + 2 * (gap * den) =
        2 * ((pred + 1 + gap) * den) := by
      have hone : 2 * (pred + 1) - 1 = 2 * pred + 1 := by omega
      rw [hone]
      ring
    split <;> omega

/-- A quotient is not rounded to a number above one that it is not above. -/
theorem roundDiv_le_of_le {num den n : Nat} (h : 0 < den) (hle : num ≤ n * den) :
    roundDiv num den ≤ n := by
  by_contra hlt
  have hround := (roundDiv_le num den h).1
  have hmul : (n + 1) * den ≤ roundDiv num den * den := Nat.mul_le_mul_right den (by omega)
  rw [Nat.add_mul] at hmul
  omega

/-! ## Thousandths -/

/-- The thousandths that a magnitude is shown as. -/
def thousandths (b : Binary) : Nat :=
  roundDiv (b.numerator * 1000) b.denominator

/-- Digits stand in a count. -/
theorem isDigit_of_mem_digitsOf {n : Nat} {c : Char} (hc : c ∈ digitsOf n) : c.isDigit = true :=
  Nat.isDigit_of_mem_toDigits (by decide) (by decide) hc

/-- Three digits of a fraction. -/
def threePlaces (units : Nat) : List Char :=
  List.replicate (3 - (digitsOf units).length) '0' ++ digitsOf units

/-- Digits stand in a fraction. -/
theorem isDigit_of_mem_threePlaces {units : Nat} {c : Char} (hc : c ∈ threePlaces units) :
    c.isDigit = true := by
  rcases List.mem_append.1 hc with hzero | hdigit
  · rw [List.eq_of_mem_replicate hzero]
    rfl
  · exact isDigit_of_mem_digitsOf hdigit

section Thousandths

variable {x : Float} {m : Nat} {e : Int} (h : Decoded.ofFloat x = .finite ⟨false, m, e⟩)
include h

/-- A number is shown as its thousandths, with a point before the last three digits. -/
theorem toList_fixed : (fixed 3 x).toList = digitsOf (thousandths ⟨false, m, e⟩ / 1000) ++
    '.' :: threePlaces (thousandths ⟨false, m, e⟩ % 1000) := by
  rw [fixed, h]
  dsimp only
  rw [String.toList_ofList]
  rfl

theorem value_eq_div :
    value x = (Binary.numerator ⟨false, m, e⟩ : ℚ) / Binary.denominator ⟨false, m, e⟩ := by
  rw [numerator_div_denominator, value_eq h]

/-- A number is shown below a whole one if more than half a thousandth is missing. -/
theorem thousandths_lt_iff {n : Nat} (hn : 0 < n) :
    thousandths ⟨false, m, e⟩ < 1000 * n ↔ value x < n - 1 / 2000 := by
  have hden := Binary.denominator_pos ⟨false, m, e⟩
  have hcast : (0 : ℚ) < Binary.denominator ⟨false, m, e⟩ := Nat.cast_pos.2 hden
  rw [thousandths, roundDiv_lt_iff hden (by omega) (by omega), value_eq_div h, div_lt_iff₀ hcast,
    ← Nat.cast_lt (α := ℚ)]
  obtain ⟨pred, rfl⟩ : ∃ pred, n = pred + 1 := ⟨n - 1, by omega⟩
  have hone : 2 * (1000 * (pred + 1)) - 1 = 2000 * pred + 1999 := by omega
  rw [hone]
  push_cast
  constructor <;> intro hlt <;> linarith

/-- A number is not shown above a whole one that it is not above. -/
theorem thousandths_le {n : Nat} (hle : value x ≤ n) : thousandths ⟨false, m, e⟩ ≤ 1000 * n := by
  have hden := Binary.denominator_pos ⟨false, m, e⟩
  have hcast : (0 : ℚ) < Binary.denominator ⟨false, m, e⟩ := Nat.cast_pos.2 hden
  rw [value_eq_div h, div_le_iff₀ hcast, ← Nat.cast_mul, Nat.cast_le] at hle
  refine roundDiv_le_of_le hden ?_
  calc Binary.numerator ⟨false, m, e⟩ * 1000
    _ ≤ n * Binary.denominator ⟨false, m, e⟩ * 1000 := Nat.mul_le_mul_right _ hle
    _ = 1000 * n * Binary.denominator ⟨false, m, e⟩ := by ring

end Thousandths

end Volley.Decimal
