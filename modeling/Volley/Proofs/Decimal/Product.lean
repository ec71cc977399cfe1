import Volley.Proofs.Decimal.Rounding

/-!
# Products of floating-point numbers keep the order

Rounding to a given number of bits keeps the order (`roundEven_mono`). Two products may be rounded to
different numbers of bits; then there is a power of two between them, which no rounding passes
(`wholePart_rounded_mono`). So whatever number two factors of the same exponent are multiplied with,
the larger factor has the larger whole part (`wholeWord_mul_le`).
-/

namespace Volley.Decimal

open Float.Model (UnpackedFloat Format)
open Float.Model.UnpackedFloat (Sign Accuracy)

/-! ## Whole parts of rounded numbers -/

section Unit

variable {m k : Nat} {e : Int} (hk : e + k = max (m.log2 + e - 52) (-1074))
include hk

/-- The whole part of a rounded number. -/
theorem wholeWord_roundWithAccuracy (s : Sign) (accuracy : Accuracy) :
    (Decoded.ofFloat
        ⟨.pack (UnpackedFloat.roundWithAccuracy .binary64 s m e accuracy)⟩).wholeWord =
      if isNegative s then 0
      else min (wholePart (rounded m k accuracy) (e + k)) (word64Bound - 1) := by
  have hleast : -1074 ≤ e + k := by omega
  have hnormal : 2 ^ 52 ≤ rounded m k accuracy ∨ e + k = -1074 := by
    by_cases h : e + k = -1074
    · exact .inr h
    · exact .inl (le_rounded hk accuracy h)
  have hle := rounded_le hk accuracy
  rw [roundWithAccuracy_eq hk]
  generalize rounded m k accuracy = r at *
  by_cases hzero : r = 0
  · rw [dif_pos hzero, hzero, ofFloat_pack_zero, wholeWord_finite, wholePart_zero, wholePart_zero]
  · rw [dif_neg hzero]
    by_cases hfits : r < 2 ^ 53
    · rw [if_pos hfits]
      exact wholeWord_pack s ⟨hleast, hfits, hnormal⟩ _
    · obtain rfl : r = 2 ^ 53 := by omega
      have hcarry : wholePart (2 ^ 52) (e + k + (1 : Nat)) = wholePart (2 ^ 53) (e + k) :=
        wholePart_add (2 ^ 52) 1 (e + k)
      rw [if_neg hfits, wholeWord_pack s ⟨by omega, by decide, .inl (by decide)⟩, ← hcarry]
      rfl

/-- Rounding keeps the order of magnitudes, also where they are rounded to different units. -/
theorem wholePart_rounded_mono {m' k' : Nat} (h : m ≤ m') (hm : m ≠ 0)
    (hk' : e + k' = max (m'.log2 + e - 52) (-1074)) :
    wholePart (rounded m k .exact) (e + k) ≤ wholePart (rounded m' k' .exact) (e + k') := by
  have hlog : m.log2 ≤ m'.log2 := by
    rw [Nat.le_log2 (by omega)]
    exact Nat.le_trans (Nat.log2_self_le hm) h
  have hunit : k ≤ k' := by omega
  rw [wholePart_add, wholePart_add]
  apply wholePart_mono
  rcases Nat.lt_or_eq_of_le hunit with hlt | rfl
  · calc rounded m k .exact * 2 ^ k
      _ ≤ 2 ^ 53 * 2 ^ k := Nat.mul_le_mul_right _ (rounded_le hk .exact)
      _ = 2 ^ (53 + k) := (Nat.pow_add ..).symm
      _ ≤ 2 ^ (52 + k') := Nat.pow_le_pow_right (by decide) (by omega)
      _ = 2 ^ 52 * 2 ^ k' := Nat.pow_add ..
      _ ≤ rounded m' k' .exact * 2 ^ k' :=
        Nat.mul_le_mul_right _ (le_rounded hk' .exact (by omega))
  · rw [rounded_exact, rounded_exact]
    exact Nat.mul_le_mul_right _ (roundEven_mono h k)

end Unit

/-! ## Products -/

/-- Of two factors with the same exponent the larger one makes the larger product, whatever the
other factor is: no number and infinities are no exception. -/
theorem wholeWord_mul_le (x : Float) {p q : Float} {m m' : Nat} {e : Int} (hp : HasFields p m e)
    (hq : HasFields q m' e) (hle : m ≤ m') :
    (Decoded.ofFloat (x * p)).wholeWord ≤ (Decoded.ofFloat (x * q)).wholeWord := by
  obtain ⟨hbits, hm, hp⟩ := hp
  obtain ⟨hbits', hm', hq⟩ := hq
  have hmul (y : Float) : x * y =
      ⟨.pack (UnpackedFloat.mul .binary64 x.toModel.unpack y.toModel.unpack)⟩ := rfl
  rw [hmul, hmul, hp, hq]
  cases x.toModel.unpack with
  | notANumber => exact Nat.le_refl _
  | infinity s => exact Nat.le_refl _
  | zero s => exact Nat.le_refl _
  | finite s n f hn =>
    obtain ⟨k, hk⟩ := exists_unit (e := f + e) (.inl (hbits.trans (Nat.le_mul_of_pos_left m hn)))
    obtain ⟨k', hk'⟩ := exists_unit (e := f + e) (.inl (hbits'.trans (Nat.le_mul_of_pos_left m' hn)))
    have hpos : 0 < n * m := Nat.mul_pos hn hm
    have hround : wholePart (rounded (n * m) k .exact) (f + e + k) ≤
        wholePart (rounded (n * m') k' .exact) (f + e + k') :=
      wholePart_rounded_mono hk (Nat.mul_le_mul_left n hle) (by omega) hk'
    simp only [UnpackedFloat.mul]
    rw [wholeWord_roundWithAccuracy hk, wholeWord_roundWithAccuracy hk']
    split
    · exact Nat.le_refl _
    · omega

end Volley.Decimal
