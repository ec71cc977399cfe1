import Volley.Proofs.Decimal.Rounding

/-!
# Bounds of computed numbers

Since no rounding passes a number of the format, such a number bounds a product if it bounds the
product of what the factors stand for (`IsWithin.mul`), and likewise a quotient (`IsWithin.div`) and
a count that is made a floating-point number (`isWithin_ofNat`).
-/

namespace Volley.Decimal

open Float.Model (UnpackedFloat Format)
open Float.Model.UnpackedFloat (Sign Accuracy)

/-- A number within a bound is a zero or a positive number, with fields such as the format has. -/
theorem IsWithin.unpack {x : Float} {bound : ℚ} (h : IsWithin x bound) :
    x.toModel.unpack = .zero .positive ∧ 0 ≤ bound ∨
      ∃ m e hm, x.toModel.unpack = .finite .positive m e hm ∧ IsCanonical m e ∧
        scaled m e ≤ bound := by
  obtain ⟨m, e, hfields, hbound⟩ := h
  have hcanonical := (isCanonical_ofFloat hfields).1
  rw [ofFloat_eq] at hfields
  cases hu : x.toModel.unpack with
  | notANumber => rw [hu] at hfields; cases hfields
  | infinity s => rw [hu] at hfields; cases hfields
  | zero s =>
    rw [hu] at hfields
    cases s with
    | negative => cases hfields
    | positive => exact .inl ⟨rfl, (scaled_nonneg m e).trans hbound⟩
  | finite s m' e' hm' =>
    rw [hu] at hfields
    cases s with
    | negative => cases hfields
    | positive =>
      cases hfields
      exact .inr ⟨m, e, hm', rfl, hcanonical, hbound⟩

/-- Zero is within every bound that is not below it. -/
theorem isWithin_zero {bound : ℚ} (h : 0 ≤ bound) : IsWithin ⟨.pack (.zero .positive)⟩ bound :=
  ⟨0, -1074, ofFloat_pack_zero .positive, (scaled_zero _).trans_le h⟩

/-! ## Compared numbers -/

/-- Zero stands for nothing. -/
theorem value_zero : value 0 = 0 := by
  have hfields : Decoded.ofFloat 0 = .finite ⟨false, 0, -1074⟩ := by
    rw [ofFloat_eq]
    rfl
  rw [value_eq hfields, scaled_zero]

/-- A positive number has a plus sign. -/
theorem ofFloat_of_pos {x : Float} (hfinite : x.isFinite = true) (hpos : 0 < x) :
    ∃ m e, Decoded.ofFloat x = .finite ⟨false, m, e⟩ := by
  obtain ⟨⟨negative, m, e⟩, hfields⟩ := exists_ofFloat_eq_finite hfinite
  rw [lt_iff rfl hfinite, value_zero, value, hfields] at hpos
  cases negative with
  | false => exact ⟨m, e, hfields⟩
  | true =>
    have hneg : 0 < -scaled m e := hpos
    have hscaled := scaled_nonneg m e
    linarith

/-- Of the numbers that are not below zero, the only one with a minus sign is the negative zero. -/
theorem ofFloat_of_nonneg {x : Float} (hfinite : x.isFinite = true) (h : 0 ≤ x) :
    Decoded.ofFloat x = .finite ⟨true, 0, -1074⟩ ∨
      ∃ m e, Decoded.ofFloat x = .finite ⟨false, m, e⟩ := by
  obtain ⟨⟨negative, m, e⟩, hfields⟩ := exists_ofFloat_eq_finite hfinite
  cases negative with
  | false => exact .inr ⟨m, e, hfields⟩
  | true =>
    rw [le_iff rfl hfinite, value_zero, value, hfields] at h
    have hneg : 0 ≤ -scaled m e := h
    have hm : m = 0 := by
      by_contra hm
      have hpos := scaled_pos (Nat.pos_of_ne_zero hm) e
      linarith
    obtain ⟨⟨-, -, hnormal⟩, -⟩ := isCanonical_ofFloat hfields
    have he : e = -1074 := hnormal.resolve_left (by omega)
    exact .inl (by rw [hfields, hm, he])

section Compared

variable {x y : Float} {m n : Nat} {e f : Int} (hx : Decoded.ofFloat x = .finite ⟨false, n, f⟩)
include hx

/-- A number with a plus sign is within what it stands for. -/
theorem isWithin_of_value_le {bound : ℚ} (h : value x ≤ bound) : IsWithin x bound :=
  ⟨n, f, hx, value_eq hx ▸ h⟩

variable (hfinite : x.isFinite = true) (hy : HasFields y m e) (hlt : x < y)
include hfinite hy hlt

/-- A number with a plus sign is within a number that it is below. -/
theorem isWithin_of_lt : IsWithin x (scaled m e) := by
  rw [lt_iff hfinite hy.isFinite, hy.value_eq] at hlt
  exact isWithin_of_value_le hx hlt.le

/-- A number with a plus sign is within the neighbour of a number that it is below. -/
theorem isWithin_pred_of_lt (hleading : 2 ^ 52 < m) : IsWithin x (scaled (m - 1) e) := by
  obtain ⟨⟨hleast, hbits, -⟩, -⟩ := isCanonical_ofFloat hy.ofFloat_eq
  rw [lt_iff hfinite hy.isFinite, hy.value_eq, value_eq hx] at hlt
  exact ⟨n, f, hx, scaled_le_of_lt (isCanonical_ofFloat hx).1 hleast hbits hleading hlt⟩

end Compared

/-! ## Products and quotients -/

/-- The bits that are computed of a quotient fill a significand or come in the least unit, and the
accuracy says how much they fall short of it. -/
theorem divCore_eq {n m : Nat} (f e : Int) (hn : 0 < n) (hm : 0 < m) :
    ∃ bits unit accuracy, UnpackedFloat.divCore .binary64 n f m e = (bits, unit, accuracy) ∧
      (2 ^ 52 ≤ bits ∨ unit ≤ -1074) ∧
      Approximates bits unit accuracy (scaled n f / scaled m e) := by
  have htarget : Format.binary64.targetExponent
      (Float.Model.totalExponent n f - Float.Model.totalExponent m e) =
        max (n.log2 + f - m.log2 - e - 53) (-1074) := by
    show max (((n.log2 : Int) + 1 + f) - ((m.log2 : Int) + 1 + e) - 53) (-1074) = _
    omega
  unfold UnpackedFloat.divCore
  dsimp only
  rw [htarget]
  generalize hunit : min (f - e) (max ((n.log2 : Int) + f - m.log2 - e - 53) (-1074)) = unit
  obtain ⟨shift, hshift⟩ : ∃ shift : Nat, f - e - unit = shift := ⟨(f - e - unit).toNat, by omega⟩
  rw [hshift, Int.toNat_natCast, Nat.shiftLeft_eq]
  refine ⟨_, _, _, rfl, ?_, ?_⟩
  · by_cases hleast : unit ≤ -1074
    · exact .inr hleast
    · refine .inl ((Nat.le_div_iff_mul_le hm).2 ?_)
      have hlog : 53 + m.log2 ≤ n.log2 + shift := by omega
      calc 2 ^ 52 * m
        _ ≤ 2 ^ 52 * 2 ^ (m.log2 + 1) := Nat.mul_le_mul_left _ Nat.lt_log2_self.le
        _ = 2 ^ (53 + m.log2) := by rw [← Nat.pow_add]; congr 1; omega
        _ ≤ 2 ^ (n.log2 + shift) := Nat.pow_le_pow_right (by decide) hlog
        _ = 2 ^ n.log2 * 2 ^ shift := Nat.pow_add ..
        _ ≤ n * 2 ^ shift := Nat.mul_le_mul_right _ (Nat.log2_self_le (by omega))
  · -- Both sides of the division in the unit of the bits.
    have hdividend : scaled n f = scaled (n * 2 ^ shift) (unit + e) := by
      rw [← scaled_add]
      congr 1
      omega
    have hproduct : scaled (n * 2 ^ shift / m) unit * scaled m e =
        scaled (n * 2 ^ shift / m * m) (unit + e) := by
      rw [scaled, scaled, scaled, zpow_add₀ (by norm_num), Nat.cast_mul]
      ring
    have hpos := scaled_pos hm e
    have hcut := Nat.div_add_mod' (n * 2 ^ shift) m
    unfold UnpackedFloat.accuracyOfFraction
    split
    next hexact =>
      refine .inl ⟨rfl, ?_⟩
      rw [div_eq_iff hpos.ne', hproduct, hdividend]
      congr 1
      omega
    next hrest =>
      refine .inr ?_
      rw [lt_div_iff₀ hpos, hproduct, hdividend, scaled_lt_scaled_iff]
      omega

section Arithmetic

variable {x y : Float} {bound : ℚ} {m m' : Nat} {e e' : Int} (hx : IsWithin x bound)
  (hy : HasFields y m e) (hfits : Fits m' e')
include hx hy hfits

/-- A number of the format bounds a product if it bounds the exact one. -/
theorem IsWithin.mul (hle : bound * scaled m e ≤ scaled m' e') :
    IsWithin (x * y) (scaled m' e') := by
  obtain ⟨hleading, hm, hy⟩ := hy
  have hmul : x * y =
      ⟨.pack (UnpackedFloat.mul .binary64 x.toModel.unpack y.toModel.unpack)⟩ := rfl
  rw [hmul, hy]
  rcases hx.unpack with ⟨hzero, -⟩ | ⟨n, f, hn, hx, -, hbound⟩
  · rw [hzero]
    exact isWithin_zero (scaled_nonneg m' e')
  · obtain ⟨k, hk⟩ := exists_unit (e := f + e) (.inl (hleading.trans (Nat.le_mul_of_pos_left m hn)))
    have hproduct : scaled (n * m) (f + e) = scaled n f * scaled m e := by
      rw [scaled, scaled, scaled, zpow_add₀ (by norm_num), Nat.cast_mul]
      ring
    rw [hx]
    refine isWithin_roundWithAccuracy hk (.inl ⟨rfl, rfl⟩) hfits ?_
    calc scaled (n * m) (f + e)
      _ = scaled n f * scaled m e := hproduct
      _ ≤ bound * scaled m e := mul_le_mul_of_nonneg_right hbound (scaled_nonneg m e)
      _ ≤ scaled m' e' := hle

/-- A number of the format bounds a quotient if it bounds the exact one. -/
theorem IsWithin.div (hle : bound / scaled m e ≤ scaled m' e') :
    IsWithin (x / y) (scaled m' e') := by
  obtain ⟨-, hm, hy⟩ := hy
  have hdiv : x / y =
      ⟨.pack (UnpackedFloat.div .binary64 x.toModel.unpack y.toModel.unpack)⟩ := rfl
  rw [hdiv, hy]
  rcases hx.unpack with ⟨hzero, -⟩ | ⟨n, f, hn, hx, -, hbound⟩
  · rw [hzero]
    exact isWithin_zero (scaled_nonneg m' e')
  · obtain ⟨bits, unit, accuracy, hcore, hfull, happrox⟩ := divCore_eq f e hn hm
    obtain ⟨k, hk⟩ := exists_unit hfull
    have hquotient : UnpackedFloat.div .binary64 (.finite .positive n f hn)
        (.finite .positive m e hm) =
          UnpackedFloat.roundWithAccuracy .binary64 .positive bits unit accuracy := by
      rw [UnpackedFloat.div, hcore]
      rfl
    rw [hx, hquotient]
    refine isWithin_roundWithAccuracy hk happrox hfits ?_
    calc scaled n f / scaled m e
      _ ≤ bound / scaled m e := div_le_div_of_nonneg_right hbound (scaled_nonneg m e)
      _ ≤ scaled m' e' := hle

end Arithmetic

/-! ## Counts -/

/-- A word is made the nearest floating-point number. -/
theorem isWithin_toFloat {n : UInt64} {m : Nat} {e : Int} (hfits : Fits m e)
    (hle : (n.toNat : ℚ) ≤ scaled m e) : IsWithin n.toFloat (scaled m e) := by
  have hfloat : n.toFloat =
      ⟨.pack (UnpackedFloat.normalize .binary64 (n.toNat : Int) 0 .positive)⟩ := rfl
  rw [hfloat, UnpackedFloat.normalize]
  generalize n.toNat = n at *
  rcases Nat.eq_zero_or_pos n with rfl | hpos
  · exact isWithin_zero (scaled_nonneg m e)
  · have hcompare : compare (n : Int) 0 = .gt := compare_gt_iff_gt.2 (by omega)
    have htarget : Format.binary64.targetExponent (Float.Model.totalExponent n 0) =
        max ((n.log2 : Int) - 52) (-1074) := by
      rw [targetExponent_eq]
      omega
    rw [hcompare]
    dsimp only
    rw [Int.toNat_natCast, UnpackedFloat.round, htarget, UnpackedFloat.decreaseExponent]
    generalize hshift : (0 - max ((n.log2 : Int) - 52) (-1074)).toNat = shift
    dsimp only
    rw [Nat.shiftLeft_eq, Int.zero_sub]
    have hleading : 2 ^ 52 ≤ n * 2 ^ shift := by
      calc 2 ^ 52
        _ ≤ 2 ^ (n.log2 + shift) := Nat.pow_le_pow_right (by decide) (by omega)
        _ = 2 ^ n.log2 * 2 ^ shift := Nat.pow_add ..
        _ ≤ n * 2 ^ shift := Nat.mul_le_mul_right _ (Nat.log2_self_le (by omega))
    obtain ⟨k, hk⟩ := exists_unit (e := -(shift : Int)) (.inl hleading)
    have hvalue : scaled (n * 2 ^ shift) (-shift) = n := by
      rw [← scaled_add, Int.add_left_neg, scaled, zpow_zero, mul_one]
    exact isWithin_roundWithAccuracy hk (.inl ⟨rfl, rfl⟩) hfits (hvalue.trans_le hle)

/-- A count that fits is made the nearest floating-point number. -/
theorem isWithin_ofNat {n m : Nat} {e : Int} (hn : n < 2 ^ 53) (hfits : Fits m e)
    (hle : (n : ℚ) ≤ scaled m e) : IsWithin (Float.ofNat n) (scaled m e) := by
  have hone : HasFields Float.exactlyRepresentablePowersOfTen[0] (2 ^ 52) (-52) :=
    ⟨Nat.le_refl _, by decide, rfl⟩
  have hofNat : Float.ofNat n =
      n.toUInt64.toFloat * Float.exactlyRepresentablePowersOfTen[0] :=
    dif_pos ⟨hn, by decide⟩
  have hword : n.toUInt64.toNat = n := Nat.mod_eq_of_lt (by omega)
  have hunit : scaled (2 ^ 52) (-52) = 1 := by
    rw [scaled]
    norm_num
  rw [hofNat]
  refine (isWithin_toFloat hfits ?_).mul hone hfits ?_
  · rwa [hword]
  · rw [hunit, mul_one]

end Volley.Decimal
