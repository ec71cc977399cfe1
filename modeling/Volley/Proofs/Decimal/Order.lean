import Volley.Proofs.Decimal.Fields

/-!
# The order of floating-point numbers

Finite floating-point numbers compare as the numbers that they stand for (`lt_iff`, `le_iff`). Their
fields are compared instead: since a significand has 53 bits unless the exponent is the least one,
the larger exponent makes the larger number, and significands count only between equal ones
(`scaled_lt_of_exponent_lt`).

Below a number of 53 bits there is a next smaller one, which differs in the last bit
(`scaled_le_of_lt`).
-/

namespace Volley.Decimal

open Float.Model (UnpackedFloat Format)
open Float.Model.UnpackedFloat (Sign)

/-! ## Values -/

/-- A significand times a power of two. -/
def scaled (m : Nat) (e : Int) : ℚ :=
  m * 2 ^ e

/-- What a finite number stands for. Infinities and what is no number stand for nothing. -/
def Decoded.value : Decoded → ℚ
  | .finite b => if b.negative then -scaled b.significand b.exponent
    else scaled b.significand b.exponent
  | .nan | .infinite _ => 0

/-- What a finite number stands for. -/
def value (x : Float) : ℚ :=
  (Decoded.ofFloat x).value

theorem scaled_zero (e : Int) : scaled 0 e = 0 := by
  rw [scaled, Nat.cast_zero, zero_mul]

theorem scaled_nonneg (m : Nat) (e : Int) : 0 ≤ scaled m e :=
  mul_nonneg (Nat.cast_nonneg m) (zpow_nonneg (by norm_num) e)

theorem scaled_pos {m : Nat} (hm : 0 < m) (e : Int) : 0 < scaled m e :=
  mul_pos (Nat.cast_pos.2 hm) (zpow_pos (by norm_num) e)

/-- Of two significands with the same exponent the larger one makes the larger number. -/
theorem scaled_le_scaled_iff {m m' : Nat} (e : Int) : scaled m e ≤ scaled m' e ↔ m ≤ m' := by
  rw [scaled, scaled, mul_le_mul_iff_left₀ (zpow_pos (by norm_num) e), Nat.cast_le]

theorem scaled_lt_scaled_iff {m m' : Nat} (e : Int) : scaled m e < scaled m' e ↔ m < m' := by
  rw [← not_le, scaled_le_scaled_iff, not_le]

/-- A part of the power of two can be moved into the significand. -/
theorem scaled_add (m k : Nat) (e : Int) : scaled m (e + k) = scaled (m * 2 ^ k) e := by
  rw [scaled, scaled, zpow_add₀ (by norm_num), zpow_natCast]
  push_cast
  ring

/-- A magnitude is its numerator over its denominator. -/
theorem numerator_div_denominator (b : Binary) :
    (b.numerator : ℚ) / b.denominator = scaled b.significand b.exponent := by
  have hpower : (2 : ℚ) ^ b.exponent.toNat / 2 ^ (-b.exponent).toNat = 2 ^ b.exponent := by
    rw [← zpow_natCast, ← zpow_natCast, ← zpow_sub₀ (by norm_num)]
    congr 1
    omega
  show ((b.significand * 2 ^ b.exponent.toNat : Nat) : ℚ) / (2 ^ (-b.exponent).toNat : Nat) = _
  rw [Nat.cast_mul, Nat.cast_pow, Nat.cast_pow, Nat.cast_ofNat, mul_div_assoc, hpower, scaled]

/-! ## Fields -/

/-- The fields of a word are such as the format has them, and the exponent is not too large. -/
theorem isCanonical_ofWord {bits m : Nat} {e : Int} {negative : Bool}
    (h : Decoded.ofWord bits = .finite ⟨negative, m, e⟩) : IsCanonical m e ∧ e ≤ 971 := by
  have hfraction : bits % hiddenBit < 2 ^ 52 := Nat.mod_lt _ (by decide)
  have hscale : bits / hiddenBit % 2048 < 2048 := Nat.mod_lt _ (by decide)
  unfold Decoded.ofWord at h
  dsimp only at h
  unfold IsCanonical
  split at h
  · split at h <;> cases h
  · split at h
    · cases h
      omega
    · cases h
      unfold hiddenBit at *
      omega

/-- The fields of a number are such as the format has them. -/
theorem isCanonical_ofFloat {x : Float} {m : Nat} {e : Int} {negative : Bool}
    (h : Decoded.ofFloat x = .finite ⟨negative, m, e⟩) : IsCanonical m e ∧ e ≤ 971 :=
  isCanonical_ofWord h

/-- A positive number of the format: 53 bits of a significand, and an exponent. -/
def HasFields (x : Float) (m : Nat) (e : Int) : Prop :=
  2 ^ 52 ≤ m ∧ ∃ hpos, x.toModel.unpack = .finite .positive m e hpos

/-- The larger exponent makes the larger number, if its significand has 53 bits. -/
theorem scaled_lt_of_exponent_lt {m m' : Nat} {e e' : Int} (hbits : m < 2 ^ 53)
    (hleading : 2 ^ 52 ≤ m') (hlt : e < e') : scaled m e < scaled m' e' := by
  obtain ⟨n, rfl⟩ : ∃ n : Nat, e' = e + ((1 + n : Nat) : Int) := ⟨(e' - e - 1).toNat, by omega⟩
  rw [scaled_add, scaled_lt_scaled_iff]
  have hpower : 1 ≤ 2 ^ n := Nat.one_le_two_pow
  calc m
    _ < 2 ^ 52 * (2 * 1) := hbits
    _ ≤ m' * (2 * 2 ^ n) := Nat.mul_le_mul hleading (Nat.mul_le_mul_left 2 hpower)
    _ = m' * 2 ^ (1 + n) := by rw [Nat.pow_add, Nat.pow_one]

/-- Magnitudes compare by the exponent first and then by the significand. -/
theorem compare_scaled {m m' : Nat} {e e' : Int} (h : IsCanonical m e) (h' : IsCanonical m' e') :
    compare (scaled m e) (scaled m' e') = (compare e e').then (compare m m') := by
  obtain ⟨hleast, hbits, hnormal⟩ := h
  obtain ⟨hleast', hbits', hnormal'⟩ := h'
  rcases lt_trichotomy e e' with hlt | rfl | hgt
  · have hscaled : scaled m e < scaled m' e' :=
      scaled_lt_of_exponent_lt hbits (hnormal'.resolve_right (by omega)) hlt
    rw [compare_lt_iff_lt.2 hscaled, compare_lt_iff_lt.2 hlt]
    rfl
  · rw [compare_eq_iff_eq.2 rfl, Ordering.eq_then]
    rcases lt_trichotomy m m' with hlt | rfl | hgt
    · rw [compare_lt_iff_lt.2 ((scaled_lt_scaled_iff e).2 hlt), compare_lt_iff_lt.2 hlt]
    · rw [compare_eq_iff_eq.2 rfl, compare_eq_iff_eq.2 rfl]
    · rw [compare_gt_iff_gt.2 ((scaled_lt_scaled_iff e).2 hgt), compare_gt_iff_gt.2 hgt]
  · have hscaled : scaled m' e' < scaled m e :=
      scaled_lt_of_exponent_lt hbits' (hnormal.resolve_right (by omega)) hgt
    rw [compare_gt_iff_gt.2 hscaled, compare_gt_iff_gt.2 hgt]
    rfl

/-- What a number with a plus sign stands for. -/
theorem value_eq {x : Float} {m : Nat} {e : Int} (h : Decoded.ofFloat x = .finite ⟨false, m, e⟩) :
    value x = scaled m e := by
  rw [value, h]
  rfl

/-- A finite number is a sign, a significand and an exponent. -/
theorem exists_ofFloat_eq_finite {x : Float} (h : x.isFinite = true) :
    ∃ b, Decoded.ofFloat x = .finite b := by
  have hfinite : x.toModel.unpack.isFinite = true := h
  rw [ofFloat_eq]
  cases hu : x.toModel.unpack with
  | notANumber => rw [hu] at hfinite; cases hfinite
  | infinity s => rw [hu] at hfinite; cases hfinite
  | zero s => exact ⟨_, rfl⟩
  | finite s m e hm => exact ⟨_, rfl⟩

section HasFields

variable {y : Float} {m : Nat} {e : Int} (h : HasFields y m e)
include h

/-- Fields of the format are found again. -/
theorem HasFields.ofFloat_eq : Decoded.ofFloat y = .finite ⟨false, m, e⟩ := by
  obtain ⟨-, hm, hu⟩ := h
  rw [Decimal.ofFloat_eq, hu]
  rfl

/-- A positive number is finite. -/
theorem HasFields.isFinite : y.isFinite = true := by
  obtain ⟨-, hm, hu⟩ := h
  show y.toModel.unpack.isFinite = true
  rw [hu]
  rfl

/-- A positive number stands for its significand times a power of two. -/
theorem HasFields.value_eq : value y = scaled m e :=
  Decimal.value_eq h.ofFloat_eq

end HasFields

/-! ## Comparisons -/

/-- Magnitudes compare the other way round below zero. -/
theorem compare_neg (p q : ℚ) : compare (-p) (-q) = (compare p q).swap := by
  rcases lt_trichotomy p q with hlt | rfl | hgt
  · rw [compare_gt_iff_gt.2 (neg_lt_neg hlt), compare_lt_iff_lt.2 hlt]
    rfl
  · rw [compare_eq_iff_eq.2 rfl, compare_eq_iff_eq.2 rfl]
    rfl
  · rw [compare_lt_iff_lt.2 (neg_lt_neg hgt), compare_gt_iff_gt.2 hgt]
    rfl

/-- Finite numbers compare as what they stand for. -/
theorem compare_unpack {x y : Float} (hx : x.isFinite = true) (hy : y.isFinite = true) :
    x.toModel.unpack.compare y.toModel.unpack = some (compare (value x) (value y)) := by
  have hcanonical {x : Float} {s : Sign} {m : Nat} {e : Int} {hm : 0 < m}
      (h : x.toModel.unpack = .finite s m e hm) : IsCanonical m e := by
    have hfields : Decoded.ofFloat x = .finite ⟨isNegative s, m, e⟩ := by
      rw [ofFloat_eq, h]
      rfl
    exact (isCanonical_ofFloat hfields).1
  have hfinitex : x.toModel.unpack.isFinite = true := hx
  have hfinitey : y.toModel.unpack.isFinite = true := hy
  have hzero (s : Sign) : (Decoded.ofUnpacked (.zero s)).value = 0 := by
    cases s <;> simp [Decoded.ofUnpacked, Decoded.value, scaled_zero]
  rw [value, value, ofFloat_eq, ofFloat_eq]
  cases hu : x.toModel.unpack with
  | notANumber => rw [hu] at hfinitex; cases hfinitex
  | infinity s => rw [hu] at hfinitex; cases hfinitex
  | zero s =>
    cases hv : y.toModel.unpack with
    | notANumber => rw [hv] at hfinitey; cases hfinitey
    | infinity s' => rw [hv] at hfinitey; cases hfinitey
    | zero s' => rw [hzero, hzero, compare_eq_iff_eq.2 rfl]; rfl
    | finite s' m' e' hm' =>
      have hpos := scaled_pos hm' e'
      rw [hzero]
      cases s' with
      | positive => exact congrArg some (compare_lt_iff_lt.2 hpos).symm
      | negative => exact congrArg some (compare_gt_iff_gt.2 (neg_lt_zero.2 hpos)).symm
  | finite s m e hm =>
    have hpos := scaled_pos hm e
    cases hv : y.toModel.unpack with
    | notANumber => rw [hv] at hfinitey; cases hfinitey
    | infinity s' => rw [hv] at hfinitey; cases hfinitey
    | zero s' =>
      rw [hzero]
      cases s with
      | positive => exact congrArg some (compare_gt_iff_gt.2 hpos).symm
      | negative => exact congrArg some (compare_lt_iff_lt.2 (neg_lt_zero.2 hpos)).symm
    | finite s' m' e' hm' =>
      have hpos' := scaled_pos hm' e'
      have hscaled := compare_scaled (hcanonical hu) (hcanonical hv)
      cases s with
      | positive =>
        cases s' with
        | positive => exact congrArg some hscaled.symm
        | negative =>
          exact congrArg some (compare_gt_iff_gt.2 ((neg_lt_zero.2 hpos').trans hpos)).symm
      | negative =>
        cases s' with
        | positive =>
          exact congrArg some (compare_lt_iff_lt.2 ((neg_lt_zero.2 hpos).trans hpos')).symm
        | negative =>
          show some ((compare e e').then (compare m m')).swap =
            some (compare (-scaled m e) (-scaled m' e'))
          rw [compare_neg, hscaled]

/-- Of two finite numbers one is below the other if what it stands for is. -/
theorem lt_iff {x y : Float} (hx : x.isFinite = true) (hy : y.isFinite = true) :
    x < y ↔ value x < value y := by
  have hlt : x < y ↔ x.toModel.unpack.compare y.toModel.unpack = some .lt := by
    show decide (x.toModel < y.toModel) = true ↔ _
    rw [decide_eq_true_iff]
    show (x.toModel.unpack.compare y.toModel.unpack == some .lt) = true ↔ _
    rw [beq_iff_eq]
  rw [hlt, compare_unpack hx hy, Option.some_inj, compare_lt_iff_lt]

/-- Of two finite numbers one is not above the other if what it stands for is not. -/
theorem le_iff {x y : Float} (hx : x.isFinite = true) (hy : y.isFinite = true) :
    x ≤ y ↔ value x ≤ value y := by
  have hle : x ≤ y ↔ (x.toModel.unpack.compare y.toModel.unpack).any (·.isLE) = true := by
    show decide (x.toModel ≤ y.toModel) = true ↔ _
    rw [decide_eq_true_iff]
    rfl
  rw [hle, compare_unpack hx hy, Option.any_some, Ordering.isLE_iff_ne_gt]
  exact compare_le_iff_le

/-- A magnitude below one of 53 bits is not above the neighbour of that. -/
theorem scaled_le_of_lt {m m' : Nat} {e e' : Int} (h : IsCanonical m e) (hleast : -1074 ≤ e')
    (hbits : m' < 2 ^ 53) (hleading : 2 ^ 52 < m') (hlt : scaled m e < scaled m' e') :
    scaled m e ≤ scaled (m' - 1) e' := by
  obtain ⟨-, hfits, hnormal⟩ := h
  rcases lt_trichotomy e e' with hexponent | rfl | hexponent
  · exact (scaled_lt_of_exponent_lt hfits (by omega) hexponent).le
  · rw [scaled_lt_scaled_iff] at hlt
    rw [scaled_le_scaled_iff]
    omega
  · have habove : scaled m' e' < scaled m e :=
      scaled_lt_of_exponent_lt hbits (hnormal.resolve_right (by omega)) hexponent
    exact absurd hlt habove.not_gt

end Volley.Decimal
