import Volley.Proofs.Decimal.Order

/-!
# Rounding of floating-point numbers

A result is computed with more bits than fit, and with a word on how accurate these are. The bits
behind the 53 that fit are cut off, and the rest of them decides whether one is added (`rounded`); if
the bits are exact this is rounding to the nearest, from the middle to the even one (`roundEven`).
-/

namespace Volley.Decimal

open Float.Model (UnpackedFloat Format)
open Float.Model.UnpackedFloat (Sign ExtendedMantissa Accuracy)

/-! ## Rounding to a number of bits -/

/-- A number in units of a power of two, rounded to the nearest and from the middle to the even one.
-/
def roundEven (m k : Nat) : Nat :=
  if 2 * (m % 2 ^ k) < 2 ^ k then m / 2 ^ k
  else if 2 ^ k < 2 * (m % 2 ^ k) then m / 2 ^ k + 1
  else m / 2 ^ k + m / 2 ^ k % 2

/-- A whole number of units is not changed. -/
theorem roundEven_mul (n k : Nat) : roundEven (n * 2 ^ k) k = n := by
  have hunit := Nat.two_pow_pos k
  rw [roundEven, Nat.mul_mod_left, if_pos (by omega), Nat.mul_div_cancel _ hunit]

/-- Rounding adds one at most. -/
theorem roundEven_bounds (m k : Nat) :
    m / 2 ^ k ≤ roundEven m k ∧ roundEven m k ≤ m / 2 ^ k + 1 := by
  unfold roundEven
  split_ifs <;> omega

/-- Rounding to a given unit keeps the order. -/
theorem roundEven_mono {m m' : Nat} (h : m ≤ m') (k : Nat) : roundEven m k ≤ roundEven m' k := by
  have hwhole : m / 2 ^ k ≤ m' / 2 ^ k := Nat.div_le_div_right h
  rcases Nat.lt_or_eq_of_le hwhole with hlt | heq
  · have hm := roundEven_bounds m k
    have hm' := roundEven_bounds m' k
    omega
  · -- Between the same units the rest decides, and it is no smaller.
    have hrest : m % 2 ^ k ≤ m' % 2 ^ k := by
      have hm := Nat.div_add_mod m (2 ^ k)
      have hm' := Nat.div_add_mod m' (2 ^ k)
      rw [heq] at hm
      omega
    unfold roundEven
    rw [heq]
    split_ifs <;> omega

/-- The two bits kept behind a shifted number are zero exactly if the shift has lost nothing. -/
theorem residue_shiftRight (m k : Nat) :
    ((ExtendedMantissa.ofMantissaAndAccuracy m .exact >>> k).roundBit ||
        (ExtendedMantissa.ofMantissaAndAccuracy m .exact >>> k).stickyBit) =
      decide (m % 2 ^ k ≠ 0) := by
  induction k with
  | zero =>
    show (false || false) = _
    rw [Nat.pow_zero, Nat.mod_one]
    rfl
  | succ k ih =>
    show ((ExtendedMantissa.ofMantissaAndAccuracy m .exact >>> k).mantissa % 2 != 0 ||
      ((ExtendedMantissa.ofMantissaAndAccuracy m .exact >>> k).roundBit ||
        (ExtendedMantissa.ofMantissaAndAccuracy m .exact >>> k).stickyBit)) = _
    rw [ih, mantissa_shiftRight, Nat.mod_pow_succ]
    show (m / 2 ^ k % 2 != 0 || _) = _
    rcases Nat.mod_two_eq_zero_or_one (m / 2 ^ k) with hbit | hbit
    · simp [hbit]
    · simp [hbit]

/-- A shifted number is rounded to the nearest. -/
theorem roundedMantissa_shiftRight (m k : Nat) :
    (ExtendedMantissa.ofMantissaAndAccuracy m .exact >>> k).roundedMantissa = roundEven m k := by
  cases k with
  | zero =>
    show m = _
    simp [roundEven, Nat.mod_one]
  | succ k =>
    have hshift : ExtendedMantissa.ofMantissaAndAccuracy m .exact >>> (k + 1) =
        ⟨m / 2 ^ (k + 1), m / 2 ^ k % 2 != 0, decide (m % 2 ^ k ≠ 0)⟩ := by
      have hm := mantissa_shiftRight (ExtendedMantissa.ofMantissaAndAccuracy m .exact) k
      show (ExtendedMantissa.ofMantissaAndAccuracy m .exact >>> k).shiftRightOne = _
      rw [← residue_shiftRight, Nat.pow_succ, ← Nat.div_div_eq_div_mul,
        ExtendedMantissa.shiftRightOne, hm]
      rfl
    have hunit : 2 ^ (k + 1) = 2 * 2 ^ k := by rw [Nat.pow_succ, Nat.mul_comm]
    have hlt := Nat.mod_lt m (Nat.two_pow_pos k)
    rw [hshift, roundEven, Nat.mod_pow_succ, hunit]
    generalize m / (2 * 2 ^ k) = whole
    generalize m % 2 ^ k = rest at *
    -- The first bit behind the unit and the rest below it make the four cases of rounding.
    rcases Nat.mod_two_eq_zero_or_one (m / 2 ^ k) with hbit | hbit
    · rw [hbit, if_pos (by omega)]
      by_cases hrest : rest = 0
      · rw [hrest]
        rfl
      · rw [decide_eq_true hrest]
        rfl
    · rw [hbit, if_neg (by omega)]
      by_cases hrest : rest = 0
      · rw [if_neg (by omega), hrest]
        rfl
      · rw [if_pos (by omega), decide_eq_true hrest]
        rfl

/-! ## Numbers that are known with an accuracy -/

/-- A number in units of a power of two, rounded; it is known with the given accuracy. -/
def rounded (m k : Nat) (accuracy : Accuracy) : Nat :=
  (ExtendedMantissa.ofMantissaAndAccuracy m accuracy >>> k).roundedMantissa

/-- A number that is known exactly is rounded to the nearest. -/
theorem rounded_exact (m k : Nat) : rounded m k .exact = roundEven m k :=
  roundedMantissa_shiftRight m k

/-- Rounding adds one at most, with every accuracy. -/
theorem rounded_bounds (m k : Nat) (accuracy : Accuracy) :
    m / 2 ^ k ≤ rounded m k accuracy ∧ rounded m k accuracy ≤ m / 2 ^ k + 1 := by
  have hmantissa : (ExtendedMantissa.ofMantissaAndAccuracy m accuracy).mantissa = m := by
    cases accuracy with
    | exact => rfl
    | inexact half => cases half <;> rfl
  have hnearest (n : Nat) (accuracy : Accuracy) :
      n ≤ accuracy.roundToNearestEven n ∧ accuracy.roundToNearestEven n ≤ n + 1 := by
    cases accuracy with
    | exact => exact ⟨Nat.le_refl n, Nat.le_succ n⟩
    | inexact half =>
      cases half with
      | lt => exact ⟨Nat.le_refl n, Nat.le_succ n⟩
      | eq =>
        show n ≤ n + n % 2 ∧ n + n % 2 ≤ n + 1
        omega
      | gt => exact ⟨Nat.le_succ n, Nat.le_refl _⟩
  rw [rounded, ExtendedMantissa.roundedMantissa, mantissa_shiftRight, hmantissa]
  exact hnearest _ _

/-- Bits and an accuracy are known of a number: it is what the bits make if they are exact, and
above it otherwise. -/
def Approximates (m : Nat) (e : Int) (accuracy : Accuracy) (q : ℚ) : Prop :=
  accuracy = .exact ∧ q = scaled m e ∨ scaled m e < q

/-- A significand and an exponent for which the format has room. -/
def Fits (m : Nat) (e : Int) : Prop :=
  m < 2 ^ 53 ∧ -1074 ≤ e ∧ e ≤ 971

/-- A finite number with a plus sign, not above a bound. -/
def IsWithin (x : Float) (bound : ℚ) : Prop :=
  ∃ m e, Decoded.ofFloat x = .finite ⟨false, m, e⟩ ∧ scaled m e ≤ bound

/-! ## Rounding to the format

The unit of a magnitude `m * 2 ^ e` is the one that leaves 53 bits, or the least unit of the format;
`k` is the number of bits behind it. -/

/-- The unit that a magnitude is rounded to. -/
theorem targetExponent_eq (m : Nat) (e : Int) :
    Format.binary64.targetExponent (Float.Model.totalExponent m e) =
      max (m.log2 + e - 52) (-1074) := by
  show max ((m.log2 : Int) + 1 + e - 53) (-1074) = _
  omega

/-- A magnitude is shifted to its unit. -/
theorem shiftToTargetExponent_eq {m k : Nat} {e : Int} {accuracy : Accuracy}
    (hk : ((max (m.log2 + e - 52) (-1074) : Int) - e).toNat = k) :
    UnpackedFloat.shiftToTargetExponent .binary64 m e accuracy =
      (ExtendedMantissa.ofMantissaAndAccuracy m accuracy >>> k, e + k) := by
  unfold UnpackedFloat.shiftToTargetExponent UnpackedFloat.shiftToExponent
  dsimp only
  rw [targetExponent_eq, hk]

/-- Bits that fill a significand, or come in the least unit, come in no larger unit than they are
rounded to. -/
theorem exists_unit {m : Nat} {e : Int} (h : 2 ^ 52 ≤ m ∨ e ≤ -1074) :
    ∃ k : Nat, e + k = max (m.log2 + e - 52) (-1074) := by
  have hle : e ≤ max (m.log2 + e - 52) (-1074) := by
    rcases h with hbits | hleast
    · have hlog : 52 ≤ m.log2 := (Nat.le_log2 (by omega)).2 hbits
      omega
    · omega
  exact ⟨(max (m.log2 + e - 52) (-1074) - e).toNat, by omega⟩

section Unit

variable {m k : Nat} {e : Int} (hk : e + k = max (m.log2 + e - 52) (-1074))
include hk

/-- A magnitude is rounded to 53 bits at most, or to the next power of two. -/
theorem rounded_le (accuracy : Accuracy) : rounded m k accuracy ≤ 2 ^ 53 := by
  have hbits : m < 2 ^ (53 + k) :=
    Nat.lt_of_lt_of_le Nat.lt_log2_self (Nat.pow_le_pow_right (by decide) (by omega))
  have hwhole : m / 2 ^ k < 2 ^ 53 := by
    rw [Nat.div_lt_iff_lt_mul (Nat.two_pow_pos k), ← Nat.pow_add]
    exact hbits
  have hround := rounded_bounds m k accuracy
  omega

/-- A magnitude above the least unit keeps its leading bit. -/
theorem le_rounded (accuracy : Accuracy) (hleast : e + k ≠ -1074) :
    2 ^ 52 ≤ rounded m k accuracy := by
  have hlog : m.log2 = 52 + k := by omega
  have hm : m ≠ 0 := by
    rintro rfl
    have : (0 : Nat).log2 = 0 := rfl
    omega
  have hwhole : 2 ^ 52 ≤ m / 2 ^ k := by
    rw [Nat.le_div_iff_mul_le (Nat.two_pow_pos k), ← Nat.pow_add, ← hlog]
    exact Nat.log2_self_le hm
  have hround := rounded_bounds m k accuracy
  omega

/-- A magnitude is rounded to its unit; where that makes it the next power of two, one bit fewer is
kept. -/
theorem roundWithAccuracy_eq (s : Sign) (accuracy : Accuracy) :
    UnpackedFloat.roundWithAccuracy .binary64 s m e accuracy =
      if h : rounded m k accuracy = 0 then .zero s
      else if rounded m k accuracy < 2 ^ 53 then
        .finite s (rounded m k accuracy) (e + k) (Nat.pos_of_ne_zero h)
      else .finite s (2 ^ 52) (e + k + 1) (by decide) := by
  have hle := rounded_le hk accuracy
  unfold UnpackedFloat.roundWithAccuracy
  rw [shiftToTargetExponent_eq (k := k) (by omega)]
  dsimp only
  rw [← rounded]
  generalize rounded m k accuracy = r at *
  by_cases hfits : r < 2 ^ 53
  · have hlog : r.log2 < 53 := by
      by_cases hzero : r = 0
      · rw [hzero]
        decide
      · exact (Nat.log2_lt hzero).2 hfits
    rw [shiftToTargetExponent_eq (k := 0) (by omega)]
    show (if h : r = 0 then UnpackedFloat.zero s else .finite s r (e + k + (0 : Nat)) _) = _
    simp only [Int.natCast_zero, Int.add_zero, if_pos hfits]
  · obtain rfl : r = 2 ^ 53 := by omega
    have hlog : (2 ^ 53 : Nat).log2 = 53 := Nat.log2_two_pow
    rw [shiftToTargetExponent_eq (k := 1) (by rw [hlog]; omega)]
    rfl

/-- Rounding passes no number of the format: what is not above such a number is not rounded to a
number above it. -/
theorem scaled_rounded_le {accuracy : Accuracy} {q : ℚ} (hq : Approximates m e accuracy q)
    {m' : Nat} {e' : Int} (hfits : Fits m' e') (hle : q ≤ scaled m' e') :
    scaled (rounded m k accuracy) (e + k) ≤ scaled m' e' := by
  by_cases hunit : e + k ≤ e'
  · -- The number is a whole number of units, and the bits are cut to units.
    obtain ⟨j, rfl⟩ : ∃ j : Nat, e' = e + k + j := ⟨(e' - (e + k)).toNat, by omega⟩
    rw [scaled_add m' j] at hle ⊢
    generalize m' * 2 ^ j = n at *
    rw [scaled_le_scaled_iff]
    rw [scaled_add] at hle
    have hround := rounded_bounds m k accuracy
    have hcut (hlt : m < n * 2 ^ k) : rounded m k accuracy ≤ n := by
      have hwhole : m / 2 ^ k < n := (Nat.div_lt_iff_lt_mul (Nat.two_pow_pos k)).2 hlt
      omega
    rcases hq with ⟨rfl, rfl⟩ | hlt
    · rw [scaled_le_scaled_iff] at hle
      rcases Nat.lt_or_eq_of_le hle with hlt | rfl
      · exact hcut hlt
      · rw [rounded_exact, roundEven_mul]
    · exact hcut ((scaled_lt_scaled_iff e).1 (hlt.trans_le hle))
  · -- The number has fewer bits, so that it is below all numbers with this unit.
    exfalso
    obtain ⟨hbits, hleast, -⟩ := hfits
    have hlog : m.log2 = 52 + k := by omega
    have hleading : 2 ^ 52 * 2 ^ k ≤ m := by
      have hm : m ≠ 0 := by
        rintro rfl
        have : (0 : Nat).log2 = 0 := rfl
        omega
      rw [← Nat.pow_add, ← hlog]
      exact Nat.log2_self_le hm
    have hbelow : scaled m' e' < scaled (2 ^ 52) (e + k) :=
      scaled_lt_of_exponent_lt hbits (Nat.le_refl _) (by omega)
    have hm : scaled (2 ^ 52) (e + k) ≤ scaled m e := by
      rw [scaled_add, scaled_le_scaled_iff]
      exact hleading
    have hexact : scaled m e ≤ q := by
      rcases hq with ⟨-, rfl⟩ | hlt
      · exact le_refl _
      · exact hlt.le
    linarith

/-- A rounded number is not above a number of the format that the exact one is not above. -/
theorem isWithin_roundWithAccuracy {accuracy : Accuracy} {q : ℚ}
    (hq : Approximates m e accuracy q) {m' : Nat} {e' : Int} (hfits : Fits m' e')
    (hle : q ≤ scaled m' e') :
    IsWithin ⟨.pack (UnpackedFloat.roundWithAccuracy .binary64 .positive m e accuracy)⟩
      (scaled m' e') := by
  have hbound := scaled_rounded_le hk hq hfits hle
  have hmost := rounded_le hk accuracy
  have hleading := le_rounded hk accuracy
  obtain ⟨hbits, hleast, hgreatest⟩ := hfits
  rw [roundWithAccuracy_eq hk]
  generalize rounded m k accuracy = r at *
  by_cases hzero : r = 0
  · refine ⟨0, -1074, ?_, ?_⟩
    · rw [dif_pos hzero, ofFloat_pack_zero]
      rfl
    · rw [scaled_zero]
      exact scaled_nonneg m' e'
  · rw [dif_neg hzero]
    have hpos : 0 < r := Nat.pos_of_ne_zero hzero
    by_cases hcarry : r < 2 ^ 53
    · have hexponent : e + k ≤ 971 := by
        by_contra hlarge
        have habove : scaled m' e' < scaled r (e + k) :=
          scaled_lt_of_exponent_lt hbits (hleading (by omega)) (by omega)
        linarith
      have hcanonical : IsCanonical r (e + k) := by
        refine ⟨by omega, hcarry, ?_⟩
        by_cases hunit : e + k = -1074
        · exact .inr hunit
        · exact .inl (hleading hunit)
      refine ⟨r, e + k, ?_, hbound⟩
      rw [if_pos hcarry, ofFloat_pack _ hcanonical hpos, if_pos hexponent]
      rfl
    · obtain rfl : r = 2 ^ 53 := by omega
      have hnext : scaled (2 ^ 52) (e + k + 1) = scaled (2 ^ 53) (e + k) :=
        scaled_add (2 ^ 52) 1 (e + k)
      have hexponent : e + k + 1 ≤ 971 := by
        by_contra hlarge
        have habove : scaled m' e' < scaled (2 ^ 52) (e + k + 1) :=
          scaled_lt_of_exponent_lt hbits (Nat.le_refl _) (by omega)
        linarith
      have hcanonical : IsCanonical (2 ^ 52) (e + k + 1) :=
        ⟨by omega, by decide, .inl (Nat.le_refl _)⟩
      refine ⟨2 ^ 52, e + k + 1, ?_, hnext.trans_le hbound⟩
      rw [if_neg hcarry, ofFloat_pack _ hcanonical, if_pos hexponent]
      rfl

end Unit

end Volley.Decimal
