import Mathlib
import Volley.Decimal.Binary

/-!
# The fields of floating-point numbers

A floating-point number is a word of 64 bits, and arithmetic on it is defined on its fields: a sign,
a significand and an exponent. Both sides say the same of every number (`ofFloat_eq`). The other way
round, fields that the format can hold are found again in the number that they are packed into, or
an infinity if the exponent is too large (`ofFloat_pack`).

The whole part of a number follows. A conversion to a word of 64 bits cuts the fraction off and stays
within the word (`toNat_toUInt64`), and it makes no difference to it that numbers which are too large
become infinities (`wholeWord_pack`).
-/

namespace Volley.Decimal

open Float.Model (UnpackedFloat Format)
open Float.Model.UnpackedFloat (Sign ExtendedMantissa)

/-! ## Words -/

/-- Whether a sign is minus. -/
def isNegative : Sign → Bool
  | .negative => true
  | .positive => false

/-- What the fields of a floating-point number stand for. -/
def Decoded.ofUnpacked : UnpackedFloat → Decoded
  | .notANumber => .nan
  | .infinity sign => .infinite (isNegative sign)
  | .zero sign => .finite ⟨isNegative sign, 0, -1074⟩
  | .finite sign significand exponent _ => .finite ⟨isNegative sign, significand, exponent⟩

/-- The sign of a word is its highest bit. -/
theorem isNegative_unpackSign (b : BitVec Format.binary64.numBits) :
    isNegative (.ofBitVec (UnpackedFloat.unpackSign b)) = decide (int64Bound ≤ b.toNat) := by
  have hsign : (UnpackedFloat.unpackSign b).toNat = b.toNat / int64Bound % 2 := by
    show (b.toNat >>> 63) % 2 ^ 1 = _
    rw [Nat.shiftRight_eq_div_pow]
    rfl
  have hbound : b.toNat < 2 ^ 64 := b.isLt
  unfold int64Bound at *
  by_cases hzero : UnpackedFloat.unpackSign b = 0#1
  · have hlow : ¬0x8000000000000000 ≤ b.toNat := by
      rw [hzero] at hsign
      have : b.toNat / 0x8000000000000000 % 2 = 0 := hsign.symm
      omega
    rw [Sign.ofBitVec, if_pos hzero, decide_eq_false hlow]
    rfl
  · have hhigh : 0x8000000000000000 ≤ b.toNat := by
      have hne : (UnpackedFloat.unpackSign b).toNat ≠ 0 := fun h => hzero (BitVec.eq_of_toNat_eq h)
      omega
    rw [Sign.ofBitVec, if_neg hzero, decide_eq_true hhigh]
    rfl

/-- The fields of a word stand for what the word stands for. -/
theorem ofUnpacked_unpack (b : BitVec Format.binary64.numBits) :
    Decoded.ofUnpacked (UnpackedFloat.unpack .binary64 b) = .ofWord b.toNat := by
  have hfraction : (UnpackedFloat.unpackMantissa b).toNat = b.toNat % hiddenBit := by
    show (b.toNat >>> 0) % 2 ^ 52 = _
    rfl
  have hscale : (UnpackedFloat.unpackExponent b).toNat = b.toNat / hiddenBit % 2048 := by
    show (b.toNat >>> 52) % 2 ^ 11 = _
    rw [Nat.shiftRight_eq_div_pow]
    rfl
  have hhidden : (1#1 ++ UnpackedFloat.unpackMantissa b).toNat =
      (UnpackedFloat.unpackMantissa b).toNat + hiddenBit := by
    rw [BitVec.toNat_append, ← Nat.shiftLeft_add_eq_or_of_lt (UnpackedFloat.unpackMantissa b).isLt,
      Nat.add_comm]
    rfl
  -- The two sides ask the same of the fields, one as bits and the other as numbers.
  have hscale_iff (c : BitVec 11) :
      UnpackedFloat.unpackExponent b = c ↔ (UnpackedFloat.unpackExponent b).toNat = c.toNat :=
    BitVec.toNat_inj.symm
  have hfraction_iff (c : BitVec 52) :
      UnpackedFloat.unpackMantissa b = c ↔ (UnpackedFloat.unpackMantissa b).toNat = c.toNat :=
    BitVec.toNat_inj.symm
  unfold Decoded.ofWord
  dsimp only
  rw [← hfraction, ← hscale, ← isNegative_unpackSign, ← hhidden, UnpackedFloat.unpack]
  simp only [hscale_iff, hfraction_iff]
  show Decoded.ofUnpacked (if (UnpackedFloat.unpackExponent b).toNat = 2047 then
      if (UnpackedFloat.unpackMantissa b).toNat = 0 then _ else _
    else if (UnpackedFloat.unpackExponent b).toNat = 0 then
      if _ : (UnpackedFloat.unpackMantissa b).toNat = 0 then _ else _
    else _) = _
  split
  · split
    · rfl
    · rfl
  · split
    · rename_i hleast
      split
      · rename_i hzero
        rw [hzero]
        rfl
      · rw [hleast]
        rfl
    · rfl

/-- A floating-point number stands for what its fields stand for. -/
theorem ofFloat_eq (x : Float) : Decoded.ofFloat x = .ofUnpacked x.toModel.unpack :=
  (ofUnpacked_unpack x.toBits.toBitVec).symm

/-- A word put together of a sign, a scale and a fraction stands for what these say. -/
theorem ofWord_fields (s : Sign) {scale fraction : Nat} (hscale : scale < 2048)
    (hfraction : fraction < hiddenBit) :
    Decoded.ofWord ((if isNegative s then int64Bound else 0) + scale * hiddenBit + fraction) =
      if scale = 2047 then if fraction = 0 then .infinite (isNegative s) else .nan
      else if scale = 0 then .finite ⟨isNegative s, fraction, -1074⟩
      else .finite ⟨isNegative s, fraction + hiddenBit, (scale : Int) - 1075⟩ := by
  generalize hbits :
    (if isNegative s then int64Bound else 0) + scale * hiddenBit + fraction = bits
  have hfields : decide (int64Bound ≤ bits) = isNegative s ∧ bits / hiddenBit % 2048 = scale ∧
      bits % hiddenBit = fraction := by
    unfold int64Bound hiddenBit at *
    cases s with
    | negative =>
      have hbits : 0x8000000000000000 + scale * 0x10000000000000 + fraction = bits := hbits
      exact ⟨decide_eq_true (by omega), by omega, by omega⟩
    | positive =>
      have hbits : 0 + scale * 0x10000000000000 + fraction = bits := hbits
      exact ⟨decide_eq_false (by omega), by omega, by omega⟩
  obtain ⟨hsign, hscale, hfraction⟩ := hfields
  unfold Decoded.ofWord
  dsimp only
  rw [hsign, hscale, hfraction]

/-- The number of the word that fields are packed into. -/
theorem toNat_packComponents (s : Sign) (scale : BitVec 11) (fraction : BitVec 52) :
    (UnpackedFloat.packComponents .binary64 s scale fraction).toNat =
      (if isNegative s then int64Bound else 0) + scale.toNat * hiddenBit + fraction.toNat := by
  show (s.toBitVec ++ scale ++ fraction).toNat = _
  rw [BitVec.toNat_append, ← Nat.shiftLeft_add_eq_or_of_lt fraction.isLt, BitVec.toNat_append,
    ← Nat.shiftLeft_add_eq_or_of_lt scale.isLt]
  simp only [Nat.shiftLeft_eq]
  unfold int64Bound hiddenBit
  cases s with
  | negative =>
    show (1 * 2 ^ 11 + scale.toNat) * 2 ^ 52 + fraction.toNat = 0x8000000000000000 + _ + _
    omega
  | positive =>
    show (0 * 2 ^ 11 + scale.toNat) * 2 ^ 52 + fraction.toNat = 0 + _ + _
    omega

/-! ## Packing -/

/-- A significand and an exponent as the format has them: 53 bits, or fewer at the least exponent.
-/
def IsCanonical (m : Nat) (e : Int) : Prop :=
  -1074 ≤ e ∧ m < 2 ^ 53 ∧ (2 ^ 52 ≤ m ∨ e = -1074)

/-- Zero is packed with its sign. -/
theorem ofFloat_pack_zero (s : Sign) :
    Decoded.ofFloat ⟨.pack (.zero s)⟩ = .finite ⟨isNegative s, 0, -1074⟩ := by
  show Decoded.ofWord (UnpackedFloat.packComponents .binary64 s 0#11 0#52).toNat = _
  rw [toNat_packComponents, ofWord_fields s (by decide) (by decide)]
  rfl

/-- Fields as the format has them are packed without loss, unless the exponent is too large. -/
theorem ofFloat_pack (s : Sign) {m : Nat} {e : Int} (h : IsCanonical m e) (hpos : 0 < m) :
    Decoded.ofFloat ⟨.pack (.finite s m e hpos)⟩ =
      if e ≤ 971 then .finite ⟨isNegative s, m, e⟩ else .infinite (isNegative s) := by
  obtain ⟨hleast, hbits, hnormal⟩ := h
  have hscale : (e + (Format.binary64.exponentBias : Nat) +
      (Format.binary64.mantissaBitsWithoutImplicit : Nat)).toNat = (e + 1075).toNat := by
    show (e + 1023 + 52).toNat = _
    omega
  have hlog : m.log2 + 1 = Format.binary64.mantissaBits ↔ 2 ^ 52 ≤ m := by
    show m.log2 + 1 = 53 ↔ _
    have := Nat.log2_eq_iff (n := m) (k := 52) (by omega)
    omega
  show Decoded.ofWord (UnpackedFloat.pack .binary64 (.finite s m e hpos)).toNat = _
  rw [UnpackedFloat.pack]
  simp only [hscale, hlog]
  by_cases hle : e ≤ 971
  · rw [if_pos hle, if_neg (by omega)]
    by_cases hhidden : 2 ^ 52 ≤ m
    · have hm : m % 2 ^ 52 + hiddenBit = m := by
        unfold hiddenBit
        omega
      have he : (((e + 1075).toNat % 2 ^ 11 : Nat) : Int) - 1075 = e := by omega
      rw [if_pos hhidden, toNat_packComponents, ofWord_fields s (BitVec.isLt _) (BitVec.isLt _),
        BitVec.toNat_ofNat, BitVec.toNat_ofNat, if_neg (by omega), if_neg (by omega), hm, he]
    · have he : e = -1074 := hnormal.resolve_left hhidden
      have hm : (BitVec.ofNat 52 m).toNat = m := Nat.mod_eq_of_lt (by omega)
      rw [if_neg hhidden, toNat_packComponents, ofWord_fields s (BitVec.isLt _) (BitVec.isLt _), hm,
        he]
      rfl
  · rw [if_neg hle, if_pos (by omega), UnpackedFloat.packedInfinity, toNat_packComponents,
      ofWord_fields s (BitVec.isLt _) (BitVec.isLt _)]
    rfl

/-! ## Whole parts -/

/-- The whole part of a magnitude. -/
def wholePart (m : Nat) (e : Int) : Nat :=
  Binary.whole ⟨false, m, e⟩

/-- The whole part of a finite number. -/
theorem wholeWord_finite (negative : Bool) (m : Nat) (e : Int) :
    (Decoded.finite ⟨negative, m, e⟩).wholeWord =
      if negative then 0 else min (wholePart m e) (word64Bound - 1) :=
  rfl

/-- Nothing has no whole part. -/
theorem wholePart_zero (e : Int) : wholePart 0 e = 0 := by
  show 0 * 2 ^ e.toNat / 2 ^ (-e).toNat = 0
  rw [Nat.zero_mul, Nat.zero_div]

/-- The whole part of a larger significand is no smaller. -/
theorem wholePart_mono {m m' : Nat} (h : m ≤ m') (e : Int) : wholePart m e ≤ wholePart m' e :=
  Nat.div_le_div_right (Nat.mul_le_mul_right _ h)

/-- A part of the power of two can be moved into the significand. -/
theorem wholePart_add (m k : Nat) (e : Int) : wholePart m (e + k) = wholePart (m * 2 ^ k) e := by
  show m * 2 ^ (e + k).toNat / 2 ^ (-(e + k)).toNat = m * 2 ^ k * 2 ^ e.toNat / 2 ^ (-e).toNat
  rw [Nat.mul_assoc, ← Nat.pow_add]
  by_cases hsum : 0 ≤ e + k
  · have hnone : (-(e + k)).toNat = 0 := by omega
    have hpower : k + e.toNat = (e + k).toNat + (-e).toNat := by omega
    rw [hnone, hpower, Nat.pow_add, ← Nat.mul_assoc, Nat.mul_div_cancel _ (Nat.two_pow_pos _),
      Nat.pow_zero, Nat.div_one]
  · have hnone : (e + k).toNat = 0 := by omega
    have hpower : (-e).toNat = (-(e + k)).toNat + (k + e.toNat) := by omega
    rw [hnone, hpower, Nat.pow_add 2 (-(e + k)).toNat,
      Nat.mul_div_mul_right _ _ (Nat.two_pow_pos _), Nat.pow_zero, Nat.mul_one]

/-- A shift to the right divides by a power of two. -/
theorem mantissa_shiftRight (em : ExtendedMantissa) (k : Nat) :
    (em >>> k).mantissa = em.mantissa / 2 ^ k := by
  induction k with
  | zero => exact (Nat.div_one _).symm
  | succ k ih =>
    show (em >>> k).mantissa / 2 = _
    rw [ih, Nat.div_div_eq_div_mul, Nat.pow_succ]

/-- A finite number is converted to its whole part. -/
theorem toInt_finite (s : Sign) {m : Nat} (e low high : Int) (hpos : 0 < m) :
    (UnpackedFloat.finite s m e hpos).toInt low high = s.apply (wholePart m e : Nat) := by
  show s.apply ((ExtendedMantissa.ofMantissaAndAccuracy (m <<< (e - 0).toNat) .exact >>>
    (0 - (e - (e - 0).toNat)).toNat).mantissa : Nat) = _
  have hleft : (e - 0).toNat = e.toNat := by omega
  have hright : (0 - (e - e.toNat)).toNat = (-e).toNat := by omega
  rw [mantissa_shiftRight, hleft, hright, Nat.shiftLeft_eq]
  rfl

/-- A natural number as a word stays within the word. -/
theorem toNat_ofNatClamp (n : Nat) : (UInt64.ofNatClamp n).toNat = min n (word64Bound - 1) := by
  unfold UInt64.ofNatClamp word64Bound
  split
  · rename_i h
    have hlt : n < 18446744073709551616 := h
    show n = _
    omega
  · rename_i h
    have hge : ¬n < 18446744073709551616 := h
    show 18446744073709551615 = _
    omega

/-- A conversion to a word of 64 bits gives the whole part. -/
theorem toNat_toUInt64 (x : Float) : x.toUInt64.toNat = (Decoded.ofFloat x).wholeWord := by
  rw [ofFloat_eq]
  show (UInt64.ofNatClamp (x.toModel.unpack.toInt 0 (UInt64.size - 1)).toNat).toNat = _
  rw [toNat_ofNatClamp]
  cases x.toModel.unpack with
  | notANumber => rfl
  | infinity s =>
    cases s with
    | negative => rfl
    | positive => rfl
  | zero s =>
    cases s with
    | negative => rfl
    | positive =>
      show min 0 (word64Bound - 1) = (Decoded.finite ⟨false, 0, -1074⟩).wholeWord
      rw [wholeWord_finite, wholePart_zero]
      rfl
  | finite s m e hpos =>
    rw [toInt_finite]
    cases s with
    | negative =>
      have hnone : (-(wholePart m e : Int)).toNat = 0 := by omega
      show min (-(wholePart m e : Int)).toNat _ = 0
      rw [hnone]
      rfl
    | positive => rfl

/-- What is too large for the format is too large for a word as well, so packing changes no whole
part. -/
theorem wholeWord_pack (s : Sign) {m : Nat} {e : Int} (h : IsCanonical m e) (hpos : 0 < m) :
    (Decoded.ofFloat ⟨.pack (.finite s m e hpos)⟩).wholeWord =
      if isNegative s then 0 else min (wholePart m e) (word64Bound - 1) := by
  rw [ofFloat_pack s h hpos]
  by_cases hle : e ≤ 971
  · rw [if_pos hle]
    rfl
  · have hlarge : word64Bound - 1 ≤ wholePart m e := by
      obtain ⟨n, rfl⟩ : ∃ n : Nat, e = (64 : Int) + n := ⟨(e - 64).toNat, by omega⟩
      have hword : wholePart 1 64 = word64Bound := by decide
      have hmono : wholePart 1 64 ≤ wholePart (m * 2 ^ n) 64 :=
        wholePart_mono (Nat.mul_pos hpos (Nat.two_pow_pos n)) 64
      rw [wholePart_add]
      omega
    rw [if_neg hle]
    show (if isNegative s then 0 else word64Bound - 1) = _
    rw [Nat.min_eq_right hlarge]

end Volley.Decimal
