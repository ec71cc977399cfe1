import Volley.Proofs.Decimal.Bound
import Volley.Proofs.Decimal.Fixed
import Volley.Proofs.Report.Amount

/-!
# Where rounding reaches the next unit

Seconds are rounded to milliseconds before they are split, so that durations from a second on are
always normalised. Below a second, and for sizes, the unit is chosen by the number as it is and the
number is rounded afterwards. In the last half of the last place before the next unit that makes the
number reach its limit (`DurationRoundsUp`, `SizeRoundsUp`), and nowhere else.
-/

namespace Volley.Quantity

open Decimal

/-! ## Numbers with a whole part -/

/-- Digits, and a fraction behind them or nothing, are a number with the digits as its whole part. -/
theorem isNumeral_append (n : Nat) {tail : List Char} (hhead : ∀ c ∈ tail.head?, c = '.')
    (htail : ∀ c ∈ tail, isNumeric c = true) : IsNumeral (digitsOf n ++ tail) n := by
  constructor
  case ne_nil => exact List.append_ne_nil_of_left_ne_nil Nat.toDigits_ne_nil _
  case isNumeric =>
    intro c hc
    rcases List.mem_append.1 hc with hc | hc
    · rw [isNumeric, isDigit_of_mem_digitsOf hc]
      rfl
    · exact htail c hc
  case whole =>
    have hpoint : ∀ c ∈ digitsOf n, (c != '.') = true := by
      intro c hc
      rw [bne_iff_ne]
      rintro rfl
      exact absurd (isDigit_of_mem_digitsOf hc) (by decide)
    have hwhole : (digitsOf n ++ tail).takeWhile (· != '.') = digitsOf n := by
      rw [List.takeWhile_append_of_pos hpoint]
      cases tail with
      | nil => rw [List.takeWhile_nil, List.append_nil]
      | cons c rest =>
        obtain rfl := hhead c rfl
        rw [List.takeWhile_cons_of_neg (by decide), List.append_nil]
    have hread := Text.signed?_toString (n : Int)
    rw [Text.toList_toString, if_neg (by omega), List.nil_append] at hread
    rw [whole?, hwhole]
    exact hread

/-- A count is a number. -/
theorem isNumeral_toString (n : Nat) : IsNumeral (toString n).toList n := by
  have hdigits : (toString n).toList = digitsOf n ++ [] := by
    rw [List.append_nil]
    exact Nat.toList_repr
  rw [hdigits]
  exact isNumeral_append n (by simp) (by simp)

/-! ## Characters dropped from the end -/

/-- Only what stands behind another character is dropped. -/
theorem dropTrailing_append {c : Char} {s : List Char} (hs : ∀ c' ∈ s.getLast?, c' ≠ c)
    (rest : List Char) : dropTrailing c (s ++ rest) = s ++ dropTrailing c rest := by
  have hkept : s.reverse.dropWhile (· == c) = s.reverse := by
    rw [← List.head?_reverse] at hs
    cases hreverse : s.reverse with
    | nil => rfl
    | cons c' others =>
      rw [hreverse] at hs
      exact List.dropWhile_cons_of_neg (by simpa using hs c' rfl)
  rw [dropTrailing, dropTrailing, List.reverse_append, List.dropWhile_append, hkept]
  split
  next hnone => rw [List.isEmpty_iff.1 hnone, List.reverse_reverse, List.reverse_nil, List.append_nil]
  next => rw [List.reverse_append, List.reverse_reverse]

/-- Nothing is dropped behind another character. -/
theorem dropTrailing_eq_self {c : Char} {s : List Char} (hs : ∀ c' ∈ s.getLast?, c' ≠ c) :
    dropTrailing c s = s := by
  have h := dropTrailing_append hs []
  rwa [List.append_nil, show dropTrailing c [] = [] from rfl, List.append_nil] at h

/-- What is left was there before. -/
theorem mem_of_mem_dropTrailing {c c' : Char} {s : List Char} (h : c' ∈ dropTrailing c s) :
    c' ∈ s :=
  List.mem_reverse.1 ((List.dropWhile_sublist _).subset (List.mem_reverse.1 h))

/-! ## Numbers with three places -/

section Places

variable {x : Float} {m : Nat} {e : Int} (h : Decoded.ofFloat x = .finite ⟨false, m, e⟩)
include h

/-- A number with three places is a number. -/
theorem isNumeral_fixed :
    IsNumeral (fixed 3 x).toList (thousandths ⟨false, m, e⟩ / 1000) := by
  rw [toList_fixed h]
  refine isNumeral_append _ (by simp) ?_
  intro c hc
  rcases List.mem_cons.1 hc with rfl | hc
  · rfl
  · rw [isNumeric, isDigit_of_mem_threePlaces hc]
    rfl

/-- Of the fraction the zeros at its end are dropped, and the point with them if no digit is left. -/
theorem toList_decimal : (decimal x).toList = digitsOf (thousandths ⟨false, m, e⟩ / 1000) ++
    match dropTrailing '0' (threePlaces (thousandths ⟨false, m, e⟩ % 1000)) with
    | [] => []
    | c :: rest => '.' :: c :: rest := by
  rw [decimal, String.toList_ofList, toList_fixed h]
  generalize thousandths ⟨false, m, e⟩ / 1000 = whole
  generalize hfraction : threePlaces (thousandths ⟨false, m, e⟩ % 1000) = fraction
  have hdigits : ∀ c ∈ dropTrailing '0' fraction, c.isDigit = true := by
    intro c hc
    rw [← hfraction] at hc
    exact isDigit_of_mem_threePlaces (mem_of_mem_dropTrailing hc)
  have hzeros : dropTrailing '0' (digitsOf whole ++ '.' :: fraction) =
      digitsOf whole ++ '.' :: dropTrailing '0' fraction := by
    rw [List.append_cons, dropTrailing_append (by simp), ← List.append_cons]
  rw [hzeros]
  cases hleft : dropTrailing '0' fraction with
  | nil =>
    refine dropTrailing_append ?_ ['.']
    rintro c hc rfl
    exact absurd (isDigit_of_mem_digitsOf (List.mem_of_mem_getLast? hc)) (by decide)
  | cons c rest =>
    refine dropTrailing_eq_self ?_
    rintro c' hc' rfl
    rw [hleft] at hdigits
    have hlast : (digitsOf whole ++ '.' :: c :: rest).getLast? = (c :: rest).getLast? := by
      rw [List.append_cons, List.getLast?_append_of_ne_nil _ (List.cons_ne_nil _ _)]
    rw [hlast] at hc'
    exact absurd (hdigits _ (List.mem_of_mem_getLast? hc')) (by decide)

/-- A number without the zeros at its end is a number. -/
theorem isNumeral_decimal :
    IsNumeral (decimal x).toList (thousandths ⟨false, m, e⟩ / 1000) := by
  rw [toList_decimal h]
  cases hleft : dropTrailing '0' (threePlaces (thousandths ⟨false, m, e⟩ % 1000)) with
  | nil => exact isNumeral_append _ (by simp) (by simp)
  | cons c rest =>
    refine isNumeral_append _ (by simp) ?_
    intro c' hc'
    rcases List.mem_cons.1 hc' with rfl | hc'
    · rfl
    · rw [← hleft] at hc'
      rw [isNumeric, isDigit_of_mem_threePlaces (mem_of_mem_dropTrailing hc')]
      rfl

end Places

/-! ## Numbers in a unit -/

/-- How a number is shown in a unit with a limit: below it, but in the last half of the last place as
the limit itself. -/
structure IsShown (text : String) (x : Float) (limit : Nat) (half : ℚ) (last : String) : Prop where
  /-- A number is shown below the limit if more than half of the last place is missing. -/
  below : value x < limit - half → ∃ whole < limit, IsNumeral text.toList whole
  /-- Otherwise the limit is shown. -/
  limit : limit - half ≤ value x → text = last

section Shown

variable {x : Float}

/-- A number is shown as a count below another one if more than half a unit is missing. -/
theorem nearestCount_lt_iff {m n : Nat} {e : Int}
    (hfields : Decoded.ofFloat x = .finite ⟨false, m, e⟩) (hn : n ≤ countMax) :
    nearestCount x < n ↔ value x < n - 1 / 2 := by
  have hden := Binary.denominator_pos ⟨false, m, e⟩
  have hcast : (0 : ℚ) < Binary.denominator ⟨false, m, e⟩ := Nat.cast_pos.2 hden
  have hcount : nearestCount x = min ((2 * Binary.numerator ⟨false, m, e⟩ +
      Binary.denominator ⟨false, m, e⟩) / (2 * Binary.denominator ⟨false, m, e⟩)) countMax := by
    rw [nearestCount, hfields]
    rfl
  rw [hcount, min_lt_iff, or_iff_left (by omega), Nat.div_lt_iff_lt_mul (by omega),
    value_eq_div hfields, div_lt_iff₀ hcast, ← Nat.cast_lt (α := ℚ)]
  push_cast
  constructor <;> intro hlt <;> linarith

/-- A number within a limit that is shown as a count. -/
theorem isShown_nearestCount (h : IsWithin x (1000 : Nat)) :
    IsShown (toString (nearestCount x)) x 1000 (1 / 2) "1000" := by
  obtain ⟨m, e, hfields, hbound⟩ := h
  rw [← value_eq hfields] at hbound
  constructor
  case below =>
    intro hlt
    exact ⟨nearestCount x, (nearestCount_lt_iff hfields (by decide)).2 hlt, isNumeral_toString _⟩
  case limit =>
    intro hge
    have hatLeast := mt (nearestCount_lt_iff hfields (n := 1000) (by decide)).1 hge.not_gt
    have hatMost : nearestCount x < 1001 := by
      refine (nearestCount_lt_iff hfields (by decide)).2 (hbound.trans_lt ?_)
      norm_num
    have heq : nearestCount x = 1000 := by omega
    rw [heq]
    rfl

variable {limit : Nat}

/-- The whole part of a number within a limit that is shown with three places. -/
theorem thousandths_of_isWithin (hlimit : 0 < limit) (h : IsWithin x limit) :
    ∃ m e, Decoded.ofFloat x = .finite ⟨false, m, e⟩ ∧
      (value x < limit - 1 / 2000 → thousandths ⟨false, m, e⟩ / 1000 < limit) ∧
      (limit - 1 / 2000 ≤ value x → thousandths ⟨false, m, e⟩ = 1000 * limit) := by
  obtain ⟨m, e, hfields, hbound⟩ := h
  rw [← value_eq hfields] at hbound
  have hlt_iff := thousandths_lt_iff hfields hlimit
  have hle := thousandths_le hfields hbound
  refine ⟨m, e, hfields, fun hlt => ?_, fun hge => ?_⟩
  · rw [Nat.div_lt_iff_lt_mul (by decide), Nat.mul_comm]
    exact hlt_iff.2 hlt
  · have hnot := mt hlt_iff.1 hge.not_gt
    omega

/-- A number within a limit that is shown with three places at most. -/
theorem isShown_decimal (h : IsWithin x (1000 : Nat)) :
    IsShown (decimal x) x 1000 (1 / 2000) "1000" := by
  obtain ⟨m, e, hfields, hbelow, hlimit⟩ := thousandths_of_isWithin (by decide) h
  constructor
  case below => exact fun hlt => ⟨_, hbelow hlt, isNumeral_decimal hfields⟩
  case limit =>
    intro hge
    have htext := toList_decimal hfields
    rw [hlimit hge] at htext
    exact String.toList_injective htext

/-- A number within a limit that is shown with three places. -/
theorem isShown_fixed (h : IsWithin x (1024 : Nat)) :
    IsShown (fixed 3 x) x 1024 (1 / 2000) "1024.000" := by
  obtain ⟨m, e, hfields, hbelow, hlimit⟩ := thousandths_of_isWithin (by decide) h
  constructor
  case below => exact fun hlt => ⟨_, hbelow hlt, isNumeral_fixed hfields⟩
  case limit =>
    intro hge
    have htext := toList_fixed hfields
    rw [hlimit hge] at htext
    exact String.toList_injective htext

end Shown

/-- A number with its unit is normalised unless it is shown as the limit. -/
theorem IsShown.carries {text last unit : String} {x : Float} {limit : Nat} {half : ℚ}
    (h : IsShown text x limit half last) (hunit : units.lookup unit = some (some limit))
    (hlast : isNormalized (last ++ unit) = false) {texts : List String}
    (hmem : last ++ unit ∈ texts) :
    (isNormalized (text ++ unit) = true ↔ ¬limit - half ≤ value x) ∧
      (limit - half ≤ value x → text ++ unit ∈ texts) := by
  refine ⟨⟨fun hnormal hge => ?_, fun hlt => ?_⟩, fun hge => by rwa [h.limit hge]⟩
  · rw [h.limit hge, hlast] at hnormal
    cases hnormal
  · obtain ⟨whole, hwhole, hnumeral⟩ := h.below (not_le.1 hlt)
    refine isNormalized_of_isBelow [⟨text.toList, unit.toList⟩] (List.cons_ne_nil _ _) ?_ ?_
    · simp [Amount.text]
    · rw [List.forall_mem_singleton]
      exact hnumeral.isBelow hunit (decide_eq_true hwhole)

/-! ## Seconds -/

/-- A count of milliseconds as seconds. -/
def secondsText (millis : Nat) : String :=
  decimal (Float.ofNat millis / 1e3)

/-- The fields of a thousand. -/
theorem hasFields_thousand : HasFields 1e3 8796093022208000 (-43) :=
  ⟨by decide, by decide, rfl⟩

/-- Seconds below a minute are shown below a minute. -/
theorem isNumeral_secondsText {millis : Nat} (h : millis < 60000) :
    ∃ whole < 60, IsNumeral (secondsText millis).toList whole := by
  have hcount : IsWithin (Float.ofNat millis) (scaled 59999 0) := by
    refine isWithin_ofNat (by omega) ⟨by decide, by decide, by decide⟩ ?_
    have hle : (millis : ℚ) ≤ (59999 : Nat) := Nat.cast_le.2 (by omega)
    rw [scaled, zpow_zero, mul_one]
    exact hle
  -- Between 59.999 and the middle to 60 there is a number of the format.
  have hseconds : IsWithin (Float.ofNat millis / 1e3) (scaled 61439 (-10)) := by
    refine hcount.div hasFields_thousand ⟨by decide, by decide, by decide⟩ ?_
    norm_num [scaled]
  obtain ⟨m, e, hfields, hbound⟩ := hseconds
  have hlt : thousandths ⟨false, m, e⟩ < 1000 * 60 := by
    refine (thousandths_lt_iff hfields (by decide)).2 ?_
    rw [value_eq hfields]
    have hbelow : scaled 61439 (-10) < (60 : Nat) - 1 / 2000 := by norm_num [scaled]
    exact hbound.trans_lt hbelow
  exact ⟨thousandths ⟨false, m, e⟩ / 1000, by omega, isNumeral_decimal hfields⟩

/-- A count of milliseconds as hours, minutes and seconds. -/
def clockText (millis : Nat) : String :=
  if millis < 60000 then secondsText millis ++ "s"
  else if millis / 60000 < 60 then
    toString (millis / 60000) ++ "m" ++ (secondsText (millis % 60000) ++ "s")
  else toString (millis / 60000 / 60) ++ "h" ++ toString (millis / 60000 % 60) ++ "m" ++
    (secondsText (millis % 60000) ++ "s")

/-- Hours, minutes and seconds are normalised. -/
theorem isNormalized_clockText (millis : Nat) : isNormalized (clockText millis) = true := by
  have hseconds {n : Nat} (hn : n < 60000) :
      Amount.IsBelow ⟨(secondsText n).toList, "s".toList⟩ := by
    obtain ⟨whole, hwhole, hnumeral⟩ := isNumeral_secondsText hn
    exact hnumeral.isBelow (show units.lookup "s" = some (some 60) by decide)
      (decide_eq_true hwhole)
  have hminutes {n : Nat} (hn : n < 60) : Amount.IsBelow ⟨(toString n).toList, "m".toList⟩ :=
    (isNumeral_toString n).isBelow (show units.lookup "m" = some (some 60) by decide)
      (decide_eq_true hn)
  have hhours (n : Nat) : Amount.IsBelow ⟨(toString n).toList, "h".toList⟩ :=
    (isNumeral_toString n).isBelow (show units.lookup "h" = some none by decide) rfl
  have hrest := hseconds (Nat.mod_lt millis (show 0 < 60000 by decide))
  unfold clockText
  split
  next hless =>
    refine isNormalized_of_isBelow [⟨_, _⟩] (List.cons_ne_nil _ _) ?_
      (List.forall_mem_singleton.2 (hseconds hless))
    simp [Amount.text]
  next =>
    split
    next hless =>
      refine isNormalized_of_isBelow [⟨_, _⟩, ⟨_, _⟩] (List.cons_ne_nil _ _) ?_
        (List.forall_mem_cons.2 ⟨hminutes hless, List.forall_mem_singleton.2 hrest⟩)
      simp [Amount.text]
    next =>
      refine isNormalized_of_isBelow [⟨_, _⟩, ⟨_, _⟩, ⟨_, _⟩] (List.cons_ne_nil _ _) ?_
        (List.forall_mem_cons.2 ⟨hhours (millis / 60000 / 60), List.forall_mem_cons.2
          ⟨hminutes (Nat.mod_lt (millis / 60000) (by decide)), List.forall_mem_singleton.2 hrest⟩⟩)
      simp [Amount.text]

/-! ## Durations and sizes -/

/-- Whether a duration below a second lies in the last half of the last place before the next unit.
-/
def DurationRoundsUp (x : Float) : Prop :=
  if x < 1e-6 then 1000 - 1 / 2 ≤ value (x * 1e9)
  else if x < 1e-3 then 1000 - 1 / 2000 ≤ value (x * 1e6)
  else if x < 1 then 1000 - 1 / 2000 ≤ value (x * 1e3)
  else False

/-- Whether a size lies in the last half of the last place before the next unit. -/
def SizeRoundsUp (x : Float) : Prop :=
  if x < 1024 then 1024 - 1 / 2000 ≤ value x
  else if x < 1048576 then 1024 - 1 / 2000 ≤ value (x / 1024)
  else if x < 1073741824 then 1024 - 1 / 2000 ≤ value (x / 1048576)
  else False

/-- How far rounding carries into the next unit. -/
structure Carries (x : Float) : Prop where
  /-- All other durations are normalised. -/
  duration_iff : 0 < x → (isNormalized (duration x) = true ↔ ¬DurationRoundsUp x)
  /-- These durations are shown as a thousand of their unit. -/
  duration_limit : 0 < x → DurationRoundsUp x → duration x ∈ ["1000ns", "1000µs", "1000ms"]
  /-- All other sizes are normalised. -/
  size_iff : isNormalized (byteSize x) = true ↔ ¬SizeRoundsUp x
  /-- These sizes are shown as the limit of their unit. -/
  size_limit : SizeRoundsUp x → byteSize x ∈ ["1024.000B", "1024.000K", "1024.000M"]

section Duration

variable {x : Float} (hfinite : x.isFinite = true) (hpos : 0 < x)
include hfinite hpos

/-- A duration is shown in the unit that is chosen for it. -/
theorem duration_eq : duration x =
    if x < 1e-6 then toString (nearestCount (x * 1e9)) ++ "ns"
    else if x < 1e-3 then decimal (x * 1e6) ++ "µs"
    else if x < 1 then decimal (x * 1e3) ++ "ms"
    else clockText (nearestCount (x * 1e3)) := by
  have hcond : ¬(!x.isFinite || decide (x ≤ 0)) = true := by
    have hzero : ¬x ≤ 0 := by
      rw [le_iff hfinite rfl]
      rw [lt_iff rfl hfinite] at hpos
      exact hpos.not_ge
    rw [hfinite, decide_eq_false hzero]
    decide
  rw [duration, if_neg hcond]
  rfl

/-- Durations are normalised unless they round up to the next unit. -/
theorem duration_carries : (isNormalized (duration x) = true ↔ ¬DurationRoundsUp x) ∧
    (DurationRoundsUp x → duration x ∈ ["1000ns", "1000µs", "1000ms"]) := by
  obtain ⟨n, f, hx⟩ := ofFloat_of_pos hfinite hpos
  have hthousand : scaled 1000 0 = (1000 : Nat) := by norm_num [scaled]
  have hfits : Fits 1000 0 := ⟨by decide, by decide, by decide⟩
  rw [duration_eq hfinite hpos, DurationRoundsUp]
  by_cases hnano : x < 1e-6
  · have hscale : HasFields 1e9 8388608000000000 (-23) := ⟨by decide, by decide, rfl⟩
    have hbound : HasFields 1e-6 4722366482869645 (-72) := ⟨by decide, by decide, rfl⟩
    have hwithin : IsWithin (x * 1e9) (1000 : Nat) := hthousand ▸
      (isWithin_of_lt hx hfinite hbound hnano).mul hscale hfits (by norm_num [scaled])
    rw [if_pos hnano, if_pos hnano]
    exact_mod_cast (isShown_nearestCount hwithin).carries (by decide) (by decide) (by decide)
  rw [if_neg hnano, if_neg hnano]
  by_cases hmicro : x < 1e-3
  · have hscale : HasFields 1e6 8589934592000000 (-33) := ⟨by decide, by decide, rfl⟩
    have hbound : HasFields 1e-3 4611686018427388 (-62) := ⟨by decide, by decide, rfl⟩
    -- The bound stands for a little more than a thousandth, but its neighbour does not.
    have hwithin : IsWithin (x * 1e6) (1000 : Nat) := hthousand ▸
      (isWithin_pred_of_lt hx hfinite hbound hmicro (by decide)).mul hscale hfits
        (by norm_num [scaled])
    rw [if_pos hmicro, if_pos hmicro]
    exact_mod_cast (isShown_decimal hwithin).carries (by decide) (by decide) (by decide)
  rw [if_neg hmicro, if_neg hmicro]
  by_cases hmilli : x < 1
  · have hbound : HasFields 1 4503599627370496 (-52) := ⟨by decide, by decide, rfl⟩
    have hwithin : IsWithin (x * 1e3) (1000 : Nat) := hthousand ▸
      (isWithin_of_lt hx hfinite hbound hmilli).mul hasFields_thousand hfits (by norm_num [scaled])
    rw [if_pos hmilli, if_pos hmilli]
    exact_mod_cast (isShown_decimal hwithin).carries (by decide) (by decide) (by decide)
  rw [if_neg hmilli, if_neg hmilli]
  exact ⟨iff_of_true (isNormalized_clockText _) not_false, False.elim⟩

end Duration

/-- The largest unit of sizes has no limit. -/
theorem isNormalized_gigabytes {x : Float} {bound : ℚ} (h : IsWithin x bound) :
    isNormalized (fixed 3 x ++ "G") = true := by
  obtain ⟨m, e, hfields, -⟩ := h
  refine isNormalized_of_isBelow [⟨(fixed 3 x).toList, "G".toList⟩] (List.cons_ne_nil _ _) ?_ ?_
  · simp [Amount.text]
  · rw [List.forall_mem_singleton]
    exact (isNumeral_fixed hfields).isBelow (show units.lookup "G" = some none by decide) rfl

/-- Sizes are normalised unless they round up to the next unit. -/
theorem size_carries {x : Float} (hfinite : x.isFinite = true) (h : 0 ≤ x) :
    (isNormalized (byteSize x) = true ↔ ¬SizeRoundsUp x) ∧
      (SizeRoundsUp x → byteSize x ∈ ["1024.000B", "1024.000K", "1024.000M"]) := by
  have hkilo : HasFields 1024 4503599627370496 (-42) := ⟨by decide, by decide, rfl⟩
  have hmega : HasFields 1048576 4503599627370496 (-32) := ⟨by decide, by decide, rfl⟩
  have hgiga : HasFields 1073741824 4503599627370496 (-22) := ⟨by decide, by decide, rfl⟩
  have hlimit : scaled 1024 0 = (1024 : Nat) := by norm_num [scaled]
  have hfits : Fits 1024 0 := ⟨by decide, by decide, by decide⟩
  rw [byteSize, SizeRoundsUp]
  rcases ofFloat_of_nonneg hfinite h with hzero | ⟨n, f, hx⟩
  · have hvalue : value x = 0 := by
      rw [value, hzero]
      show -scaled 0 (-1074) = 0
      rw [scaled_zero, neg_zero]
    have hbytes : x < 1024 := by
      rw [lt_iff hfinite hkilo.isFinite, hvalue, hkilo.value_eq]
      exact scaled_pos (by decide) _
    have htext : fixed 3 x = "-0.000" := by
      rw [fixed, hzero]
      decide +kernel
    have hbelow : ¬(1024 - 1 / 2000 : ℚ) ≤ 0 := by norm_num
    rw [if_pos hbytes, if_pos hbytes, hvalue, htext]
    exact ⟨iff_of_true (by decide) hbelow, fun hge => absurd hge hbelow⟩
  by_cases hbytes : x < 1024
  · have hwithin : IsWithin x (1024 : Nat) := by
      have hle := isWithin_of_lt hx hfinite hkilo hbytes
      norm_num [scaled] at hle
      exact_mod_cast hle
    rw [if_pos hbytes, if_pos hbytes]
    exact_mod_cast (isShown_fixed hwithin).carries (by decide) (by decide) (by decide)
  rw [if_neg hbytes, if_neg hbytes]
  by_cases hkilobytes : x < 1048576
  · have hwithin : IsWithin (x / 1024) (1024 : Nat) := hlimit ▸
      (isWithin_of_lt hx hfinite hmega hkilobytes).div hkilo hfits (by norm_num [scaled])
    rw [if_pos hkilobytes, if_pos hkilobytes]
    exact_mod_cast (isShown_fixed hwithin).carries (by decide) (by decide) (by decide)
  rw [if_neg hkilobytes, if_neg hkilobytes]
  by_cases hmegabytes : x < 1073741824
  · have hwithin : IsWithin (x / 1048576) (1024 : Nat) := hlimit ▸
      (isWithin_of_lt hx hfinite hgiga hmegabytes).div hmega hfits (by norm_num [scaled])
    rw [if_pos hmegabytes, if_pos hmegabytes]
    exact_mod_cast (isShown_fixed hwithin).carries (by decide) (by decide) (by decide)
  rw [if_neg hmegabytes, if_neg hmegabytes]
  -- A quotient is no infinity, since it is not above the dividend.
  have hwithin : IsWithin (x / 1073741824) (scaled n f) := by
    obtain ⟨⟨hleast, hbits, -⟩, hmost⟩ := isCanonical_ofFloat hx
    refine (isWithin_of_value_le hx (value_eq hx).le).div hgiga ⟨hbits, hleast, hmost⟩ ?_
    refine div_le_self (scaled_nonneg n f) ?_
    norm_num [scaled]
  exact ⟨iff_of_true (isNormalized_gigabytes hwithin) not_false, False.elim⟩

/-- Rounding carries into the next unit but for the last half of the last place before a unit, and
there the limit of the smaller unit is shown. From a second on it always carries. -/
theorem carries_of_isFinite {x : Float} (hfinite : x.isFinite = true) (h : 0 ≤ x) : Carries x where
  duration_iff hpos := (duration_carries hfinite hpos).1
  duration_limit hpos := (duration_carries hfinite hpos).2
  size_iff := (size_carries hfinite h).1
  size_limit := (size_carries hfinite h).2

/-- Two minutes less four tenths of a millisecond are shown as two minutes. -/
theorem carries_twoMinutes : Float.isFinite 119.9996 = true ∧ (0 : Float) ≤ 119.9996 ∧
    Carries 119.9996 := by
  have hfinite : Float.isFinite 119.9996 = true := by decide +kernel
  have hle : (0 : Float) ≤ 119.9996 := by decide +kernel
  exact ⟨hfinite, hle, carries_of_isFinite hfinite hle⟩

/-- Not all durations and sizes are normalised: the last hundredth of a nanosecond before a
microsecond is shown as a thousand nanoseconds. -/
theorem not_forall_isNormalized :
    ¬∀ x : Float, x.isFinite = true →
      (0 < x → isNormalized (duration x) = true) ∧ (0 ≤ x → isNormalized (byteSize x) = true) := by
  intro h
  have hfinite : Float.isFinite 9.9999e-7 = true := by decide +kernel
  have hpos : (0 : Float) < 9.9999e-7 := by decide +kernel
  have hnormal := (h 9.9999e-7 hfinite).1 hpos
  exact absurd hnormal (by decide +kernel)

end Volley.Quantity
