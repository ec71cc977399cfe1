import Mathlib.Data.Int.ModEq
import Mathlib.Data.List.Chain
import Mathlib.Data.Nat.Prime.Int
import Mathlib.Tactic.IntervalCases
import Mathlib.Tactic.Ring
import Volley.Mock.Identity
import Volley.Proofs.Text.Integer
import Volley.Text.Digit

/-!
# Check characters detect errors

The check character is a function of the weighted sum of the digits modulo 11, and different
remainders have different characters (`eq_of_checkCharacters`). So an error goes unseen only if it
changes the weighted sum by a multiple of 11. A wrong digit changes it by the difference of the digits
times a weight (`weightedSum_place`), two exchanged neighbours by the difference of the digits times
that of their weights. Eleven is a prime, weights and their differences are no multiples of it, and
digits are less than it apart, so neither product is one (`not_dvd_mul`).

Random numbers of identity cards are put together of parts of fixed lengths, each of which is read
back at its place (`isIdCard_randomIdCard`).
-/

namespace Volley.Mock

open Text (asciiDigit? natural? numberAt? numberAt?_of_append)

/-! ## Digits -/

/-- The value of a digit. -/
def digitValue (c : Char) : Nat :=
  c.toNat - '0'.toNat

/-- The value of a check character, of which X counts as ten. -/
def checkValue (c : Char) : Nat :=
  if c = 'X' then 10 else digitValue c

/-- A digit is worth less than ten. -/
theorem digitValue_lt {c : Char} (h : c.isDigit = true) : digitValue c < 10 := by
  have hpoint := Text.isDigit_iff_toNat.1 h
  show c.toNat - 48 < 10
  omega

/-- Different digits are worth different numbers. -/
theorem eq_of_digitValue_eq {a b : Char} (ha : a.isDigit = true) (hb : b.isDigit = true)
    (h : digitValue a = digitValue b) : a = b := by
  have hpoint := Text.isDigit_iff_toNat.1 ha
  have hpoint' := Text.isDigit_iff_toNat.1 hb
  have hvalue : a.toNat - 48 = b.toNat - 48 := h
  exact Char.toNat_inj.1 (by omega)

/-- A digit is read as its value, and nothing else is read. -/
theorem asciiDigit?_eq (c : Char) :
    asciiDigit? c = if c.isDigit = true then some (digitValue c) else none :=
  Text.asciiDigit?_eq_ite c

/-- Digits are read as their values. -/
theorem mapM_asciiDigit? {text : List Char} (h : ∀ c ∈ text, c.isDigit = true) :
    text.mapM asciiDigit? = some (text.map digitValue) := by
  induction text with
  | nil => rfl
  | cons c rest ih =>
    obtain ⟨hc, hrest⟩ := List.forall_mem_cons.1 h
    rw [List.mapM_cons, ih hrest, asciiDigit?_eq, if_pos hc]
    rfl

/-- A text with anything else in it is not read. -/
theorem mapM_asciiDigit?_eq_none {text : List Char} (h : ¬∀ c ∈ text, c.isDigit = true) :
    text.mapM asciiDigit? = none := by
  induction text with
  | nil => exact absurd (List.forall_mem_nil _) h
  | cons c rest ih =>
    rw [List.mapM_cons, asciiDigit?_eq]
    by_cases hc : c.isDigit = true
    · rw [if_pos hc, ih fun hrest => h (List.forall_mem_cons.2 ⟨hc, hrest⟩)]
      rfl
    · rw [if_neg hc]
      rfl

/-- A text has as many bytes as characters or more, and as many if it has ASCII digits alone. -/
theorem length_le_utf8ByteSize (text : List Char) :
    text.length ≤ (String.ofList text).utf8ByteSize ∧
      ((∀ c ∈ text, c.isDigit = true) → (String.ofList text).utf8ByteSize = text.length) := by
  induction text with
  | nil => exact ⟨Nat.le_refl _, fun _ => rfl⟩
  | cons c rest ih =>
    have hbytes : (String.ofList (c :: rest)).utf8ByteSize =
        c.utf8Size + (String.ofList rest).utf8ByteSize := by
      rw [String.ofList_cons, String.utf8ByteSize_append, String.utf8ByteSize_singleton]
    have hpos := c.utf8Size_pos
    rw [hbytes, List.length_cons, List.forall_mem_cons]
    refine ⟨by omega, fun ⟨hc, hrest⟩ => ?_⟩
    have hpoint := Text.isDigit_iff_toNat.1 hc
    have hone : c.utf8Size = 1 := by
      rw [Char.utf8Size_eq_one_iff, UInt32.le_iff_toNat_le]
      show c.toNat ≤ 127
      omega
    rw [ih.2 hrest, hone, Nat.add_comm]

/-- Seventeen digits have a check character. -/
theorem checkCharacter?_of_digits {body : List Char}
    (h : body.length = checkWeights.length ∧ ∀ c ∈ body, c.isDigit = true) :
    checkCharacter? body = checkCharacters[weightedSum (body.map digitValue) % 11]? := by
  obtain ⟨hlength, hdigits⟩ := h
  have hsize := ((length_le_utf8ByteSize body).2 hdigits).trans hlength
  unfold checkCharacter?
  rw [if_pos hsize, List.take_of_length_le hlength.le, mapM_asciiDigit? hdigits]
  rfl

/-- Nothing else has a check character. -/
theorem checkCharacter?_eq_none {body : List Char}
    (h : ¬(body.length = checkWeights.length ∧ ∀ c ∈ body, c.isDigit = true)) :
    checkCharacter? body = none := by
  obtain ⟨hle, hbytes⟩ := length_le_utf8ByteSize body
  unfold checkCharacter?
  by_cases hsize : (String.ofList body).utf8ByteSize = checkWeights.length
  · -- Where the bytes are as many as the weights, no character is past the last weight.
    have hdigits : ¬∀ c ∈ body, c.isDigit = true := fun hall =>
      h ⟨(hbytes hall).symm.trans hsize, hall⟩
    rw [if_pos hsize, List.take_of_length_le (hsize ▸ hle), mapM_asciiDigit?_eq_none hdigits]
    rfl
  · rw [if_neg hsize]

/-! ## Weights -/

/-- Every remainder has its check character, and no other one has the same. -/
theorem eq_of_checkCharacters {i j : Nat} (hi : i < 11)
    (h : checkCharacters[i]? = checkCharacters[j]?) : i = j :=
  List.getElem?_inj (show i < checkCharacters.length from hi) (by decide) |>.1 h

/-- A remainder and the value of its check character are one more than a multiple of 11. -/
theorem checkValue_of_checkCharacters {r : Nat} (hr : r < 11) {c : Char}
    (h : checkCharacters[r]? = some c) : (r + checkValue c) % 11 = 1 := by
  obtain rfl : checkCharacters.getD r '0' = c := by rw [List.getD_eq_getElem?_getD, h]; rfl
  interval_cases r <;> decide

/-- A digit counts with the weight at its place. -/
theorem total_zipWith_place (before after weights : List Nat) (d : Nat) :
    total ((before ++ d :: after).zipWith (· * ·) weights) =
      total ((before ++ 0 :: after).zipWith (· * ·) weights) +
        d * weights.getD before.length 0 := by
  induction before generalizing weights with
  | nil =>
    cases weights with
    | nil => rfl
    | cons weight weights =>
      show d * weight + _ = 0 * weight + _ + d * weight
      omega
  | cons first before ih =>
    cases weights with
    | nil => rfl
    | cons weight weights =>
      show first * weight + total ((before ++ d :: after).zipWith (· * ·) weights) =
        first * weight + total ((before ++ 0 :: after).zipWith (· * ·) weights) +
          d * weights.getD before.length 0
      rw [ih weights, Nat.add_assoc]

/-- A digit counts with the weight at its place. -/
theorem weightedSum_place (before after : List Nat) (d : Nat) :
    weightedSum (before ++ d :: after) =
      weightedSum (before ++ 0 :: after) + d * checkWeights.getD before.length 0 :=
  total_zipWith_place before after checkWeights d

/-- A product is no multiple of 11 if its factors are different from zero and less than 11. -/
theorem not_dvd_mul {x y : Int} (hx : x ≠ 0) (hx' : x.natAbs < 11) (hy : y ≠ 0)
    (hy' : y.natAbs < 11) : ¬(11 : Int) ∣ x * y := by
  intro hdvd
  have hprime : Prime (11 : Int) := Nat.prime_iff_prime_int.1 (by decide)
  rcases hprime.dvd_or_dvd hdvd with h | h <;> omega

/-- Weights are less than 11 and not zero. -/
theorem checkWeights_bounds {n : Nat} (h : n < checkWeights.length) :
    0 < checkWeights.getD n 0 ∧ checkWeights.getD n 0 < 11 := by
  have hlength : n < 17 := h
  interval_cases n <;> decide

/-- Neighbours have different weights. -/
theorem checkWeights_ne {n : Nat} (h : n + 1 < checkWeights.length) :
    checkWeights.getD n 0 ≠ checkWeights.getD (n + 1) 0 := by
  have hlength : n < 16 := Nat.lt_of_succ_lt_succ h
  interval_cases n <;> decide

/-! ## Errors -/

section Errors

variable {before after : List Char} {a b : Char}

/-- A text of as many digits as there are weights has a check character. -/
theorem isSome_of_digits {body : List Char}
    (h : body.length = checkWeights.length ∧ ∀ c ∈ body, c.isDigit = true) :
    (checkCharacter? body).isSome = true := by
  have hlt : weightedSum (body.map digitValue) % 11 < checkCharacters.length :=
    Nat.mod_lt _ (by decide)
  rw [checkCharacter?_of_digits h, List.getElem?_eq_getElem hlt]
  rfl

/-- A text with a check character has digits alone, as many as there are weights. -/
theorem digits_of_isSome {body : List Char} (h : (checkCharacter? body).isSome = true) :
    body.length = checkWeights.length ∧ ∀ c ∈ body, c.isDigit = true := by
  by_contra hnot
  rw [checkCharacter?_eq_none hnot] at h
  exact absurd h (by decide)

/-- Two texts with the same check character have the same weighted sum modulo 11. -/
theorem dvd_sub_of_checkCharacter?_eq {body body' : List Char}
    (h : (checkCharacter? body).isSome = true) (heq : checkCharacter? body' = checkCharacter? body) :
    (11 : Int) ∣ weightedSum (body'.map digitValue) - weightedSum (body.map digitValue) := by
  have hdigits := digits_of_isSome h
  have hdigits' := digits_of_isSome (heq ▸ h)
  rw [checkCharacter?_of_digits hdigits, checkCharacter?_of_digits hdigits'] at heq
  have hmod := eq_of_checkCharacters (Nat.mod_lt _ (by decide)) heq
  omega

/-- A wrong digit changes the check character. -/
theorem checkCharacter?_ne_of_ne (hne : a ≠ b)
    (h : (checkCharacter? (before ++ a :: after)).isSome = true) :
    checkCharacter? (before ++ b :: after) ≠ checkCharacter? (before ++ a :: after) := by
  intro heq
  obtain ⟨hlength, hdigits⟩ := digits_of_isSome h
  obtain ⟨-, hdigits'⟩ := digits_of_isSome (heq ▸ h)
  have ha : a.isDigit = true := hdigits a (by simp)
  have hb : b.isDigit = true := hdigits' b (by simp)
  have hplace : before.length < checkWeights.length := by
    rw [← hlength, List.length_append, List.length_cons]
    omega
  have hdvd := dvd_sub_of_checkCharacter?_eq h heq
  simp only [List.map_append, List.map_cons] at hdvd
  rw [weightedSum_place _ _ (digitValue a), weightedSum_place _ _ (digitValue b),
    List.length_map] at hdvd
  have hvalues : digitValue a ≠ digitValue b := fun h => hne (eq_of_digitValue_eq ha hb h)
  have hlt := digitValue_lt ha
  have hlt' := digitValue_lt hb
  have hweight := checkWeights_bounds hplace
  generalize checkWeights.getD before.length 0 = weight at *
  refine not_dvd_mul (x := (digitValue b : Int) - digitValue a) (y := weight) (by omega) (by omega)
    (by omega) (by omega) ?_
  convert hdvd using 1
  push_cast
  ring

/-- Two exchanged neighbours change the check character. -/
theorem checkCharacter?_ne_of_exchange (hne : a ≠ b)
    (h : (checkCharacter? (before ++ a :: b :: after)).isSome = true) :
    checkCharacter? (before ++ b :: a :: after) ≠ checkCharacter? (before ++ a :: b :: after) := by
  intro heq
  obtain ⟨hlength, hdigits⟩ := digits_of_isSome h
  have ha : a.isDigit = true := hdigits a (by simp)
  have hb : b.isDigit = true := hdigits b (by simp)
  have hplace : before.length + 1 < checkWeights.length := by
    rw [← hlength, List.length_append, List.length_cons, List.length_cons]
    omega
  have hsum (x y : Nat) : weightedSum (before.map digitValue ++ x :: y :: after.map digitValue) =
      weightedSum (before.map digitValue ++ 0 :: 0 :: after.map digitValue) +
        y * checkWeights.getD (before.length + 1) 0 + x * checkWeights.getD before.length 0 := by
    have hsecond := weightedSum_place (before.map digitValue ++ [0]) (after.map digitValue) y
    simp only [List.append_assoc, List.singleton_append, List.length_append, List.length_map,
      List.length_singleton] at hsecond
    rw [weightedSum_place, hsecond, List.length_map]
  have hdvd := dvd_sub_of_checkCharacter?_eq h heq
  simp only [List.map_append, List.map_cons] at hdvd
  rw [hsum (digitValue a), hsum (digitValue b)] at hdvd
  have hvalues : digitValue a ≠ digitValue b := fun h => hne (eq_of_digitValue_eq ha hb h)
  have hlt := digitValue_lt ha
  have hlt' := digitValue_lt hb
  have hweight := checkWeights_bounds hplace
  have hweight' := checkWeights_bounds (Nat.lt_of_succ_lt hplace)
  have hweights := checkWeights_ne hplace
  generalize checkWeights.getD before.length 0 = weight at *
  generalize checkWeights.getD (before.length + 1) 0 = weight' at *
  refine not_dvd_mul (x := (digitValue b : Int) - digitValue a) (y := (weight : Int) - weight')
    (by omega) (by omega) (by omega) (by omega) ?_
  convert hdvd using 1
  push_cast
  ring

end Errors

/-! ## Random numbers -/

/-- A number of an identity card: its check character fits, and the date of birth is in the second
half of the twentieth century, on a day that every month has. -/
structure IsIdCard (s : List Char) : Prop where
  /-- There are eighteen characters. -/
  length : s.length = 18
  /-- The last one is the check character of those before it, which are digits. -/
  check : ∃ c, checkCharacter? (s.take 17) = some c ∧ s.drop 17 = [c]
  /-- The year of birth. -/
  year : ∃ year, numberAt? s 6 4 = some year ∧ 1950 ≤ year ∧ year ≤ 1999
  /-- The month of birth. -/
  month : ∃ month, numberAt? s 10 2 = some month ∧ 1 ≤ month ∧ month ≤ 12
  /-- The day of birth. -/
  day : ∃ day, numberAt? s 12 2 = some day ∧ 1 ≤ day ∧ day ≤ 28

/-- There are as many digits as were asked for. -/
theorem length_fixedDigits (width n : Nat) : (fixedDigits width n).length = width := by
  induction width generalizing n with
  | zero => rfl
  | succ width ih => rw [fixedDigits, List.length_append, ih, List.length_singleton]

/-- All of them are digits. -/
theorem isDigit_of_mem_fixedDigits {width n : Nat} {c : Char} (h : c ∈ fixedDigits width n) :
    c.isDigit = true := by
  induction width generalizing n with
  | zero => exact absurd h List.not_mem_nil
  | succ width ih =>
    rcases List.mem_append.1 h with h | h
    · exact ih h
    · rw [List.mem_singleton.1 h, digitChar, Nat.isDigit_digitChar]
      exact decide_eq_true (Nat.mod_lt _ (by decide))

/-- A number that has no more digits than were asked for is read back from them. -/
theorem natural?_fixedDigits {width n : Nat} (hwidth : width ≠ 0) (h : n < 10 ^ width) :
    natural? (fixedDigits width n) = some n := by
  have hnumber (width n : Nat) (h : n < 10 ^ width) :
      Nat.ofDigitChars 10 (fixedDigits width n) 0 = n := by
    induction width generalizing n with
    | zero =>
      have hzero : n < 1 := h
      rw [fixedDigits, Nat.ofDigitChars]
      exact (Nat.lt_one_iff.1 hzero).symm
    | succ width ih =>
      rw [Nat.pow_succ] at h
      have hvalue : (digitChar n).toNat - '0'.toNat = n % 10 := by
        rw [digitChar, Nat.toNat_digitChar_of_lt_ten (Nat.mod_lt _ (by decide))]
        exact Nat.add_sub_cancel_left ..
      rw [fixedDigits, Nat.ofDigitChars_append, ih _ (by omega), Nat.ofDigitChars_cons, hvalue,
        Nat.ofDigitChars_nil]
      omega
  have hne : fixedDigits width n ≠ [] := by
    rw [Ne, ← List.length_eq_zero_iff, length_fixedDigits]
    exact hwidth
  rw [Text.natural?_of_isDigit hne fun c hc => isDigit_of_mem_fixedDigits hc, hnumber width n h]

/-- A region is chosen, and it has six digits. -/
theorem pick_regions (chance : Nat) :
    (pick chance regions).length = 6 ∧ ∀ c ∈ pick chance regions, c.isDigit = true := by
  have hregions : ∀ region ∈ regions,
      region.toList.length = 6 ∧ region.toList.all Char.isDigit = true := by decide
  have hlt : chance % regions.length < regions.length := Nat.mod_lt _ (by decide)
  have hpick : pick chance regions = (regions[chance % regions.length]).toList := by
    rw [pick, choose?, List.getElem?_eq_getElem hlt, Option.getD_some]
  obtain ⟨hlength, hdigits⟩ := hregions _ (List.getElem_mem hlt)
  rw [hpick]
  exact ⟨hlength, List.all_eq_true.1 hdigits⟩

/-- Every random number of an identity card is one. -/
theorem isIdCard_randomIdCard (chance : Nat → Nat) : IsIdCard (randomIdCard chance).toList := by
  obtain ⟨hregion, hregionDigits⟩ := pick_regions (chance 0)
  have hbody : randomIdCardBody chance = pick (chance 0) regions ++
      fixedDigits 4 (1950 + chance 1 % 50) ++ fixedDigits 2 (1 + chance 2 % 12) ++
      fixedDigits 2 (1 + chance 3 % 28) ++ fixedDigits 3 (chance 4 % 1000) := rfl
  generalize pick (chance 0) regions = region at *
  have hlength : (randomIdCardBody chance).length = 17 := by
    simp only [hbody, List.length_append, hregion, length_fixedDigits]
  have hdigits : ∀ c ∈ randomIdCardBody chance, c.isDigit = true := by
    simp only [hbody, List.forall_mem_append]
    exact ⟨⟨⟨⟨hregionDigits, fun _ => isDigit_of_mem_fixedDigits⟩,
      fun _ => isDigit_of_mem_fixedDigits⟩, fun _ => isDigit_of_mem_fixedDigits⟩,
      fun _ => isDigit_of_mem_fixedDigits⟩
  obtain ⟨c, hc⟩ := Option.isSome_iff_exists.1 (isSome_of_digits ⟨hlength, hdigits⟩)
  have hcard : (randomIdCard chance).toList = randomIdCardBody chance ++ [c] := by
    rw [randomIdCard, hc, String.toList_ofList]
    rfl
  -- Region, year, month, day and sequence number follow one another.
  have hbodyPrefix : randomIdCardBody chance <+: (randomIdCard chance).toList :=
    hcard ▸ List.prefix_append ..
  have hday := (List.prefix_append _ _).trans (hbody ▸ hbodyPrefix)
  have hmonth := (List.prefix_append _ _).trans hday
  have hyear := (List.prefix_append _ _).trans hmonth
  have hplace {place width n : Nat} {before : List Char}
      (h : before ++ fixedDigits width n <+: (randomIdCard chance).toList) (hwidth : width ≠ 0)
      (hn : n < 10 ^ width) (hbefore : before.length = place) :
      numberAt? (randomIdCard chance).toList place width = some n := by
    rw [numberAt?_of_append h hbefore (length_fixedDigits ..), natural?_fixedDigits hwidth hn]
  constructor
  case length => rw [hcard, List.length_append, hlength]; rfl
  case check =>
    refine ⟨c, ?_, ?_⟩
    · rw [hcard, List.take_left' hlength, hc]
    · rw [hcard, List.drop_left' hlength]
  case year =>
    exact ⟨_, hplace hyear (by decide) (by omega) hregion, by omega, by omega⟩
  case month =>
    refine ⟨_, hplace hmonth (by decide) (by omega) ?_, by omega, by omega⟩
    simp only [List.length_append, hregion, length_fixedDigits]
  case day =>
    refine ⟨_, hplace hday (by decide) (by omega) ?_, by omega, by omega⟩
    simp only [List.length_append, hregion, length_fixedDigits]

/-! ## What check characters detect -/

/-- What check characters say of the digits before them. -/
structure DetectsErrors (check? : List Char → Option Char) : Prop where
  /-- Seventeen digits have a check character, and no other text has one. -/
  isSome_iff : ∀ body, (check? body).isSome = true ↔
    body.length = 17 ∧ ∀ c ∈ body, c.isDigit = true
  /-- The weighted sum of the digits and the check character make one more than a multiple of 11. -/
  congruent : ∀ body c, check? body = some c →
    weightedSum (body.map digitValue) + checkValue c ≡ 1 [MOD 11]
  /-- A wrong character changes the check character, whatever it is and wherever it stands. -/
  digit : ∀ before after a b, a ≠ b → (check? (before ++ a :: after)).isSome = true →
    check? (before ++ b :: after) ≠ check? (before ++ a :: after)
  /-- So do two exchanged neighbours. -/
  exchange : ∀ before after a b, a ≠ b → (check? (before ++ a :: b :: after)).isSome = true →
    check? (before ++ b :: a :: after) ≠ check? (before ++ a :: b :: after)

/-- The check character of an identity card detects wrong digits and exchanged neighbours, and random
numbers of identity cards have it. -/
theorem detectsErrors_checkCharacter? : DetectsErrors checkCharacter? ∧
    ∀ chance, IsIdCard (randomIdCard chance).toList := by
  refine ⟨⟨fun body => ⟨digits_of_isSome, fun hdigits => ?isSome⟩, fun body c h => ?congruent,
    fun _ _ _ _ => checkCharacter?_ne_of_ne, fun _ _ _ _ => checkCharacter?_ne_of_exchange⟩,
    isIdCard_randomIdCard⟩
  case isSome => exact isSome_of_digits hdigits
  case congruent =>
    have hdigits := digits_of_isSome (Option.isSome_of_eq_some h)
    rw [checkCharacter?_of_digits hdigits] at h
    have hvalue := checkValue_of_checkCharacters (Nat.mod_lt _ (by decide)) h
    rw [Nat.mod_add_mod] at hvalue
    exact hvalue

example : checkCharacter? "11010519491231002".toList = some 'X' := by decide

end Volley.Mock
