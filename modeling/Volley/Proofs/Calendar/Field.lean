import Mathlib.Tactic.IntervalCases
import Volley.Calendar.Directive
import Volley.Proofs.Calendar.Offset
import Volley.Proofs.Text.Integer
import Volley.Proofs.Text.White

/-!
# How fields are written

A number with zeros in front has digits alone, is read back, and has just as many digits as were asked
for if it does not need more (`length_padded`). The parts of dates and times of day are numbers within
bounds, so most fields always have the same number of digits, in the years from 0 to 9999
(`exists_padded`). No field has white space in it (`isWhite_of_mem_text`).
-/

namespace Volley.Calendar

open Text (isWhite natural?)

/-! ## Numbers with zeros in front -/

/-- A number with zeros in front has digits alone. -/
theorem isDigit_of_mem_padded {width n : Nat} {c : Char} (h : c ∈ padded width n) :
    c.isDigit = true := by
  rcases List.mem_append.1 h with hzero | hdigit
  · obtain rfl := List.eq_of_mem_replicate hzero
    rfl
  · exact Nat.isDigit_of_mem_toDigits (by decide) (by decide) hdigit

/-- It has just as many digits as were asked for, if it does not need more. -/
theorem length_padded {width n : Nat} (hwidth : 0 < width) (h : n < 10 ^ width) :
    (padded width n).length = width := by
  have hdigits := (Nat.length_toDigits_le_iff (by decide) hwidth).2 h
  rw [padded, List.length_append, List.length_replicate]
  exact Nat.sub_add_cancel hdigits

/-- It is read back. -/
theorem natural?_padded (width n : Nat) : natural? (padded width n) = some n := by
  have hne : padded width n ≠ [] := List.append_ne_nil_of_right_ne_nil _ Nat.toDigits_ne_nil
  rw [Text.natural?_of_isDigit hne fun _ => isDigit_of_mem_padded, padded, Nat.ofDigitChars_append,
    Nat.ofDigitChars_replicate_zero, Nat.mul_zero, Decimal.digitsOf, Nat.ofDigitChars_ten_toDigits]

/-! ## Bounds -/

section Bounds

variable (z : Zone) (t : Instant)

/-- No day of a month has a number of more than two digits. -/
theorem day_le : (t.date z).day ≤ 31 := by
  have hvalid := Date.isValid_ofDayNumber (t.localSeconds z / secondsPerDay)
  have hlength {year : Int} {month : Nat} (hlow : 1 ≤ month) (hhigh : month ≤ 12) :
      monthLength year month ≤ 31 := by
    unfold monthLength monthLengths
    split <;> interval_cases month <;> decide
  exact Nat.le_trans hvalid.day_le (hlength hvalid.month_pos hvalid.month_le)

/-- Months are counted to twelve. -/
theorem month_le : (t.date z).month ≤ 12 :=
  (Date.isValid_ofDayNumber (t.localSeconds z / secondsPerDay)).month_le

/-- Hours are counted to 23. -/
theorem hour_lt : t.hour z < 24 := by
  have hday := secondOfDay_lt z t
  unfold Instant.hour secondsPerDay at *
  omega

/-- Minutes are counted to 59. -/
theorem minute_lt : t.minute z < 60 :=
  Nat.mod_lt _ (by decide)

/-- Seconds are counted to 59, and the leap second is number 60. -/
theorem second_lt (h : t.nanos < 2 * nanosPerSecond) : t.second z < 61 := by
  have hleap : t.nanos / nanosPerSecond < 2 := by
    unfold nanosPerSecond at *
    omega
  unfold Instant.second
  omega

/-- Milliseconds are counted to 999. -/
theorem milli_lt : t.milli < 1000 := by
  unfold Instant.milli nanosPerSecond
  omega

end Bounds

/-! ## Fields -/

namespace Field

variable {z : Zone} {t : Instant}

/-- The number of digits of a field that always has the same number. -/
def width? : Field → Option Nat
  | year => some 4
  | yearOfCentury | month | day | hour | minute | second => some 2
  | milli => some 3
  | _ => none

/-- A field that always has the same number of digits is a number with zeros in front. -/
theorem exists_padded {field : Field} {width : Nat} (h : field.width? = some width)
    (hyear : 0 ≤ (t.date z).year ∧ (t.date z).year ≤ 9999)
    (hnanos : t.nanos < 2 * nanosPerSecond) :
    0 < width ∧ ∃ n, n < 10 ^ width ∧ field.text z t = padded width n := by
  have hmonth := month_le z t
  have hday := day_le z t
  have hhour := hour_lt z t
  have hminute := minute_lt z t
  have hsecond := second_lt z t hnanos
  have hmilli := milli_lt t
  cases field
  case year =>
    obtain rfl := Option.some_inj.1 h
    exact ⟨by decide, (t.date z).year.toNat, by omega, if_pos hyear⟩
  case yearOfCentury | month | day | hour | minute | second | milli =>
    obtain rfl := Option.some_inj.1 h
    exact ⟨by decide, _, by omega, rfl⟩
  all_goals cases h

/-- No field has white space in it. -/
theorem isWhite_of_mem_text {field : Field} {c : Char} (h : c ∈ field.text z t) :
    isWhite c = false := by
  have hdigit {width n : Nat} (h : c ∈ padded width n) : isWhite c = false :=
    Text.isWhite_of_isDigit (isDigit_of_mem_padded h)
  have hyear {year : Int} (h : c ∈ yearText year) : isWhite c = false := by
    unfold yearText at h
    split at h
    · exact hdigit h
    · rcases List.mem_cons.1 h with rfl | h
      · split <;> rfl
      · exact hdigit h
  have hzone {separator : List Char} (hseparator : ∀ c ∈ separator, isWhite c = false)
      (h : c ∈ zoneText separator z) : isWhite c = false := by
    unfold zoneText at h
    rcases List.mem_append.1 h with h | h
    · rcases List.mem_append.1 h with h | h
      · rcases List.mem_cons.1 h with rfl | h
        · split <;> rfl
        · exact hdigit h
      · exact hseparator c h
    · exact hdigit h
  have hname {names : List String} {i : Nat}
      (hnames : names.all fun name => name.toList.all fun c => !isWhite c)
      (h : c ∈ (names.getD i "").toList) : isWhite c = false := by
    rw [List.getD_eq_getElem?_getD] at h
    cases hi : names[i]? with
    | none =>
      rw [hi] at h
      exact absurd h List.not_mem_nil
    | some name =>
      rw [hi] at h
      have hletters := List.all_eq_true.1 hnames name (List.mem_of_getElem? hi)
      exact Bool.not_eq_true' _ ▸ List.all_eq_true.1 hletters c h
  cases field
  case year => exact hyear h
  case monthAbbreviation => exact hname (by decide) (List.mem_of_mem_take h)
  case monthName => exact hname (by decide) h
  case weekdayAbbreviation => exact hname (by decide) (List.mem_of_mem_take h)
  case weekdayName => exact hname (by decide) h
  case zoneColon => exact hzone (List.forall_mem_singleton.2 rfl) h
  case zone => exact hzone (fun _ h => absurd h List.not_mem_nil) h
  all_goals exact hdigit h

end Field

end Volley.Calendar
