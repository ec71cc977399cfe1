import Volley.Count

/-!
# Dates

The Gregorian calendar, extended to all years, with days counted from 1 January 1970. A year begins
after 365 days for every earlier year and one more for every earlier leap year; the year of a day is
found from the mean length of a year, which is off by one at most. `yearStart_yearOf` says that a
day lies in its year, and `dayNumber_ofDayNumber` that a date gives back the day it was made from.
-/

namespace Volley.Calendar

/-- A date: a year, a month from 1 to 12, and a day of the month from 1. -/
@[ext] structure Date where
  /-- The year; year 0 is the one before year 1. -/
  year : Int
  /-- The month. -/
  month : Nat
  /-- The day of the month. -/
  day : Nat
  deriving DecidableEq, Repr, Inhabited

/-- Whether a year has 366 days. -/
def isLeap (year : Int) : Bool :=
  year % 4 = 0 && (year % 100 ≠ 0 || year % 400 = 0)

/-- The lengths of the months of a year. -/
def monthLengths (year : Int) : List Nat :=
  [31, if isLeap year then 29 else 28, 31, 30, 31, 30, 31, 31, 30, 31, 30, 31]

/-- The length of a month. -/
def monthLength (year : Int) (month : Nat) : Nat :=
  (monthLengths year).getD (month - 1) 0

/-- The number of the first day of a year. -/
def yearStart (year : Int) : Int :=
  365 * year + (year + 3) / 4 - (year + 99) / 100 + (year + 399) / 400 - 719528

/-- The year that a day lies in. -/
def yearOf (day : Int) : Int :=
  let guess := (day + 719528) * 400 / 146097
  if day < yearStart guess then guess - 1
  else if yearStart (guess + 1) ≤ day then guess + 1
  else guess

/-- The place of a day among months of the given lengths: how many months have passed, and how many
days of the next one. -/
def placeInMonths : List Nat → Nat → Nat × Nat
  | [], day => (0, day)
  | length :: rest, day =>
    if day < length then (0, day)
    else
      let (months, days) := placeInMonths rest (day - length)
      (months + 1, days)

namespace Date

/-- The date of a day. -/
def ofDayNumber (day : Int) : Date :=
  let year := yearOf day
  let (months, days) := placeInMonths (monthLengths year) (day - yearStart year).toNat
  ⟨year, months + 1, days + 1⟩

/-- The number of the day of a date. -/
def dayNumber (d : Date) : Int :=
  yearStart d.year + (total ((monthLengths d.year).take (d.month - 1)) + (d.day - 1) : Nat)

/-- The day of the week, where Sunday is 0. -/
def weekday (d : Date) : Nat :=
  ((d.dayNumber + 4) % 7).toNat

/-- The date some months later or earlier: the day stays, or is the last one of a shorter month. -/
def addMonths (d : Date) (months : Int) : Date :=
  let ordinal := d.year * 12 + (d.month - 1) + months
  let year := ordinal / 12
  let month := (ordinal % 12).toNat + 1
  ⟨year, month, min d.day (monthLength year month)⟩

end Date

/-- A year begins close to where the mean length of a year puts it. -/
theorem yearStart_bounds (year : Int) :
    146097 * year ≤ 400 * (yearStart year + 719528) + 396 ∧
      400 * (yearStart year + 719528) ≤ 146097 * year + 699 := by
  unfold yearStart
  omega

/-- A day lies in its year. -/
theorem yearStart_yearOf (day : Int) :
    yearStart (yearOf day) ≤ day ∧ day < yearStart (yearOf day + 1) := by
  unfold yearOf
  dsimp only
  generalize hguess : (day + 719528) * 400 / 146097 = guess
  have below := yearStart_bounds (guess - 1)
  have above := yearStart_bounds (guess + 2)
  have assoc : guess + 1 + 1 = guess + 2 := by omega
  split
  · rw [Int.sub_add_cancel]
    omega
  · split
    · rw [assoc]
      omega
    · omega

/-- A leap year is 366 days long and any other 365. -/
theorem yearStart_succ (year : Int) :
    yearStart (year + 1) = yearStart year + total (monthLengths year) := by
  unfold yearStart monthLengths isLeap
  by_cases h4 : year % 4 = 0 <;> by_cases h100 : year % 100 = 0 <;>
    by_cases h400 : year % 400 = 0 <;> simp [h4, h100, h400] <;> omega

/-- The place of a day among months adds up to the day. -/
theorem total_take_placeInMonths (lengths : List Nat) (day : Nat) (h : day < total lengths) :
    total (lengths.take (placeInMonths lengths day).1) + (placeInMonths lengths day).2 = day := by
  induction lengths generalizing day with
  | nil => simp at h
  | cons length rest ih =>
    unfold placeInMonths
    split
    · simp
    · rename_i hlt
      have hrest : day - length < total rest := by
        simp only [total_cons] at h
        omega
      have := ih (day - length) hrest
      simp only [List.take_succ_cons, total_cons]
      omega

/-- The date of a day is that day. -/
theorem dayNumber_ofDayNumber (day : Int) : (Date.ofDayNumber day).dayNumber = day := by
  obtain ⟨hlow, hhigh⟩ := yearStart_yearOf day
  rw [yearStart_succ] at hhigh
  have hday : (day - yearStart (yearOf day)).toNat < total (monthLengths (yearOf day)) := by omega
  have := total_take_placeInMonths _ _ hday
  simp only [Date.dayNumber, Date.ofDayNumber, Nat.add_sub_cancel]
  omega

end Volley.Calendar
