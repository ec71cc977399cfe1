import Mathlib.Tactic.IntervalCases
import Volley.Calendar.Date

/-!
# Dates and days, one to one

A date is valid if its month is one of twelve and its day one of the month. Every day has a valid date
(`isValid_ofDayNumber`), and a valid date is the date of its day (`ofDayNumber_dayNumber`), since the
year that a day lies in is unique (`yearOf_eq`) and so is its place among the months
(`placeInMonths_total_take`). Months are counted on from year to year by `Date.monthNumber`, and that
number tells the year and the month of a valid date (`eq_of_monthNumber_eq`).
-/

namespace Volley.Calendar

/-! ## Years and months -/

/-- Years begin in order. -/
theorem yearStart_mono {year year' : Int} (h : year ≤ year') : yearStart year ≤ yearStart year' := by
  unfold yearStart
  omega

/-- The year of a day is the only one that the day lies in. -/
theorem yearOf_eq {year day : Int} (hlow : yearStart year ≤ day)
    (hhigh : day < yearStart (year + 1)) : yearOf day = year := by
  obtain ⟨hlow', hhigh'⟩ := yearStart_yearOf day
  -- Of two different years the later one begins after the earlier one has ended.
  rcases Int.lt_trichotomy (yearOf day) year with hlt | heq | hgt
  · have := yearStart_mono (Int.add_one_le_of_lt hlt)
    omega
  · exact heq
  · have := yearStart_mono (Int.add_one_le_of_lt hgt)
    omega

/-- No month is without days. -/
theorem monthLength_pos {year : Int} {month : Nat} (hlow : 1 ≤ month) (hhigh : month ≤ 12) :
    0 < monthLength year month := by
  unfold monthLength monthLengths
  split <;> interval_cases month <;> decide

/-- A day among months lies in one of them. -/
theorem placeInMonths_lt {lengths : List Nat} {day : Nat} (h : day < total lengths) :
    (placeInMonths lengths day).1 < lengths.length ∧
      (placeInMonths lengths day).2 < lengths.getD (placeInMonths lengths day).1 0 := by
  induction lengths generalizing day with
  | nil => simp at h
  | cons length rest ih =>
    unfold placeInMonths
    split
    next hlt => exact ⟨Nat.succ_pos _, hlt⟩
    next hle =>
      rw [total_cons] at h
      have hrest : day - length < total rest := by omega
      obtain ⟨hmonth, hday⟩ := ih hrest
      exact ⟨Nat.succ_lt_succ hmonth, hday⟩

/-- The place of a day of a month, counted from the first of all days, is that month and that day. -/
theorem placeInMonths_total_take {lengths : List Nat} {month day : Nat}
    (h : day < lengths.getD month 0) :
    placeInMonths lengths (total (lengths.take month) + day) = (month, day) := by
  induction lengths generalizing month with
  | nil => simp at h
  | cons length rest ih =>
    unfold placeInMonths
    cases month with
    | zero =>
      have hday : total ((length :: rest).take 0) + day = day := by simp
      rw [hday, if_pos (show day < length from h)]
    | succ month =>
      have hday : total ((length :: rest).take (month + 1)) + day =
          length + (total (rest.take month) + day) := by
        rw [List.take_succ_cons, total_cons, Nat.add_assoc]
      rw [hday, if_neg (by omega), Nat.add_sub_cancel_left, ih h]

/-- The days before a month and a day of it are days of the year. -/
theorem total_take_lt {lengths : List Nat} {month day : Nat} (h : day < lengths.getD month 0) :
    total (lengths.take month) + day < total lengths := by
  induction lengths generalizing month with
  | nil => simp at h
  | cons length rest ih =>
    cases month with
    | zero =>
      have hday : day < length := h
      simp only [List.take_zero, total_nil, total_cons]
      omega
    | succ month =>
      have hday : day < rest.getD month 0 := h
      have := ih hday
      simp only [List.take_succ_cons, total_cons]
      omega

namespace Date

/-- The month is one of the year and the day is one of the month. -/
structure IsValid (d : Date) : Prop where
  /-- Months are counted from one. -/
  month_pos : 1 ≤ d.month
  /-- There are twelve. -/
  month_le : d.month ≤ 12
  /-- Days are counted from one. -/
  day_pos : 1 ≤ d.day
  /-- No day is past the end of its month. -/
  day_le : d.day ≤ monthLength d.year d.month

/-- The number of months from the year 0 to a date, where that year's first month is number one. -/
def monthNumber (d : Date) : Int :=
  d.year * 12 + d.month

/-! ## Days to dates and back -/

/-- Every day has a valid date. -/
theorem isValid_ofDayNumber (day : Int) : (ofDayNumber day).IsValid := by
  obtain ⟨hlow, hhigh⟩ := yearStart_yearOf day
  rw [yearStart_succ] at hhigh
  have hday : (day - yearStart (yearOf day)).toNat < total (monthLengths (yearOf day)) := by omega
  obtain ⟨hmonth, hplace⟩ := placeInMonths_lt hday
  -- Months and days are counted from zero there, so less is no more here.
  exact ⟨Nat.succ_pos _, hmonth, Nat.succ_pos _, hplace⟩

/-- A valid date is the date of its day. -/
theorem ofDayNumber_dayNumber {d : Date} (h : d.IsValid) : ofDayNumber d.dayNumber = d := by
  obtain ⟨hmonth, -, hday, hlength⟩ := h
  have hplace : d.day - 1 < (monthLengths d.year).getD (d.month - 1) 0 :=
    Nat.sub_one_lt_of_le hday hlength
  have hyear : yearOf d.dayNumber = d.year := by
    -- The days before it and its own day are days of the year, so the next year has not begun.
    have := total_take_lt hplace
    refine yearOf_eq ?_ ?_
    · unfold dayNumber
      omega
    · rw [yearStart_succ]
      unfold dayNumber
      omega
  have hoffset : (d.dayNumber - yearStart d.year).toNat =
      total ((monthLengths d.year).take (d.month - 1)) + (d.day - 1) := by
    unfold dayNumber
    omega
  unfold ofDayNumber
  rw [hyear]
  dsimp only
  rw [hoffset, placeInMonths_total_take hplace]
  dsimp only
  rw [Nat.sub_add_cancel hmonth, Nat.sub_add_cancel hday]

/-- The year and the month of a valid date are known from the number of its month. -/
theorem eq_of_monthNumber_eq {d d' : Date} (h : d.IsValid) (h' : d'.IsValid)
    (hnumber : d.monthNumber = d'.monthNumber) : d.year = d'.year ∧ d.month = d'.month := by
  have hpos := h.month_pos
  have hle := h.month_le
  have hpos' := h'.month_pos
  have hle' := h'.month_le
  unfold monthNumber at hnumber
  omega

/-! ## Months later or earlier -/

/-- Adding months counts them on from year to year. -/
theorem monthNumber_addMonths (d : Date) (months : Int) :
    (d.addMonths months).monthNumber = d.monthNumber + months := by
  unfold monthNumber addMonths
  dsimp only
  omega

/-- Adding months gives a valid date. -/
theorem isValid_addMonths {d : Date} (h : d.IsValid) (months : Int) : (d.addMonths months).IsValid := by
  have hmonth : (d.addMonths months).month ≤ 12 := by
    unfold addMonths
    dsimp only
    omega
  have hlength : 0 < monthLength (d.addMonths months).year (d.addMonths months).month :=
    monthLength_pos (Nat.succ_pos _) hmonth
  exact ⟨Nat.succ_pos _, hmonth, Nat.le_min.2 ⟨h.day_pos, hlength⟩, Nat.min_le_right ..⟩

end Date

end Volley.Calendar
