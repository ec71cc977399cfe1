import Volley.Proofs.Calendar.Offset

/-!
# Months at a place

Months lead from an instant to the one at which the clocks of a place show the same time of day on
the date so many months later (`shift?_months_iff`). At some dates no instant is that one, or two
are, as the clocks are put forward or back. Then the months lead nowhere.
-/

namespace Volley.Calendar

/-- Clocks of a place show at `u` what they show at `t`, but on the date a number of months later.
-/
structure ShowsMonthsLater (place : TimeZone) (t u : Instant) (months : Int) : Prop where
  /-- The date is that many months later. -/
  date : u.localDate place = (t.localDate place).addMonths months
  /-- The time of day stays. -/
  time : u.localSecondOfDay place = t.localSecondOfDay place
  /-- So does the part of the second. -/
  nanos : u.nanos = t.nanos

section Months
variable {place : TimeZone} {t u r : Instant} {months : Int}

/-- What clocks show months later is a time in seconds. -/
theorem showsMonthsLater_iff :
    ShowsMonthsLater place t u months ↔
      u.seconds + place.zoneAt u.seconds = ((t.localDate place).addMonths months).dayNumber *
        secondsPerDay + t.localSecondOfDay place ∧ u.nanos = t.nanos := by
  have hvalid : ((t.localDate place).addMonths months).IsValid :=
    Date.isValid_addMonths (Date.isValid_ofDayNumber _) months
  have hshown := localSeconds_eq_iff (u.zoneIn place) u hvalid (secondOfDay_lt (t.zoneIn place) t)
  constructor
  · intro h
    exact ⟨hshown.2 ⟨h.date, h.time⟩, h.nanos⟩
  · rintro ⟨hseconds, hnanos⟩
    obtain ⟨hdate, htime⟩ := hshown.1 hseconds
    exact ⟨hdate, htime, hnanos⟩

/-- Months lead to the one instant at which clocks show what they should. -/
theorem addMonths?_eq_some_iff :
    t.addMonths? place months = some r ↔
      inYearRange ((t.localDate place).addMonths months).year = true ∧
        ∀ u, ShowsMonthsLater place t u months ↔ u = r := by
  unfold Instant.addMonths?
  dsimp only
  split
  next hrange =>
    rw [and_iff_right hrange, Option.map_eq_some_iff]
    simp only [showsMonthsLater_iff, TimeZone.zoneShowing?_eq_some_iff]
    constructor
    · rintro ⟨z, hz, rfl⟩ u
      rw [hz, Instant.ext_iff]
    · -- The zone that is looked for is the one at the only instant there is.
      intro h
      have hr := (h r).2 rfl
      refine ⟨r.zoneIn place, fun s => ?_, Instant.ext ?_ hr.2.symm⟩
      · have hs := h ⟨s, t.nanos⟩
        rw [and_iff_left rfl, Instant.ext_iff, and_iff_left hr.2.symm] at hs
        rw [hs, ← hr.1, Instant.zoneIn, Int.add_sub_cancel]
      · rw [← hr.1, Instant.zoneIn, Int.add_sub_cancel]
  next hrange =>
    exact ⟨fun h => absurd h (by simp), fun h => absurd h.1 hrange⟩

/-- An instant is moved by months to the only one at which clocks show what they should, if its
local year and it are representable. -/
theorem shift?_months_iff :
    t.shift? place (.months months) = some r ↔
      (∀ u, ShowsMonthsLater place t u months ↔ u = r) ∧
        inYearRange (r.localDate place).year = true ∧ r.inCalendar = true := by
  unfold Instant.shift?
  dsimp only
  rw [Option.filter_eq_some_iff, addMonths?_eq_some_iff]
  constructor
  · rintro ⟨⟨hrange, h⟩, hcalendar⟩
    exact ⟨h, ((h r).2 rfl).date ▸ hrange, hcalendar⟩
  · rintro ⟨h, hrange, hcalendar⟩
    exact ⟨⟨((h r).2 rfl).date ▸ hrange, h⟩, hcalendar⟩

end Months

/-- New York around the summer of 2024, where clocks are put forward at two in the night of 10 March
and back at two in the night of 3 November. -/
def newYork : TimeZone :=
  .among (-18000) [-14400] fun s => if 1710054000 ≤ s ∧ s < 1730613600 then -14400 else -18000

/-- A month after half past two on 10 February clocks go from two to three. -/
example : (Instant.shift? newYork ⟨1707550200, 0⟩ (.months 1)) = none := by decide

/-- A month after half past three they show that time of day an hour of universal time earlier. -/
example : (Instant.shift? newYork ⟨1707553800, 0⟩ (.months 1)) =
    some ⟨1707553800 + 29 * 86400 - 3600, 0⟩ := by decide

end Volley.Calendar
