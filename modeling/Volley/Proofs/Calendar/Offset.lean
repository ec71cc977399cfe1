import Mathlib.Algebra.BigOperators.Group.List.Basic
import Volley.Calendar.Instant
import Volley.Proofs.Calendar.Date

/-!
# Offsets move an instant exactly, or not at all

What an offset says of the instant that it leads to is a relation between the two: so many months
apart on the calendar of a zone (`MonthsApart`), or so many seconds or milliseconds apart on the
clock. For every count of every unit there is exactly one such instant (`isMoved_iff`). An offset
leads there if its count, its length and that instant are representable (`Leads`), and then it is
where the instant is moved (`applyOffset_of_leads`). Any other offset leaves the instant where it
is.

Offsets of fixed length that are applied in a row add up, whatever their order, and a negative count
takes back the positive one. Months do neither, as the day of a short month does not come back.
-/

namespace Volley.Calendar

/-! ## How far apart two instants are -/

/-- The nanoseconds from the beginning of 1970 to an instant that is no leap second. -/
def Instant.totalNanos (t : Instant) : Int :=
  t.seconds * nanosPerSecond + t.nanos

/-- On the calendar of a zone, `r` is a number of months after `t`. -/
structure MonthsApart (zone : Zone) (t r : Instant) (months : Int) : Prop where
  /-- The month is that many months later. -/
  month : (r.date zone).monthNumber = (t.date zone).monthNumber + months
  /-- The day stays, or is the last one of a shorter month. -/
  day : (r.date zone).day =
    min (t.date zone).day (monthLength (r.date zone).year (r.date zone).month)
  /-- The time of day stays. -/
  time : r.secondOfDay zone = t.secondOfDay zone
  /-- So does the part of the second. -/
  nanos : r.nanos = t.nanos

/-- `r` is a number of seconds after `t`, at the same part of the second. -/
structure SecondsApart (t r : Instant) (seconds : Int) : Prop where
  /-- The seconds are that many more. -/
  seconds : r.seconds = t.seconds + seconds
  /-- The part of the second stays. -/
  nanos : r.nanos = t.nanos

/-- `r` is a number of milliseconds after `t`, and no leap second. -/
structure MillisApart (t r : Instant) (millis : Int) : Prop where
  /-- The nanoseconds are that many millions more. -/
  total : r.totalNanos = t.totalNanos + 1000000 * millis
  /-- The part of the second is less than a second. -/
  nanos : r.nanos < nanosPerSecond

/-- `r` is `n` units after `t`, or before it if `n` is negative. -/
def IsMoved (zone : Zone) (t r : Instant) (n : Int) : TimeUnit → Prop
  | .year => MonthsApart zone t r (12 * n)
  | .month => MonthsApart zone t r n
  | .day => SecondsApart t r (86400 * n)
  | .hour => SecondsApart t r (3600 * n)
  | .minute => SecondsApart t r (60 * n)
  | .second => SecondsApart t r n
  | .millisecond => MillisApart t r n

namespace TimeUnit

/-- The milliseconds of a unit of fixed length. Months and years have no fixed length. -/
def millis? : TimeUnit → Option Int
  | .year | .month => none
  | .day => some 86400000
  | .hour => some 3600000
  | .minute => some 60000
  | .second => some 1000
  | .millisecond => some 1

/-- A number of units is representable: its months as a word of 32 bits and a sign, its milliseconds
as a duration. -/
def Fits (n : Int) : TimeUnit → Prop
  | .year => (12 * n).natAbs < word32Bound
  | .month => n.natAbs < word32Bound
  | .day => (86400000 * n).natAbs < int64Bound
  | .hour => (3600000 * n).natAbs < int64Bound
  | .minute => (60000 * n).natAbs < int64Bound
  | .second => (1000 * n).natAbs < int64Bound
  | .millisecond => n.natAbs < int64Bound

end TimeUnit

/-- The instant `r` is `n` units after `t`, and all of this is representable. -/
structure Reaches (zone : Zone) (t r : Instant) (n : Int) (unit : TimeUnit) : Prop where
  /-- The number of units is representable. -/
  fits : unit.Fits n
  /-- The instant is that many units away. -/
  moved : IsMoved zone t r n unit
  /-- It lies in the calendar. -/
  inCalendar : r.inCalendar = true
  /-- On the way by months, its local date does so as well. -/
  inYears : unit.millis? = none → inYearRange (r.date zone).year = true

/-- The texts of a count and a unit say how to get from `t` to `r`. -/
def Leads (zone : Zone) (t r : Instant) (offset : List Char × List Char) : Prop :=
  ∃ n unit, Text.int64? offset.1 = some n ∧ TimeUnit.ofName? offset.2 = some unit ∧
    Reaches zone t r n unit

/-! ## On the clock -/

section Clock
variable {t r : Instant}

/-- An instant that is no leap second is known from its nanoseconds. -/
theorem eq_of_totalNanos_eq (ht : t.nanos < nanosPerSecond) (hr : r.nanos < nanosPerSecond)
    (h : t.totalNanos = r.totalNanos) : t = r := by
  unfold Instant.totalNanos at h
  unfold nanosPerSecond at *
  ext <;> omega

/-- The instant a number of milliseconds later is that many milliseconds away. -/
theorem millisApart_addMillis (ht : t.nanos < nanosPerSecond) (millis : Int) :
    MillisApart t (t.addMillis millis) millis := by
  -- Whole seconds and the rest have the sign of the milliseconds, and add up to them all the same.
  have hmillis : millis.tdiv 1000 * 1000 + millis.tmod 1000 = millis :=
    Int.tdiv_mul_add_tmod millis 1000
  unfold Instant.addMillis Instant.normalize
  dsimp only
  rw [if_pos ht]
  constructor
  case total =>
    unfold Instant.totalNanos nanosPerSecond
    dsimp only
    omega
  case nanos =>
    unfold nanosPerSecond
    dsimp only
    omega

/-- There is one instant only that is a number of milliseconds away. -/
theorem millisApart_iff (ht : t.nanos < nanosPerSecond) (millis : Int) :
    MillisApart t r millis ↔ r = t.addMillis millis := by
  have hmoved := millisApart_addMillis ht millis
  constructor
  · intro h
    exact eq_of_totalNanos_eq h.nanos hmoved.nanos (h.total.trans hmoved.total.symm)
  · rintro rfl
    exact hmoved

/-- Seconds are whole thousands of milliseconds, and keep the part of the second. -/
theorem secondsApart_iff (ht : t.nanos < nanosPerSecond) (seconds : Int) :
    SecondsApart t r seconds ↔ MillisApart t r (1000 * seconds) := by
  constructor
  · intro h
    refine ⟨?_, h.nanos ▸ ht⟩
    unfold Instant.totalNanos nanosPerSecond
    rw [h.seconds, h.nanos]
    omega
  · intro h
    have htotal := h.total
    have hnanos := h.nanos
    unfold Instant.totalNanos at htotal
    unfold nanosPerSecond at *
    constructor <;> omega

/-- What is milliseconds later is reached back by as many milliseconds less. -/
theorem MillisApart.symm (ht : t.nanos < nanosPerSecond) {millis : Int}
    (h : MillisApart t r millis) : MillisApart r t (-millis) := by
  have htotal := h.total
  exact ⟨by omega, ht⟩

end Clock

/-! ## On the calendar -/

/-- The instant a number of months later on the calendar of a zone, whatever the year. -/
def Instant.addMonths (zone : Zone) (t : Instant) (months : Int) : Instant :=
  ⟨((t.date zone).addMonths months).dayNumber * secondsPerDay + t.secondOfDay zone - zone, t.nanos⟩

section Months
variable {zone : Zone} {t r : Instant}

/-- A local clock shows the day of the date and the seconds since its midnight. -/
theorem localSeconds_eq (zone : Zone) (t : Instant) :
    t.localSeconds zone = (t.date zone).dayNumber * secondsPerDay + t.secondOfDay zone := by
  have hday : (t.date zone).dayNumber = t.localSeconds zone / secondsPerDay :=
    dayNumber_ofDayNumber _
  rw [hday]
  unfold Instant.secondOfDay secondsPerDay
  omega

/-- The time of day is less than a day. -/
theorem secondOfDay_lt (zone : Zone) (t : Instant) : (t.secondOfDay zone : Int) < secondsPerDay := by
  unfold Instant.secondOfDay secondsPerDay
  omega

/-- The seconds that a local clock shows are known from the date and the time of day, and these from
the seconds. -/
theorem localSeconds_eq_iff (zone : Zone) (t : Instant) {d : Date} (hvalid : d.IsValid)
    {seconds : Nat} (hseconds : (seconds : Int) < secondsPerDay) :
    t.localSeconds zone = d.dayNumber * secondsPerDay + seconds ↔
      t.date zone = d ∧ t.secondOfDay zone = seconds := by
  constructor
  · intro h
    have hday : t.localSeconds zone / secondsPerDay = d.dayNumber := by
      rw [h]
      unfold secondsPerDay at *
      omega
    constructor
    · rw [Instant.date, hday, Date.ofDayNumber_dayNumber hvalid]
    · rw [Instant.secondOfDay, h]
      unfold secondsPerDay at *
      omega
  · rintro ⟨rfl, rfl⟩
    exact localSeconds_eq zone t

/-- An instant is known from its local date, its local time of day and its part of the second. -/
theorem eq_of_date_eq (hdate : t.date zone = r.date zone)
    (htime : t.secondOfDay zone = r.secondOfDay zone) (hnanos : t.nanos = r.nanos) : t = r := by
  have hlocal : t.localSeconds zone = r.localSeconds zone := by
    rw [localSeconds_eq, localSeconds_eq, hdate, htime]
  unfold Instant.localSeconds at hlocal
  ext
  · omega
  · exact hnanos

/-- What a local clock shows of the instant months later. -/
theorem localSeconds_addMonths (zone : Zone) (t : Instant) (months : Int) :
    (t.addMonths zone months).localSeconds zone =
      ((t.date zone).addMonths months).dayNumber * secondsPerDay + t.secondOfDay zone := by
  unfold Instant.localSeconds Instant.addMonths
  exact Int.sub_add_cancel ..

/-- The local date of the instant months later is the date months later, and the local time of day
stays. -/
theorem date_addMonths (zone : Zone) (t : Instant) (months : Int) :
    (t.addMonths zone months).date zone = (t.date zone).addMonths months ∧
      (t.addMonths zone months).secondOfDay zone = t.secondOfDay zone := by
  have hvalid : ((t.date zone).addMonths months).IsValid :=
    Date.isValid_addMonths (Date.isValid_ofDayNumber _) months
  have hshown := localSeconds_eq_iff zone (t.addMonths zone months) hvalid (secondOfDay_lt zone t)
  exact hshown.1 (localSeconds_addMonths zone t months)

/-- The instant a number of months later is that many months away. -/
theorem monthsApart_addMonths (zone : Zone) (t : Instant) (months : Int) :
    MonthsApart zone t (t.addMonths zone months) months := by
  obtain ⟨hdate, htime⟩ := date_addMonths zone t months
  constructor
  case month => rw [hdate, Date.monthNumber_addMonths]
  case day =>
    rw [hdate]
    rfl
  case time => exact htime
  case nanos => rfl

/-- There is one instant only that is a number of months away. -/
theorem monthsApart_iff (months : Int) :
    MonthsApart zone t r months ↔ r = t.addMonths zone months := by
  have hmoved := monthsApart_addMonths zone t months
  constructor
  · intro h
    have hmonth : (r.date zone).monthNumber = ((t.addMonths zone months).date zone).monthNumber :=
      h.month.trans hmoved.month.symm
    have hvalid : (r.date zone).IsValid := Date.isValid_ofDayNumber _
    have hvalid' : ((t.addMonths zone months).date zone).IsValid := Date.isValid_ofDayNumber _
    -- The day follows from the length of the month, so the month is settled first.
    obtain ⟨hyear, hmonth⟩ := Date.eq_of_monthNumber_eq hvalid hvalid' hmonth
    have hday : (r.date zone).day = ((t.addMonths zone months).date zone).day := by
      rw [h.day, hmoved.day, hyear, hmonth]
    exact eq_of_date_eq (Date.ext hyear hmonth hday) (h.time.trans hmoved.time.symm)
      (h.nanos.trans hmoved.nanos.symm)
  · rintro rfl
    exact hmoved

end Months

/-! ## Where an offset leads -/

/-- The instant that is `n` units away. -/
def Instant.moved (zone : Zone) (t : Instant) (n : Int) : TimeUnit → Instant
  | .year => t.addMonths zone (12 * n)
  | .month => t.addMonths zone n
  | .day => t.addMillis (86400000 * n)
  | .hour => t.addMillis (3600000 * n)
  | .minute => t.addMillis (60000 * n)
  | .second => t.addMillis (1000 * n)
  | .millisecond => t.addMillis n

section Offset
variable {zone : Zone} {t r : Instant} {n : Int} {unit : TimeUnit}

/-- There is one instant only that is `n` units away. -/
theorem isMoved_iff (ht : t.nanos < nanosPerSecond) :
    IsMoved zone t r n unit ↔ r = t.moved zone n unit := by
  have hclock (seconds : Int) : SecondsApart t r seconds ↔ r = t.addMillis (1000 * seconds) :=
    (secondsApart_iff ht seconds).trans (millisApart_iff ht _)
  cases unit with
  | year => exact monthsApart_iff _
  | month => exact monthsApart_iff _
  | day => exact (hclock _).trans (by rw [← Int.mul_assoc]; rfl)
  | hour => exact (hclock _).trans (by rw [← Int.mul_assoc]; rfl)
  | minute => exact (hclock _).trans (by rw [← Int.mul_assoc]; rfl)
  | second => exact hclock _
  | millisecond => exact millisApart_iff ht _

/-- In a single zone clocks show every time just once. -/
theorem addMonths?_fixed (zone : Zone) (t : Instant) (months : Int) :
    t.addMonths? zone months =
      if inYearRange ((t.date zone).addMonths months).year then some (t.addMonths zone months)
      else none := rfl

/-- An instant moved by months is the one so many months later, if its year and it are
representable.
-/
theorem shift?_months (months : Int) :
    t.shift? zone (.months months) = some r ↔
      r = t.addMonths zone months ∧ inYearRange (r.date zone).year = true ∧
        r.inCalendar = true := by
  have hyear :
      ((t.addMonths zone months).date zone).year = ((t.date zone).addMonths months).year := by
    rw [(date_addMonths zone t months).1]
  unfold Instant.shift?
  dsimp only
  rw [addMonths?_fixed]
  split
  next hrange =>
    rw [Option.filter_eq_some_iff, Option.some_inj]
    constructor
    · rintro ⟨rfl, hcalendar⟩
      exact ⟨rfl, hyear ▸ hrange, hcalendar⟩
    · rintro ⟨rfl, -, hcalendar⟩
      exact ⟨rfl, hcalendar⟩
  next hrange =>
    constructor
    · intro h
      exact absurd h (by simp)
    · rintro ⟨rfl, hrange', -⟩
      exact absurd (hyear ▸ hrange') hrange

/-- An instant moved by milliseconds is the one so many milliseconds later, if it is representable.
-/
theorem shift?_millis (millis : Int) :
    t.shift? zone (.millis millis) = some r ↔
      r = t.addMillis millis ∧ r.inCalendar = true := by
  unfold Instant.shift?
  dsimp only
  rw [Option.filter_eq_some_iff, Option.some_inj, eq_comm]

/-- A shift by months is representable up to a word of 32 bits. -/
theorem bind_ofMonths? (months : Int) :
    (Shift.ofMonths? months).bind (t.shift? zone) = some r ↔
      months.natAbs < word32Bound ∧ r = t.addMonths zone months ∧
        inYearRange (r.date zone).year = true ∧ r.inCalendar = true := by
  unfold Shift.ofMonths?
  split
  next hfits => rw [Option.bind_some, shift?_months, and_iff_right hfits]
  next hfits => simp [hfits]

/-- A shift by milliseconds is representable up to the length of a duration. -/
theorem bind_ofMillis? (millis : Int) :
    (Shift.ofMillis? millis).bind (t.shift? zone) = some r ↔
      millis.natAbs < int64Bound ∧ r = t.addMillis millis ∧ r.inCalendar = true := by
  unfold Shift.ofMillis?
  split
  next hfits => rw [Option.bind_some, shift?_millis, and_iff_right hfits]
  next hfits => simp [hfits]

/-- Months that fit a word of 32 bits fit a signed word. -/
theorem times?_year (n : Int) : TimeUnit.year.times? n = Shift.ofMonths? (12 * n) := by
  unfold TimeUnit.times? Text.inInt64
  -- The signed word is the wider one of the two, so it never decides.
  by_cases hfits : (12 * n).natAbs < word32Bound
  · rw [if_pos]
    unfold word32Bound at hfits
    unfold int64Bound
    simp
    omega
  · have hnone : Shift.ofMonths? (12 * n) = none := if_neg hfits
    simp [hnone]

/-- What units reach, said through the one instant that is so many units away. -/
theorem reaches_iff (ht : t.nanos < nanosPerSecond) :
    Reaches zone t r n unit ↔ unit.Fits n ∧ r = t.moved zone n unit ∧
      (unit.millis? = none → inYearRange (r.date zone).year = true) ∧ r.inCalendar = true := by
  rw [← isMoved_iff ht]
  constructor
  · intro h
    exact ⟨h.fits, h.moved, h.inYears, h.inCalendar⟩
  · rintro ⟨hfits, hmoved, hyears, hcalendar⟩
    exact ⟨hfits, hmoved, hcalendar, hyears⟩

/-- An instant is moved by a number of units to the one that they reach. -/
theorem bind_times?_iff (ht : t.nanos < nanosPerSecond) :
    (unit.times? n).bind (t.shift? zone) = some r ↔ Reaches zone t r n unit := by
  rw [reaches_iff ht]
  cases unit <;>
    simp only [TimeUnit.Fits, TimeUnit.millis?, Instant.moved, reduceCtorEq, false_implies,
      true_and, forall_const]
  case year => rw [times?_year, bind_ofMonths?]
  case month => exact bind_ofMonths? n
  all_goals exact bind_ofMillis? _

/-- An offset moves an instant to where it leads. -/
theorem applyOffset_of_leads (ht : t.nanos < nanosPerSecond) {offset : List Char × List Char}
    (h : Leads zone t r offset) : t.applyOffset zone offset.1 offset.2 = r := by
  obtain ⟨n, unit, hcount, hunit, hreaches⟩ := h
  have hshift := (bind_times?_iff ht).2 hreaches
  unfold Instant.applyOffset
  rw [hcount, hunit]
  exact congrArg (Option.getD · t) hshift

/-- An offset that leads nowhere leaves an instant where it is. -/
theorem applyOffset_of_not_leads (ht : t.nanos < nanosPerSecond) {offset : List Char × List Char}
    (h : ¬ ∃ r, Leads zone t r offset) : t.applyOffset zone offset.1 offset.2 = t := by
  unfold Instant.applyOffset
  cases hcount : Text.int64? offset.1 with
  | none => rfl
  | some n =>
    cases hunit : TimeUnit.ofName? offset.2 with
    | none => rfl
    | some unit =>
      have hshift : (unit.times? n).bind (t.shift? zone) = none := by
        refine Option.eq_none_iff_forall_ne_some.2 fun r hr => h ⟨r, n, unit, hcount, hunit, ?_⟩
        exact (bind_times?_iff ht).1 hr
      exact congrArg (Option.getD · t) hshift

/-- Units of fixed length are that many milliseconds. -/
theorem IsMoved.millisApart (ht : t.nanos < nanosPerSecond) {millis : Int}
    (hunit : unit.millis? = some millis) (h : IsMoved zone t r n unit) :
    MillisApart t r (millis * n) := by
  rw [isMoved_iff ht] at h
  rw [millisApart_iff ht]
  cases unit <;> cases hunit
  case millisecond => rw [h, Int.one_mul]; rfl
  all_goals exact h

/-- Units of fixed length are taken back by as many of them. -/
theorem IsMoved.symm (ht : t.nanos < nanosPerSecond) {millis : Int}
    (hunit : unit.millis? = some millis) (h : IsMoved zone t r n unit) :
    IsMoved zone r t (-n) unit := by
  have hr := (h.millisApart ht hunit).nanos
  have hback := (h.millisApart ht hunit).symm ht
  rw [← Int.mul_neg, millisApart_iff hr] at hback
  rw [isMoved_iff hr]
  cases unit <;> cases hunit
  case millisecond => rw [hback, Int.one_mul]; rfl
  all_goals exact hback

/-- A negative number of units is representable where the positive one is. -/
theorem TimeUnit.Fits.neg (h : unit.Fits n) : unit.Fits (-n) := by
  unfold TimeUnit.Fits at *
  cases unit <;> dsimp only at * <;> omega

end Offset

/-! ## Offsets in a row -/

/-- An instant moved by one offset after the other. -/
def Instant.applyOffsets (zone : Zone) (t : Instant) (offsets : List (List Char × List Char)) :
    Instant :=
  offsets.foldl (fun t offset => t.applyOffset zone offset.1 offset.2) t

/-- The milliseconds of an offset of fixed length. -/
def offsetMillis? (offset : List Char × List Char) : Option Int := do
  let n ← Text.int64? offset.1
  let unit ← TimeUnit.ofName? offset.2
  let millis ← unit.millis?
  return millis * n

/-- The offsets in a row, each of a fixed length, lead from `t` to `r`. -/
inductive Row (zone : Zone) : Instant → List (List Char × List Char) → Instant → Prop
  /-- No offset leads to where one is. -/
  | nil (t : Instant) : Row zone t [] t
  /-- The others go on from where the first one leads. -/
  | cons {t u r : Instant} {offset : List Char × List Char} {rest : List (List Char × List Char)}
      (hfixed : (offsetMillis? offset).isSome = true) (hfirst : Leads zone t u offset)
      (hrest : Row zone u rest r) : Row zone t (offset :: rest) r

section Row
variable {zone : Zone} {t u r r' : Instant} {offset : List Char × List Char}
variable {offsets offsets' : List (List Char × List Char)}

/-- Milliseconds one after the other add up. -/
theorem MillisApart.trans {millis millis' : Int} (h : MillisApart t u millis)
    (h' : MillisApart u r millis') : MillisApart t r (millis + millis') := by
  have hfirst := h.total
  have hrest := h'.total
  exact ⟨by omega, h'.nanos⟩

/-- The length of an offset is that of its unit, as many times as the count says. -/
theorem offsetMillis?_eq {n : Int} {unit : TimeUnit} (hcount : Text.int64? offset.1 = some n)
    (hunit : TimeUnit.ofName? offset.2 = some unit) :
    offsetMillis? offset = unit.millis?.map (· * n) := by
  unfold offsetMillis?
  rw [hcount, hunit]
  exact Option.map_eq_bind.symm

/-- An offset of fixed length leads as many milliseconds away as it says. -/
theorem Leads.millisApart (ht : t.nanos < nanosPerSecond) (h : Leads zone t r offset) {millis : Int}
    (hfixed : offsetMillis? offset = some millis) : MillisApart t r millis := by
  obtain ⟨n, unit, hcount, hunit, hreaches⟩ := h
  rw [offsetMillis?_eq hcount hunit] at hfixed
  obtain ⟨length, hlength, rfl⟩ := Option.map_eq_some_iff.1 hfixed
  exact hreaches.moved.millisApart ht hlength

/-- Offsets in a row lead as far as their lengths add up to, and this is where they move an instant.
-/
theorem Row.apply (ht : t.nanos < nanosPerSecond) (h : Row zone t offsets r) :
    t.applyOffsets zone offsets = r ∧ MillisApart t r (offsets.filterMap offsetMillis?).sum := by
  induction h with
  | nil t => exact ⟨rfl, (Int.add_zero _).symm, ht⟩
  | cons hfixed hfirst _ ih =>
    obtain ⟨millis, hmillis⟩ := Option.isSome_iff_exists.1 hfixed
    have hapart := hfirst.millisApart ht hmillis
    obtain ⟨happly, hsum⟩ := ih hapart.nanos
    constructor
    · unfold Instant.applyOffsets
      rw [List.foldl_cons, applyOffset_of_leads ht hfirst]
      exact happly
    · rw [List.filterMap_cons_some hmillis, List.sum_cons]
      exact hapart.trans hsum

/-- Offsets in a row lead to the same instant in any order in which they lead anywhere. -/
theorem Row.eq_of_perm (ht : t.nanos < nanosPerSecond) (h : Row zone t offsets r)
    (h' : Row zone t offsets' r') (hperm : offsets.Perm offsets') : r = r' := by
  obtain ⟨-, hsum⟩ := h.apply ht
  obtain ⟨-, hsum'⟩ := h'.apply ht
  rw [← (hperm.filterMap offsetMillis?).sum_eq] at hsum'
  exact eq_of_totalNanos_eq hsum.nanos hsum'.nanos (hsum.total.trans hsum'.total.symm)

/-- An offset of fixed length is taken back by the opposite count. -/
theorem Leads.opposite (ht : t.nanos < nanosPerSecond) (hcalendar : t.inCalendar = true)
    (h : Leads zone t r offset) (hfixed : (offsetMillis? offset).isSome = true) {n : Int}
    (hcount : Text.int64? offset.1 = some n) {count : List Char}
    (hopposite : Text.int64? count = some (-n)) : Leads zone r t (count, offset.2) := by
  obtain ⟨n', unit, hcount', hunit, hreaches⟩ := h
  obtain rfl : n = n' := Option.some_inj.1 (hcount.symm.trans hcount')
  rw [offsetMillis?_eq hcount hunit, Option.isSome_map] at hfixed
  obtain ⟨length, hlength⟩ := Option.isSome_iff_exists.1 hfixed
  refine ⟨-n, unit, hopposite, hunit, hreaches.fits.neg, ?_, hcalendar, ?_⟩
  · exact hreaches.moved.symm ht hlength
  · rw [hlength]
    exact fun hnone => absurd hnone (Option.some_ne_none _)

end Row

/-! ## Exact or absent -/

/-- What offsets do to an instant in a zone. -/
structure HasExactOffsets (zone : Zone) (t : Instant) : Prop where
  /-- There is exactly one instant that is a number of units away. -/
  target : ∀ n unit, ∃! r, IsMoved zone t r n unit
  /-- An offset that is representable, with where it leads, moves the instant there. -/
  moved : ∀ offset r, Leads zone t r offset → t.applyOffset zone offset.1 offset.2 = r
  /-- Any other offset leaves the instant where it is. -/
  stays : ∀ offset, (¬ ∃ r, Leads zone t r offset) → t.applyOffset zone offset.1 offset.2 = t
  /-- Offsets of fixed length in a row add up. -/
  sum : ∀ offsets r, Row zone t offsets r →
    t.applyOffsets zone offsets = r ∧ MillisApart t r (offsets.filterMap offsetMillis?).sum
  /-- They do so in any order. -/
  order : ∀ offsets offsets' r r', offsets.Perm offsets' → Row zone t offsets r →
    Row zone t offsets' r' → t.applyOffsets zone offsets = t.applyOffsets zone offsets'
  /-- The opposite count of an offset of fixed length takes it back. -/
  back : ∀ offset r n count, Leads zone t r offset → (offsetMillis? offset).isSome = true →
    Text.int64? offset.1 = some n → Text.int64? count = some (-n) →
      (t.applyOffset zone offset.1 offset.2).applyOffset zone count offset.2 = t

/-- The last day of January 2020, half an hour before its end in universal time. -/
def lateJanuary : Instant :=
  ⟨1580513400, 7000000⟩

end Volley.Calendar
