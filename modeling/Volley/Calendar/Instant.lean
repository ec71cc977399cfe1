import Volley.Calendar.Date
import Volley.Calendar.Zone
import Volley.Text.Integer

/-!
# Instants and offsets

An instant is a count of seconds since 1970 in universal time and a part of a second; a leap second
is a part of one second or more.

An offset is a count and a unit. Days and shorter units move an instant by their length; months and
years move the local date and keep the local time of day, as clocks show it at that date. The
calendar ends with the year 262142 in both directions, give or take one; what leads out of it does
not move the instant at all, and neither do months to a time that clocks do not show, or show twice.
-/

namespace Volley.Calendar

/-- A point in time. -/
@[ext] structure Instant where
  /-- The seconds since the beginning of 1970. -/
  seconds : Int
  /-- The nanoseconds of the second; in a leap second, those of the second before it are counted in.
  -/
  nanos : Nat
  deriving DecidableEq, Repr, Inhabited

/-- The nanoseconds of a second. -/
def nanosPerSecond : Nat := 1000000000

/-- The seconds of a day. -/
def secondsPerDay : Int := 86400

/-- The first and the last year of the calendar. -/
def yearRange : Int × Int := (-262143, 262142)

/-- Whether a year is one of the calendar. -/
def inYearRange (year : Int) : Bool :=
  yearRange.1 ≤ year && year ≤ yearRange.2

namespace Instant

/-- The instant of a count of milliseconds since the beginning of 1970. -/
def ofMillis (ms : Int) : Instant :=
  ⟨ms / 1000, (ms % 1000).toNat * 1000000⟩

/-- The milliseconds since the beginning of 1970. -/
def millis (t : Instant) : Int :=
  t.seconds * 1000 + t.nanos / 1000000

/-- Whether an instant lies in the calendar, by its date in universal time. -/
def inCalendar (t : Instant) : Bool :=
  decide (yearStart yearRange.1 * secondsPerDay ≤ t.seconds) &&
    decide (t.seconds < yearStart (yearRange.2 + 1) * secondsPerDay)

/-- The seconds shown by a clock that counts local time. -/
def localSeconds (zone : Zone) (t : Instant) : Int :=
  t.seconds + zone

/-- The date in a zone. -/
def date (zone : Zone) (t : Instant) : Date :=
  .ofDayNumber (t.localSeconds zone / secondsPerDay)

/-- The seconds since midnight in a zone. -/
def secondOfDay (zone : Zone) (t : Instant) : Nat :=
  (t.localSeconds zone % secondsPerDay).toNat

/-- The hour of the day in a zone. -/
def hour (zone : Zone) (t : Instant) : Nat :=
  t.secondOfDay zone / 3600

/-- The minute of the hour in a zone. -/
def minute (zone : Zone) (t : Instant) : Nat :=
  t.secondOfDay zone / 60 % 60

/-- The second of the minute in a zone; a leap second is one more than the second before it. -/
def second (zone : Zone) (t : Instant) : Nat :=
  t.secondOfDay zone % 60 + t.nanos / nanosPerSecond

/-- The milliseconds of the second. -/
def milli (t : Instant) : Nat :=
  t.nanos % nanosPerSecond / 1000000

/-- Seconds and nanoseconds brought into the form of an instant that is no leap second. -/
def normalize (seconds nanos : Int) : Instant :=
  ⟨seconds + nanos / nanosPerSecond, (nanos % nanosPerSecond).toNat⟩

/-- The instant a number of milliseconds later or earlier. A leap second is left when the way out of
it takes a second or more forward or back, or passes its end; a shorter way stays within it and the
second before. -/
def addMillis (t : Instant) (ms : Int) : Instant :=
  let wholeSeconds := ms.tdiv 1000
  let part := ms.tmod 1000 * 1000000
  if t.nanos < nanosPerSecond then normalize (t.seconds + wholeSeconds) (t.nanos + part)
  else if 0 < wholeSeconds ∨ 2 * nanosPerSecond ≤ t.nanos + part then
    normalize (t.seconds + wholeSeconds) (t.nanos - nanosPerSecond + part)
  else if wholeSeconds < 0 then
    normalize (t.seconds + 1 + wholeSeconds) (t.nanos - nanosPerSecond + part)
  else ⟨t.seconds, (t.nanos + part).toNat⟩

/-- The zone of a place at an instant. -/
def zoneIn (zone : TimeZone) (t : Instant) : Zone :=
  zone.zoneAt t.seconds

/-- The date at a place. -/
def localDate (zone : TimeZone) (t : Instant) : Date :=
  t.date (t.zoneIn zone)

/-- The seconds since midnight at a place. -/
def localSecondOfDay (zone : TimeZone) (t : Instant) : Nat :=
  t.secondOfDay (t.zoneIn zone)

/-- The instant some months later or earlier, at the same local time of day, if the year is one of
the calendar and clocks show that time just once. -/
def addMonths? (zone : TimeZone) (t : Instant) (months : Int) : Option Instant :=
  let moved := (t.localDate zone).addMonths months
  if inYearRange moved.year then
    let shown := moved.dayNumber * secondsPerDay + t.localSecondOfDay zone
    (zone.zoneShowing? shown).map fun z => ⟨shown - z, t.nanos⟩
  else none

end Instant

/-- A unit of time. -/
inductive TimeUnit where
  /-- A year of twelve months. -/
  | year
  /-- A month of the calendar. -/
  | month
  /-- A day of 86400 seconds. -/
  | day
  /-- An hour. -/
  | hour
  /-- A minute. -/
  | minute
  /-- A second. -/
  | second
  /-- A millisecond. -/
  | millisecond
  deriving DecidableEq, Repr

/-- The unit with a name. Only the case of the letter tells months from minutes. -/
def TimeUnit.ofName? (name : List Char) : Option TimeUnit :=
  if name = ['y'] then some .year
  else if name = ['M'] then some .month
  else if name = ['d'] then some .day
  else if name = ['h'] then some .hour
  else if name = ['m'] then some .minute
  else if name = ['s'] then some .second
  else if name = ['m', 's'] then some .millisecond
  else none

/-- How far `n` units reach. -/
inductive Shift where
  /-- A number of months of the calendar. -/
  | months (n : Int)
  /-- A number of milliseconds. -/
  | millis (n : Int)
  deriving DecidableEq, Repr

/-- A number of months, if its magnitude is a word of 32 bits. -/
def Shift.ofMonths? (n : Int) : Option Shift :=
  if n.natAbs < word32Bound then some (.months n) else none

/-- A number of milliseconds, if it is a duration. The longest durations in both directions are the
greatest signed word of milliseconds. -/
def Shift.ofMillis? (n : Int) : Option Shift :=
  if n.natAbs < int64Bound then some (.millis n) else none

/-- The reach of a number of units, if there is one: the months of the years have to fit a signed
word. -/
def TimeUnit.times? (n : Int) : TimeUnit → Option Shift
  | .year => if Text.inInt64 (12 * n) then Shift.ofMonths? (12 * n) else none
  | .month => Shift.ofMonths? n
  | .day => Shift.ofMillis? (86400000 * n)
  | .hour => Shift.ofMillis? (3600000 * n)
  | .minute => Shift.ofMillis? (60000 * n)
  | .second => Shift.ofMillis? (1000 * n)
  | .millisecond => Shift.ofMillis? n

/-- An instant moved, if it stays in the calendar. -/
def Instant.shift? (zone : TimeZone) (t : Instant) (by_ : Shift) : Option Instant :=
  let moved := match by_ with
    | .months n => t.addMonths? zone n
    | .millis n => some (t.addMillis n)
  moved.filter Instant.inCalendar

/-- An instant moved by an offset that is given as text. It stays where it is if the text is no
integer, the unit is unknown, the count is too large, it would leave the calendar, or clocks do not
show the time just once. -/
def Instant.applyOffset (zone : TimeZone) (t : Instant) (count unit : List Char) : Instant :=
  let moved := do
    let n ← Text.int64? count
    let unit ← TimeUnit.ofName? unit
    let reach ← unit.times? n
    t.shift? zone reach
  moved.getD t

end Volley.Calendar
