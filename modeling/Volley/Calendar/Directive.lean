import Volley.Calendar.Instant
import Volley.Decimal.Layout

/-!
# Fields of a date and time

The parts of an instant that a layout can ask for, how each is written, and the percent directives
by which a pattern names them. `pattern?` gives the text of a pattern; a percent sign that begins no
directive makes the pattern malformed.
-/

namespace Volley.Calendar

/-- A number with zeros in front, to a least number of digits. -/
def padded (width n : Nat) : List Char :=
  let digits := Decimal.digitsOf n
  List.replicate (width - digits.length) '0' ++ digits

/-- A year has four digits at least; outside of the years 0 to 9999 it has a sign as well. -/
def yearText (year : Int) : List Char :=
  if 0 ≤ year ∧ year ≤ 9999 then padded 4 year.toNat
  else (if year < 0 then '-' else '+') :: padded 4 year.natAbs

/-- The distance of a zone from universal time in hours and minutes, the latter rounded to the
nearest.
-/
def zoneText (separator : List Char) (zone : Zone) : List Char :=
  let minutes := (zone.natAbs + 30) / 60
  (if zone < 0 then '-' else '+') :: padded 2 (minutes / 60) ++ separator ++ padded 2 (minutes % 60)

/-- The names of the months. -/
def monthNames : List String :=
  ["January", "February", "March", "April", "May", "June", "July", "August", "September", "October",
    "November", "December"]

/-- The names of the days of the week, from Sunday on. -/
def weekdayNames : List String :=
  ["Sunday", "Monday", "Tuesday", "Wednesday", "Thursday", "Friday", "Saturday"]

/-- A part of a date and time. -/
inductive Field where
  /-- The year in full. -/
  | year
  /-- The last two digits of the year. -/
  | yearOfCentury
  /-- The month as a number. -/
  | monthShort
  /-- The month as a number of two digits. -/
  | month
  /-- The first three letters of the month's name. -/
  | monthAbbreviation
  /-- The name of the month. -/
  | monthName
  /-- The day of the month. -/
  | dayShort
  /-- The day of the month in two digits. -/
  | day
  /-- The first three letters of the weekday's name. -/
  | weekdayAbbreviation
  /-- The name of the weekday. -/
  | weekdayName
  /-- The hour. -/
  | hourShort
  /-- The hour in two digits. -/
  | hour
  /-- The minute. -/
  | minuteShort
  /-- The minute in two digits. -/
  | minute
  /-- The second. -/
  | secondShort
  /-- The second in two digits. -/
  | second
  /-- The milliseconds in three digits. -/
  | milli
  /-- The zone with a colon. -/
  | zoneColon
  /-- The zone without a colon. -/
  | zone
  deriving DecidableEq, Repr

namespace Field

/-- Every field once, in the order of the type. -/
def all : List Field :=
  [.year, .yearOfCentury, .monthShort, .month, .monthAbbreviation, .monthName, .dayShort, .day,
    .weekdayAbbreviation, .weekdayName, .hourShort, .hour, .minuteShort, .minute, .secondShort,
    .second, .milli, .zoneColon, .zone]

/-- How a field is written for an instant in a zone. -/
def text (z : Zone) (t : Instant) : Field → List Char
  | year => yearText (t.date z).year
  | yearOfCentury => padded 2 ((t.date z).year % 100).toNat
  | monthShort => padded 1 (t.date z).month
  | month => padded 2 (t.date z).month
  | monthAbbreviation => (monthNames.getD ((t.date z).month - 1) "").toList.take 3
  | monthName => (monthNames.getD ((t.date z).month - 1) "").toList
  | dayShort => padded 1 (t.date z).day
  | day => padded 2 (t.date z).day
  | weekdayAbbreviation => (weekdayNames.getD (t.date z).weekday "").toList.take 3
  | weekdayName => (weekdayNames.getD (t.date z).weekday "").toList
  | hourShort => padded 1 (t.hour z)
  | hour => padded 2 (t.hour z)
  | minuteShort => padded 1 (t.minute z)
  | minute => padded 2 (t.minute z)
  | secondShort => padded 1 (t.second z)
  | second => padded 2 (t.second z)
  | milli => padded 3 t.milli
  | zoneColon => zoneText [':'] z
  | zone => zoneText [] z

/-- The directive of a field, after the percent sign. -/
def directive : Field → List Char
  | year => ['Y']
  | yearOfCentury => ['y']
  | monthShort => ['-', 'm']
  | month => ['m']
  | monthAbbreviation => ['b']
  | monthName => ['B']
  | dayShort => ['-', 'd']
  | day => ['d']
  | weekdayAbbreviation => ['a']
  | weekdayName => ['A']
  | hourShort => ['-', 'H']
  | hour => ['H']
  | minuteShort => ['-', 'M']
  | minute => ['M']
  | secondShort => ['-', 'S']
  | second => ['S']
  | milli => ['3', 'f']
  | zoneColon => [':', 'z']
  | zone => ['z']

/-- The field whose directive a text begins with. -/
def ofDirective? (s : List Char) : Option Field :=
  all.find? fun field => field.directive.isPrefixOf s

end Field

/-- A piece of a way to write an instant: a field, or a character that stands for itself. -/
inductive FormatPiece where
  /-- A part of the date and time. -/
  | field (f : Field)
  /-- A character. -/
  | char (c : Char)
  deriving DecidableEq, Repr

/-- A way to write an instant. -/
abbrev Format : Type := List FormatPiece

/-- An instant in a zone, written in a given way. -/
def Format.text (z : Zone) (t : Instant) (format : Format) : List Char :=
  format.flatMap fun
    | .field f => f.text z t
    | .char c => [c]

/-- The text of a pattern for an instant in a zone: directives give their fields, two percent signs
give one, and any other character gives itself. A malformed pattern has no text. -/
def renderPattern (z : Zone) (t : Instant) : Nat → List Char → Option (List Char)
  | _, [] => some []
  | 0, _ => none
  | fuel + 1, '%' :: '%' :: rest => (renderPattern z t fuel rest).map ('%' :: ·)
  | fuel + 1, '%' :: rest => do
    let field ← Field.ofDirective? rest
    let later ← renderPattern z t fuel (rest.drop field.directive.length)
    return field.text z t ++ later
  | fuel + 1, c :: rest => (renderPattern z t fuel rest).map (c :: ·)

/-- The text of a pattern. Every step takes a character of it. -/
def pattern? (z : Zone) (t : Instant) (s : List Char) : Option (List Char) :=
  renderPattern z t s.length s

end Volley.Calendar
