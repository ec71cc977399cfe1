import Volley.Calendar.Directive

/-!
# Layouts

A layout says how a date and time is written: by one of three names, or in a small language of its
own in which runs of the letters Y, M, D, H, m, s, S, Z and d stand for fields. A run that is no
token stands for itself, and so does every other character. A layout is carried over into a pattern
of directives in two steps: its percent signs are doubled, and then its runs are replaced.
-/

namespace Volley.Calendar

/-- The letters that tokens are made of. -/
def isTokenLetter (c : Char) : Bool :=
  c = 'Y' || c = 'M' || c = 'D' || c = 'H' || c = 'm' || c = 's' || c = 'S' || c = 'Z' || c = 'd'

/-- The field that a run of letters stands for. -/
def token? (run : List Char) : Option Field :=
  match String.ofList run with
  | "YYYY" => some .year
  | "YY" => some .yearOfCentury
  | "M" => some .monthShort
  | "MM" => some .month
  | "MMM" => some .monthAbbreviation
  | "MMMM" => some .monthName
  | "D" => some .dayShort
  | "DD" => some .day
  | "ddd" => some .weekdayAbbreviation
  | "dddd" => some .weekdayName
  | "H" => some .hourShort
  | "HH" => some .hour
  | "m" => some .minuteShort
  | "mm" => some .minute
  | "s" => some .secondShort
  | "ss" => some .second
  | "SSS" => some .milli
  | "Z" => some .zoneColon
  | "ZZ" => some .zone
  | _ => none

/-- A piece of a layout. -/
inductive LayoutPiece where
  /-- A maximal run of token letters. -/
  | run (letters : List Char)
  /-- Any other character. -/
  | char (c : Char)
  deriving DecidableEq, Repr

/-- Puts a token letter in front of the pieces of a layout. -/
def LayoutPiece.consLetter (c : Char) : List LayoutPiece → List LayoutPiece
  | .run letters :: rest => .run (c :: letters) :: rest
  | pieces => .run [c] :: pieces

/-- The pieces of a layout. -/
def layoutPieces : List Char → List LayoutPiece
  | [] => []
  | c :: rest =>
    if isTokenLetter c then LayoutPiece.consLetter c (layoutPieces rest)
    else .char c :: layoutPieces rest

/-- A text with every percent sign doubled. -/
def doublePercents (s : List Char) : List Char :=
  s.flatMap fun c => if c = '%' then ['%', '%'] else [c]

/-- A piece of a layout as a piece of a pattern. -/
def LayoutPiece.pattern : LayoutPiece → List Char
  | .run letters =>
    match token? letters with
    | some field => '%' :: field.directive
    | none => letters
  | .char c => [c]

/-- The pattern of a layout. Its percent signs are doubled first, and then its runs give way to
directives. -/
def layoutPattern (layout : List Char) : List Char :=
  (layoutPieces (doublePercents layout)).flatMap LayoutPiece.pattern

/-- The date and the time of day, with a T between them. -/
def dateAndTime : Format :=
  [.field .year, .char '-', .field .month, .char '-', .field .day, .char 'T', .field .hour,
    .char ':', .field .minute, .char ':', .field .second]

/-- The weekday, the date with the name of the month, and the time of day. -/
def longDateAndTime : Format :=
  [.field .weekdayAbbreviation, .char ',', .char ' ', .field .day, .char ' ',
    .field .monthAbbreviation, .char ' ', .field .year, .char ' ', .field .hour,
    .char ':', .field .minute, .char ':', .field .second]

/-- Writes an instant by a layout. Of the named ones, rfc3339 has a Z in place of a zone of zero,
and rfc1123 is in universal time. -/
def formatTime (z : Zone) (t : Instant) (layout : String) : String :=
  String.ofList <|
    match layout with
    | "rfc3339" => Format.text z t dateAndTime ++ if z = 0 then ['Z'] else zoneText [':'] z
    | "rfc1123" => Format.text 0 t longDateAndTime ++ " GMT".toList
    | "iso8601" =>
      Format.text z t (dateAndTime ++ [.char '.', .field .milli]) ++ zoneText [':'] z
    | layout => (pattern? z t (layoutPattern layout.toList)).getD []

/-- Writes an instant by a layout, as clocks show it at a place. -/
def localTime (zone : TimeZone) (t : Instant) (layout : String) : String :=
  formatTime (t.zoneIn zone) t layout

end Volley.Calendar
