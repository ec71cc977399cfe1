import Volley.Calendar.Directive
import Volley.Text.Digit
import Volley.World

/-!
# Shapes of values

A value that looks like a date or a time is recognised by its shape: runs of digits of given
lengths, in whatever script, with marks between them. A recognised value is replaced by another of
the same shape, for dates and times by a random local time near the present.
-/

namespace Volley.Mock

/-- A piece of a shape. -/
inductive ShapePiece where
  /-- Exactly this many digits. -/
  | digits (count : Nat)
  /-- One digit or more. -/
  | someDigits
  /-- A mark between digits. -/
  | mark (c : Char)
  /-- A given text. -/
  | literal (s : List Char)
  deriving DecidableEq, Repr

/-- Characters that have a meaning in patterns; a backslash in front takes it away. -/
def isMeta (c : Char) : Bool :=
  "\\.+*?()|[]\x7b\x7d^$#&-~".toList.contains c

namespace ShapePiece

/-- The rest of a text after the piece, if it begins with it. -/
def strip? (s : List Char) : ShapePiece → Option (List Char)
  | .digits count =>
    if (s.take count).length = count ∧ (s.take count).all Text.isDigit then some (s.drop count)
    else none
  | .someDigits =>
    match s with
    | [] => none
    | c :: rest => if Text.isDigit c then some (rest.dropWhile Text.isDigit) else none
  | .mark m =>
    match s with
    | [] => none
    | c :: rest => if c = m then some rest else none
  | .literal t => if t.isPrefixOf s then some (s.drop t.length) else none

/-- The piece as it stands in the text of a pattern. Of the marks only the dot is escaped. -/
def source : ShapePiece → List Char
  | .digits count => "\\d\x7b".toList ++ Decimal.digitsOf count ++ ['\x7d']
  | .someDigits => "\\d+".toList
  | .mark c => if c = '.' then ['\\', '.'] else [c]
  | .literal s => s.flatMap fun c => if isMeta c then ['\\', c] else [c]

end ShapePiece

/-- What all values of a kind look like. -/
abbrev Shape : Type := List ShapePiece

namespace Shape

/-- Whether a whole text has a shape. -/
def covers : Shape → List Char → Bool
  | [], s => s.isEmpty
  | piece :: rest, s =>
    match piece.strip? s with
    | some after => covers rest after
    | none => false

/-- The text of the pattern of a shape. -/
def source (shape : Shape) : String :=
  String.ofList ('^' :: shape.flatMap ShapePiece.source ++ ['$'])

end Shape

/-- The milliseconds that a random time may lie before or after the present: thirty days. -/
def timeWindow : Nat := 30 * 86400000

/-- A random time within the window around the present. -/
def randomTime (w : World) : Calendar.Instant :=
  w.now.addMillis ((w.chance 0 % (2 * timeWindow) : Nat) - (timeWindow : Int))

/-- A kind of values that is recognised, and what replaces them. -/
structure Pattern where
  /-- The text of the pattern. -/
  source : String
  /-- Whether a value is of this kind. -/
  recognizes : String → Bool
  /-- A value in place of one of this kind. -/
  make : World → String

/-- The pattern for the values of a shape. -/
def Shape.pattern (shape : Shape) (make : World → String) : Pattern :=
  ⟨shape.source, fun value => shape.covers value.toList, make⟩

/-- The pattern for numbered texts, a given text and digits after it, which are all replaced by the
same text. -/
def Pattern.numbered (text out : String) : Pattern :=
  Shape.pattern [.literal text.toList, .someDigits] fun _ => out

/-- A random local time, written in a given way. -/
def timeText (format : Calendar.Format) (w : World) : String :=
  String.ofList (Calendar.Format.text ((randomTime w).zoneIn w.zone) (randomTime w) format)

/-- The date part of the formats, with a mark between its fields. -/
def dateFormat (mark : Char) (first : Calendar.Field) : Calendar.Format :=
  [.field first, .char mark, .field .month, .char mark, .field .day]

/-- The time of day in hours, minutes and seconds. -/
def timeFormat : Calendar.Format :=
  [.field .hour, .char ':', .field .minute, .char ':', .field .second]

/-- The shape of a date. -/
def dateShape (mark : Char) (yearDigits : Nat) : Shape :=
  [.digits yearDigits, .mark mark, .digits 2, .mark mark, .digits 2]

/-- The shape of a time of day. -/
def timeShape : Shape :=
  [.digits 2, .mark ':', .digits 2, .mark ':', .digits 2]

/-- The shapes of dates and times, each with the way in which a random time of that shape is written.
-/
def builtinShapes : List (Shape × Calendar.Format) := [
  (dateShape '-' 4, dateFormat '-' .year),
  (dateShape '/' 4, dateFormat '/' .year),
  (dateShape '/' 2, dateFormat '/' .yearOfCentury),
  (timeShape, timeFormat),
  (dateShape '-' 4 ++ [.mark 'T'] ++ timeShape ++ [.mark '.', .digits 3],
    dateFormat '-' .year ++ [.char 'T'] ++ timeFormat ++ [.char '.', .field .milli]),
  (dateShape '-' 4 ++ [.mark ' '] ++ timeShape, dateFormat '-' .year ++ [.char ' '] ++ timeFormat)]

/-- The patterns for dates and times, in the order in which they are tried. -/
def builtinPatterns : List Pattern :=
  builtinShapes.map fun shape => shape.1.pattern (timeText shape.2)

end Volley.Mock
