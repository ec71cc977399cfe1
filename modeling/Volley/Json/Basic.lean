import Volley.Dictionary
import Volley.Decimal.Layout
import Volley.Text.Quoted

/-!
# JSON values

The values that a JSON text denotes, and their compact text. Members of an object are kept in
ascending order of their names, one value for each name, so two texts with the same meaning have the
same value.
-/

namespace Volley

/-- A number: a whole one is exact, any other is a floating-point number. -/
inductive Json.Number where
  /-- A whole number between the least signed and the greatest unsigned 64-bit integer. -/
  | whole (n : Int)
  /-- Any other number. -/
  | real (x : Float)
  deriving BEq, Repr

/-- A JSON value. -/
inductive Json where
  /-- The null value. -/
  | null
  /-- A truth value. -/
  | bool (b : Bool)
  /-- A number. -/
  | number (n : Json.Number)
  /-- A text. -/
  | string (s : String)
  /-- A list of values. -/
  | array (items : List Json)
  /-- Values under names, in ascending order of the names. -/
  | object (members : List (String × Json))
  deriving Inhabited, Repr

namespace Json

/-- The text of a number. -/
def Number.text : Number → String
  | .whole n => toString n
  | .real x => Decimal.compact x

/-- One character inside the quotes of a JSON string: quotes, backslashes and controls are escaped,
and everything else stands for itself. -/
def escape (c : Char) : List Char :=
  if c = '\"' then ['\\', '\"']
  else if c = '\\' then ['\\', '\\']
  else if c = '\x08' then ['\\', 'b']
  else if c = '\x0c' then ['\\', 'f']
  else if c = '\n' then ['\\', 'n']
  else if c = '\r' then ['\\', 'r']
  else if c = '\t' then ['\\', 't']
  else if c.toNat < 0x20 then
    ['\\', 'u', '0', '0'] ++ (if c.toNat < 0x10 then ['0'] else []) ++ Text.hex c.toNat
  else [c]

/-- A JSON string for a text. -/
def quote (s : String) : List Char :=
  '\"' :: s.toList.flatMap escape ++ ['\"']

mutual

/-- The compact text of a value: no white space between its tokens. -/
def write : Json → List Char
  | .null => "null".toList
  | .bool b => (if b then "true" else "false").toList
  | .number n => n.text.toList
  | .string s => quote s
  | .array items => '[' :: writeItems items ++ [']']
  | .object members => '\x7b' :: writeMembers members ++ ['\x7d']

/-- The texts of the items of an array, with commas between them. -/
def writeItems : List Json → List Char
  | [] => []
  | [item] => write item
  | item :: rest => write item ++ ',' :: writeItems rest

/-- The texts of the members of an object, with commas between them. -/
def writeMembers : List (String × Json) → List Char
  | [] => []
  | [(name, value)] => quote name ++ ':' :: write value
  | (name, value) :: rest => quote name ++ ':' :: write value ++ ',' :: writeMembers rest

end

/-- The compact text of a value. -/
def compact (value : Json) : String :=
  String.ofList (write value)

/-- A value as plain text: a string without its quotes, anything else as compact JSON. -/
def plain : Json → String
  | .string s => s
  | value => value.compact

end Json

end Volley
