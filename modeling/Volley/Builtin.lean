import Volley.Count
import Volley.Template
import Volley.World

/-!
# Built-in functions

A key that begins with a dollar sign is the name of a function and its arguments, with white space
between them. The functions give the current time, as a number or by a layout and moved by an offset
if one is given, random integers, and random lines of files. Which argument is which is told by
their number and order alone.
-/

namespace Volley.Builtin

open Calendar

/-- The greatest signed 64-bit integer. -/
def int64Max : Int := int64Bound - 1

/-- The time, moved by the last two arguments if there are `expected` words in all. -/
def offsetTime (w : World) (zone : TimeZone) (words : List (List Char)) (expected : Nat) :
    Instant :=
  if words.length = expected then
    match words.drop (expected - 2) with
    | [count, unit] => w.now.applyOffset zone count unit
    | _ => w.now
  else w.now

/-- A random integer. With two integers as arguments it is one of as many as the second says, from
the first on; a second one that is not positive leaves the first. Otherwise it is any that is not
negative.
-/
def randomInteger (w : World) (arguments : List (List Char)) : Int :=
  let bounds := match arguments with
    | [low, count] => do
      let low ← Text.int64? low
      let count ← Text.int64? count
      return (low, count)
    | _ => none
  match bounds with
  | some (low, count) =>
    if 0 < count then min (low + (w.chance 0 % count.toNat : Nat)) int64Max else low
  | none => (w.chance 0 % int64Bound : Nat)

/-- The time by a layout. -/
def datetime (w : World) (zone : TimeZone) (words : List (List Char)) : String :=
  let layout := match words with
    | _ :: layout :: _ => String.ofList layout
    | _ => "rfc3339"
  localTime zone (offsetTime w zone words 4) layout

/-- A random line of a file; nothing if there is none. -/
def randomLine (w : World) (arguments : List (List Char)) : String :=
  match arguments with
  | path :: _ => ((w.linesOf (String.ofList path)).bind (choose? (w.chance 0))).getD ""
  | [] => ""

/-- The path of the file that a key takes a random line from, if it takes one. -/
def linesPath? (key : String) : Option String :=
  match Text.words key.toList with
  | name :: path :: _ =>
    if String.ofList name = "$randomFromFile" then some (String.ofList path) else none
  | _ => none

/-- The value of a key, if it names a function. -/
def evaluate (w : World) : Resolver := fun key =>
  match Text.words key.toList with
  | [] => none
  | name :: arguments =>
    let words := name :: arguments
    match String.ofList name with
    | "$timestamp" => some (toString (offsetTime w 0 words 3).seconds)
    | "$timestampms" => some (toString (offsetTime w 0 words 3).millis)
    | "$randomInt" => some (toString (randomInteger w arguments))
    | "$datetime" => some (datetime w 0 words)
    | "$localDatetime" => some (datetime w w.zone words)
    | "$randomFromFile" => some (randomLine w arguments)
    | _ => none

end Volley.Builtin
