import Volley.Count
import Volley.Json.Value
import Volley.Settings.Basic

/-!
# Settings as JSON

Settings are written as an object with their parts in a fixed order; a rate that is not limited is
left out. They are read from an object in which any part may be missing and keys that are not known
mean nothing, or from an array that gives the parts by their place. A part that stands twice, has
another type or is out of range makes the whole text unreadable.
-/

namespace Volley.Settings

open Json

/-- A whole number below a bound. -/
def count? (bound : Nat) : Written → Option Nat
  | .numeral n =>
    match n.value? with
    | some (.whole k) => if 0 ≤ k ∧ k < bound then some k.toNat else none
    | _ => none
  | _ => none

/-- A whole number of 64 bits. -/
def word64? (w : Written) : Option UInt64 :=
  (count? word64Bound w).map UInt64.ofNat

/-- A whole number of 16 bits. -/
def word16? (w : Written) : Option UInt16 :=
  (count? word16Bound w).map UInt16.ofNat

/-- A whole number of 64 bits, or the word null for none. -/
def optionalWord64? : Written → Option (Option UInt64)
  | .null => some none
  | w => (word64? w).map some

/-- A text. -/
def text? : Written → Option String
  | .string units => unitsText? units
  | _ => none

/-- A truth value. -/
def flag? : Written → Option Bool
  | .bool b => some b
  | _ => none

/-- A way to find the parts of settings in a text, by name and by place: nothing if the part is
missing, and no answer at all if it stands twice. -/
abbrev Parts : Type := String → Nat → Option (Option Written)

/-- A part, read by `read`, or its default where it is missing. -/
def part {α : Type} (parts : Parts) (name : String) (place : Nat) (read : Written → Option α)
    (default : α) : Option α :=
  match parts name place with
  | none => none
  | some none => some default
  | some (some w) => read w

/-- The settings with the given parts. -/
def ofParts? (parts : Parts) : Option Settings := do
  let default : Settings := {}
  let connections ← part parts "connections" 0 word64? default.connections
  let requests ← part parts "requests" 1 word64? default.requests
  let rateLimit ← part parts "rate_limit" 2 optionalWord64? default.rateLimit
  let expectedStatus ← part parts "expected_status" 3 word16? default.expectedStatus
  let locale ← part parts "mocker" 4 text? default.locale
  let timeout ← part parts "timeout_ms" 5 word64? default.timeout
  let maxIdle ← part parts "max_idle_per_host" 6 word64? default.maxIdle
  let verbose ← part parts "verbose" 7 flag? default.verbose
  return ⟨connections, requests, rateLimit, expectedStatus, locale, timeout, maxIdle, verbose⟩

/-- The number of parts. -/
def partCount : Nat := 8

/-- The parts in the members of an object. -/
def memberParts (members : List (String × Written)) : Parts := fun name _ =>
  match members.filter fun member => member.1 == name with
  | [] => some none
  | [(_, w)] => some (some w)
  | _ => none

/-- The parts in the items of an array. -/
def itemParts (items : List Written) : Parts := fun _ place =>
  some items[place]?

/-- The settings that a tree of JSON text gives. -/
def ofWritten? : Written → Option Settings
  | .object members => do
    let named ← members.mapM fun member => (unitsText? member.1).map fun name => (name, member.2)
    ofParts? (memberParts named)
  | .array items => if items.length ≤ partCount then ofParts? (itemParts items) else none
  | _ => none

/-- The settings of a JSON text. -/
def parse? (s : String) : Option Settings :=
  (Written.read? s.toList).bind ofWritten?

/-- A word of 64 bits as a JSON value. -/
def wordValue (n : UInt64) : Json :=
  .number (.whole n.toNat)

/-- The parts of settings with their names, in the order in which they are written. -/
def members (s : Settings) : List (String × Json) :=
  [("connections", wordValue s.connections), ("requests", wordValue s.requests)] ++
    (match s.rateLimit with
      | some rate => [("rate_limit", wordValue rate)]
      | none => []) ++
    [("expected_status", .number (.whole s.expectedStatus.toNat)), ("mocker", .string s.locale),
      ("timeout_ms", wordValue s.timeout), ("max_idle_per_host", wordValue s.maxIdle),
      ("verbose", .bool s.verbose)]

/-- The compact JSON text of settings. -/
def json (s : Settings) : String :=
  String.ofList ('\x7b' :: writeMembers s.members ++ ['\x7d'])

end Volley.Settings
