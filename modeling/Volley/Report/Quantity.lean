import Volley.Count
import Volley.Decimal.Fixed

/-!
# Quantities for the eye

Counts with commas between groups of three digits, durations in the largest units that fit, and
sizes in binary units.
-/

namespace Volley.Quantity

open Decimal

/-- The largest count that a 64-bit number holds. -/
def countMax : Nat := word64Bound - 1

/-- The count nearest to a number, where a half goes up; what is below zero or no number counts as
nothing, and what is too large as the largest count. -/
def nearestCount (x : Float) : Nat :=
  match Decoded.ofFloat x with
  | .nan => 0
  | .infinite negative => if negative then 0 else countMax
  | .finite b =>
    if b.negative then 0
    else min ((2 * b.numerator + b.denominator) / (2 * b.denominator)) countMax

/-- Puts a comma before every digit that has a positive multiple of three digits from it on, except
before the first. -/
def groupDigits : List Char → List Char
  | [] => []
  | [c] => [c]
  | c :: rest => if rest.length % 3 = 0 then c :: ',' :: groupDigits rest else c :: groupDigits rest

/-- A count with commas between groups of three digits. -/
def thousands (n : Nat) : String :=
  String.ofList (groupDigits (digitsOf n))

/-- A text without the given character at its end. -/
def dropTrailing (c : Char) (s : List Char) : List Char :=
  (s.reverse.dropWhile (· == c)).reverse

/-- A number with three decimals at most: zeros at the end are dropped, and the point with them. -/
def decimal (x : Float) : String :=
  String.ofList (dropTrailing '.' (dropTrailing '0' (fixed 3 x).toList))

/-- A number of seconds as a duration. Below a second one unit is chosen by size. From there on the
seconds are rounded to milliseconds once, before they are split into hours and minutes. -/
def duration (secs : Float) : String :=
  if !secs.isFinite || secs ≤ 0 then "0s"
  else if secs < 1e-6 then toString (nearestCount (secs * 1e9)) ++ "ns"
  else if secs < 1e-3 then decimal (secs * 1e6) ++ "µs"
  else if secs < 1 then decimal (secs * 1e3) ++ "ms"
  else
    let millis := nearestCount (secs * 1e3)
    if millis < 60000 then decimal (Float.ofNat millis / 1e3) ++ "s"
    else
      let minutes := millis / 60000
      let rest := decimal (Float.ofNat (millis % 60000) / 1e3) ++ "s"
      if minutes < 60 then toString minutes ++ "m" ++ rest
      else toString (minutes / 60) ++ "h" ++ toString (minutes % 60) ++ "m" ++ rest

/-- A number of bytes in the largest binary unit that it reaches, with three decimals. -/
def byteSize (bytes : Float) : String :=
  if bytes < 1024 then fixed 3 bytes ++ "B"
  else if bytes < 1048576 then fixed 3 (bytes / 1024) ++ "K"
  else if bytes < 1073741824 then fixed 3 (bytes / 1048576) ++ "M"
  else fixed 3 (bytes / 1073741824) ++ "G"

end Volley.Quantity
