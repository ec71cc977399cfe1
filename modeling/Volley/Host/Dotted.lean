import Volley.Text.Cut
import Volley.Text.Integer

/-!
# Hosts written as numbers with dots

A host whose last part is a number is an address of four bytes. Its parts are numbers between dots,
decimal, octal after a zero or hexadecimal after `0x`; the last of them takes all the bytes that the
others leave. In the canonical form each byte is a decimal number of its own.
-/

namespace Volley.Host.Dotted

/-- The number that digits denote in a base; no digits denote zero. -/
def inBase? (base : Nat) (s : List Char) : Option Nat :=
  s.foldlM (fun n c => do
    let digit ← "0123456789abcdef".toList.idxOf? c.toLower
    if digit < base then some (n * base + digit) else none) 0

/-- A part of a host as a number. -/
def number? : List Char → Option Nat
  | [] => none
  | ['0'] => some 0
  | '0' :: x :: rest => if x = 'x' ∨ x = 'X' then inBase? 16 rest else inBase? 8 (x :: rest)
  | s => Text.natural? s

/-- The parts between dots. A dot at the end makes no part. -/
def parts (s : List Char) : List (List Char) :=
  let all := Text.split (· = '.') s
  if 1 < all.length ∧ all.getLast? = some [] then all.dropLast else all

/-- Whether the last part of a host is a number, or has nothing but digits. -/
def endsInNumber (s : List Char) : Bool :=
  (parts s).getLast?.any fun part => (number? part).isSome || (Text.natural? part).isSome

/-- A number as so many bytes, highest first, if it fits. -/
def bytes? : (count n : Nat) → Option (List Nat)
  | 0, n => if n = 0 then some [] else none
  | count + 1, n => (bytes? count (n / 256)).map (· ++ [n % 256])

/-- The four bytes of a host that ends in a number. -/
def ofText? (s : List Char) : Option (List Nat) := do
  let numbers ← (parts s).mapM number?
  let last ← numbers.getLast?
  let leading ← numbers.dropLast.mapM (bytes? 1)
  if 4 < numbers.length then none
  let rest ← bytes? (4 - leading.length) last
  return leading.flatten ++ rest

/-- Bytes in the canonical form. -/
def toText (bytes : List Nat) : List Char :=
  ['.'].intercalate (bytes.map fun b => (toString b).toList)

end Volley.Host.Dotted
