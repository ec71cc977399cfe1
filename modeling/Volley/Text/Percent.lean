import Volley.Text.Utf8

/-!
# Percent-encoding

In an address a byte that may not stand for itself is written as a percent sign and two hexadecimal
digits. Which bytes may not depends on the part of the address; the bytes outside of the visible
part of ASCII never may, except for the space, which every part decides for itself. A percent sign
without two digits after it stands for itself.
-/

namespace Volley.Text.Percent

/-- The upper-case hexadecimal digit of a number below sixteen. -/
def hexDigit (n : Nat) : Char :=
  "0123456789ABCDEF".toList.getD n '0'

/-- The value of a hexadecimal digit in either case. -/
def hexValue? (c : Char) : Option Nat :=
  "0123456789abcdef".toList.idxOf? c.toLower

/-- A byte as it stands in a part of an address that reserves some characters. -/
def encodeByte (reserved : List Char) (b : UInt8) : List Char :=
  let c := Char.ofNat b.toNat
  if b < 0x20 ∨ 0x7E < b ∨ c ∈ reserved then
    ['%', hexDigit (b.toNat / 16), hexDigit (b.toNat % 16)]
  else [c]

/-- A text as it stands in a part of an address that reserves some characters. -/
def encode (reserved s : List Char) : List Char :=
  (Utf8.encode s).flatMap (encodeByte reserved)

/-- The bytes that a text stands for. -/
def decode : List Char → List UInt8
  | '%' :: a :: b :: rest =>
    match hexValue? a, hexValue? b with
    | some high, some low => (high * 16 + low).toUInt8 :: decode rest
    | _, _ => Utf8.encode ['%'] ++ decode (a :: b :: rest)
  | c :: rest => Utf8.encode [c] ++ decode rest
  | [] => []

end Volley.Text.Percent
