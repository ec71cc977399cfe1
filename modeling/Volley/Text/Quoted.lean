import Volley.Text.Hidden

/-!
# Quoted text

Messages quote what they complain about. Between the quotes a backslash introduces the usual short
escapes, the quote itself is escaped, and a character without a visible form is written by its code
point in hexadecimal.
-/

namespace Volley.Text

/-- The hexadecimal digits of a number, in lower case and without leading zeros. -/
def hex (n : Nat) : List Char :=
  Nat.toDigits 16 n

/-- One character as it stands between two `quote`s. -/
def escape (quote c : Char) : List Char :=
  if c = '\x00' then ['\\', '0']
  else if c = '\t' then ['\\', 't']
  else if c = '\r' then ['\\', 'r']
  else if c = '\n' then ['\\', 'n']
  else if c = '\\' ∨ c = quote then ['\\', c]
  else if isHidden c then ['\\', 'u', '\x7b'] ++ hex c.toNat ++ ['\x7d']
  else [c]

/-- A text between two `quote`s. -/
def quoteWith (quote : Char) (s : List Char) : List Char :=
  quote :: s.flatMap (escape quote) ++ [quote]

/-- A string in double quotes. -/
def quoted (s : String) : String :=
  String.ofList (quoteWith '\"' s.toList)

/-- A character in single quotes. -/
def quotedChar (c : Char) : String :=
  String.ofList (quoteWith '\'' [c])

end Volley.Text
