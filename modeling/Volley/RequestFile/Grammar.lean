import Volley.RequestFile.Written

/-!
# The grammar of lines

What the lines of a request file look like that say something. The definition of a variable, a
request line and a header have a *value part*, which is all that follows the mark behind their key
or the method. The value is in the value part with white space around it. A value part that is
nothing but white space has its last character as its value.

A line may look like several things; which of them it says is decided by the order in which they
are tried. Bodies aside, all that a case has is said by lines in this sense (`Case.SaidBy`).
-/

namespace Volley

namespace Line

open Text

/-- Visible ASCII characters. -/
def IsVisible (key : String) : Prop :=
  key ≠ "" ∧ ∀ c ∈ key.toList, isGraph c = true

/-- Lines with a value part, and what they say of its value. -/
inductive HasPart : List Char → (String → Line) → List Char → Prop
  | definition {before space part : List Char} {key : String} : isBlank before = true →
    IsVisible key → isBlank space = true →
      HasPart (before ++ '@' :: (key.toList ++ (space ++ '=' :: part))) (.definition key) part
  | request {before part : List Char} {method : String} {c : Char} : isBlank before = true →
    method = "GET" ∨ method = "POST" → isWhite c = true →
      HasPart (before ++ (method.toList ++ c :: part)) (.request method) part
  | header {before space part : List Char} {key : String} : isBlank before = true →
    IsVisible key → isBlank space = true →
      HasPart (before ++ (key.toList ++ (space ++ ':' :: part))) (.header key) part

/-- The value of a value part: what is between white space at its ends, or its last character if it
is blank. -/
def IsValueOf (value : String) (part : List Char) : Prop :=
  (IsValue value ∧ Padded value.toList part) ∨
    (isBlank part = true ∧ ∃ c, part.getLast? = some c ∧ value = String.singleton c)

/-- A line that names a case: a number sign, the word @name, an equals sign and the name, with white
space around each of them. -/
inductive Names (name : String) : List Char → Prop
  | intro {before afterSign afterWord afterMark after : List Char} : IsName name →
    isBlank before = true → isBlank afterSign = true → isBlank afterWord = true →
      isBlank afterMark = true → isBlank after = true →
        Names name (before ++ '#' :: (afterSign ++ ("@name".toList ++
          (afterWord ++ '=' :: (afterMark ++ name.toList ++ after)))))

/-- A line that begins as a comment: with a number sign or two slashes after white space. -/
inductive BeginsComment : List Char → Prop
  | sharp {before rest : List Char} : isBlank before = true → BeginsComment (before ++ '#' :: rest)
  | slashes {before rest : List Char} : isBlank before = true →
    BeginsComment (before ++ '/' :: '/' :: rest)

/-- What a line says and how it looks. -/
inductive Spelled : Line → List Char → Prop
  | separator {s : List Char} : Padded ['#', '#', '#'] s → Spelled .separator s
  | definition {s part : List Char} {key value : String} : HasPart s (.definition key) part →
    IsValueOf value part → Spelled (.definition key value) s
  | name {s : List Char} {name : String} : Names name s → Spelled (.name name) s
  | comment {s : List Char} : BeginsComment s → Spelled .comment s
  | request {s part : List Char} {method url : String} : HasPart s (.request method) part →
    IsValueOf url part → Spelled (.request method url) s
  | header {s part : List Char} {key value : String} : HasPart s (.header key) part →
    IsValueOf value part → Spelled (.header key value) s
  | blank {s : List Char} : isBlank s = true → Spelled .blank s
  | other (s : List Char) : Spelled .other s

end Line

/-- What a case has apart from its body is said by lines with a property. A case without a request
line has neither a method nor an address. -/
structure Case.SaidBy (P : Line → Prop) (c : Case) : Prop where
  /-- Its name is said. -/
  name : ∀ name ∈ c.name, P (.name name)
  /-- Its method and its address are said by one line. -/
  request : c.method = "" ∧ c.url = "" ∨ P (.request c.method c.url)
  /-- Each of its headers is said. -/
  headers : ∀ header ∈ c.headers, P (.header header.1 header.2)

end Volley
