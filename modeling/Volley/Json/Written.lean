import Volley.Text.Integer

/-!
# JSON as it is written

The grammar of JSON text, read into a tree that keeps what the writer wrote: numbers by their
digits, strings by their units, members in their order and with repeated names. What such a tree
means is decided elsewhere (in `Volley.Json.Value` for values), so one grammar serves every reader,
also one that passes over parts of a text.

The reader of a value is given how deep it may nest; the length of the text always suffices, because
each level takes a bracket.
-/

namespace Volley.Json

/-- A number as written: an optional minus, the digits before the point, those after it, and the
exponent with its sign. -/
structure Numeral where
  /-- Whether a minus stands in front. -/
  negative : Bool
  /-- The digits before the point. -/
  whole : List Nat
  /-- The digits after the point, if there is one. -/
  fraction : Option (List Nat)
  /-- Whether the exponent is negative, and its digits. -/
  exponent : Option (Bool × List Nat)
  deriving DecidableEq, Repr

/-- A unit of a string as written. -/
inductive StringUnit where
  /-- A character that stands for itself or is named by a short escape. -/
  | char (c : Char)
  /-- A 16-bit code given by four hexadecimal digits. -/
  | code (n : Nat)
  deriving DecidableEq, Repr

/-- A JSON text as a tree. -/
inductive Written where
  /-- The word null. -/
  | null
  /-- The words true and false. -/
  | bool (b : Bool)
  /-- A number. -/
  | numeral (n : Numeral)
  /-- A string. -/
  | string (units : List StringUnit)
  /-- An array. -/
  | array (items : List Written)
  /-- An object, with its members as they stand. -/
  | object (members : List (List StringUnit × Written))
  deriving Inhabited

/-- A reader takes a value from the start of a text and returns the rest. -/
abbrev Reader (α : Type) : Type := List Char → Option (α × List Char)

/-- The four characters that may stand between tokens. -/
def isBlank (c : Char) : Bool :=
  c = ' ' || c = '\t' || c = '\n' || c = '\r'

/-- A text without the blanks at its start. -/
def skipBlanks (s : List Char) : List Char :=
  s.dropWhile isBlank

/-- The value of a hexadecimal digit. -/
def hexDigit? (c : Char) : Option Nat :=
  if '0' ≤ c ∧ c ≤ '9' then some (c.toNat - '0'.toNat)
  else if 'a' ≤ c ∧ c ≤ 'f' then some (c.toNat - 'a'.toNat + 10)
  else if 'A' ≤ c ∧ c ≤ 'F' then some (c.toNat - 'A'.toNat + 10)
  else none

/-- The digits that a text begins with. -/
def digits : List Char → List Nat × List Char
  | [] => ([], [])
  | c :: rest =>
    match Text.asciiDigit? c with
    | some d => (d :: (digits rest).1, (digits rest).2)
    | none => ([], c :: rest)

/-- One digit or more. -/
def someDigits : Reader (List Nat) := fun s =>
  match digits s with
  | ([], _) => none
  | (ds, rest) => some (ds, rest)

/-- The digits before the point: a zero stands alone. -/
def wholePart : Reader (List Nat) := fun s =>
  match someDigits s with
  | some (0 :: _ :: _, _) => none
  | other => other

/-- The point and at least one digit, if a point is next. -/
def fractionPart : Reader (Option (List Nat))
  | '.' :: rest => (someDigits rest).map fun (ds, rest) => (some ds, rest)
  | s => some (none, s)

/-- The mark of an exponent, its sign and at least one digit, if the mark is next. -/
def exponentPart : Reader (Option (Bool × List Nat))
  | [] => some (none, [])
  | c :: rest =>
    if c = 'e' ∨ c = 'E' then
      match rest with
      | '+' :: rest => (someDigits rest).map fun (ds, rest) => (some (false, ds), rest)
      | '-' :: rest => (someDigits rest).map fun (ds, rest) => (some (true, ds), rest)
      | rest => (someDigits rest).map fun (ds, rest) => (some (false, ds), rest)
    else some (none, c :: rest)

/-- A number without its sign. -/
def unsignedNumeral (negative : Bool) : Reader Numeral := fun s => do
  let (whole, rest) ← wholePart s
  let (fraction, rest) ← fractionPart rest
  let (exponent, rest) ← exponentPart rest
  return (⟨negative, whole, fraction, exponent⟩, rest)

/-- A number. -/
def numeral : Reader Numeral
  | '-' :: rest => unsignedNumeral true rest
  | s => unsignedNumeral false s

/-- The character that a short escape names. -/
def shortEscape? (c : Char) : Option Char :=
  match c with
  | '\"' => some '\"'
  | '\\' => some '\\'
  | '/' => some '/'
  | 'b' => some '\x08'
  | 'f' => some '\x0c'
  | 'n' => some '\n'
  | 'r' => some '\r'
  | 't' => some '\t'
  | _ => none

/-- A string after its opening quote, up to and with the closing one. Control characters have to be
escaped. -/
def stringBody : Reader (List StringUnit)
  | [] => none
  | '\"' :: rest => some ([], rest)
  | '\\' :: 'u' :: a :: b :: c :: d :: rest => do
    let a ← hexDigit? a
    let b ← hexDigit? b
    let c ← hexDigit? c
    let d ← hexDigit? d
    let (units, rest) ← stringBody rest
    return (.code (((a * 16 + b) * 16 + c) * 16 + d) :: units, rest)
  | '\\' :: e :: rest => do
    let c ← shortEscape? e
    let (units, rest) ← stringBody rest
    return (.char c :: units, rest)
  | c :: rest =>
    if c.toNat < 0x20 ∨ c = '\\' then none
    else do
      let (units, rest) ← stringBody rest
      return (.char c :: units, rest)

/-- Items up to and with the closing bracket `close`, with commas between them; there is at least
one. Each item takes a character, so the length of the text bounds their number. -/
def itemsUpTo {α : Type} (close : Char) (item : Reader α) : Nat → Reader (List α)
  | 0, _ => none
  | fuel + 1, s => do
    let (x, rest) ← item s
    match skipBlanks rest with
    | [] => none
    | c :: rest =>
      if c = ',' then do
        let (xs, rest) ← itemsUpTo close item fuel rest
        return (x :: xs, rest)
      else if c = close then return ([x], rest)
      else none

/-- What follows an opening bracket: nothing or items, and the closing bracket `close`. -/
def bracketed {α : Type} (close : Char) (item : Reader α) : Reader (List α) := fun s =>
  match skipBlanks s with
  | [] => none
  | c :: rest => if c = close then some ([], rest) else itemsUpTo close item s.length (c :: rest)

/-- A member of an object: a string, a colon, and a value. -/
def member {α : Type} (value : Reader α) : Reader (List StringUnit × α) := fun s =>
  match skipBlanks s with
  | '\"' :: rest => do
    let (name, rest) ← stringBody rest
    match skipBlanks rest with
    | ':' :: rest => do
      let (v, rest) ← value rest
      return ((name, v), rest)
    | _ => none
  | _ => none

/-- A value that holds no other: a word, a number or a string. -/
def scalar (s : List Char) : Option (Written × List Char) :=
  match s with
  | '\"' :: rest => (stringBody rest).map fun (units, rest) => (.string units, rest)
  | 'n' :: 'u' :: 'l' :: 'l' :: rest => some (.null, rest)
  | 't' :: 'r' :: 'u' :: 'e' :: rest => some (.bool true, rest)
  | 'f' :: 'a' :: 'l' :: 's' :: 'e' :: rest => some (.bool false, rest)
  | s => (numeral s).map fun (n, rest) => (.numeral n, rest)

/-- A value that nests at most `depth` deep, after optional blanks. -/
def value : Nat → Reader Written
  | 0, s => scalar (skipBlanks s)
  | depth + 1, s =>
    match skipBlanks s with
    | '[' :: rest =>
      (bracketed ']' (value depth) rest).map fun (items, rest) => (.array items, rest)
    | '\x7b' :: rest =>
      (bracketed '\x7d' (member (value depth)) rest).map fun (members, rest) =>
        (.object members, rest)
    | s => scalar s

/-- The tree of a JSON text: one value, and nothing but blanks around it. -/
def Written.read? (s : List Char) : Option Written := do
  let (v, rest) ← value s.length s
  if (skipBlanks rest).isEmpty then some v else none

end Volley.Json
