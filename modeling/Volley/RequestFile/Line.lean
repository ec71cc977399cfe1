import Volley.Text.Cut
import Volley.Text.White
import Volley.Text.Word

/-!
# The lines of a request file

Every line stands for itself. What a line is, is tried in a fixed order: a separator, the definition
of a variable (only before the headers of a case), a name, a comment, a request line, a header, a
blank line; what is none of these has no meaning.

A key, before an equals sign or a colon, is the shortest run of visible ASCII characters after which
the mark and a value follow. A value is the rest of the line without white space at its ends; if the
rest is nothing but white space, its last character is the value.
-/

namespace Volley

/-- What a line of a request file says. -/
inductive Line where
  /-- The end of a case. -/
  | separator
  /-- The definition of a variable. -/
  | definition (key value : String)
  /-- The name of the case. -/
  | name (name : String)
  /-- Text for the reader of the file. -/
  | comment
  /-- The method and the address of the request. -/
  | request (method url : String)
  /-- A header of the request. -/
  | header (key value : String)
  /-- Nothing but white space. -/
  | blank
  /-- Anything else. -/
  | other
  deriving DecidableEq, Repr

namespace Line

open Text

/-- A visible ASCII character. -/
def isGraph (c : Char) : Bool :=
  0x21 ≤ c.toNat && c.toNat ≤ 0x7E

/-- Whether a line ends a case: three number signs, and white space around them. -/
def isSeparator (s : List Char) : Bool :=
  trim s == ['#', '#', '#']

/-- The value in the rest of a line: without white space at its ends, or the last character of a
rest that is all white space. -/
def value? (s : List Char) : Option (List Char) :=
  if isBlank s then s.getLast?.map fun c => [c] else some (trim s)

/-- The value after a mark, which may follow white space. -/
def valueAfter? (mark : Char) (s : List Char) : Option (List Char) :=
  match trimStart s with
  | [] => none
  | c :: rest => if c = mark then value? rest else none

/-- A key, a mark and a value. -/
def keyValue? (mark : Char) : List Char → Option (List Char × List Char)
  | [] => none
  | c :: rest =>
    if isGraph c then
      match valueAfter? mark rest with
      | some value => some ([c], value)
      | none => (keyValue? mark rest).map fun (key, value) => (c :: key, value)
    else none

/-- The definition of a variable: an at sign, a key, an equals sign and a value. -/
def definition? (s : List Char) : Option (List Char × List Char) :=
  match trimStart s with
  | '@' :: rest => keyValue? '=' rest
  | _ => none

/-- The name of a case: a number sign, the word @name, an equals sign, and word characters. -/
def name? (s : List Char) : Option (List Char) :=
  match trim s with
  | '#' :: rest =>
    match dropStart? "@name".toList (trimStart rest) with
    | none => none
    | some rest =>
      match trimStart rest with
      | '=' :: rest =>
        let word := trimStart rest
        if !word.isEmpty && word.all isWord then some word else none
      | _ => none
  | _ => none

/-- Whether a line is a comment: it begins with a number sign or two slashes. -/
def isComment (s : List Char) : Bool :=
  match trimStart s with
  | '#' :: _ => true
  | '/' :: '/' :: _ => true
  | _ => false

/-- The address after a method: white space and a value. -/
def address? : List Char → Option (List Char)
  | [] => none
  | c :: rest => if isWhite c then value? rest else none

/-- A request line: one of the two methods, and an address. -/
def request? (s : List Char) : Option (List Char × List Char) :=
  match trimStart s with
  | 'G' :: 'E' :: 'T' :: rest => (address? rest).map fun url => (['G', 'E', 'T'], url)
  | 'P' :: 'O' :: 'S' :: 'T' :: rest => (address? rest).map fun url => (['P', 'O', 'S', 'T'], url)
  | _ => none

/-- A header: a key, a colon and a value. -/
def header? (s : List Char) : Option (List Char × List Char) :=
  keyValue? ':' (trimStart s)

/-- What a line says that is not part of a body. Variables are defined only where `mayDefine`. -/
def read (mayDefine : Bool) (s : List Char) : Line :=
  if isSeparator s then .separator
  else
    match if mayDefine then definition? s else none with
    | some (key, value) => .definition (String.ofList key) (String.ofList value)
    | none =>
      match name? s with
      | some word => .name (String.ofList word)
      | none =>
        if isComment s then .comment
        else
          match request? s with
          | some (method, url) => .request (String.ofList method) (String.ofList url)
          | none =>
            match header? s with
            | some (key, value) => .header (String.ofList key) (String.ofList value)
            | none => if isBlank s then .blank else .other

end Line

end Volley
