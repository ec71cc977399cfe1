import Mathlib.Tactic.MkIffOfInductiveProp
import Volley.RequestFile.Basic
import Volley.RequestFile.Line

/-!
# Written request files

How a request file is written down when it is made from its parts. A file is a sequence of blocks
with separators between them. A block begins with the variables that it defines; then come the name
of its case, if there is one, the request line and the headers; and the lines of the body follow an
empty line. Every line is ended by a line feed.

`Block.IsWritable` says which parts can be told apart again in the lines that they are written on.
-/

namespace Volley

/-- A block of a request file, in parts. -/
structure Block where
  /-- The variables that the block defines, with their values. -/
  definitions : List (String × String) := []
  /-- The name of the case. -/
  name : Option String := none
  /-- The method. -/
  method : String
  /-- The address. -/
  url : String
  /-- The headers. -/
  headers : List Header := []
  /-- The lines of the body; there is no body without lines. -/
  bodyLines : List String := []
  deriving DecidableEq, Repr

namespace Block

/-- The case of a block. It holds nothing that was sent or received. -/
def toCase (b : Block) : Case where
  name := b.name
  method := b.method
  url := b.url
  headers := b.headers
  body := "\n".intercalate b.bodyLines

/-- The line that defines a variable. -/
def definitionLine (definition : String × String) : String :=
  "@" ++ definition.1 ++ " = " ++ definition.2

/-- The line that names a case. -/
def nameLine (name : String) : String :=
  "# @name = " ++ name

/-- The line of a method and an address. -/
def requestLine (method url : String) : String :=
  method ++ " " ++ url

/-- The line of a header. -/
def headerLine (header : Header) : String :=
  header.1 ++ ": " ++ header.2

/-- The lines of a body, after an empty one. -/
def bodyPart (bodyLines : List String) : List String :=
  if bodyLines.isEmpty then [] else "" :: bodyLines

/-- The lines of a block. -/
def lines (b : Block) : List String :=
  b.definitions.map definitionLine ++ b.name.toList.map nameLine ++
    [requestLine b.method b.url] ++ b.headers.map headerLine ++ bodyPart b.bodyLines

end Block

/-- The line between two blocks. -/
def separatorLine : String := "###"

/-- The text of a file with the given blocks. -/
def RequestFile.write (blocks : List Block) : String :=
  String.join (([separatorLine].intercalate (blocks.map Block.lines)).map (· ++ "\n"))

namespace Line

/-- A text that can be the value of a variable or of a header, or an address: it is on one line, not
empty, and without white space at its ends. -/
@[mk_iff] structure IsValue (s : String) : Prop where
  /-- The text is not empty. -/
  ne_empty : s ≠ ""
  /-- The text is on one line. -/
  line : '\n' ∉ s.toList
  /-- It does not begin with white space. -/
  first : ∀ c ∈ s.toList.head?, Text.isWhite c = false
  /-- It does not end in white space. -/
  last : ∀ c ∈ s.toList.getLast?, Text.isWhite c = false

/-- A text that can be a key before a mark: visible ASCII characters other than the mark. -/
@[mk_iff] structure IsKey (mark : Char) (s : String) : Prop where
  /-- The text is not empty. -/
  ne_empty : s ≠ ""
  /-- All characters are visible ASCII characters. -/
  graph : ∀ c ∈ s.toList, isGraph c = true
  /-- The mark is not one of them. -/
  mark : mark ∉ s.toList

/-- A text that can be the name of a header: a key that begins neither as a comment nor as the
definition of a variable does. -/
@[mk_iff] structure IsHeaderName (s : String) : Prop extends IsKey ':' s where
  /-- The text does not begin with a number sign. -/
  noSharp : s.toList.head? ≠ some '#'
  /-- The text does not begin with two slashes. -/
  noSlashes : ¬ ['/', '/'] <+: s.toList
  /-- The text does not begin with an at sign. -/
  noAt : s.toList.head? ≠ some '@'

/-- A text that can stand on a line: no line end is in it. -/
@[mk_iff] structure IsLine (s : String) : Prop where
  /-- There is no line feed in it. -/
  line : '\n' ∉ s.toList
  /-- It does not end in a carriage return, which would be part of the line end. -/
  last : s.toList.getLast? ≠ some '\r'

/-- A text that can be a line of a body: it can stand on a line and is no separator. -/
@[mk_iff] structure IsBodyLine (s : String) : Prop extends IsLine s where
  /-- It is no separator. -/
  separator : isSeparator s.toList = false

/-- A text that can be the name of a case: word characters. -/
@[mk_iff] structure IsName (s : String) : Prop where
  /-- The text is not empty. -/
  ne_empty : s ≠ ""
  /-- All characters are word characters. -/
  word : ∀ c ∈ s.toList, Text.isWord c = true

instance (s : String) : Decidable (IsValue s) :=
  decidable_of_iff
    (s ≠ "" ∧ '\n' ∉ s.toList ∧ s.toList.head?.all (fun c => !Text.isWhite c) = true ∧
      s.toList.getLast?.all (fun c => !Text.isWhite c) = true)
    (by simp [isValue_iff, Option.all_eq_true])

instance (mark : Char) (s : String) : Decidable (IsKey mark s) :=
  decidable_of_iff (s ≠ "" ∧ s.toList.all isGraph = true ∧ mark ∉ s.toList) (by simp [isKey_iff])

instance (s : String) : Decidable (IsName s) :=
  decidable_of_iff (s ≠ "" ∧ s.toList.all Text.isWord = true) (by simp [isName_iff])

instance (s : String) : Decidable (IsHeaderName s) := decidable_of_iff' _ (isHeaderName_iff s)

instance (s : String) : Decidable (IsLine s) := decidable_of_iff' _ (isLine_iff s)

instance (s : String) : Decidable (IsBodyLine s) := decidable_of_iff' _ (isBodyLine_iff s)

end Line

/-- A block whose parts can be told apart again. -/
@[mk_iff] structure Block.IsWritable (b : Block) : Prop where
  /-- Variables have keys and values. -/
  definitions : ∀ definition ∈ b.definitions,
    Line.IsKey '=' definition.1 ∧ Line.IsValue definition.2
  /-- The name is a word. -/
  name : ∀ name ∈ b.name, Line.IsName name
  /-- The method is one of the two. -/
  method : b.method = "GET" ∨ b.method = "POST"
  /-- The address is a value. -/
  url : Line.IsValue b.url
  /-- Headers have names and values. -/
  headers : ∀ header ∈ b.headers, Line.IsHeaderName header.1 ∧ Line.IsValue header.2
  /-- There is a header before a body. -/
  body : b.bodyLines ≠ [] → b.headers ≠ []
  /-- The lines of the body are such. -/
  bodyLines : ∀ line ∈ b.bodyLines, Line.IsBodyLine line

instance (b : Block) : Decidable b.IsWritable := decidable_of_iff' _ (Block.isWritable_iff b)

end Volley
