import Volley.JsonPath.Select
import Volley.RequestFile.Basic
import Volley.Template

/-!
# What a file knows

A file resolves its own variables, the built-in functions, whose names begin with a dollar sign, and
references to what a case sent or received: a header by its name, or a part of a JSON body by a
path. A reference names the case, the side and the part, with dots between them.
-/

namespace Volley.RequestFile

/-- The two halves of an exchange. -/
inductive Side where
  /-- What was sent. -/
  | request
  /-- What was received. -/
  | response
  deriving DecidableEq, Repr

/-- The side with a name. -/
def Side.ofName? (name : List Char) : Option Side :=
  if name = "request".toList then some .request
  else if name = "response".toList then some .response
  else none

/-- What a case sent and received, and the side of it, for the part of a reference before the mark.
The side comes after the last dot, so the name of the case may have dots in it. -/
def exchange? (file : RequestFile) (owner : List Char) : Option (Exchange × Side) := do
  let (name, side) ← Text.cutLast? '.' owner
  let found ← file.findCase? (String.ofList name)
  let exchange ← found.exchange
  let side ← Side.ofName? side
  return (exchange, side)

/-- The value of a header of one side. -/
def header? (file : RequestFile) (owner name : List Char) : Option String := do
  let (exchange, side) ← file.exchange? owner
  match side with
  | .request => exchange.request.header? (String.ofList name)
  | .response => exchange.response.header? (String.ofList name)

/-- The part of a JSON body of one side that a path selects; empty if the body is not JSON. -/
def bodyPart? (file : RequestFile) (owner path : List Char) : Option String := do
  let (exchange, side) ← file.exchange? owner
  let document := match side with
    | .request => exchange.requestDocument?
    | .response => exchange.responseDocument?
  match document with
  | some doc => some (JsonPath.evaluate doc (String.ofList path))
  | none => some ""

/-- What a file knows about a key that is no variable and no built-in function. The mark of a header
is looked for first, anywhere in the key. -/
def reference? (file : RequestFile) (key : List Char) : Option String :=
  match Text.cut? ".header.".toList key with
  | some (owner, name) => file.header? owner name
  | none =>
    match Text.cut? ".body.".toList key with
    | some (owner, path) => file.bodyPart? owner path
    | none => none

/-- The resolver of a file, given one for the built-in functions. -/
def lookup (builtins : Resolver) (file : RequestFile) : Resolver := fun key =>
  match file.bindings.get? key with
  | some value => some value
  | none => if key.toList.head? = some '$' then builtins key else file.reference? key.toList

end Volley.RequestFile
