import Volley.Text.Quoted

/-!
# Paths into JSON documents

A path is a list of steps. A step goes to children of a node, or to children of the node or of
anything below it, and a selector says which children: those under a name, the one at a position, or
all.
-/

namespace Volley.JsonPath

/-- Which children of a node are meant. -/
inductive Selector where
  /-- The member of an object under this name. -/
  | name (name : String)
  /-- The item of an array at this position; a negative one counts from the end. -/
  | index (position : Int)
  /-- Every member and every item. -/
  | wildcard
  deriving DecidableEq, Repr

/-- One step of a path. -/
inductive Step where
  /-- To selected children of a node. -/
  | child (selector : Selector)
  /-- To selected children of a node and of every node below it. -/
  | descendant (selector : Selector)
  deriving DecidableEq, Repr

/-- Why a text is no path. -/
inductive PathError where
  /-- A dot is followed by no name. -/
  | emptySegment
  /-- A bracket or a quote in it is not closed. -/
  | unclosedBracket
  /-- The text between two brackets is neither a number nor a star. -/
  | invalidSelector (text : String)
  /-- A segment begins with this character. -/
  | unexpected (c : Char)
  deriving DecidableEq, Repr

/-- The wording of an error. -/
def PathError.message : PathError → String
  | .emptySegment => "empty path segment"
  | .unclosedBracket => "unclosed bracket"
  | .invalidSelector text => "invalid bracket selector " ++ Text.quoted text
  | .unexpected c => "unexpected character " ++ Text.quotedChar c

end Volley.JsonPath
