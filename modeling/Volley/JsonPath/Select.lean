import Volley.Json.Value
import Volley.JsonPath.Parser

/-!
# Selecting nodes

A path is followed one step at a time, from the list of nodes reached so far to the list of those
reached next. A descent first gathers each node with all nodes below it, a node before its own
content; the selector is then applied to each of these in turn.
-/

namespace Volley.JsonPath

/-- The item of a list at a position, where a negative position counts from the end. -/
def itemAt? {α : Type} (items : List α) (position : Int) : Option α :=
  let fromStart := if position < 0 then (items.length : Int) + position else position
  if fromStart < 0 then none else items[fromStart.toNat]?

/-- The children of a node that a selector means, in the order of the document. -/
def Selector.apply (selector : Selector) (node : Json) : List Json :=
  match selector, node with
  | .name key, .object members => (Entries.find? key members).toList
  | .index position, .array items => (itemAt? items position).toList
  | .wildcard, .object members => members.map (·.2)
  | .wildcard, .array items => items
  | _, _ => []

mutual

/-- A node and everything below it, a node before its content. -/
def nodes : Json → List Json
  | .array items => .array items :: nodesOfItems items
  | .object members => .object members :: nodesOfMembers members
  | leaf => [leaf]

/-- The items of an array with everything below them. -/
def nodesOfItems : List Json → List Json
  | [] => []
  | item :: rest => nodes item ++ nodesOfItems rest

/-- The members of an object with everything below them. -/
def nodesOfMembers : List (String × Json) → List Json
  | [] => []
  | (_, value) :: rest => nodes value ++ nodesOfMembers rest

end

/-- The nodes that a step reaches from a list of nodes. -/
def Step.apply (step : Step) (reached : List Json) : List Json :=
  match step with
  | .child selector => reached.flatMap selector.apply
  | .descendant selector => (reached.flatMap nodes).flatMap selector.apply

/-- The nodes that a path reaches in a document. -/
def select (steps : List Step) (doc : Json) : List Json :=
  steps.foldl (fun reached step => step.apply reached) [doc]

/-- The selected nodes as plain text, with single spaces between them; a text that is no path
selects nothing. -/
def evaluate (doc : Json) (path : String) : String :=
  match parse path with
  | .ok steps => " ".intercalate ((select steps doc).map Json.plain)
  | .error _ => ""

/-- `evaluate` on the text of a document, where a text that is not JSON has no nodes. -/
def evaluateText (text path : String) : String :=
  match Json.parse? text.toList with
  | some doc => evaluate doc path
  | none => ""

end Volley.JsonPath
