import Volley.JsonPath.Select

/-!
# Locations in a document

A node of a document is known by its location: the names and positions on the way to it from the
root. `Matches` says which locations a path means, by cutting a location into parts, one for each
step. `places` follows a path as `select` does, and keeps the location of every node that it
reaches.
-/

namespace Volley.JsonPath

/-- One step down into a document. -/
inductive Component where
  /-- To the member of an object under this name. -/
  | member (name : String)
  /-- To the item of an array at this position. -/
  | item (position : Nat)
  deriving DecidableEq, Repr

/-- The way from a node to one below it, or to itself. -/
abbrev Location : Type := List Component

/-- A node with its location. -/
abbrev Place : Type := Location × Json

/-- The children of a node in the order of the document, each under the component that leads to it.
-/
def children : Json → List (Component × Json)
  | .object members => members.map fun (name, value) => (.member name, value)
  | .array items => items.zipIdx.map fun (item, position) => (.item position, item)
  | _ => []

/-- The child of a node that a component leads to. -/
def child? : Json → Component → Option Json
  | .object members, .member name => Entries.find? name members
  | .array items, .item position => items[position]?
  | _, _ => none

/-- The node that a location leads to. -/
def nodeAt? (node : Json) : Location → Option Json
  | [] => some node
  | c :: rest => (child? node c).bind (nodeAt? · rest)

/-! ## The order of a document -/

/-- The members of an object are in the order of their names, which are all different. -/
def HasOrder : Json → Prop
  | .object members => Entries.Sorted members
  | _ => True

instance : DecidablePred HasOrder
  | .object members => inferInstanceAs (Decidable (members.Pairwise fun a b => a.1 < b.1))
  | .null | .bool _ | .number _ | .string _ | .array _ => isTrue trivial

/-- All objects in a document have their members in order, as those in the value of a text have
(`isOrdered_of_parse?`). -/
def IsOrdered (doc : Json) : Prop :=
  ∀ node ∈ nodes doc, HasOrder node

instance : DecidablePred IsOrdered := fun doc => inferInstanceAs (Decidable (∀ n ∈ nodes doc, _))

/-- Names are in the order of names and positions in that of positions. -/
def Component.Before : Component → Component → Prop
  | .member name, .member other => name < other
  | .item position, .item other => position < other
  | _, _ => False

/-- A location comes before another if it is on the way to it, or if it is before it where the two
part: a node before its own content, members in the order of their names, and items in the order of
their positions. -/
def Location.Before (a b : Location) : Prop :=
  List.Lex Component.Before a b

/-! ## Which locations a path means -/

/-- Whether a selector means the child of a node that a component leads to: the one under its name,
the one at its position, counted from the end if it is negative, or any. -/
def Selector.accepts (selector : Selector) (node : Json) (c : Component) : Bool :=
  match selector, node, c with
  | .name key, _, .member other => other = key
  | .index position, .array items, .item i =>
    (i : Int) = if position < 0 then items.length + position else position
  | .wildcard, _, _ => true
  | _, _, _ => false

/-- A step takes a part of a location below a node: one component that its selector accepts, before
which there may be any others if the step is a descent. -/
inductive Step.Takes : Step → Json → Location → Prop
  | child {selector : Selector} {node : Json} {c : Component} :
    selector.accepts node c → Takes (.child selector) node [c]
  | descendant {selector : Selector} {node below : Json} {start : Location} {c : Component} :
    nodeAt? node start = some below → selector.accepts below c →
      Takes (.descendant selector) node (start ++ [c])

/-- The steps of a path match a location below a node: they take its parts in turn. -/
inductive Matches : List Step → Json → Location → Prop
  | nil (node : Json) : Matches [] node []
  | cons {step : Step} {steps : List Step} {node next : Json} {part rest : Location} :
    step.Takes node part → nodeAt? node part = some next → Matches steps next rest →
      Matches (step :: steps) node (part ++ rest)

/-! ## Selecting places -/

/-- The children of a place that a selector means. -/
def Selector.places (selector : Selector) (place : Place) : List Place :=
  ((children place.2).filter fun child => selector.accepts place.2 child.1).map
    fun child => (place.1 ++ [child.1], child.2)

mutual

/-- A node and everything below it with its location, a node before its content. -/
def below : Json → List Place
  | .array items => ([], .array items) :: belowItems 0 items
  | .object members => ([], .object members) :: belowMembers members
  | leaf => [([], leaf)]

/-- The items of an array with everything below them, from a position on. -/
def belowItems (position : Nat) : List Json → List Place
  | [] => []
  | item :: rest =>
    (below item).map (fun place => (.item position :: place.1, place.2)) ++
      belowItems (position + 1) rest

/-- The members of an object with everything below them. -/
def belowMembers : List (String × Json) → List Place
  | [] => []
  | (name, value) :: rest =>
    (below value).map (fun place => (.member name :: place.1, place.2)) ++ belowMembers rest

end

/-- A place and everything below it. -/
def Place.below (place : Place) : List Place :=
  (JsonPath.below place.2).map fun inner => (place.1 ++ inner.1, inner.2)

/-- The places that a step reaches from a list of places. -/
def Step.places (step : Step) (reached : List Place) : List Place :=
  match step with
  | .child selector => reached.flatMap selector.places
  | .descendant selector => (reached.flatMap Place.below).flatMap selector.places

/-- The places that a path reaches in a document. -/
def places (steps : List Step) (doc : Json) : List Place :=
  steps.foldl (fun reached step => step.places reached) [([], doc)]

end Volley.JsonPath
