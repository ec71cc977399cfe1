import Volley.JsonPath.Location

/-!
# Routes to a location

A path takes a location in parts, one for each step. Where two steps descend, a location may be cut
into parts in more than one way, so a place may be reached on more than one route. A path reaches
its places route by route, and in the order of the routes, which is not always that of the
document: a descent applies its selector to a node before it does so to what is below that node.

`Follows` says what the routes of a path are, and `Route.Before` which comes first. `KeepsOrder`
tells the paths to which the difference does not matter.
-/

namespace Volley.JsonPath

/-- The parts of a location, one for each step of a path. -/
abbrev Route : Type := List Location

/-- The steps of a path take the parts of a route in turn, from a node on. -/
inductive Follows : List Step → Json → Route → Prop
  | nil (node : Json) : Follows [] node []
  | cons {step : Step} {steps : List Step} {node next : Json} {part : Location} {rest : Route} :
    step.Takes node part → nodeAt? node part = some next → Follows steps next rest →
      Follows (step :: steps) node (part :: rest)

/-- Of two parts that a step takes, the one whose last component is taken at the earlier node comes
first, and at the same node the one with the earlier component. -/
def Location.TakenBefore (a b : Location) : Prop :=
  Location.Before a.dropLast b.dropLast ∨ a.dropLast = b.dropLast ∧ Location.Before a b

/-- A route comes before another if its part does, at the first step at which they differ. -/
def Route.Before (a b : Route) : Prop :=
  List.Lex Location.TakenBefore a b

/-- Locations in the order of a document, each once. -/
def InOrder (locations : List Location) : Prop :=
  locations.Pairwise Location.Before

instance : DecidableRel Component.Before
  | .member name, .member other => inferInstanceAs (Decidable (name < other))
  | .item position, .item other => inferInstanceAs (Decidable (position < other))
  | .member _, .item _ | .item _, .member _ => isFalse id

instance : DecidableRel Location.Before := fun a b =>
  inferInstanceAs (Decidable (List.Lex Component.Before a b))

instance (locations : List Location) : Decidable (InOrder locations) :=
  inferInstanceAs (Decidable (locations.Pairwise Location.Before))

/-- The selector of a step. -/
def Step.selector : Step → Selector
  | .child selector | .descendant selector => selector

/-- Whether a step is a descent. -/
def Step.isDescent : Step → Bool
  | .child _ => false
  | .descendant _ => true

/-- The number of descents in a path. -/
def descents (steps : List Step) : Nat :=
  steps.countP Step.isDescent

/-- A selector that means no child but the first of a node: the item at the first position, or the
member with the empty name. -/
def Selector.IsFirst : Selector → Prop
  | .name key => key = ""
  | .index position => position = 0
  | .wildcard => False

instance : DecidablePred Selector.IsFirst
  | .name key => inferInstanceAs (Decidable (key = ""))
  | .index position => inferInstanceAs (Decidable (position = 0))
  | .wildcard => isFalse id

/-- Paths without a descent, and those in which the selectors of a single descent and of all steps
after it mean first children alone. -/
def KeepsOrder : List Step → Prop
  | [] => True
  | .child _ :: rest => KeepsOrder rest
  | .descendant selector :: rest =>
    selector.IsFirst ∧ ∀ step ∈ rest, step.isDescent = false ∧ step.selector.IsFirst

instance decidableKeepsOrder : DecidablePred KeepsOrder
  | [] => isTrue trivial
  | .child _ :: rest => decidableKeepsOrder rest
  | .descendant selector :: rest =>
    inferInstanceAs (Decidable (selector.IsFirst ∧ ∀ step ∈ rest,
      step.isDescent = false ∧ step.selector.IsFirst))

end Volley.JsonPath
