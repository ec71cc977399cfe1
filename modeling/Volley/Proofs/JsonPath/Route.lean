import Volley.JsonPath.Route
import Volley.Proofs.JsonPath.Selection

/-!
# Places are reached in the order of their routes

What a path reaches from a place is what it reaches from its node, further down
(`foldl_places_eq_flatMap`). So the places that a path reaches are those that its later steps reach
from each place of its first step, and they come with their routes (`map_routes`). These are the
routes that the path follows, each once (`mem_routes`), and they are in order (`pairwise_routes`):
a step takes its parts in order, because what is below a node is gathered in the order of the
document (`pairwise_below`).
-/

namespace Volley.JsonPath

/-! ## What is reached further down -/

/-- A place further down. -/
def Place.under (start : Location) (place : Place) : Place :=
  (start ++ place.1, place.2)

/-- Further down twice. -/
theorem Place.under_under (start middle : Location) (place : Place) :
    (place.under middle).under start = place.under (start ++ middle) := by
  simp only [Place.under, List.append_assoc]

/-- What a selector reaches further down. -/
theorem selector_places_under (selector : Selector) (start : Location) (place : Place) :
    selector.places (place.under start) = (selector.places place).map (Place.under start) := by
  rw [Selector.places, Selector.places, List.map_map]
  refine List.map_congr_left fun child _ => ?_
  simp only [Place.under, Function.comp_apply, List.append_assoc]

/-- What is below a place further down. -/
theorem place_below_under (start : Location) (place : Place) :
    (place.under start).below = place.below.map (Place.under start) := by
  rw [Place.below, Place.below, List.map_map]
  refine List.map_congr_left fun inner _ => ?_
  simp only [Place.under, Function.comp_apply, List.append_assoc]

/-- What a step reaches from several places is what it reaches from each of them. -/
theorem step_places_flatMap {α : Type} (step : Step) (items : List α) (f : α → List Place) :
    step.places (items.flatMap f) = items.flatMap fun item => step.places (f item) := by
  cases step with
  | child selector => exact List.flatMap_assoc
  | descendant selector => simp only [Step.places, List.flatMap_assoc]

/-- What a step reaches further down. -/
theorem step_places_under (step : Step) (start : Location) (reached : List Place) :
    step.places (reached.map (Place.under start)) =
      (step.places reached).map (Place.under start) := by
  have hselected (selector : Selector) (reached : List Place) :
      (reached.map (Place.under start)).flatMap selector.places =
        (reached.flatMap selector.places).map (Place.under start) := by
    simp only [List.flatMap_map, List.map_flatMap, selector_places_under]
  cases step with
  | child selector => exact hselected selector reached
  | descendant selector =>
    have hbelow : (reached.map (Place.under start)).flatMap Place.below =
        (reached.flatMap Place.below).map (Place.under start) := by
      simp only [List.flatMap_map, List.map_flatMap, place_below_under]
    rw [Step.places, hbelow, hselected]
    rfl

/-- What steps reach from places is what they reach from the node of each of them, further down. -/
theorem foldl_places_eq_flatMap (steps : List Step) (reached : List Place) :
    steps.foldl (fun reached step => step.places reached) reached =
      reached.flatMap fun place => (places steps place.2).map (Place.under place.1) := by
  induction steps generalizing reached with
  | nil => simp [places, Place.under]
  | cons step steps ih =>
    have hreached : reached = reached.flatMap fun place =>
        [([], place.2)].map (Place.under place.1) := by
      simp [Place.under]
    have hstep : step.places reached = reached.flatMap fun place =>
        (step.places [([], place.2)]).map (Place.under place.1) := by
      conv_lhs => rw [hreached]
      rw [step_places_flatMap]
      simp only [step_places_under]
    rw [List.foldl_cons, ih, hstep, List.flatMap_assoc]
    refine List.flatMap_congr fun place _ => ?_
    rw [places, List.foldl_cons, ih, List.flatMap_map, List.map_flatMap]
    refine List.flatMap_congr fun inner _ => ?_
    rw [List.map_map]
    exact List.map_congr_left fun last _ => (Place.under_under ..).symm

/-! ## Routes -/

/-- The routes of a path below a node in the order in which their places are reached, each with the
node that it leads to. -/
def routes : List Step → Json → List (Route × Json)
  | [], node => [([], node)]
  | step :: steps, node =>
    (step.places [([], node)]).flatMap fun place =>
      (routes steps place.2).map fun route => (place.1 :: route.1, route.2)

/-- With their parts put together, the routes of a path are the places that it reaches. -/
theorem map_routes (steps : List Step) (node : Json) :
    (routes steps node).map (fun route => (route.1.flatten, route.2)) = places steps node := by
  induction steps generalizing node with
  | nil => rfl
  | cons step steps ih =>
    rw [routes, places, List.foldl_cons, foldl_places_eq_flatMap, List.map_flatMap]
    refine List.flatMap_congr fun place _ => ?_
    rw [← ih, List.map_map, List.map_map]
    rfl

/-- A step from a node reaches what the parts that it takes lead to. -/
theorem mem_step_places_node {step : Step} {node : Json} (h : IsOrdered node) {part : Location}
    {next : Json} :
    (part, next) ∈ step.places [([], node)] ↔
      step.Takes node part ∧ nodeAt? node part = some next := by
  rw [mem_step_places (List.forall_mem_singleton.2 h)]
  simp

/-- The routes of a path are those that its steps follow. -/
theorem mem_routes {steps : List Step} {node : Json} (h : IsOrdered node) {route : Route} :
    route ∈ (routes steps node).map (·.1) ↔ Follows steps node route := by
  induction steps generalizing node route with
  | nil =>
    constructor
    · intro hmem
      obtain rfl : route = [] := by simpa [routes] using hmem
      exact .nil node
    · intro hfollows
      cases hfollows with
      | nil => simp [routes]
  | cons step steps ih =>
    simp only [routes, List.map_flatMap, List.map_map, List.mem_flatMap, List.mem_map]
    constructor
    · rintro ⟨⟨part, next⟩, hplace, rest, hrest, rfl⟩
      obtain ⟨htakes, hnext⟩ := (mem_step_places_node h).1 hplace
      exact .cons htakes hnext ((ih (h.nodeAt? hnext)).1 (List.mem_map_of_mem hrest))
    · intro hfollows
      cases hfollows with
      | @cons _ _ _ next part rest htakes hnext hlater =>
        obtain ⟨last, hlast, rfl⟩ := List.mem_map.1 ((ih (h.nodeAt? hnext)).2 hlater)
        exact ⟨(part, next), (mem_step_places_node h).2 ⟨htakes, hnext⟩, last, hlast, rfl⟩

/-! ## Their order -/

/-- What is below a node is in the order of the document. -/
theorem pairwise_below {node : Json} (h : IsOrdered node) :
    (below node).Pairwise fun a b => Location.Before a.1 b.1 := by
  induction node using induction_children with
  | h node ih =>
    rw [below_eq, List.pairwise_cons, List.pairwise_flatMap]
    refine ⟨fun place hplace => ?root, fun child hchild => ?within, ?between⟩
    case root =>
      obtain ⟨child, -, hmem⟩ := List.mem_flatMap.1 hplace
      obtain ⟨inner, -, rfl⟩ := List.mem_map.1 hmem
      exact .nil
    case within =>
      exact List.pairwise_map.2 ((ih child hchild (h.child hchild)).imp .cons)
    case between =>
      refine (pairwise_children h.hasOrder).imp fun {a b} hbefore x hx y hy => ?_
      obtain ⟨inner, -, rfl⟩ := List.mem_map.1 hx
      obtain ⟨inner, -, rfl⟩ := List.mem_map.1 hy
      exact .rel hbefore

/-- What a selector reaches from places in order, it takes in order. -/
theorem pairwise_takenBefore {selector : Selector} {reached : List Place}
    (hordered : AllOrdered reached)
    (h : reached.Pairwise fun a b => Location.Before a.1 b.1) :
    (reached.flatMap selector.places).Pairwise fun a b => Location.TakenBefore a.1 b.1 := by
  have hdropLast {place inner : Place} (hplace : place ∈ reached)
      (hinner : inner ∈ selector.places place) : inner.1.dropLast = place.1 := by
    obtain ⟨c, -, -, hlocation⟩ :=
      (mem_selector_places (hordered place hplace).hasOrder).1 hinner
    rw [hlocation, List.dropLast_concat]
  refine List.pairwise_flatMap.2 ⟨fun place hplace => ?_, ?_⟩
  · refine (pairwise_selector_places selector (hordered place hplace).hasOrder).imp_of_mem
      fun {a b} ha hb hbefore => .inr ⟨?_, hbefore⟩
    rw [hdropLast hplace ha, hdropLast hplace hb]
  · refine h.imp_of_mem fun {a b} ha hb hbefore x hx y hy => .inl ?_
    rwa [hdropLast ha hx, hdropLast hb hy]

/-- A step takes its parts in order. -/
theorem pairwise_step_places (step : Step) {node : Json} (h : IsOrdered node) :
    (step.places [([], node)]).Pairwise fun a b => Location.TakenBefore a.1 b.1 := by
  have hroot : AllOrdered [([], node)] := List.forall_mem_singleton.2 h
  cases step with
  | child selector => exact pairwise_takenBefore hroot (List.pairwise_singleton _ _)
  | descendant selector =>
    refine pairwise_takenBefore hroot.below ?_
    rw [List.flatMap_singleton]
    exact List.pairwise_map.2 (pairwise_below h)

/-- The routes of a path are in order. -/
theorem pairwise_routes (steps : List Step) {node : Json} (h : IsOrdered node) :
    ((routes steps node).map (·.1)).Pairwise Route.Before := by
  rw [List.pairwise_map]
  induction steps generalizing node with
  | nil => exact List.pairwise_singleton _ _
  | cons step steps ih =>
    refine List.pairwise_flatMap.2 ⟨fun place hplace => ?_, ?_⟩
    · obtain ⟨-, hnext⟩ := (mem_step_places_node h).1 hplace
      exact List.pairwise_map.2 ((ih (h.nodeAt? hnext)).imp .cons)
    · refine (pairwise_step_places step h).imp fun {a b} hbefore x hx y hy => ?_
      obtain ⟨rest, -, rfl⟩ := List.mem_map.1 hx
      obtain ⟨rest, -, rfl⟩ := List.mem_map.1 hy
      exact .rel hbefore

end Volley.JsonPath
