import Mathlib.Data.List.Lex
import Volley.Proofs.JsonPath.Place

/-!
# Selection is sound and complete

A path reaches the nodes at the locations that its steps match, and no others. The places that it
reaches are the nodes that it selects, with their locations (`map_places`). One step reaches what
its selector accepts (`mem_step_places`), and so, step by step, a path reaches what it matches
(`mem_foldl_places`).

A path without a descent reaches every place once and in the order of the document: a step to the
children of places of the same depth, in order, leads to places of the next depth, in order
(`Ascending.places`).
-/

namespace Volley.JsonPath

/-! ## Children in order -/

/-- No component is before itself. -/
theorem Component.Before.ne {a b : Component} (h : a.Before b) : a ≠ b := by
  rintro rfl
  cases a with
  | member name => exact String.lt_irrefl name h
  | item position => exact Nat.lt_irrefl position h

/-- The children of a node are in order, and all under different components. -/
theorem pairwise_children {node : Json} (h : HasOrder node) :
    (children node).Pairwise fun a b => a.1.Before b.1 := by
  cases node with
  | array items =>
    have hpositions : (items.zipIdx.map Prod.snd).Pairwise (· < ·) := by
      rw [List.zipIdx_map_snd]
      exact List.pairwise_lt_range'
    exact List.pairwise_map.2 ((List.pairwise_map (R := (· < ·)) (f := Prod.snd)).1 hpositions)
  | object members => exact List.pairwise_map.2 h
  | null | bool | number | string => exact .nil

/-- In a list whose keys are all different, the items of a key are the one that is found under it. -/
theorem map_filter_eq_toList {α β : Type} [DecidableEq α] {list : List (α × β)}
    (hdistinct : list.Pairwise fun a b => a.1 ≠ b.1) {key : α} {found : Option β}
    (h : ∀ b, (key, b) ∈ list ↔ found = some b) :
    (list.filter fun item => item.1 = key).map (·.2) = found.toList := by
  induction list with
  | nil =>
    cases found with
    | none => rfl
    | some b => exact absurd ((h b).2 rfl) List.not_mem_nil
  | cons item rest ih =>
    obtain ⟨hother, hrest⟩ := List.pairwise_cons.1 hdistinct
    by_cases hkey : item.1 = key
    · have hfound : found = some item.2 := (h item.2).1 (hkey ▸ List.mem_cons_self)
      have hnone : rest.filter (fun item => item.1 = key) = [] :=
        List.filter_eq_nil_iff.2 fun other hmem => by simpa [← hkey, eq_comm] using hother other hmem
      rw [List.filter_cons_of_pos (by simpa using hkey), hnone, hfound]
      rfl
    · rw [List.filter_cons_of_neg (by simpa using hkey)]
      refine ih hrest fun b => ?_
      rw [← h b, List.mem_cons, or_iff_right]
      rintro rfl
      exact hkey rfl

/-- The children under one component are the child that it leads to, if there is one. -/
theorem map_filter_children {node : Json} (h : HasOrder node) (c : Component) :
    ((children node).filter fun child => child.1 = c).map (·.2) = (child? node c).toList :=
  map_filter_eq_toList ((pairwise_children h).imp Component.Before.ne)
    fun _ => mem_children_iff h

/-- The items that the selector of a position accepts are the one at the position, if there is one.
-/
theorem map_filter_index (items : List Json) (position : Int) :
    ((children (.array items)).filter fun child =>
        Selector.accepts (.index position) (.array items) child.1).map (·.2) =
      (itemAt? items position).toList := by
  rw [itemAt?]
  generalize htarget : (if position < 0 then (items.length : Int) + position else position) = target
  have haccepts (c : Component) : Selector.accepts (.index position) (.array items) c =
      decide (0 ≤ target ∧ c = .item target.toNat) := by
    cases c with
    | item i =>
      simp only [Selector.accepts, htarget, Component.item.injEq, decide_eq_decide]
      omega
    | member name => simp [Selector.accepts]
  by_cases hstart : target < 0
  · -- A position before the start is that of no item.
    simp [haccepts, hstart, Int.not_le.2 hstart]
  · have harray : HasOrder (.array items) := trivial
    simp only [haccepts, Int.not_lt.1 hstart, true_and, map_filter_children harray, child?,
      if_neg hstart]

/-- Without its location, what a selector reaches is what it selects. -/
theorem map_selector_places {selector : Selector} {place : Place} (h : HasOrder place.2) :
    (selector.places place).map (·.2) = selector.apply place.2 := by
  obtain ⟨location, node⟩ := place
  have hplaces : (selector.places (location, node)).map (·.2) =
      ((children node).filter fun child => selector.accepts node child.1).map (·.2) := by
    rw [Selector.places, List.map_map]
    rfl
  rw [hplaces]
  cases selector with
  | name key =>
    have haccepts (c : Component) :
        Selector.accepts (.name key) node c = decide (c = .member key) := by
      cases c <;> simp [Selector.accepts]
    simp only [haccepts, map_filter_children h]
    cases node <;> rfl
  | index position =>
    cases node with
    | array items => exact map_filter_index items position
    | object members =>
      have haccepts (c : Component) :
          Selector.accepts (.index position) (.object members) c = false := by cases c <;> rfl
      simp [haccepts, Selector.apply]
    | null | bool | number | string => rfl
  | wildcard =>
    have haccepts (c : Component) : Selector.accepts .wildcard node c = true := rfl
    simp only [haccepts, List.filter_true]
    cases node with
    | array items => simp [children, Selector.apply, List.map_map, Function.comp_def]
    | object members => simp [children, Selector.apply, List.map_map, Function.comp_def]
    | null | bool | number | string => rfl

/-- Without their locations, what a selector reaches from places is what it selects from nodes. -/
theorem map_flatMap_places {selector : Selector} {reached : List Place}
    (h : ∀ place ∈ reached, HasOrder place.2) :
    (reached.flatMap selector.places).map (·.2) =
      (reached.map (·.2)).flatMap selector.apply := by
  rw [List.map_flatMap, List.flatMap_map]
  exact List.flatMap_congr fun place hplace => map_selector_places (h place hplace)

/-! ## What is reached -/

/-- A selector reaches the children under the components that it accepts. -/
theorem mem_selector_places {selector : Selector} {place : Place} (h : HasOrder place.2)
    {location : Location} {next : Json} :
    (location, next) ∈ selector.places place ↔
      ∃ c, selector.accepts place.2 c = true ∧ child? place.2 c = some next ∧
        location = place.1 ++ [c] := by
  rw [Selector.places, mem_map_fst (f := fun c => place.1 ++ [c])]
  simp only [List.mem_filter, mem_children_iff h]
  constructor
  · rintro ⟨c, ⟨hchild, haccepts⟩, rfl⟩
    exact ⟨c, haccepts, hchild, rfl⟩
  · rintro ⟨c, haccepts, hchild, rfl⟩
    exact ⟨c, ⟨hchild, haccepts⟩, rfl⟩

/-- What is below a place is what locations lead to from there. -/
theorem mem_place_below {place : Place} (h : IsOrdered place.2) {location : Location}
    {next : Json} :
    (location, next) ∈ place.below ↔
      ∃ start, nodeAt? place.2 start = some next ∧ location = place.1 ++ start := by
  simp only [Place.below, mem_map_fst, mem_below_iff h]
  exact exists_congr fun start => and_congr_right fun _ => eq_comm

/-- All nodes that were reached are in order. -/
def AllOrdered (reached : List Place) : Prop :=
  ∀ place ∈ reached, IsOrdered place.2

/-- What is below nodes in order is in order. -/
theorem AllOrdered.below {reached : List Place} (h : AllOrdered reached) :
    AllOrdered (reached.flatMap Place.below) := by
  intro inner hinner
  obtain ⟨place, hplace, hmem⟩ := List.mem_flatMap.1 hinner
  obtain ⟨start, hstart, -⟩ := (mem_place_below (h place hplace)).1 hmem
  exact (h place hplace).nodeAt? hstart

/-- A step reaches what the parts that it takes lead to. -/
theorem mem_step_places {step : Step} {reached : List Place} (h : AllOrdered reached)
    {location : Location} {next : Json} :
    (location, next) ∈ step.places reached ↔
      ∃ place ∈ reached, ∃ part, step.Takes place.2 part ∧ nodeAt? place.2 part = some next ∧
        location = place.1 ++ part := by
  cases step with
  | child selector =>
    rw [Step.places, List.mem_flatMap]
    refine exists_congr fun place => and_congr_right fun hplace => ?_
    rw [mem_selector_places (h place hplace).hasOrder]
    constructor
    · rintro ⟨c, haccepts, hchild, rfl⟩
      exact ⟨[c], .child haccepts, by rwa [nodeAt?_singleton], rfl⟩
    · rintro ⟨part, htakes, hnext, rfl⟩
      cases htakes with
      | @child _ _ c haccepts => exact ⟨c, haccepts, by rwa [nodeAt?_singleton] at hnext, rfl⟩
  | descendant selector =>
    rw [Step.places, List.mem_flatMap]
    constructor
    · rintro ⟨inner, hinner, hmem⟩
      obtain ⟨c, haccepts, hchild, rfl⟩ := (mem_selector_places (h.below inner hinner).hasOrder).1 hmem
      obtain ⟨place, hplace, hbelow⟩ := List.mem_flatMap.1 hinner
      obtain ⟨start, hstart, hlocation⟩ := (mem_place_below (h place hplace)).1 hbelow
      refine ⟨place, hplace, start ++ [c], .descendant hstart haccepts, ?_, ?_⟩
      · rw [nodeAt?_append, hstart, Option.bind_some, nodeAt?_singleton, hchild]
      · rw [hlocation, List.append_assoc]
    · rintro ⟨place, hplace, part, htakes, hnext, rfl⟩
      cases htakes with
      | @descendant _ _ below start c hstart haccepts =>
        rw [nodeAt?_append, hstart, Option.bind_some, nodeAt?_singleton] at hnext
        have hinner : (place.1 ++ start, below) ∈ reached.flatMap Place.below :=
          List.mem_flatMap.2 ⟨place, hplace,
            (mem_place_below (h place hplace)).2 ⟨start, hstart, rfl⟩⟩
        refine ⟨_, hinner, (mem_selector_places (h.below _ hinner).hasOrder).2 ?_⟩
        exact ⟨c, haccepts, hnext, (List.append_assoc ..).symm⟩

/-- What a step reaches from nodes in order is in order. -/
theorem AllOrdered.places {reached : List Place} (h : AllOrdered reached) (step : Step) :
    AllOrdered (step.places reached) := by
  rintro ⟨location, next⟩ hmem
  obtain ⟨place, hplace, part, -, hnext, -⟩ := (mem_step_places h).1 hmem
  exact (h place hplace).nodeAt? hnext

/-- Steps reach what the locations that they match lead to. -/
theorem mem_foldl_places {steps : List Step} {reached : List Place} (h : AllOrdered reached)
    {location : Location} {last : Json} :
    (location, last) ∈ steps.foldl (fun reached step => step.places reached) reached ↔
      ∃ place ∈ reached, ∃ rest, Matches steps place.2 rest ∧ nodeAt? place.2 rest = some last ∧
        location = place.1 ++ rest := by
  induction steps generalizing reached with
  | nil =>
    constructor
    · exact fun hmem => ⟨_, hmem, [], .nil _, rfl, (List.append_nil _).symm⟩
    · rintro ⟨place, hplace, rest, hmatches, hlast, rfl⟩
      cases hmatches with
      | nil =>
        obtain rfl : place.2 = last := Option.some.inj hlast
        rwa [List.append_nil]
  | cons step steps ih =>
    rw [List.foldl_cons, ih (h.places step)]
    constructor
    · rintro ⟨⟨start, next⟩, hnext, rest, hmatches, hlast, rfl⟩
      obtain ⟨place, hplace, part, htakes, hpart, rfl⟩ := (mem_step_places h).1 hnext
      refine ⟨place, hplace, part ++ rest, .cons htakes hpart hmatches, ?_, List.append_assoc ..⟩
      rw [nodeAt?_append, hpart, Option.bind_some, hlast]
    · rintro ⟨place, hplace, whole, hmatches, hlast, rfl⟩
      cases hmatches with
      | @cons _ _ _ next part rest htakes hpart hrest =>
        rw [nodeAt?_append, hpart, Option.bind_some] at hlast
        have hnext : (place.1 ++ part, next) ∈ step.places reached :=
          (mem_step_places h).2 ⟨place, hplace, part, htakes, hpart, rfl⟩
        exact ⟨_, hnext, rest, hrest, hlast, (List.append_assoc ..).symm⟩

/-- Without their locations, the places that a step reaches are the nodes that it reaches. -/
theorem map_step_places {step : Step} {reached : List Place} (h : AllOrdered reached) :
    (step.places reached).map (·.2) = step.apply (reached.map (·.2)) := by
  cases step with
  | child selector => exact map_flatMap_places fun place hplace => (h place hplace).hasOrder
  | descendant selector =>
    have hbelow : (reached.flatMap Place.below).map (·.2) = (reached.map (·.2)).flatMap nodes := by
      rw [List.map_flatMap, List.flatMap_map]
      refine List.flatMap_congr fun place _ => ?_
      rw [Place.below, List.map_map, ← map_below]
      rfl
    rw [Step.places, Step.apply, ← hbelow]
    exact map_flatMap_places fun place hplace => (h.below place hplace).hasOrder

/-- Without their locations, the places that a path reaches are the nodes that it selects. -/
theorem map_places {doc : Json} (h : IsOrdered doc) (steps : List Step) :
    (places steps doc).map (·.2) = select steps doc := by
  have hfold (reached : List Place) (hreached : AllOrdered reached) :
      (steps.foldl (fun reached step => step.places reached) reached).map (·.2) =
        steps.foldl (fun reached step => step.apply reached) (reached.map (·.2)) := by
    induction steps generalizing reached with
    | nil => rfl
    | cons step steps ih =>
      rw [List.foldl_cons, List.foldl_cons, ih _ (hreached.places step), map_step_places hreached]
  exact hfold [([], doc)] (List.forall_mem_singleton.2 h)

/-! ## The order of what is reached -/

/-- A path whose steps all go to children. -/
def IsDirect (steps : List Step) : Prop :=
  ∀ step ∈ steps, ∃ selector, step = .child selector

/-- Places of one depth in the order of the document, each once. -/
structure Ascending (depth : Nat) (reached : List Place) : Prop where
  /-- All are at the same depth. -/
  depth : ∀ place ∈ reached, place.1.length = depth
  /-- They are in order. -/
  pairwise : reached.Pairwise fun a b => Location.Before a.1 b.1

/-- No location is before itself. -/
theorem Location.Before.ne {a b : Location} (h : a.Before b) : a ≠ b := by
  rintro rfl
  exact List.lex_irrefl (fun _ hc => hc.ne rfl) a h

/-- Of two locations of the same length, what goes on from the first is before what goes on from the
second. -/
theorem Location.Before.append {a b : Location} (h : a.Before b) (hlength : a.length = b.length)
    (s t : Location) : Location.Before (a ++ s) (b ++ t) := by
  induction h with
  | nil => simp at hlength
  | cons _ ih => exact .cons (ih (Nat.succ.inj hlength))
  | rel hc => exact .rel hc

/-- The children that a selector means are in the order of the document. -/
theorem pairwise_selector_places (selector : Selector) {place : Place} (h : HasOrder place.2) :
    (selector.places place).Pairwise fun a b => Location.Before a.1 b.1 := by
  refine List.pairwise_map.2 (((pairwise_children h).filter _).imp fun {a b} hbefore => ?_)
  exact List.Lex.append_left Component.Before (.rel hbefore) place.1

/-- A step to children leads from places in order to places in order, one level down. -/
theorem Ascending.places {depth : Nat} {reached : List Place} (h : Ascending depth reached)
    (hordered : AllOrdered reached) (selector : Selector) :
    Ascending (depth + 1) ((Step.child selector).places reached) where
  depth := by
    intro next hnext
    obtain ⟨place, hplace, hmem⟩ := List.mem_flatMap.1 hnext
    obtain ⟨c, -, -, hlocation⟩ :=
      (mem_selector_places (hordered place hplace).hasOrder).1 hmem
    rw [hlocation, List.length_append, h.depth place hplace, List.length_singleton]
  pairwise := by
    refine List.pairwise_flatMap.2 ⟨fun place hplace =>
      pairwise_selector_places selector (hordered place hplace).hasOrder, ?_⟩
    -- Places below different ones are in the order of these, because all are at the same depth.
    refine h.pairwise.imp_of_mem fun {a b} ha hb hbefore x hx y hy => ?_
    obtain ⟨c, -, -, hxlocation⟩ := (mem_selector_places (hordered a ha).hasOrder).1 hx
    obtain ⟨d, -, -, hylocation⟩ := (mem_selector_places (hordered b hb).hasOrder).1 hy
    rw [hxlocation, hylocation]
    exact hbefore.append ((h.depth a ha).trans (h.depth b hb).symm) [c] [d]

/-- A path without descents leads from places in order to places in order. -/
theorem Ascending.foldl_places {steps : List Step} (hdirect : IsDirect steps) {depth : Nat}
    {reached : List Place} (h : Ascending depth reached) (hordered : AllOrdered reached) :
    Ascending (depth + steps.length)
      (steps.foldl (fun reached step => step.places reached) reached) := by
  induction steps generalizing depth reached with
  | nil => exact h
  | cons step steps ih =>
    obtain ⟨⟨selector, rfl⟩, hlater⟩ := List.forall_mem_cons.1 hdirect
    have hdepth : depth + (steps.length + 1) = depth + 1 + steps.length := by omega
    rw [List.foldl_cons, List.length_cons, hdepth]
    exact ih hlater (h.places hordered selector) (hordered.places _)

/-- A path selects the nodes at the locations that its steps match, and no others. The places that
it reaches are the selected nodes, with their locations; and if no step is a descent, each of them
is reached once and in the order of the document. The value of every text is a document in order
(`isOrdered_of_parse?`). -/
theorem mem_places_iff_matches {doc : Json} (h : IsOrdered doc) (steps : List Step) :
    (places steps doc).map (·.2) = select steps doc ∧
      (∀ location node, (location, node) ∈ places steps doc ↔
        Matches steps doc location ∧ nodeAt? doc location = some node) ∧
      (IsDirect steps → ((places steps doc).map (·.1)).Nodup ∧
        ((places steps doc).map (·.1)).Pairwise Location.Before) := by
  have hroot : AllOrdered [([], doc)] := List.forall_mem_singleton.2 h
  refine ⟨map_places h steps, fun location node => ?_, fun hdirect => ?_⟩
  · rw [places, mem_foldl_places hroot]
    simp
  · have hstart : Ascending 0 [([], doc)] :=
      ⟨List.forall_mem_singleton.2 rfl, List.pairwise_singleton _ _⟩
    have hbefore : ((places steps doc).map (·.1)).Pairwise Location.Before :=
      List.pairwise_map.2 (hstart.foldl_places hdirect hroot).pairwise
    exact ⟨hbefore.imp Location.Before.ne, hbefore⟩

/-- A document in which a member of one name is below another. -/
def nestedDoc : Json :=
  .object [("a", .array [.number (.whole 1), .object [("a", .array [.null])]]), ("b", .array [.null])]

/-- The last items of all arrays under one name, and the first items of all arrays at the root. -/
theorem mem_places_iff_matches_nestedDoc :
    IsOrdered nestedDoc ∧ IsDirect [.child .wildcard, .child (.index 0)] ∧
      Matches [.descendant (.name "a"), .child (.index (-1))] nestedDoc
        [.member "a", .item 1, .member "a", .item 0] ∧
      ((places [.child .wildcard, .child (.index 0)] nestedDoc).map (·.1)).Nodup := by
  have hordered : IsOrdered nestedDoc := by decide
  have hdirect : IsDirect [.child .wildcard, .child (.index 0)] := by simp [IsDirect]
  refine ⟨hordered, hdirect, ?_, ((mem_places_iff_matches hordered _).2.2 hdirect).1⟩
  have hlocations : (places [.descendant (.name "a"), .child (.index (-1))] nestedDoc).map (·.1) =
      [[.member "a", .item 1], [.member "a", .item 1, .member "a", .item 0]] := by decide
  have hmem : [.member "a", .item 1, .member "a", .item 0] ∈
      (places [.descendant (.name "a"), .child (.index (-1))] nestedDoc).map (·.1) := by
    rw [hlocations]
    exact List.mem_cons_of_mem _ List.mem_cons_self
  obtain ⟨⟨location, node⟩, hplace, rfl⟩ := List.mem_map.1 hmem
  exact (((mem_places_iff_matches hordered _).2.1 _ _).1 hplace).1

end Volley.JsonPath
