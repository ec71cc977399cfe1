import Volley.Proofs.JsonPath.Route

/-!
# Which paths keep the order of a document

A path reaches its places in the order of its routes, so they are in the order of the document, or
each reached once, if that holds of the locations at the ends of its routes (`pairwise_places_iff`).

With one descent at most a location has one route (`Follows.eq_of_flatten_eq`), so every place is
reached once. With two of them there are documents in which a location has two
(`clashes_of_descents`).

Order is lost with a single descent: it takes a child of a node before it goes on to what is below
an earlier child. Only if its selector, and those of all later steps, mean first children there is
no earlier child (`Follows.before_of_keepsOrder`), and otherwise there are documents in which one is
in the way (`clashes_of_not_isFirst`).
-/

namespace Volley.JsonPath

/-! ## Orders -/

/-- Of two components one is before the other. -/
theorem Component.Before.asymm {a b : Component} (h : a.Before b) : ¬ b.Before a := by
  cases a with
  | member name =>
    cases b with
    | member other => exact String.lt_asymm h
    | item _ => exact h.elim
  | item position =>
    cases b with
    | item other => exact Nat.lt_asymm h
    | member _ => exact h.elim

/-- Of two locations one is before the other. -/
theorem Location.Before.asymm {a b : Location} (h : a.Before b) : ¬ b.Before a :=
  List.lex_asymm (fun hab => hab.asymm) h

/-- Of two parts one is taken before the other. -/
theorem Location.TakenBefore.asymm {a b : Location} (h : a.TakenBefore b) : ¬ b.TakenBefore a := by
  rintro (hba | ⟨heq', hba⟩)
  · obtain hab | ⟨heq, -⟩ := h
    · exact hab.asymm hba
    · exact hba.ne heq.symm
  · obtain hab | ⟨-, hab⟩ := h
    · exact hab.ne heq'.symm
    · exact hab.asymm hba

/-- Of two routes one is before the other. -/
theorem Route.Before.asymm {a b : Route} (h : a.Before b) : ¬ b.Before a :=
  List.lex_asymm (fun hab => hab.asymm) h

/-- No route is before itself. -/
theorem Route.Before.ne {a b : Route} (h : a.Before b) : a ≠ b := by
  rintro rfl
  exact h.asymm h

/-- What is after a component in common decides the order. -/
theorem Location.Before.of_cons {c : Component} {a b : Location}
    (h : Location.Before (c :: a) (c :: b)) : a.Before b := by
  cases h with
  | cons hab => exact hab
  | rel hc => exact absurd rfl hc.ne

/-- In a list that is sorted by one relation, another one holds between all items in order if it
holds of any two of which the first is before the second. -/
theorem pairwise_iff_of_pairwise {α : Type} {R S : α → α → Prop} (hasymm : ∀ a b, R a b → ¬ R b a)
    {list : List α} (h : list.Pairwise R) :
    list.Pairwise S ↔ ∀ a ∈ list, ∀ b ∈ list, R a b → S a b := by
  refine ⟨fun hS a ha b hb hab => ?_, fun hS => h.imp_of_mem fun ha hb => hS _ ha _ hb⟩
  have hforward : list.Pairwise fun x y => R x y → S x y := by
    refine hS.imp ?_
    intro x y hxy _
    exact hxy
  have hbackward : list.Pairwise (flip fun x y => R x y → S x y) :=
    h.imp fun hxy hyx => absurd hyx (hasymm _ _ hxy)
  exact hforward.forall_of_forall_of_flip (fun x _ hx => absurd hx (hasymm x x hx)) hbackward
    ha hb hab

/-- A relation holds between all locations that a path reaches, in the order in which it reaches
them, if it holds between the ends of its routes, in the order of the routes. -/
theorem pairwise_places_iff {S : Location → Location → Prop} {steps : List Step} {doc : Json}
    (h : IsOrdered doc) :
    ((places steps doc).map (·.1)).Pairwise S ↔ ∀ a b : Route, Follows steps doc a →
      Follows steps doc b → a.Before b → S a.flatten b.flatten := by
  have hlocations : (places steps doc).map (·.1) =
      ((routes steps doc).map (·.1)).map List.flatten := by
    rw [← map_routes, List.map_map, List.map_map]
    rfl
  rw [hlocations, List.pairwise_map,
    pairwise_iff_of_pairwise (fun a b => Route.Before.asymm) (pairwise_routes steps h)]
  simp only [mem_routes h]
  exact ⟨fun hS a b ha hb => hS a ha b hb, fun hS a ha b hb => hS a b ha hb⟩

/-! ## One descent -/

/-- A selector that is applied to a single node takes it. -/
theorem Step.takes_singleton (step : Step) {node : Json} {c : Component}
    (h : step.selector.accepts node c = true) : step.Takes node [c] := by
  cases step with
  | child selector => exact .child h
  | descendant selector =>
    have hself : nodeAt? node [] = some node := rfl
    exact .descendant hself h

/-- A step that is no descent takes single components. -/
theorem Step.Takes.exists_singleton {step : Step} {node : Json} {part : Location}
    (h : step.Takes node part) (hdirect : step.isDescent = false) :
    ∃ c, part = [c] ∧ step.selector.accepts node c = true := by
  cases h with
  | @child _ _ c haccepts => exact ⟨c, rfl, haccepts⟩
  | descendant => simp [Step.isDescent] at hdirect

theorem descents_cons (step : Step) (steps : List Step) :
    descents (step :: steps) = descents steps + if step.isDescent then 1 else 0 :=
  List.countP_cons

/-- Without a descent a location has a component for each step. -/
theorem Follows.length_flatten {steps : List Step} {node : Json} {route : Route}
    (h : Follows steps node route) (hdescents : descents steps = 0) :
    route.flatten.length = steps.length := by
  induction h with
  | nil => rfl
  | @cons step steps _ _ part rest htakes _ _ ih =>
    rw [descents_cons] at hdescents
    have hdirect : step.isDescent = false := by
      cases hstep : step.isDescent with
      | false => rfl
      | true => simp [hstep] at hdescents
    obtain ⟨c, rfl, -⟩ := htakes.exists_singleton hdirect
    rw [List.flatten_cons, List.length_append, ih (by omega), List.length_singleton,
      List.length_cons, Nat.add_comm]

/-- With one descent at most a location has one route. -/
theorem Follows.eq_of_flatten_eq {steps : List Step} {node : Json} {a b : Route}
    (ha : Follows steps node a) (hb : Follows steps node b) (hdescents : descents steps ≤ 1)
    (heq : a.flatten = b.flatten) : a = b := by
  induction ha generalizing b with
  | nil =>
    cases hb with
    | nil => rfl
  | @cons step steps node next part rest htakes hnext hrest ih =>
    cases hb with
    | @cons _ _ _ next' part' rest' htakes' hnext' hrest' =>
      rw [descents_cons] at hdescents
      rw [List.flatten_cons, List.flatten_cons] at heq
      have hparts : part = part' ∧ rest.flatten = rest'.flatten := by
        cases hstep : step.isDescent with
        | false =>
          obtain ⟨c, rfl, -⟩ := htakes.exists_singleton hstep
          obtain ⟨c', rfl, -⟩ := htakes'.exists_singleton hstep
          exact List.append_inj heq rfl
        | true =>
          -- What is left after the only descent has the same length in both.
          have hnone : descents steps = 0 := by
            rw [hstep, if_pos rfl] at hdescents
            omega
          refine List.append_inj' heq ?_
          rw [hrest.length_flatten hnone, hrest'.length_flatten hnone]
      obtain ⟨rfl, hlater⟩ := hparts
      obtain rfl : next = next' := Option.some.inj (hnext.symm.trans hnext')
      rw [ih hrest' (by omega) hlater]

/-! ## First children -/

/-- The name that is before all others. -/
theorem empty_lt {name : String} (h : name ≠ "") : "" < name := by
  obtain ⟨c, rest, heq⟩ := List.exists_cons_of_ne_nil (l := name.toList) (by simpa using h)
  rw [String.lt_iff, heq]
  exact List.nil_lt_cons c rest

/-- A selector that means first children means the same component at all nodes, and there is none
before it. -/
theorem Selector.IsFirst.exists_component {selector : Selector} (h : selector.IsFirst) :
    ∃ first, ∀ node c, selector.accepts node c = true → c = first ∧
      ∀ d, (child? node c).isSome → (child? node d).isSome → d = first ∨ first.Before d := by
  cases selector with
  | name key =>
    obtain rfl : key = "" := h
    refine ⟨.member "", fun node c haccepts => ?_⟩
    cases c with
    | item position => exact absurd haccepts (by simp [Selector.accepts])
    | member name =>
      obtain rfl : name = "" := by simpa [Selector.accepts] using haccepts
      refine ⟨rfl, fun d hc hd => ?_⟩
      cases node with
      | object members =>
        cases d with
        | item position => simp [child?] at hd
        | member other =>
          by_cases hempty : other = ""
          · exact .inl (hempty ▸ rfl)
          · exact .inr (empty_lt hempty)
      | null | bool | number | string | array => simp [child?] at hc
  | index position =>
    obtain rfl : position = 0 := h
    refine ⟨.item 0, fun node c haccepts => ?_⟩
    cases node with
    | array items =>
      cases c with
      | member name => exact absurd haccepts (by simp [Selector.accepts])
      | item i =>
        obtain rfl : i = 0 := by simpa [Selector.accepts] using haccepts
        refine ⟨rfl, fun d _ hd => ?_⟩
        cases d with
        | member name => simp [child?] at hd
        | item j =>
          by_cases hzero : j = 0
          · exact .inl (hzero ▸ rfl)
          · exact .inr (Nat.pos_of_ne_zero hzero)
    | null | bool | number | string | object =>
      exact absurd haccepts (by cases c <;> simp [Selector.accepts])
  | wildcard => exact h.elim

/-- Steps that go to first children alone. -/
def GoFirst (steps : List Step) : Prop :=
  ∀ step ∈ steps, step.isDescent = false ∧ step.selector.IsFirst

variable {steps : List Step} {node : Json}

/-- Steps to first children follow the same route from all nodes. -/
theorem Follows.eq_of_goFirst (hfirst : GoFirst steps) {node' : Json} {a b : Route}
    (ha : Follows steps node a) (hb : Follows steps node' b) : a = b := by
  induction ha generalizing node' b with
  | nil =>
    cases hb with
    | nil => rfl
  | @cons step steps _ _ _ _ htakes _ _ ih =>
    obtain ⟨⟨hdirect, hselector⟩, hlater⟩ := List.forall_mem_cons.1 hfirst
    cases hb with
    | cons htakes' _ hrest' =>
      obtain ⟨first, hcomponent⟩ := hselector.exists_component
      obtain ⟨c, rfl, hc⟩ := htakes.exists_singleton hdirect
      obtain ⟨d, rfl, hd⟩ := htakes'.exists_singleton hdirect
      rw [(hcomponent _ c hc).1, (hcomponent _ d hd).1, ih hlater hrest']

/-- What steps to first children lead to is before everything further down. -/
theorem Follows.before_of_goFirst (hfirst : GoFirst steps) {route : Route}
    (h : Follows steps node route) {location : Location} (hlocation : (nodeAt? node location).isSome)
    (hlength : route.flatten.length < location.length) :
    Location.Before route.flatten location := by
  induction h generalizing location with
  | nil =>
    obtain ⟨d, below, rfl⟩ := List.exists_cons_of_length_pos hlength
    exact .nil
  | @cons step steps node next part rest htakes hnext hrest ih =>
    obtain ⟨⟨hdirect, hselector⟩, hlater⟩ := List.forall_mem_cons.1 hfirst
    obtain ⟨first, hcomponent⟩ := hselector.exists_component
    obtain ⟨c, rfl, hc⟩ := htakes.exists_singleton hdirect
    obtain ⟨rfl, hothers⟩ := hcomponent node c hc
    rw [nodeAt?_singleton] at hnext
    obtain ⟨d, below, rfl⟩ := List.exists_cons_of_length_pos (Nat.zero_lt_of_lt hlength)
    obtain ⟨last, hlast⟩ := Option.isSome_iff_exists.1 hlocation
    obtain ⟨child, hchild, hbelow⟩ := Option.bind_eq_some_iff.1 hlast
    have hd := hothers d (Option.isSome_of_eq_some hnext) (Option.isSome_of_eq_some hchild)
    obtain rfl | hbefore := hd
    · obtain rfl : next = child := Option.some.inj (hnext.symm.trans hchild)
      exact .cons (ih hlater (Option.isSome_of_eq_some hbelow)
        (by simpa [Nat.add_comm 1] using hlength))
    · exact .rel hbefore

/-- What steps to first children lead to from two nodes is in the order of these nodes, also if one
of them is below the other. -/
theorem before_append_of_goFirst (hfirst : GoFirst steps) {start start' : Location}
    (hbefore : start.Before start') {below : Json} {route : Route}
    (hstart : nodeAt? node start = some below) (hroute : Follows steps below route)
    (hend : (nodeAt? node (start' ++ route.flatten)).isSome) :
    Location.Before (start ++ route.flatten) (start' ++ route.flatten) := by
  induction hbefore generalizing node with
  | nil =>
    obtain rfl : node = below := Option.some.inj hstart
    refine hroute.before_of_goFirst hfirst hend ?_
    rw [List.length_append, List.length_cons]
    omega
  | cons _ ih =>
    obtain ⟨child, hchild, hrest⟩ := Option.bind_eq_some_iff.1 hstart
    rw [List.cons_append, nodeAt?, hchild, Option.bind_some] at hend
    exact .cons (ih hrest hend)
  | rel hc => exact .rel hc

/-! ## Descents -/

/-- A route of a descent is one of a step to a child, from the node to which the selector is applied.
-/
theorem follows_descendant_iff {selector : Selector} {part : Location} {rest : Route} :
    Follows (.descendant selector :: steps) node (part :: rest) ↔
      ∃ start c below, part = start ++ [c] ∧ nodeAt? node start = some below ∧
        Follows (.child selector :: steps) below ([c] :: rest) := by
  constructor
  · intro h
    cases h with
    | @cons _ _ _ next _ _ htakes hnext hrest =>
      cases htakes with
      | @descendant _ _ below start c hstart haccepts =>
        rw [nodeAt?_append, hstart, Option.bind_some] at hnext
        exact ⟨start, c, below, rfl, hstart, .cons (.child haccepts) hnext hrest⟩
  · rintro ⟨start, c, below, rfl, hstart, h⟩
    cases h with
    | @cons _ _ _ next _ _ htakes hnext hrest =>
      have hnext' : nodeAt? node (start ++ [c]) = some next := by
        rw [nodeAt?_append, hstart, Option.bind_some, hnext]
      refine .cons ?_ hnext' hrest
      cases htakes with
      | child haccepts => exact .descendant hstart haccepts

/-- The end of a route is a node. -/
theorem Follows.isSome_nodeAt? {route : Route} (h : Follows steps node route) :
    (nodeAt? node route.flatten).isSome := by
  induction h with
  | nil => rfl
  | cons _ hnext _ ih => rwa [List.flatten_cons, nodeAt?_append, hnext, Option.bind_some]

/-- The routes of a path that keeps the order are in the order of their ends. -/
theorem Follows.before_of_keepsOrder (hkeeps : KeepsOrder steps) {a b : Route}
    (ha : Follows steps node a) (hb : Follows steps node b) (hbefore : a.Before b) :
    Location.Before a.flatten b.flatten := by
  induction steps generalizing node a b with
  | nil =>
    cases ha with
    | nil =>
      cases hb with
      | nil => exact absurd rfl hbefore.ne
  | cons step steps ih =>
    obtain ⟨part, rest, rfl⟩ : ∃ part rest, a = part :: rest := by
      cases ha with
      | cons => exact ⟨_, _, rfl⟩
    obtain ⟨part', rest', rfl⟩ : ∃ part rest, b = part :: rest := by
      cases hb with
      | cons => exact ⟨_, _, rfl⟩
    cases step with
    | child selector =>
      cases ha with
      | @cons _ _ _ next _ _ htakes hnext hrest =>
        cases hb with
        | @cons _ _ _ next' _ _ htakes' hnext' hrest' =>
          obtain ⟨c, rfl, -⟩ := htakes.exists_singleton rfl
          obtain ⟨d, rfl, -⟩ := htakes'.exists_singleton rfl
          cases hbefore with
          | cons hlater =>
            obtain rfl : next = next' := Option.some.inj (hnext.symm.trans hnext')
            exact .cons (ih hkeeps hrest hrest' hlater)
          | rel htaken =>
            obtain hparents | ⟨-, hparts⟩ := htaken
            · exact absurd rfl hparents.ne
            · exact hparts.append rfl _ _
    | descendant selector =>
      -- After the descent both routes are the same, so they differ in where it ends.
      have hfirst : GoFirst (.child selector :: steps) :=
        List.forall_mem_cons.2 ⟨⟨rfl, hkeeps.1⟩, hkeeps.2⟩
      obtain ⟨start, c, below, hpart, hstart, hrest⟩ := follows_descendant_iff.1 ha
      obtain ⟨start', d, below', hpart', hstart', hrest'⟩ := follows_descendant_iff.1 hb
      obtain ⟨hsame, rfl⟩ := List.cons.inj (hrest.eq_of_goFirst hfirst hrest')
      obtain rfl := List.singleton_inj.1 hsame
      have hstarts : start.Before start' := by
        cases hbefore with
        | cons hlater => exact absurd rfl (Route.Before.ne hlater)
        | rel htaken =>
          rw [Location.TakenBefore, hpart, hpart', List.dropLast_concat, List.dropLast_concat]
            at htaken
          obtain hparents | ⟨rfl, hparts⟩ := htaken
          · exact hparents
          · exact absurd rfl hparts.ne
      have hend := hb.isSome_nodeAt?
      rw [List.flatten_cons, hpart', List.append_assoc, ← List.flatten_cons] at hend
      rw [List.flatten_cons, List.flatten_cons, hpart, hpart', List.append_assoc, List.append_assoc,
        ← List.flatten_cons]
      exact before_append_of_goFirst hfirst hstarts hstart hrest hend

/-! ## Documents in which order is lost -/

/-- On some document two routes of a path, of which the first comes before the second, have their
ends in this relation. -/
def Clashes (R : Location → Location → Prop) (steps : List Step) : Prop :=
  ∃ doc, IsOrdered doc ∧ ∃ a b : Route, Follows steps doc a ∧ Follows steps doc b ∧ a.Before b ∧
    R a.flatten b.flatten

/-- Unless a selector means first children, the child that it means and an earlier one can be any
documents. -/
theorem exists_earlier_child {selector : Selector} (hfirst : ¬ selector.IsFirst)
    {earlier inner : Json} (hearlier : IsOrdered earlier) (h : IsOrdered inner) :
    ∃ node e c, IsOrdered node ∧ child? node e = some earlier ∧
      selector.accepts node c = true ∧ child? node c = some inner ∧ e.Before c := by
  have hnulls (n : Nat) : ∀ item ∈ List.replicate n Json.null, IsOrdered item := by
    intro item hmem
    rw [List.eq_of_mem_replicate hmem]
    exact List.forall_mem_singleton.2 trivial
  cases selector with
  | name key =>
    have hne : key ≠ "" := hfirst
    refine ⟨.object [("", earlier), (key, inner)], .member "", .member key, ?_, rfl, ?_, ?_,
      empty_lt hne⟩
    · refine isOrdered_object (List.pairwise_pair.2 (empty_lt hne)) ?_
      exact List.forall_mem_cons.2 ⟨hearlier, List.forall_mem_singleton.2 h⟩
    · simp [Selector.accepts]
    · simp [child?, Entries.find?, hne]
  | index position =>
    have hne : position ≠ 0 := hfirst
    obtain hend | hstart := Int.lt_or_gt_of_ne hne
    · -- So many items that the second one has the position, counted from the end.
      refine ⟨.array (earlier :: inner :: List.replicate (-position - 1).toNat .null),
        .item 0, .item 1, ?_, rfl, ?_, rfl, Nat.zero_lt_one⟩
      · exact isOrdered_array (List.forall_mem_cons.2 ⟨hearlier,
          List.forall_mem_cons.2 ⟨h, hnulls _⟩⟩)
      · simp only [Selector.accepts, hend, if_true, List.length_cons, List.length_replicate,
          decide_eq_true_eq]
        omega
    · obtain ⟨n, rfl⟩ : ∃ n : Nat, position = n + 1 := ⟨(position - 1).toNat, by omega⟩
      refine ⟨.array (earlier :: (List.replicate n .null ++ [inner])), .item 0, .item (n + 1), ?_,
        rfl, ?_, ?_, Nat.succ_pos n⟩
      · exact isOrdered_array (List.forall_mem_cons.2 ⟨hearlier,
          List.forall_mem_append.2 ⟨hnulls n, List.forall_mem_singleton.2 h⟩⟩)
      · simp only [Selector.accepts, Int.not_lt.2 (Int.le_of_lt hstart), if_false,
          decide_eq_true_eq]
        omega
      · simp [child?]
  | wildcard =>
    refine ⟨.array [earlier, inner], .item 0, .item 1, ?_, rfl, rfl, rfl, Nat.zero_lt_one⟩
    exact isOrdered_array (List.forall_mem_cons.2 ⟨hearlier, List.forall_mem_singleton.2 h⟩)

/-- The child that a selector means can be any document. -/
theorem exists_child (selector : Selector) {inner : Json} (h : IsOrdered inner) :
    ∃ node c, IsOrdered node ∧ selector.accepts node c = true ∧ child? node c = some inner := by
  by_cases hfirst : selector.IsFirst
  · cases selector with
    | name key =>
      obtain rfl : key = "" := hfirst
      refine ⟨.object [("", inner)], .member "", ?_, rfl, rfl⟩
      exact isOrdered_object (List.pairwise_singleton _ _) (List.forall_mem_singleton.2 h)
    | index position =>
      obtain rfl : position = 0 := hfirst
      exact ⟨.array [inner], .item 0, isOrdered_array (List.forall_mem_singleton.2 h), rfl, rfl⟩
    | wildcard => exact hfirst.elim
  · obtain ⟨node, -, c, hnode, -, haccepts, hchild, -⟩ := exists_earlier_child hfirst h h
    exact ⟨node, c, hnode, haccepts, hchild⟩

/-- Steps can take single components all the way down to any document. -/
theorem exists_follows (steps : List Step) {inner : Json} (h : IsOrdered inner) :
    ∃ node, IsOrdered node ∧ ∃ location : Location, location.length = steps.length ∧
      Follows steps node (location.map fun c => [c]) ∧ nodeAt? node location = some inner := by
  induction steps with
  | nil => exact ⟨inner, h, [], rfl, .nil inner, rfl⟩
  | cons step steps ih =>
    obtain ⟨next, hnext, location, hlength, hfollows, hinner⟩ := ih
    obtain ⟨node, c, hnode, haccepts, hchild⟩ := exists_child step.selector hnext
    refine ⟨node, hnode, c :: location, congrArg Nat.succ hlength, ?_, ?_⟩
    · exact .cons (step.takes_singleton haccepts) ((nodeAt?_singleton node c).trans hchild) hfollows
    · rw [nodeAt?, hchild, Option.bind_some, hinner]

/-- Components one by one are the location. -/
theorem flatten_map_singleton (location : Location) :
    (location.map fun c => [c]).flatten = location :=
  List.flatMap_singleton' location

/-- Routes of some steps go on as routes of later ones. -/
theorem Follows.append {later : List Step} {next : Json} {a b : Route} (ha : Follows steps node a)
    (hnext : nodeAt? node a.flatten = some next) (hb : Follows later next b) :
    Follows (steps ++ later) node (a ++ b) := by
  induction ha with
  | nil =>
    obtain rfl := Option.some.inj hnext
    exact hb
  | cons htakes hpart _ ih =>
    rw [List.flatten_cons, nodeAt?_append, hpart, Option.bind_some] at hnext
    exact .cons htakes hpart (ih hnext)

/-- A descent can begin further up. -/
theorem Follows.descend {selector : Selector} {start : Location} {below : Json} {part : Location}
    {rest : Route} (h : Follows (.descendant selector :: steps) below (part :: rest))
    (hstart : nodeAt? node start = some below) :
    Follows (.descendant selector :: steps) node ((start ++ part) :: rest) := by
  obtain ⟨middle, c, last, rfl, hmiddle, hrest⟩ := follows_descendant_iff.1 h
  refine follows_descendant_iff.2 ⟨start ++ middle, c, last, (List.append_assoc ..).symm, ?_, hrest⟩
  rw [nodeAt?_append, hstart, Option.bind_some, hmiddle]

/-- A step to a child leads to what the later steps do. -/
theorem Clashes.child {R : Location → Location → Prop} (h : Clashes R steps)
    (hR : ∀ c a b, R a b → R (c :: a) (c :: b)) (selector : Selector) :
    Clashes R (.child selector :: steps) := by
  obtain ⟨inner, hinner, a, b, ha, hb, hbefore, hends⟩ := h
  obtain ⟨doc, c, hdoc, haccepts, hchild⟩ := exists_child selector hinner
  have hc : nodeAt? doc [c] = some inner := (nodeAt?_singleton doc c).trans hchild
  exact ⟨doc, hdoc, [c] :: a, [c] :: b, .cons (.child haccepts) hc ha,
    .cons (.child haccepts) hc hb, .cons hbefore, hR c _ _ hends⟩

/-- A part that is taken at the first node comes before one that is taken further down. -/
theorem takenBefore_of_ne_nil (c d : Component) {start : Location} (h : start ≠ []) :
    Location.TakenBefore [c] (start ++ [d]) := by
  obtain ⟨e, rest, rfl⟩ := List.exists_cons_of_ne_nil h
  refine .inl ?_
  rw [List.dropLast_concat]
  exact .nil

/-- Of two descents the first one leads to two nodes, one below the other, from both of which the
second one leads to the same place. -/
theorem clashes_of_two_descents (first second : Selector) (front back : List Step) :
    Clashes Eq (.descendant first :: front ++ .descendant second :: back) := by
  have hnull : IsOrdered .null := List.forall_mem_singleton.2 trivial
  obtain ⟨lower, hlower, last, hlast, hfollowsLast, -⟩ :=
    exists_follows (.descendant second :: back) hnull
  obtain ⟨upper, hupper, middle, hmiddle, hfollowsMiddle, hleadsMiddle⟩ :=
    exists_follows (.descendant first :: front) hlower
  obtain ⟨doc, hdoc, start, hstart, hfollowsStart, hleadsStart⟩ :=
    exists_follows (.descendant first :: front) hupper
  obtain ⟨c, last, rfl⟩ := List.exists_cons_of_length_eq_add_one hlast
  obtain ⟨d, middle, rfl⟩ := List.exists_cons_of_length_eq_add_one hmiddle
  obtain ⟨e, start, rfl⟩ := List.exists_cons_of_length_eq_add_one hstart
  -- Either the second descent begins at the upper node, or the first one ends at the lower node.
  have ha := hfollowsStart.append (by rwa [flatten_map_singleton])
    (hfollowsLast.descend hleadsMiddle)
  have hlower' : nodeAt? doc (((e :: start) ++ [d]) :: middle.map fun c => [c]).flatten =
      some lower := by
    rw [List.flatten_cons, flatten_map_singleton, List.append_assoc, nodeAt?_append, hleadsStart]
    exact hleadsMiddle
  have hb := (hfollowsMiddle.descend hleadsStart).append hlower' hfollowsLast
  refine ⟨doc, hdoc, _, _, ha, hb, .rel (takenBefore_of_ne_nil e d (List.cons_ne_nil _ _)), ?_⟩
  simp [flatten_map_singleton]

/-- After two descents there are documents on which a place is reached twice. -/
theorem clashes_of_descents (h : 2 ≤ descents steps) : Clashes Eq steps := by
  induction steps with
  | nil => exact absurd h (by decide)
  | cons step steps ih =>
    rw [descents_cons] at h
    cases step with
    | child selector => exact (ih h).child (fun c a b hab => congrArg (c :: ·) hab) selector
    | descendant first =>
      have hlater : 0 < steps.countP Step.isDescent := Nat.lt_of_succ_lt_succ h
      obtain ⟨step, hmem, hdescent⟩ := List.countP_pos_iff.1 hlater
      obtain ⟨front, back, rfl⟩ := List.append_of_mem hmem
      cases step with
      | child => exact absurd hdescent Bool.false_ne_true
      | descendant second => exact clashes_of_two_descents first second front back

/-- From a descent on, a selector that does not mean first children leads to a place before what the
whole path leads to from an earlier child. -/
theorem clashes_of_not_isFirst {selector : Selector} {rest heads back : List Step} {step : Step}
    (hsteps : .descendant selector :: rest = heads ++ step :: back)
    (hfirst : ¬ step.selector.IsFirst) :
    Clashes (fun a b => ¬ a.Before b) (.descendant selector :: rest) := by
  have hnull : IsOrdered .null := List.forall_mem_singleton.2 trivial
  obtain ⟨earlier, hearlier, whole, hwhole, hfollowsWhole, -⟩ :=
    exists_follows (.descendant selector :: rest) hnull
  obtain ⟨later, hlater, last, -, hfollowsLast, -⟩ := exists_follows back hnull
  obtain ⟨node, e, c, hnode, hleadsEarlier, haccepts, hleadsLater, hbefore⟩ :=
    exists_earlier_child hfirst hearlier hlater
  obtain ⟨doc, hdoc, start, -, hfollowsStart, hleadsStart⟩ := exists_follows heads hnode
  obtain ⟨d, whole, rfl⟩ := List.exists_cons_of_length_eq_add_one hwhole
  have ha : Follows (.descendant selector :: rest) doc
      ((start.map fun c => [c]) ++ [c] :: last.map fun c => [c]) := by
    rw [hsteps]
    refine hfollowsStart.append (by rwa [flatten_map_singleton]) (.cons ?_ ?_ hfollowsLast)
    · exact step.takes_singleton haccepts
    · rwa [nodeAt?_singleton]
  have hleadsWhole : nodeAt? doc (start ++ [e]) = some earlier := by
    rw [nodeAt?_append, hleadsStart, Option.bind_some, nodeAt?_singleton, hleadsEarlier]
  refine ⟨doc, hdoc, _, _, ha, hfollowsWhole.descend hleadsWhole, ?_, ?_⟩
  · have hne : start ++ [e] ≠ [] := by simp
    cases start with
    | nil => exact .rel (takenBefore_of_ne_nil c d hne)
    | cons b start => exact .rel (takenBefore_of_ne_nil b d hne)
  · -- Below the node at the start, the end of the second route is under the earlier child.
    have hlocations : Location.Before (start ++ e :: d :: whole) (start ++ c :: last) :=
      List.Lex.append_left Component.Before (.rel hbefore) start
    refine Location.Before.asymm ?_
    simpa [flatten_map_singleton] using hlocations

/-- If a path does not keep the order, there are documents on which it is lost. -/
theorem clashes_of_not_keepsOrder (h : ¬ KeepsOrder steps) :
    Clashes (fun a b => ¬ a.Before b) steps := by
  induction steps with
  | nil => exact absurd trivial h
  | cons step steps ih =>
    cases step with
    | child selector => exact (ih h).child (fun c a b hab hcons => hab hcons.of_cons) selector
    | descendant selector =>
      by_cases hfirst : ∀ step ∈ .descendant selector :: steps, step.selector.IsFirst
      · -- All selectors mean first children, so there must be another descent.
        obtain ⟨hselector, hselectors⟩ := List.forall_mem_cons.1 hfirst
        obtain ⟨step, hmem, hdescent⟩ : ∃ step ∈ steps, step.isDescent = true := by
          by_contra hnone
          refine h ⟨hselector, fun step hmem => ⟨?_, hselectors step hmem⟩⟩
          exact Bool.eq_false_iff.2 fun hdescent => hnone ⟨step, hmem, hdescent⟩
        have hlater : 0 < descents steps := List.countP_pos_iff.2 ⟨step, hmem, hdescent⟩
        have hdescents : 2 ≤ descents (.descendant selector :: steps) := by
          rw [descents_cons, Step.isDescent, if_pos rfl]
          omega
        obtain ⟨doc, hdoc, a, b, ha, hb, hbefore, hends⟩ := clashes_of_descents hdescents
        exact ⟨doc, hdoc, a, b, ha, hb, hbefore, fun hlocations => hlocations.ne hends⟩
      · obtain ⟨step, hmem, hnot⟩ : ∃ step ∈ .descendant selector :: steps,
            ¬ step.selector.IsFirst := by
          simpa only [not_forall, exists_prop] using hfirst
        obtain ⟨heads, back, hsteps⟩ := List.append_of_mem hmem
        exact clashes_of_not_isFirst hsteps hnot

/-! ## The order of what is selected -/

/-- A path selects the nodes at the ends of its routes, in the order of the routes. On every document
each place is reached once if and only if the path has one descent at most, and the places are in
the order of the document if and only if the path keeps the order. -/
theorem places_order (steps : List Step) :
    (∀ doc, IsOrdered doc → (places steps doc).map (·.2) = select steps doc ∧
      ∃ routes : List Route, routes.Pairwise Route.Before ∧
        (∀ route, route ∈ routes ↔ Follows steps doc route) ∧
        (places steps doc).map (·.1) = routes.map List.flatten) ∧
    ((∀ doc, IsOrdered doc → ((places steps doc).map (·.1)).Nodup) ↔ descents steps ≤ 1) ∧
    ((∀ doc, IsOrdered doc → InOrder ((places steps doc).map (·.1))) ↔ KeepsOrder steps) := by
  refine ⟨fun doc h => ⟨map_places h steps, (routes steps doc).map (·.1), pairwise_routes steps h,
    fun route => mem_routes h, ?_⟩, ⟨fun hall => ?once, fun hdescents doc h => ?_⟩,
    ⟨fun hall => ?order, fun hkeeps doc h => ?_⟩⟩
  · rw [← map_routes, List.map_map, List.map_map]
    rfl
  case once =>
    by_contra hdescents
    obtain ⟨doc, h, a, b, ha, hb, hbefore, hends⟩ :=
      clashes_of_descents (Nat.lt_of_not_le hdescents)
    exact (pairwise_places_iff h).1 (hall doc h) a b ha hb hbefore hends
  · exact (pairwise_places_iff h).2 fun a b ha hb hbefore hends =>
      hbefore.ne (ha.eq_of_flatten_eq hb hdescents hends)
  case order =>
    by_contra hkeeps
    obtain ⟨doc, h, a, b, ha, hb, hbefore, hends⟩ := clashes_of_not_keepsOrder hkeeps
    exact hends ((pairwise_places_iff h).1 (hall doc h) a b ha hb hbefore)
  · exact (pairwise_places_iff h).2 fun a b ha hb hbefore =>
      ha.before_of_keepsOrder hkeeps hb hbefore

/-- A document in which members of one name are at three depths, the deepest one first. -/
def ladderDoc : Json :=
  .object [("a", .object [("a", .object [("b", .number (.whole 1))]), ("b", .number (.whole 2))]),
    ("b", .number (.whole 3))]

/-- The first items of all arrays, of which each is before what is below it. -/
theorem places_order_firstItems :
    IsOrdered nestedDoc ∧ descents [.descendant (.index 0)] ≤ 1 ∧
      KeepsOrder [.descendant (.index 0)] ∧
      ((places [.descendant (.index 0)] nestedDoc).map (·.1)).Nodup ∧
      InOrder ((places [.descendant (.index 0)] nestedDoc).map (·.1)) := by
  have hordered : IsOrdered nestedDoc := by decide
  have hdescents : descents [.descendant (.index 0)] ≤ 1 := by decide
  have hkeeps : KeepsOrder [.descendant (.index 0)] := by decide
  obtain ⟨-, honce, horder⟩ := places_order [.descendant (.index 0)]
  exact ⟨hordered, hdescents, hkeeps, honce.2 hdescents _ hordered, horder.2 hkeeps _ hordered⟩

/-- Not every path with a descent reaches its places in the order of the document, and not every one
reaches them once: the members of one name come from the top down, and a second descent comes to
the deepest of them from both nodes above it. -/
theorem not_forall_inOrder :
    (¬ ∀ steps doc, 0 < descents steps → IsOrdered doc →
      InOrder ((places steps doc).map (·.1))) ∧
    ¬ ∀ steps doc, 0 < descents steps → IsOrdered doc → ((places steps doc).map (·.1)).Nodup := by
  have hordered : IsOrdered ladderDoc := by decide
  constructor
  · intro h
    have hlocations : (places [.descendant (.name "b")] ladderDoc).map (·.1) =
        [[.member "b"], [.member "a", .member "b"], [.member "a", .member "a", .member "b"]] := by
      decide
    have horder := h [.descendant (.name "b")] ladderDoc (by decide) hordered
    rw [hlocations] at horder
    exact absurd horder (by decide)
  · intro h
    have hlocations :
        (places [.descendant (.name "a"), .descendant (.name "b")] ladderDoc).map (·.1) =
          [[.member "a", .member "b"], [.member "a", .member "a", .member "b"],
            [.member "a", .member "a", .member "b"]] := by
      decide
    have honce :=
      h [.descendant (.name "a"), .descendant (.name "b")] ladderDoc (by decide) hordered
    rw [hlocations] at honce
    exact absurd honce (by decide)

end Volley.JsonPath
