import Volley.JsonPath.Location
import Volley.Proofs.Dictionary

/-!
# Nodes and their locations

What is below a node is that node and what is below its children (`nodes_eq`, `below_eq`), so what
holds of a node because it holds of its children holds of every node (`induction_children`). The
children of a node in order are those that components lead to (`mem_children_iff`), and from this
the places below a node are those that locations lead to (`mem_below_iff`).

All of this holds of documents in order, which are all that a text can be (`isOrdered_of_parse?`).
-/

namespace Volley.JsonPath

/-! ## Children -/

mutual

/-- Without their locations, the places below a node are the nodes below it. -/
theorem map_below : ∀ node, (below node).map (·.2) = nodes node
  | .array items => by rw [below, nodes, List.map_cons, map_belowItems]
  | .object members => by rw [below, nodes, List.map_cons, map_belowMembers]
  | .null | .bool _ | .number _ | .string _ => rfl

/-- Without their locations, the places below items are the nodes below them. -/
theorem map_belowItems : ∀ position items,
    (belowItems position items).map (·.2) = nodesOfItems items
  | _, [] => rfl
  | position, item :: rest => by
    rw [belowItems, nodesOfItems, List.map_append, List.map_map, map_belowItems, ← map_below]
    rfl

/-- Without their locations, the places below members are the nodes below them. -/
theorem map_belowMembers : ∀ members, (belowMembers members).map (·.2) = nodesOfMembers members
  | [] => rfl
  | (_, value) :: rest => by
    rw [belowMembers, nodesOfMembers, List.map_append, List.map_map, map_belowMembers, ← map_below]
    rfl

end

/-- The places below a node are the node itself, and the places below its children. -/
theorem below_eq (node : Json) :
    below node = ([], node) :: (children node).flatMap fun child =>
      (below child.2).map fun place => (child.1 :: place.1, place.2) := by
  have hitems (items : List Json) (start : Nat) :
      belowItems start items =
        ((items.zipIdx start).map fun item => (Component.item item.2, item.1)).flatMap
          fun child => (below child.2).map fun place => (child.1 :: place.1, place.2) := by
    induction items generalizing start with
    | nil => rfl
    | cons item rest ih =>
      rw [belowItems, ih (start + 1), List.zipIdx_cons, List.map_cons, List.flatMap_cons]
  have hmembers (members : List (String × Json)) :
      belowMembers members =
        (members.map fun member => (Component.member member.1, member.2)).flatMap
          fun child => (below child.2).map fun place => (child.1 :: place.1, place.2) := by
    induction members with
    | nil => rfl
    | cons member rest ih =>
      rw [belowMembers, ih, List.map_cons, List.flatMap_cons]
  cases node with
  | array items => rw [below, hitems items 0]; rfl
  | object members => rw [below, hmembers]; rfl
  | null | bool | number | string => rfl

/-- The nodes below a node are the node itself, and the nodes below its children. -/
theorem nodes_eq (node : Json) :
    nodes node = node :: (children node).flatMap fun child => nodes child.2 := by
  rw [← map_below, below_eq, List.map_cons, List.map_flatMap]
  simp only [List.map_map, Function.comp_def, map_below]

/-- A child is smaller than its node. -/
theorem sizeOf_lt_of_mem_children {node : Json} {child : Component × Json}
    (h : child ∈ children node) : sizeOf child.2 < sizeOf node := by
  cases node with
  | array items =>
    obtain ⟨⟨item, i⟩, hmem, rfl⟩ := List.mem_map.1 h
    have hlt : sizeOf item < sizeOf items := List.sizeOf_lt_of_mem (List.fst_mem_of_mem_zipIdx hmem)
    simp only [Json.array.sizeOf_spec]
    omega
  | object members =>
    obtain ⟨⟨name, value⟩, hmem, rfl⟩ := List.mem_map.1 h
    have hlt : sizeOf (name, value) < sizeOf members := List.sizeOf_lt_of_mem hmem
    simp only [Json.object.sizeOf_spec, Prod.mk.sizeOf_spec] at hlt ⊢
    omega
  | null | bool | number | string => exact absurd h List.not_mem_nil

/-- What holds of a node if it holds of its children holds of every node. -/
theorem induction_children {P : Json → Prop}
    (h : ∀ node, (∀ child ∈ children node, P child.2) → P node) (node : Json) : P node := by
  induction hsize : sizeOf node using Nat.strongRecOn generalizing node with
  | _ n ih =>
    subst hsize
    exact h node fun child hchild => ih _ (sizeOf_lt_of_mem_children hchild) child.2 rfl

/-! ## Documents in order -/

/-- A document is in order if it has order at its root and its children are in order. -/
theorem isOrdered_iff (node : Json) :
    IsOrdered node ↔ HasOrder node ∧ ∀ child ∈ children node, IsOrdered child.2 := by
  rw [IsOrdered, nodes_eq, List.forall_mem_cons, List.forall_mem_flatMap]
  rfl

/-- The children of a document in order are in order. -/
theorem IsOrdered.child {node : Json} (h : IsOrdered node) {child : Component × Json}
    (hchild : child ∈ children node) : IsOrdered child.2 :=
  ((isOrdered_iff node).1 h).2 child hchild

/-- A document in order has order at its root. -/
theorem IsOrdered.hasOrder {node : Json} (h : IsOrdered node) : HasOrder node :=
  ((isOrdered_iff node).1 h).1

/-- The children of a node are those that components lead to. -/
theorem mem_children_iff {node : Json} (h : HasOrder node) {c : Component} {next : Json} :
    (c, next) ∈ children node ↔ child? node c = some next := by
  cases node with
  | array items =>
    cases c with
    | item i => simp [children, child?, List.mem_zipIdx_iff_getElem?, eq_comm]
    | member name => simp [children, child?]
  | object members =>
    cases c with
    | item i => simp [children, child?]
    | member name =>
      rw [child?, Entries.find?_eq_some_iff h]
      simp [children]
  | null | bool | number | string => simp [children, child?]

/-! ## Locations -/

/-- A location leads on from where another one led. -/
theorem nodeAt?_append (node : Json) (start rest : Location) :
    nodeAt? node (start ++ rest) = (nodeAt? node start).bind (nodeAt? · rest) := by
  induction start generalizing node with
  | nil => rfl
  | cons c start ih =>
    rw [List.cons_append, nodeAt?, nodeAt?, Option.bind_assoc]
    exact congrArg _ (funext ih)

/-- A component alone leads to a child. -/
theorem nodeAt?_singleton (node : Json) (c : Component) : nodeAt? node [c] = child? node c :=
  Option.bind_fun_some (child? node c)

/-- What a location leads to in a document in order is in order. -/
theorem IsOrdered.nodeAt? {node : Json} (h : IsOrdered node) {location : Location} {next : Json}
    (hnext : nodeAt? node location = some next) : IsOrdered next := by
  induction location generalizing node with
  | nil => exact Option.some.inj hnext ▸ h
  | cons c location ih =>
    obtain ⟨child, hchild, hrest⟩ := Option.bind_eq_some_iff.1 hnext
    exact ih (h.child ((mem_children_iff h.hasOrder).2 hchild)) hrest

/-- Nodes under changed locations are those that were under some location before. -/
theorem mem_map_fst {α β γ : Type} {f : α → β} {list : List (α × γ)} {b : β} {node : γ} :
    (b, node) ∈ list.map (fun item => (f item.1, item.2)) ↔ ∃ a, (a, node) ∈ list ∧ f a = b := by
  simp [List.mem_map]

/-- The places below a node are those that locations lead to. -/
theorem mem_below_iff {node : Json} (h : IsOrdered node) {location : Location} {next : Json} :
    (location, next) ∈ below node ↔ nodeAt? node location = some next := by
  induction node using induction_children generalizing location with
  | h node ih =>
    rw [below_eq, List.mem_cons, List.mem_flatMap]
    simp only [mem_map_fst]
    cases location with
    | nil => simp [nodeAt?, eq_comm]
    | cons c rest =>
      simp only [Prod.mk.injEq, reduceCtorEq, false_and, false_or, nodeAt?, Option.bind_eq_some_iff]
      constructor
      · rintro ⟨⟨d, value⟩, hchild, later, hlater, heq⟩
        obtain ⟨rfl, rfl⟩ := List.cons.inj heq
        exact ⟨value, (mem_children_iff h.hasOrder).1 hchild,
          (ih _ hchild (h.child hchild)).1 hlater⟩
      · rintro ⟨value, hvalue, hnext⟩
        have hchild := (mem_children_iff h.hasOrder).2 hvalue
        exact ⟨(c, value), hchild, rest, (ih _ hchild (h.child hchild)).2 hnext, rfl⟩

/-! ## Values of texts -/

/-- A list of documents in order is a document in order. -/
theorem isOrdered_array {items : List Json} (h : ∀ item ∈ items, IsOrdered item) :
    IsOrdered (.array items) := by
  refine (isOrdered_iff _).2 ⟨trivial, fun child hchild => ?_⟩
  obtain ⟨⟨item, i⟩, hmem, rfl⟩ := List.mem_map.1 hchild
  exact h item (List.fst_mem_of_mem_zipIdx hmem)

/-- Documents in order under names in order are a document in order. -/
theorem isOrdered_object {members : List (String × Json)} (hsorted : Entries.Sorted members)
    (h : ∀ member ∈ members, IsOrdered member.2) : IsOrdered (.object members) := by
  refine (isOrdered_iff _).2 ⟨hsorted, fun child hchild => ?_⟩
  obtain ⟨member, hmem, rfl⟩ := List.mem_map.1 hchild
  exact h member hmem

mutual

/-- The value of a tree is in order, because the members of its objects are put in order. -/
theorem isOrdered_of_valueWithin? : ∀ (depth : Nat) (tree : Json.Written) {doc : Json},
    tree.valueWithin? depth = some doc → IsOrdered doc
  | depth, .array items, doc, h => by
    simp only [Json.Written.valueWithin?, Option.ite_none_left_eq_some, Option.map_eq_some_iff] at h
    obtain ⟨-, docs, hdocs, rfl⟩ := h
    exact isOrdered_array (isOrdered_of_itemsWithin? _ items hdocs)
  | depth, .object members, doc, h => by
    simp only [Json.Written.valueWithin?, Option.ite_none_left_eq_some, Option.map_eq_some_iff] at h
    obtain ⟨-, pairs, hpairs, rfl⟩ := h
    exact isOrdered_object (Entries.sorted_ofPairs pairs) fun member hmem =>
      isOrdered_of_membersWithin? _ members hpairs member (Entries.mem_of_mem_ofPairs hmem)
  | depth, .null, doc, h => by
    obtain rfl : Json.null = doc := Option.some.inj h
    exact List.forall_mem_singleton.2 trivial
  | depth, .bool b, doc, h => by
    obtain rfl : Json.bool b = doc := Option.some.inj h
    exact List.forall_mem_singleton.2 trivial
  | depth, .numeral n, doc, h => by
    obtain ⟨number, -, rfl⟩ := Option.map_eq_some_iff.1 h
    exact List.forall_mem_singleton.2 trivial
  | depth, .string units, doc, h => by
    obtain ⟨text, -, rfl⟩ := Option.map_eq_some_iff.1 h
    exact List.forall_mem_singleton.2 trivial

/-- The values of the items of an array are in order. -/
theorem isOrdered_of_itemsWithin? : ∀ (depth : Nat) (trees : List Json.Written)
    {docs : List Json}, Json.itemsWithin? depth trees = some docs → ∀ doc ∈ docs, IsOrdered doc
  | depth, [], docs, h => by
    obtain rfl : [] = docs := Option.some.inj h
    exact List.forall_mem_nil _
  | depth, tree :: rest, docs, h => by
    simp only [Json.itemsWithin?, Option.bind_eq_bind, Option.bind_eq_some_iff, Option.pure_def,
      Option.some.injEq] at h
    obtain ⟨first, hfirst, later, hlater, rfl⟩ := h
    exact List.forall_mem_cons.2
      ⟨isOrdered_of_valueWithin? depth tree hfirst, isOrdered_of_itemsWithin? depth rest hlater⟩

/-- The values of the members of an object are in order. -/
theorem isOrdered_of_membersWithin? : ∀ (depth : Nat)
    (trees : List (List Json.StringUnit × Json.Written)) {pairs : List (String × Json)},
    Json.membersWithin? depth trees = some pairs → ∀ pair ∈ pairs, IsOrdered pair.2
  | depth, [], pairs, h => by
    obtain rfl : [] = pairs := Option.some.inj h
    exact List.forall_mem_nil _
  | depth, (units, tree) :: rest, pairs, h => by
    simp only [Json.membersWithin?, Option.bind_eq_bind, Option.bind_eq_some_iff, Option.pure_def,
      Option.some.injEq] at h
    obtain ⟨name, -, first, hfirst, later, hlater, rfl⟩ := h
    exact List.forall_mem_cons.2
      ⟨isOrdered_of_valueWithin? depth tree hfirst, isOrdered_of_membersWithin? depth rest hlater⟩

end

/-- The value of a text is in order. -/
theorem isOrdered_of_parse? {text : List Char} {doc : Json} (h : Json.parse? text = some doc) :
    IsOrdered doc := by
  obtain ⟨tree, -, hvalue⟩ := Option.bind_eq_some_iff.1 h
  exact isOrdered_of_valueWithin? _ tree hvalue

end Volley.JsonPath
