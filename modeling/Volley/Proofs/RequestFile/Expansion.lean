import Volley.Proofs.RequestFile.Recorded
import Volley.Proofs.Template.Fusion
import Volley.RequestFile.Copy
import Volley.RequestFile.Lookup
import Volley.Run.Prepared

/-!
# Files filled in with their own variables

A file `Expands` another if it has the same variables and its cases are those of the other, filled
in with the variables. Such a file answers every key as the other does (`Expands.lookup_eq`),
because filling in touches neither the names of cases nor what they hold. Its cases are prepared as
those of the other are (`prepare_expandCase`): the variables are asked first at every placeholder,
so that filling them in beforehand makes no difference (`substitute_absorb`).
-/

namespace Volley

/-- A text without characters stays so. -/
@[simp] theorem substitute_empty (resolver : Resolver) : substitute resolver "" = "" := by
  rw [substitute, String.toList_empty, Template.pieces_nil, List.flatMap_nil, String.ofList_nil]

namespace RequestFile

/-- A file knows its variables. -/
theorem lookup_of_get? (builtins : Resolver) {file : RequestFile} {key value : String}
    (h : file.bindings.get? key = some value) : file.lookup builtins key = some value := by
  rw [lookup, h]

/-- A case that is filled in by a resolver beforehand is prepared as it would have been, if the one
who prepares it knows as much and no value has an opening brace in it. -/
theorem prepare_expandCase {first second : Resolver}
    (h : ∀ key value, first key = some value → '\x7b' ∉ value.toList)
    (hle : ∀ key value, first key = some value → second key = some value) (c : Case) :
    (expandCase first c).prepare second = c.prepare second := by
  have habsorb := substitute_absorb h hle
  rw [Case.prepare, Case.prepare, expandCase, habsorb, habsorb, habsorb]

/-- How a case is prepared depends on its templates alone. -/
theorem prepare_eq_of_released_eq {c d : Case} (h : c.released = d.released) (resolver : Resolver) :
    c.prepare resolver = d.prepare resolver := by
  have hreleased (c : Case) : c.released.prepare resolver = c.prepare resolver := rfl
  rw [← hreleased c, h, hreleased d]

/-- A file whose variables can be filled in beforehand: no value has an opening brace in it, and no
method becomes empty. -/
structure Expandable (file : RequestFile) : Prop where
  /-- No value has an opening brace in it. -/
  values : ∀ key value, file.bindings.get? key = some value → '\x7b' ∉ value.toList
  /-- No method becomes empty. -/
  methods : ∀ c ∈ file.cases, c.method ≠ "" → substitute file.bindings.get? c.method ≠ ""

/-- Whether the variables can be filled in beforehand depends on the templates alone. -/
theorem Expandable.of_release_eq {a b : RequestFile} (h : Expandable a)
    (hrelease : a.release = b.release) : Expandable b := by
  have hbindings : a.bindings = b.bindings := by
    rw [← release_bindings a, hrelease, release_bindings]
  refine ⟨fun key value hvalue => h.values key value (hbindings ▸ hvalue), fun c hc hmethod => ?_⟩
  have hcases : b.cases.map Case.released = a.cases.map Case.released := by
    rw [← release_cases, ← release_cases, hrelease]
  obtain ⟨d, hd, hdc⟩ := Case.exists_mem_released_eq hcases hc
  have hsame := Case.method_eq_of_released_eq hdc
  rw [← hbindings, ← hsame]
  exact h.methods d hd (hsame ▸ hmethod)

/-- The first file is the second one, filled in with its own variables. -/
structure Expands (a b : RequestFile) : Prop where
  /-- The variables are the same. -/
  bindings : a.bindings = b.bindings
  /-- The cases are filled in with them. -/
  cases : a.cases = b.cases.map (expandCase b.bindings.get?)

namespace Expands

variable {a b : RequestFile}

/-- The cases at a place. -/
theorem getElem? (h : Expands a b) (place : Nat) :
    a.cases[place]? = (b.cases[place]?).map (expandCase b.bindings.get?) := by
  rw [h.cases, List.getElem?_map]

/-- Cases hold what they held. -/
theorem map_exchange (h : Expands a b) :
    a.cases.map Case.exchange = b.cases.map Case.exchange := by
  rw [h.cases, List.map_map]
  rfl

/-- Cases are found by the names that they had. -/
theorem findCase?_eq (h : Expands a b) (name : String) :
    a.findCase? name = (b.findCase? name).map (expandCase b.bindings.get?) := by
  rw [findCase?, h.cases, List.find?_map]
  rfl

/-- References lead to the same exchanges. -/
theorem exchange?_eq (h : Expands a b) (owner : List Char) :
    a.exchange? owner = b.exchange? owner := by
  unfold exchange?
  cases Text.cutLast? '.' owner with
  | none => rfl
  | some parts =>
    simp only [Option.bind_eq_bind, Option.bind_some, h.findCase?_eq]
    cases b.findCase? (String.ofList parts.1) with
    | none => rfl
    | some c => rfl

/-- Every key has the same value. -/
theorem lookup_eq (h : Expands a b) (builtins : Resolver) : a.lookup builtins = b.lookup builtins :=
  lookup_eq_of_exchange?_eq h.bindings (funext h.exchange?_eq) builtins

/-- Recording the same in both keeps them alike. -/
theorem recordAny (h : Expands a b) (index : Nat) (e? : Option Exchange) :
    Expands (a.recordAny index e?) (b.recordAny index e?) := by
  cases e? with
  | none => exact h
  | some e =>
    refine ⟨h.bindings, ?_⟩
    -- Filling in does not touch what a case holds, so it may come before or after recording.
    apply List.ext_getElem?
    intro place
    rw [List.getElem?_map]
    simp only [RequestFile.recordAny, Option.elim_some, getElem?_record, h.getElem?,
      Option.map_map, record_bindings]
    congr 1
    funext c
    simp only [Function.comp_apply]
    split_ifs
    · rfl
    · rfl

/-- If no method becomes empty, the same cases have one. -/
theorem hasMethod_eq (h : Expands a b) (hexp : Expandable b) (place : Nat) :
    a.hasMethod place = b.hasMethod place := by
  rw [hasMethod, hasMethod, h.getElem?, Option.any_map]
  cases hc : b.cases[place]? with
  | none => rfl
  | some c =>
    have hmethod := hexp.methods c (List.mem_of_getElem? hc)
    have hnonempty {s : String} (hs : s ≠ "") : s.isEmpty = false :=
      Bool.eq_false_iff.2 fun hempty => hs (String.isEmpty_iff.1 hempty)
    -- An empty method stays empty, and no other becomes so.
    by_cases hempty : c.method = ""
    · simp [expandCase, hempty]
    · simp [expandCase, hnonempty hempty, hnonempty (hmethod hempty)]

end Expands

end RequestFile

end Volley
