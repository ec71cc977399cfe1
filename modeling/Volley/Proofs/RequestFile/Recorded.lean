import Mathlib.Tactic.SplitIfs
import Volley.RequestFile.Lookup

/-!
# What a file holds

A file is its templates and what its cases have recorded. Two files have the same templates when
they are the same once everything recorded is released; recording does not change the templates
(`release_record`). A file can be cut down to what the cases before a place have recorded
(`heldBefore`): this is the file that a case at that place is prepared with.
-/

namespace Volley

/-- Releasing a case twice is releasing it once. -/
@[simp] theorem Case.released_released (c : Case) : c.released.released = c.released := rfl

/-- Releasing a case does not change its method. -/
theorem Case.method_eq_of_released_eq {c d : Case} (h : c.released = d.released) :
    c.method = d.method := by
  simpa [Case.released] using congrArg Case.method h

/-- A case of one list has its like in another with the same templates. -/
theorem Case.exists_mem_released_eq {cs ds : List Case}
    (h : cs.map Case.released = ds.map Case.released) {c : Case} (hc : c ∈ cs) :
    ∃ d ∈ ds, d.released = c.released := by
  have hmem : c.released ∈ ds.map Case.released := h ▸ List.mem_map_of_mem hc
  exact List.mem_map.1 hmem

namespace RequestFile

@[simp] theorem release_bindings (file : RequestFile) : file.release.bindings = file.bindings := rfl

@[simp] theorem release_cases (file : RequestFile) :
    file.release.cases = file.cases.map Case.released := rfl

@[simp] theorem record_bindings (file : RequestFile) (index : Nat) (e : Exchange) :
    (file.record index e).bindings = file.bindings := rfl

/-- Releasing a file twice is releasing it once. -/
@[simp] theorem release_release (file : RequestFile) : file.release.release = file.release := by
  simp [release]

/-- A case after recording: it holds the exchange if it stands at the place. -/
theorem getElem?_record (file : RequestFile) (index place : Nat) (e : Exchange) :
    (file.record index e).cases[place]? =
      (file.cases[place]?).map fun c =>
        if index = place then { c with exchange := some e } else c := by
  rw [record, List.getElem?_modify]
  split_ifs <;> rfl

/-- Recording does not change the templates. -/
@[simp] theorem release_record (file : RequestFile) (index : Nat) (e : Exchange) :
    (file.record index e).release = file.release := by
  have hcases : (file.record index e).cases.map Case.released = file.cases.map Case.released := by
    apply List.ext_getElem?
    intro place
    rw [List.getElem?_map, List.getElem?_map, getElem?_record, Option.map_map]
    congr 1
    funext c
    simp only [Function.comp_apply]
    split_ifs <;> rfl
  rw [release, hcases]
  rfl

/-- Files with the same templates have the same cases, but for what these have recorded. -/
theorem exists_released_eq {a b : RequestFile} (h : a.release = b.release) {place : Nat} {c : Case}
    (hc : a.cases[place]? = some c) : ∃ d, b.cases[place]? = some d ∧ d.released = c.released := by
  have hcases : b.release.cases[place]? = some c.released := by
    rw [← h, release_cases, List.getElem?_map, hc, Option.map_some]
  rw [release_cases, List.getElem?_map] at hcases
  exact Option.map_eq_some_iff.1 hcases

/-- A file with what the cases before a place have recorded, and nothing else. -/
def heldBefore (file : RequestFile) (place : Nat) : RequestFile :=
  { file with cases := file.cases.mapIdx fun i c => if i < place then c else c.released }

/-- What a case records does not count before its place. -/
theorem heldBefore_record (file : RequestFile) {place index : Nat} (h : place ≤ index)
    (e : Exchange) : (file.record index e).heldBefore place = file.heldBefore place := by
  have hcases :
      (file.record index e).cases.mapIdx (fun i c => if i < place then c else c.released) =
        file.cases.mapIdx fun i c => if i < place then c else c.released := by
    apply List.ext_getElem?
    intro i
    rw [List.getElem?_mapIdx, List.getElem?_mapIdx, getElem?_record, Option.map_map]
    congr 1
    funext c
    -- The place of the record is at or after the bound, so its case is released on both sides.
    simp only [Function.comp_apply]
    split_ifs
    · omega
    · rfl
    · rfl
    · rfl
  rw [heldBefore, hcases]
  rfl

/-- A file that holds nothing from a place on is what it holds before that place. -/
theorem heldBefore_eq_self {file : RequestFile} {place : Nat}
    (h : ∀ i c, place ≤ i → file.cases[i]? = some c → c.exchange = none) :
    file.heldBefore place = file := by
  have hcases :
      file.cases.mapIdx (fun i c => if i < place then c else c.released) = file.cases := by
    apply List.ext_getElem?
    intro i
    rw [List.getElem?_mapIdx]
    cases hc : file.cases[i]? with
    | none => rfl
    | some c =>
      rw [Option.map_some]
      split_ifs with hi
      · rfl
      · have hnone : c.exchange = none := h i c (by omega) hc
        rw [Case.released, ← hnone]
  rw [heldBefore, hcases]

/-- The cases hold nothing from a place on. -/
def HoldsNothingFrom (file : RequestFile) (place : Nat) : Prop :=
  ∀ c ∈ file.cases.drop place, c.exchange = none

/-- A file that was cut down to what the cases before a place have recorded holds nothing from there
on. -/
theorem holdsNothingFrom_heldBefore (file : RequestFile) (place : Nat) :
    (file.heldBefore place).HoldsNothingFrom place := by
  intro c hc
  obtain ⟨i, hi⟩ := List.mem_iff_getElem?.1 hc
  rw [List.getElem?_drop, heldBefore, List.getElem?_mapIdx] at hi
  obtain ⟨d, -, rfl⟩ := Option.map_eq_some_iff.1 hi
  rw [if_neg (by omega)]
  rfl

/-- Cutting a file down does not change the templates. -/
theorem release_heldBefore (file : RequestFile) (place : Nat) :
    (file.heldBefore place).release = file.release := by
  have hcases : (file.heldBefore place).cases.map Case.released = file.cases.map Case.released := by
    apply List.ext_getElem?
    intro i
    rw [heldBefore, List.getElem?_map, List.getElem?_mapIdx, Option.map_map, List.getElem?_map]
    congr 1
    funext c
    simp only [Function.comp_apply]
    split_ifs <;> rfl
  rw [release, hcases]
  rfl

/-- Stores what a case has sent and received, if it has received anything. -/
def recordAny (file : RequestFile) (index : Nat) (e? : Option Exchange) : RequestFile :=
  e?.elim file (file.record index)

/-- Recording anything or nothing does not change the templates. -/
theorem release_recordAny (file : RequestFile) (index : Nat) (e? : Option Exchange) :
    (file.recordAny index e?).release = file.release := by
  cases e? with
  | none => rfl
  | some e => exact release_record file index e

/-- What a case records or does not record does not count before its place. -/
theorem heldBefore_recordAny (file : RequestFile) {place index : Nat} (h : place ≤ index)
    (e? : Option Exchange) :
    (file.recordAny index e?).heldBefore place = file.heldBefore place := by
  cases e? with
  | none => rfl
  | some e => exact heldBefore_record file h e

/-- The other cases are as they were. -/
theorem getElem?_recordAny_ne (file : RequestFile) {place index : Nat} (h : index ≠ place)
    (e? : Option Exchange) : (file.recordAny index e?).cases[place]? = file.cases[place]? := by
  cases e? with
  | none => rfl
  | some e =>
    rw [recordAny, Option.elim_some, getElem?_record]
    simp [h]

/-- A case that held nothing holds what was recorded, or still nothing. -/
theorem getElem?_recordAny_eq {file : RequestFile} {index : Nat} {c : Case}
    (hc : file.cases[index]? = some c) (hnone : c.exchange = none) (e? : Option Exchange) :
    (file.recordAny index e?).cases[index]? = some { c with exchange := e? } := by
  cases e? with
  | none =>
    rw [recordAny, Option.elim_none, hc, ← hnone]
  | some e =>
    rw [recordAny, Option.elim_some, getElem?_record, hc]
    simp

/-- Files with the same variables in which references lead to the same exchanges know the same. -/
theorem lookup_eq_of_exchange?_eq {a b : RequestFile} (hbindings : a.bindings = b.bindings)
    (hexchange : a.exchange? = b.exchange?) (builtins : Resolver) :
    a.lookup builtins = b.lookup builtins := by
  have hreference : a.reference? = b.reference? := by
    funext key
    unfold reference? header? bodyPart?
    rw [hexchange]
  funext key
  rw [lookup, lookup, hbindings, hreference]

/-- Whether a case with a method stands at a place. -/
def hasMethod (file : RequestFile) (place : Nat) : Bool :=
  (file.cases[place]?).any fun c => !c.method.isEmpty

/-- A place with a method is a place of a case. -/
theorem exists_of_hasMethod {file : RequestFile} {place : Nat} (h : file.hasMethod place = true) :
    ∃ c, file.cases[place]? = some c := by
  cases hc : file.cases[place]? with
  | none => simp [hasMethod, hc] at h
  | some c => exact ⟨c, rfl⟩

/-- Where the cases with a method stand depends on the templates alone. -/
theorem hasMethod_eq_of_release_eq {a b : RequestFile} (h : a.release = b.release) (place : Nat) :
    a.hasMethod place = b.hasMethod place := by
  have hrelease (file : RequestFile) : file.release.hasMethod place = file.hasMethod place := by
    rw [hasMethod, release_cases, List.getElem?_map, Option.any_map]
    rfl
  rw [← hrelease a, h, hrelease b]

/-- The places of the cases with a method before a bound, in the order of the file. -/
def placesBelow (file : RequestFile) (bound : Nat) : List Nat :=
  (List.range bound).filter file.hasMethod

/-- The next case adds its place if it has a method. -/
theorem placesBelow_succ (file : RequestFile) (bound : Nat) :
    file.placesBelow (bound + 1) =
      file.placesBelow bound ++ if file.hasMethod bound then [bound] else [] := by
  rw [placesBelow, List.range_succ, List.filter_append, placesBelow]
  cases h : file.hasMethod bound with
  | true => simp [h]
  | false => simp [h]

/-- The places before a bound are smaller than it. -/
theorem lt_of_mem_placesBelow {file : RequestFile} {bound place : Nat}
    (h : place ∈ file.placesBelow bound) : place < bound :=
  List.mem_range.1 (List.mem_filter.1 h).1

end RequestFile

end Volley
