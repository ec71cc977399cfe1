import Mathlib.Data.List.Basic
import Volley.Dictionary

/-!
# Dictionaries by what they hold

A dictionary is known by what is found in it (`ext_get?`): its entries are in order, each key stands
once, and so an entry is found exactly if it is one of them (`find?_eq_some_iff`). Entries that are
put in one after the other are found by the last one of a key (`get?_insertAll`). One dictionary
over another has the later one's value wherever there is one (`get?_override`).
-/

namespace Volley

namespace Entries

variable {α : Type}

/-- What is found under a key is the entry of that key. -/
theorem find?_eq_some_iff {entries : List (String × α)} (h : Sorted entries) {key : String}
    {value : α} : find? key entries = some value ↔ (key, value) ∈ entries := by
  refine ⟨mem_of_find?, fun hmem => ?_⟩
  induction entries with
  | nil => exact absurd hmem List.not_mem_nil
  | cons entry rest ih =>
    obtain ⟨k, v⟩ := entry
    obtain ⟨hlater, hrest⟩ := List.pairwise_cons.1 h
    rw [find?]
    rcases List.mem_cons.1 hmem with heq | hmem
    · obtain ⟨rfl, rfl⟩ := Prod.mk.inj heq
      exact if_pos rfl
    · have hlt : k < key := hlater _ hmem
      rw [if_neg fun heq : key = k => absurd hlt (heq ▸ String.lt_irrefl k), ih hrest hmem]

/-- Entries in order are known by what is found in them. -/
theorem eq_of_find?_eq {a b : List (String × α)} (ha : Sorted a) (hb : Sorted b)
    (h : ∀ key, find? key a = find? key b) : a = b := by
  have hnodup {entries : List (String × α)} (hsorted : Sorted entries) : entries.Nodup :=
    hsorted.imp fun {a b} hlt (heq : a = b) => absurd hlt (heq ▸ String.lt_irrefl a.1)
  have hmem (entry : String × α) : entry ∈ a ↔ entry ∈ b := by
    rw [← find?_eq_some_iff ha, h, find?_eq_some_iff hb]
  exact ((List.perm_ext_iff_of_nodup (hnodup ha) (hnodup hb)).2 hmem).eq_of_pairwise
    (fun _ _ _ _ hlt hgt => absurd hgt (String.lt_asymm hlt)) ha hb

/-- A key that was taken away is not found, and the others are as before. -/
theorem find?_erase (key other : String) (entries : List (String × α)) :
    find? other (erase key entries) = if other = key then none else find? other entries := by
  induction entries with
  | nil => simp [erase, find?]
  | cons entry rest ih =>
    obtain ⟨k, v⟩ := entry
    unfold erase at *
    by_cases hkey : k = key
    · rw [List.filter_cons_of_neg (by simpa using hkey), ih, find?, hkey]
      split <;> rfl
    · rw [List.filter_cons_of_pos (by simpa using hkey), find?, find?, ih]
      by_cases hother : other = k
      · rw [if_pos hother, if_pos hother, if_neg (hother ▸ hkey)]
      · rw [if_neg hother, if_neg hother]

/-- The entries of a list of pairs are among the pairs. -/
theorem mem_of_mem_ofPairs {pairs : List (String × α)} {entry : String × α}
    (h : entry ∈ ofPairs pairs) : entry ∈ pairs := by
  have hfold : ∀ pairs entries : List (String × α),
      entry ∈ pairs.foldl (fun entries pair => insert pair.1 pair.2 entries) entries →
        entry ∈ entries ∨ entry ∈ pairs := by
    intro pairs
    induction pairs with
    | nil => exact fun _ hmem => .inl hmem
    | cons pair pairs ih =>
      intro entries hmem
      rcases ih _ hmem with hmem | hmem
      · rcases mem_insert hmem with rfl | hmem
        · exact .inr List.mem_cons_self
        · exact .inl hmem
      · exact .inr (List.mem_cons_of_mem _ hmem)
  exact (hfold pairs [] h).resolve_left List.not_mem_nil

/-- In order, the last entry of a key is its only one. -/
theorem map_find?_reverse {entries : List (String × α)} (h : Sorted entries) (key : String) :
    (entries.reverse.find? (·.1 == key)).map (·.2) = find? key entries := by
  cases hlast : entries.reverse.find? (·.1 == key) with
  | some entry =>
    have hkey : entry.1 = key := by simpa using List.find?_some hlast
    have hmem : (key, entry.2) ∈ entries := by
      rw [← hkey]
      exact List.mem_reverse.1 (List.mem_of_find?_eq_some hlast)
    rw [Option.map_some, (find?_eq_some_iff h).2 hmem]
  | none =>
    cases hfind : find? key entries with
    | none => rfl
    | some value =>
      have hmem := List.mem_reverse.2 (mem_of_find? hfind)
      exact absurd (beq_self_eq_true key) (List.find?_eq_none.1 hlast _ hmem)

end Entries

namespace Dictionary

variable {α : Type}

/-- Puts the pairs of a list into a dictionary, one after the other. -/
def insertAll (d : Dictionary α) (pairs : List (String × α)) : Dictionary α :=
  pairs.foldl (fun d pair => d.insert pair.1 pair.2) d

theorem insertAll_append (d : Dictionary α) (pairs later : List (String × α)) :
    d.insertAll (pairs ++ later) = (d.insertAll pairs).insertAll later :=
  List.foldl_append

/-- A key has the value of its last pair. -/
theorem get?_insertAll (d : Dictionary α) (pairs : List (String × α)) (key : String) :
    (d.insertAll pairs).get? key =
      ((pairs.reverse.find? (·.1 == key)).map (·.2)).or (d.get? key) := by
  induction pairs generalizing d with
  | nil => simp [insertAll]
  | cons pair pairs ih =>
    rw [insertAll, List.foldl_cons, ← insertAll, ih, get?_insert, List.reverse_cons,
      List.find?_append]
    cases hlater : pairs.reverse.find? (·.1 == key) with
    | some _ => simp
    | none =>
      by_cases h : key = pair.1
      · simp [h]
      · simp [h, Ne.symm h]

/-- The dictionary of a list of pairs is filled pair by pair. -/
theorem insertAll_empty (pairs : List (String × α)) : empty.insertAll pairs = ofPairs pairs := by
  have hentries : ∀ d : Dictionary α, (d.insertAll pairs).entries =
      pairs.foldl (fun entries pair => Entries.insert pair.1 pair.2 entries) d.entries := by
    intro d
    induction pairs generalizing d with
    | nil => rfl
    | cons pair pairs ih => exact ih (d.insert pair.1 pair.2)
  exact ext (hentries empty)

/-- A key that was taken away has no value, and the others have theirs. -/
theorem get?_erase (d : Dictionary α) (key other : String) :
    (d.erase key).get? other = if other = key then none else d.get? other :=
  Entries.find?_erase key other d.entries

/-- Dictionaries are known by what is found in them. -/
theorem ext_get? {a b : Dictionary α} (h : ∀ key, a.get? key = b.get? key) : a = b :=
  ext (Entries.eq_of_find?_eq a.sorted b.sorted h)

/-- A key has the value of the later dictionary, or else that of the earlier one. -/
theorem get?_override (d later : Dictionary α) (key : String) :
    (d.override later).get? key = (later.get? key).or (d.get? key) := by
  have hlater : (later.entries.reverse.find? (·.1 == key)).map (·.2) = later.get? key :=
    Entries.map_find?_reverse later.sorted key
  rw [← hlater]
  exact get?_insertAll d later.entries key

/-- A dictionary over which nothing is put stays as it is. -/
theorem override_empty (d : Dictionary α) : d.override empty = d :=
  rfl

/-- What is put into the later dictionary is put over the earlier one. -/
theorem override_insert (d later : Dictionary α) (key : String) (value : α) :
    d.override (later.insert key value) = (d.override later).insert key value := by
  refine ext_get? fun other => ?_
  rw [get?_override, get?_insert, get?_insert, get?_override]
  split
  · rfl
  · rfl

end Dictionary

end Volley
