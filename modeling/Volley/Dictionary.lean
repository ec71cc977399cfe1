/-!
# Dictionaries

Values under text keys, each key once, in ascending order of the keys (by code point, which is also
the order of their UTF-8 bytes). `Entries` has the operations on bare association lists, for data
that nests inside itself; `Dictionary` carries the order as a proof. `find?_insert` is the law of
the pair: a key is found with the value it was last given, and no other key notices.
-/

namespace Volley

namespace Entries

variable {α : Type}

/-- The value under a key. -/
def find? (key : String) : List (String × α) → Option α
  | [] => none
  | (k, v) :: rest => if key = k then some v else find? key rest

/-- Puts a value under a key, in place of the value that the key had, if any. -/
def insert (key : String) (value : α) : List (String × α) → List (String × α)
  | [] => [(key, value)]
  | (k, v) :: rest =>
    if key < k then (key, value) :: (k, v) :: rest
    else if key = k then (key, value) :: rest
    else (k, v) :: insert key value rest

/-- Takes a key away with its value. -/
def erase (key : String) (entries : List (String × α)) : List (String × α) :=
  entries.filter fun entry => entry.1 ≠ key

/-- The entries of a list of pairs; the last pair of a key counts. -/
def ofPairs (pairs : List (String × α)) : List (String × α) :=
  pairs.foldl (fun entries pair => insert pair.1 pair.2 entries) []

/-- Keys stand in strictly ascending order. -/
def Sorted (entries : List (String × α)) : Prop :=
  entries.Pairwise fun a b => a.1 < b.1

theorem find?_insert (key other : String) (value : α) (entries : List (String × α)) :
    find? other (insert key value entries) =
      if other = key then some value else find? other entries := by
  induction entries with
  | nil => simp [insert, find?]
  | cons entry rest ih =>
    obtain ⟨k, v⟩ := entry
    unfold insert
    split
    · simp [find?]
    · split
      · rename_i hk
        subst hk
        by_cases h : other = key <;> simp [find?, h]
      · rename_i hk
        by_cases h : other = k
        · subst h
          simp [find?, Ne.symm hk]
        · simp [find?, h, ih]

theorem mem_of_find? {key : String} {value : α} {entries : List (String × α)}
    (h : find? key entries = some value) : (key, value) ∈ entries := by
  induction entries with
  | nil => simp [find?] at h
  | cons entry rest ih =>
    obtain ⟨k, v⟩ := entry
    unfold find? at h
    split at h
    · rename_i hk
      obtain rfl : v = value := by simpa using h
      exact hk ▸ List.mem_cons_self ..
    · exact List.mem_cons_of_mem _ (ih h)

theorem mem_insert {key : String} {value : α} {entries : List (String × α)} {entry : String × α}
    (h : entry ∈ insert key value entries) : entry = (key, value) ∨ entry ∈ entries := by
  induction entries with
  | nil => exact .inl (by simpa [insert] using h)
  | cons first rest ih =>
    obtain ⟨k, v⟩ := first
    unfold insert at h
    split at h
    · exact (List.mem_cons.1 h).imp id id
    · split at h
      · exact (List.mem_cons.1 h).imp id (List.mem_cons_of_mem _)
      · rcases List.mem_cons.1 h with rfl | h
        · exact .inr (List.mem_cons_self ..)
        · exact (ih h).imp id (List.mem_cons_of_mem _)

theorem sorted_insert (key : String) (value : α) {entries : List (String × α)}
    (h : Sorted entries) : Sorted (insert key value entries) := by
  induction entries with
  | nil => simp [insert, Sorted]
  | cons entry rest ih =>
    obtain ⟨k, v⟩ := entry
    have hrest : Sorted rest := (List.pairwise_cons.1 h).2
    have hk : ∀ e ∈ rest, k < e.1 := (List.pairwise_cons.1 h).1
    unfold insert
    split
    · rename_i hlt
      refine List.pairwise_cons.2 ⟨fun e he => ?_, h⟩
      rcases List.mem_cons.1 he with rfl | he
      · exact hlt
      · exact String.lt_trans hlt (hk e he)
    · split
      · rename_i heq
        exact List.pairwise_cons.2 ⟨fun e he => heq ▸ hk e he, hrest⟩
      · rename_i hnlt hne
        refine List.pairwise_cons.2 ⟨fun e he => ?_, ih hrest⟩
        rcases mem_insert he with rfl | he
        · exact Std.lt_of_le_of_ne hnlt (Ne.symm hne)
        · exact hk e he

theorem sorted_ofPairs (pairs : List (String × α)) : Sorted (ofPairs pairs) := by
  have step : ∀ (pairs entries : List (String × α)), Sorted entries →
      Sorted (pairs.foldl (fun entries pair => insert pair.1 pair.2 entries) entries) := by
    intro pairs
    induction pairs with
    | nil => exact fun _ h => h
    | cons pair rest ih => exact fun _ h => ih _ (sorted_insert _ _ h)
  exact step pairs [] List.Pairwise.nil

end Entries

/-- Values under text keys, in ascending order of the keys. -/
structure Dictionary (α : Type) where
  /-- The keys with their values. -/
  entries : List (String × α)
  /-- Each key stands once, in ascending order. -/
  sorted : Entries.Sorted entries

namespace Dictionary

variable {α : Type}

/-- The dictionary without keys. -/
def empty : Dictionary α := ⟨[], List.Pairwise.nil⟩

instance : Inhabited (Dictionary α) := ⟨empty⟩

/-- Two dictionaries with the same entries are the same. -/
@[ext] theorem ext {a b : Dictionary α} (h : a.entries = b.entries) : a = b := by
  cases a; cases b; cases h; rfl

instance [DecidableEq α] : DecidableEq (Dictionary α) := fun a b =>
  if h : a.entries = b.entries then isTrue (ext h) else isFalse fun e => h (e ▸ rfl)

/-- The value under a key. -/
def get? (d : Dictionary α) (key : String) : Option α :=
  Entries.find? key d.entries

/-- Puts a value under a key, in place of the value that the key had, if any. -/
def insert (d : Dictionary α) (key : String) (value : α) : Dictionary α :=
  ⟨Entries.insert key value d.entries, Entries.sorted_insert key value d.sorted⟩

/-- Takes a key away with its value. -/
def erase (d : Dictionary α) (key : String) : Dictionary α :=
  ⟨Entries.erase key d.entries, List.Pairwise.filter _ d.sorted⟩

/-- The dictionary of a list of pairs; the last pair of a key counts. -/
def ofPairs (pairs : List (String × α)) : Dictionary α :=
  ⟨Entries.ofPairs pairs, Entries.sorted_ofPairs pairs⟩

/-- Replaces every value by one that may depend on its key. -/
def mapWithKey {β : Type} (f : String → α → β) (d : Dictionary α) : Dictionary β :=
  ⟨d.entries.map fun entry => (entry.1, f entry.1 entry.2), by
    simpa [Entries.Sorted, List.pairwise_map] using d.sorted⟩

/-- The later dictionary's entries put over those of the earlier one. -/
def override (d later : Dictionary α) : Dictionary α :=
  later.entries.foldl (fun d entry => d.insert entry.1 entry.2) d

theorem get?_insert (d : Dictionary α) (key other : String) (value : α) :
    (d.insert key value).get? other = if other = key then some value else d.get? other :=
  Entries.find?_insert key other value d.entries

end Dictionary

end Volley
