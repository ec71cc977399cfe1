import Mathlib.Algebra.BigOperators.Group.List.Basic
import Volley.Count

/-!
# Counting

Totals of counts that are taken item by item, and lists that are known by their items at each of a
number of keys.
-/

namespace Volley

/-! ## Totals -/

/-- The total after one count was replaced. -/
theorem total_map_set {α : Type} (f : α → Nat) {items : List α} {i : Nat} {old : α}
    (hold : items[i]? = some old) (new : α) :
    total ((items.set i new).map f) + f old = total (items.map f) + f new := by
  induction items generalizing i with
  | nil => simp at hold
  | cons item rest ih =>
    cases i with
    | zero =>
      obtain rfl : item = old := by simpa using hold
      simp only [List.set_cons_zero, List.map_cons, total_cons]
      omega
    | succ i =>
      have hrest := ih (by simpa using hold)
      simp only [List.set_cons_succ, List.map_cons, total_cons]
      omega

/-- A total that is not zero has a count that is not zero. -/
theorem exists_of_total_map_pos {α : Type} {f : α → Nat} {items : List α}
    (h : 0 < total (items.map f)) : ∃ item ∈ items, 0 < f item := by
  obtain ⟨count, hcount, hpos⟩ := List.sum_pos_iff_exists_pos_nat.1 h
  obtain ⟨item, hmem, rfl⟩ := List.mem_map.1 hcount
  exact ⟨item, hmem, hpos⟩

/-- The total of a count that is the same for all. -/
theorem total_map_const {α : Type} (n : Nat) (items : List α) :
    total (items.map fun _ => n) = n * items.length := by
  rw [List.map_const', total, List.sum_replicate_nat, Nat.mul_comm]

/-- The total of ones is their number. -/
theorem total_map_eq_length {α : Type} {f : α → Nat} {items : List α}
    (h : ∀ item ∈ items, f item = 1) : total (items.map f) = items.length := by
  rw [List.map_congr_left h, total_map_const, Nat.one_mul]

/-- The totals of two counts are the total of their sums. -/
theorem total_map_add {α : Type} (f g : α → Nat) (items : List α) :
    total (items.map f) + total (items.map g) = total (items.map fun item => f item + g item) :=
  List.sum_map_add.symm

/-- Items without a count need not be counted. -/
theorem total_map_filter {α : Type} {f : α → Nat} {p : α → Bool} {items : List α}
    (h : ∀ item ∈ items, p item = false → f item = 0) :
    total ((items.filter p).map f) = total (items.map f) := by
  induction items with
  | nil => rfl
  | cons item rest ih =>
    rw [List.forall_mem_cons] at h
    rw [List.filter_cons, List.map_cons, total_cons, ← ih h.2]
    cases hp : p item with
    | true => rw [if_pos rfl, List.map_cons, total_cons]
    | false => rw [if_neg Bool.false_ne_true, h.1 hp, Nat.zero_add]

/-! ## Items by key -/

/-- Two lists are the same but for their order if they are the same at every key. -/
theorem perm_of_filter_eq {α : Type} (key : α → Nat) {l l' : List α}
    (h : ∀ i, l.filter (fun a => key a == i) = l'.filter fun a => key a == i) : l.Perm l' := by
  classical
  refine List.perm_iff_count.2 fun a => ?_
  have hcount (l : List α) : l.count a = (l.filter fun x => key x == key a).count a :=
    (List.count_filter (p := fun x => key x == key a) (by simp)).symm
  rw [hcount l, h, ← hcount l']

/-- A list with the same number of items at each of a number of keys, and at no other. -/
theorem length_of_filter_length {α : Type} (key : α → Nat) {count : Nat} (bound : Nat)
    {l : List α} (hkey : ∀ a ∈ l, key a < bound)
    (h : ∀ i < bound, (l.filter fun a => key a == i).length = count) :
    l.length = bound * count := by
  induction bound generalizing l with
  | zero =>
    cases l with
    | nil => simp
    | cons a rest => exact absurd (hkey a List.mem_cons_self) (Nat.not_lt_zero _)
  | succ bound ih =>
    have hsplit := List.length_eq_length_filter_add (l := l) fun a => key a == bound
    have hrest : (l.filter fun a => !(key a == bound)).length = bound * count := by
      apply ih
      · intro a ha
        rw [List.mem_filter] at ha
        have hlt := hkey a ha.1
        have hne : key a ≠ bound := by simpa using ha.2
        omega
      · intro i hi
        rw [List.filter_filter, ← h i (by omega)]
        congr 1
        apply List.filter_congr
        intro a _
        by_cases hai : key a = i
        · have : i ≠ bound := by omega
          simp [hai, this]
        · simp [hai]
    rw [hsplit, h bound (Nat.lt_succ_self bound), hrest, Nat.succ_mul, Nat.add_comm]

end Volley
