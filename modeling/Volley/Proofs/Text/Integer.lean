import Volley.Text.Integer

/-!
# Integers read back

The digits of a number denote it (`natural?_toDigits`), so a signed 64-bit integer is read back from
its digits with a minus sign before those of a negative one (`int64?_toString`). Nothing else stands
in that text (`eq_or_isDigit_of_mem_toString`). In a text whose parts have fixed lengths, a number is
read at its place (`numberAt?_of_append`).
-/

namespace Volley.Text

/-- The ASCII digits are read as their values, and nothing else is read. -/
theorem asciiDigit?_eq_ite (c : Char) :
    asciiDigit? c = if c.isDigit = true then some (c.toNat - '0'.toNat) else none := by
  have hdigit : ('0' ≤ c ∧ c ≤ '9') ↔ c.isDigit = true := by simp [Char.isDigit, Char.le_def]
  simp only [asciiDigit?, hdigit]

/-- Digits denote the number that they are the digits of. -/
theorem natural?_of_isDigit {s : List Char} (hne : s ≠ []) (h : ∀ c ∈ s, c.isDigit = true) :
    natural? s = some (Nat.ofDigitChars 10 s 0) := by
  have hfold (s : List Char) (h : ∀ c ∈ s, c.isDigit = true) (start : Nat) :
      s.foldlM (fun n c => (asciiDigit? c).map (n * 10 + ·)) start =
        some (Nat.ofDigitChars 10 s start) := by
    induction s generalizing start with
    | nil => rfl
    | cons c rest ih =>
      obtain ⟨hc, hrest⟩ := List.forall_mem_cons.1 h
      have hdigit := (asciiDigit?_eq_ite c).trans (if_pos hc)
      rw [List.foldlM_cons, hdigit, Option.map_some, Option.bind_eq_bind, Option.bind_some,
        ih hrest, Nat.ofDigitChars_cons, Nat.mul_comm]
  rw [natural?, if_neg (by simpa using hne)]
  exact hfold s h 0

/-- The number that stands in a text at a place, over a number of characters. -/
def numberAt? (s : List Char) (place width : Nat) : Option Nat :=
  natural? ((s.drop place).take width)

/-- A number is read at its place, whatever follows it. -/
theorem numberAt?_of_append {s before part : List Char} {place width : Nat}
    (h : before ++ part <+: s) (hbefore : before.length = place) (hpart : part.length = width) :
    numberAt? s place width = natural? part := by
  obtain ⟨after, rfl⟩ := h
  rw [numberAt?, List.append_assoc, List.drop_left' hbefore, List.take_left' hpart]

/-- The decimal digits of a number denote it. -/
theorem natural?_toDigits (n : Nat) : natural? (Nat.toDigits 10 n) = some n := by
  rw [natural?_of_isDigit Nat.toDigits_ne_nil
    fun c hc => Nat.isDigit_of_mem_toDigits (by decide) (by decide) hc,
    Nat.ofDigitChars_ten_toDigits]

/-- The text of an integer is the digits of its absolute value, after a minus sign if it is
negative. -/
theorem toList_toString (n : Int) :
    (toString n).toList = (if n < 0 then ['-'] else []) ++ Nat.toDigits 10 n.natAbs := by
  rw [Int.toString_eq_repr, Int.repr_eq_if]
  by_cases h : 0 ≤ n
  · have habs : n.toNat = n.natAbs := by omega
    rw [if_pos h, if_neg (by omega), Nat.toList_repr, List.nil_append, habs]
  · have habs : (-n).toNat = n.natAbs := by omega
    rw [if_neg h, if_pos (by omega), String.toList_append, Nat.toList_repr, habs]
    rfl

/-- Nothing but a sign and digits stands in the text of an integer. -/
theorem eq_or_isDigit_of_mem_toString {n : Int} {c : Char} (h : c ∈ (toString n).toList) :
    c = '-' ∨ c.isDigit = true := by
  rw [toList_toString, List.mem_append] at h
  refine h.imp (fun hsign => ?_) (Nat.isDigit_of_mem_toDigits (by decide) (by decide))
  split at hsign
  · exact List.mem_singleton.1 hsign
  · exact absurd hsign List.not_mem_nil

/-- An integer is read back from its text. -/
theorem signed?_toString (n : Int) : signed? (toString n).toList = some n := by
  rw [toList_toString]
  split
  · have hneg : -(n.natAbs : Int) = n := by omega
    rw [List.singleton_append, signed?, natural?_toDigits]
    exact congrArg some hneg
  · -- The text begins with a digit, so with neither sign.
    have habs : (n.natAbs : Int) = n := by omega
    have hsign (c : Char) (hc : c.isDigit = false) : c ∉ Nat.toDigits 10 n.natAbs := fun hmem =>
      absurd (Nat.isDigit_of_mem_toDigits (by decide) (by decide) hmem) (by simp [hc])
    rw [List.nil_append, signed?, natural?_toDigits]
    · exact congrArg some habs
    · rintro rest heq
      exact hsign '-' rfl (heq ▸ List.mem_cons_self)
    · rintro rest heq
      exact hsign '+' rfl (heq ▸ List.mem_cons_self)

/-- A signed 64-bit integer is read back from its text. -/
theorem int64?_toString {n : Int} (h : inInt64 n = true) :
    int64? (toString n).toList = some n := by
  rw [int64?, signed?_toString, Option.filter_some_pos h]

end Volley.Text
