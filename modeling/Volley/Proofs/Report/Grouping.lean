import Mathlib.Logic.Function.Defs
import Volley.Proofs.Text.Cut
import Volley.Proofs.Text.Integer
import Volley.Report.Quantity

/-!
# Digits in groups of three

Commas are put into a count from the front, at every digit from which on the number of digits is a
multiple of three. So the first group has as many digits as are left over, or three if none are, and
every other group has three (`exists_split_groupDigits`). One digit more in front makes the first
group longer by one, or is a group of its own if the first one had three.

Without the commas the digits are what they were (`filter_groupDigits`), so two counts are never
shown alike.
-/

namespace Volley.Quantity

open Decimal

/-! ## Digits and commas -/

/-- Whether a character is a comma. -/
def isComma (c : Char) : Bool :=
  c == ','

/-- Digits in groups begin with the first digit. -/
theorem head?_groupDigits (digits : List Char) : (groupDigits digits).head? = digits.head? := by
  fun_cases groupDigits digits <;> rfl

/-- There are digits in groups if there are digits. -/
theorem groupDigits_ne_nil {digits : List Char} (hne : digits ≠ []) : groupDigits digits ≠ [] := by
  rwa [Ne, ← List.head?_eq_none_iff, head?_groupDigits, List.head?_eq_none_iff]

/-- Digits in groups end with the last digit. -/
theorem getLast?_groupDigits (digits : List Char) :
    (groupDigits digits).getLast? = digits.getLast? := by
  have hcons {s : List Char} (hs : s ≠ []) (c : Char) : (c :: s).getLast? = s.getLast? := by
    obtain ⟨d, later, rfl⟩ := List.exists_cons_of_ne_nil hs
    exact List.getLast?_cons_cons
  fun_induction groupDigits digits with
  | case1 => rfl
  | case2 c => rfl
  | case3 c rest hne hthree ih =>
    rw [hcons (List.cons_ne_nil _ _), hcons (groupDigits_ne_nil hne), ih, hcons hne]
  | case4 c rest hne hthree ih => rw [hcons (groupDigits_ne_nil hne), ih, hcons hne]

/-- The digits are left when the commas are taken away. -/
theorem filter_groupDigits {digits : List Char} (h : ∀ c ∈ digits, isComma c = false) :
    (groupDigits digits).filter (!isComma ·) = digits := by
  fun_induction groupDigits digits with
  | case1 => rfl
  | case2 c =>
    obtain ⟨hc, -⟩ := List.forall_mem_cons.1 h
    rw [List.filter_cons_of_pos (by simp [hc])]
    rfl
  | case3 c rest hne hthree ih =>
    obtain ⟨hc, hrest⟩ := List.forall_mem_cons.1 h
    rw [List.filter_cons_of_pos (by simp [hc]), List.filter_cons_of_neg (by decide), ih hrest]
  | case4 c rest hne hthree ih =>
    obtain ⟨hc, hrest⟩ := List.forall_mem_cons.1 h
    rw [List.filter_cons_of_pos (by simp [hc]), ih hrest]

/-- The first group has the digits that are left over, or three, and the others have three. -/
theorem exists_split_groupDigits {digits : List Char} (h : ∀ c ∈ digits, isComma c = false)
    (hne : digits ≠ []) :
    ∃ first rest, Text.split isComma (groupDigits digits) = first :: rest ∧
      first.length = (digits.length - 1) % 3 + 1 ∧ ∀ group ∈ rest, group.length = 3 := by
  fun_induction groupDigits digits with
  | case1 => exact absurd rfl hne
  | case2 c =>
    obtain ⟨hc, -⟩ := List.forall_mem_cons.1 h
    exact ⟨[c], [], Text.split_cons_of_not_break hc rfl, rfl, List.forall_mem_nil _⟩
  | case3 c rest hrest hthree ih =>
    -- The groups of the rest are all of three, and this digit is a group of its own before them.
    obtain ⟨hc, hdigits⟩ := List.forall_mem_cons.1 h
    obtain ⟨first, later, hsplit, hfirst, hlater⟩ := ih hdigits hrest
    have hpos := List.length_pos_iff.2 hrest
    have hbreak := Text.split_cons_of_break (show isComma ',' = true from rfl) (groupDigits rest)
    rw [hsplit] at hbreak
    refine ⟨[c], first :: later, Text.split_cons_of_not_break hc hbreak, ?_, ?_⟩
    · rw [List.length_singleton, List.length_cons]
      omega
    · exact List.forall_mem_cons.2 ⟨by omega, hlater⟩
  | case4 c rest hrest hthree ih =>
    -- The first group of the rest is short of three, and this digit is put in front of it.
    obtain ⟨hc, hdigits⟩ := List.forall_mem_cons.1 h
    obtain ⟨first, later, hsplit, hfirst, hlater⟩ := ih hdigits hrest
    have hpos := List.length_pos_iff.2 hrest
    refine ⟨c :: first, later, Text.split_cons_of_not_break hc hsplit, ?_, hlater⟩
    rw [List.length_cons, List.length_cons]
    omega

/-! ## Counts -/

/-- A text is a number written with commas between groups of three digits. -/
structure IsGrouped (number text : List Char) : Prop where
  /-- Without its commas it is the number. -/
  digits : text.filter (!isComma ·) = number
  /-- It does not begin with a comma. -/
  first : text.head? ≠ some ','
  /-- It does not end with a comma. -/
  last : text.getLast? ≠ some ','
  /-- Between the commas stand one to three digits first and three everywhere else, which together
  are those of the number. -/
  groups : ∃ group rest, Text.split isComma text = group :: rest ∧
    (group :: rest).flatten = number ∧ 1 ≤ group.length ∧ group.length ≤ 3 ∧
    ∀ group ∈ rest, group.length = 3

/-- No comma stands in the digits of a number. -/
theorem isComma_of_mem_digitsOf {n : Nat} {c : Char} (hc : c ∈ digitsOf n) : isComma c = false := by
  rw [isComma, beq_eq_false_iff_ne]
  rintro rfl
  exact absurd (Nat.isDigit_of_mem_toDigits (by decide) (by decide) hc) (by decide)

theorem comma_notMem_digitsOf (n : Nat) : ',' ∉ digitsOf n := fun hc =>
  absurd (isComma_of_mem_digitsOf hc) (by decide)

/-- The text of a count without its commas. -/
theorem filter_thousands (n : Nat) : (thousands n).toList.filter (!isComma ·) = digitsOf n := by
  rw [thousands, String.toList_ofList, filter_groupDigits fun c => isComma_of_mem_digitsOf]

/-- A count is read off its digits. -/
theorem digitsOf_injective : Function.Injective digitsOf := fun m n heq => by
  have hread := Text.natural?_toDigits m
  rw [← digitsOf, heq, digitsOf, Text.natural?_toDigits] at hread
  exact (Option.some.inj hread).symm

/-- A count is its decimal text with commas between groups of three digits, and no two counts have
the same text. -/
theorem isGrouped_thousands :
    (∀ n, IsGrouped (toString n).toList (thousands n).toList) ∧ Function.Injective thousands := by
  refine ⟨fun n => ?_, fun m n heq => ?_⟩
  · have hdecimal : (toString n).toList = digitsOf n := Nat.toList_repr
    rw [hdecimal]
    refine ⟨filter_thousands n, ?first, ?last, ?groups⟩
    case first =>
      rw [thousands, String.toList_ofList, head?_groupDigits]
      exact fun hhead => comma_notMem_digitsOf n (List.mem_of_mem_head? hhead)
    case last =>
      rw [thousands, String.toList_ofList, getLast?_groupDigits]
      exact fun hlast => comma_notMem_digitsOf n (List.mem_of_mem_getLast? hlast)
    case groups =>
      obtain ⟨group, rest, hsplit, hgroup, hrest⟩ :=
        exists_split_groupDigits (fun c => isComma_of_mem_digitsOf (n := n)) Nat.toDigits_ne_nil
      rw [← String.toList_ofList (l := groupDigits (digitsOf n)), ← thousands] at hsplit
      refine ⟨group, rest, hsplit, ?_, by omega, by omega, hrest⟩
      rw [← hsplit, Text.flatten_split, filter_thousands]
  · -- The digits of a count are what is left of its text without the commas.
    refine digitsOf_injective ?_
    rw [← filter_thousands, heq, filter_thousands]

end Volley.Quantity
