import Mathlib.Tactic.SplitIfs
import Volley.Json.Spelled

/-!
# Compact text spells its value

What the compact text of strings, whole numbers and truth values spells is a tree with that value
(`spells_string`, `spells_whole`, `spells_bool`), and the text of an object with such values is a
text of an object with the same names and values (`exists_isObject_write`). A whole number is
spelled by its decimal digits, which begin with a zero only if it is zero, and is read back exactly
if it fits into a word. Every character of a string is spelled by its escape, or by itself.
-/

namespace Volley.Json

/-- A text spells a tree with the given value. -/
def Spells (value : Json) (s : List Char) : Prop :=
  ∃ w : Written, w.Spelled s ∧ w.value? = some value

/-! ## Truth values -/

theorem spells_bool (b : Bool) : Spells (.bool b) (write (.bool b)) := by
  cases b with
  | true => exact ⟨.bool true, .trueWord, rfl⟩
  | false => exact ⟨.bool false, .falseWord, rfl⟩

/-! ## Whole numbers -/

/-- One digit more at the end. -/
theorem DigitsSpelled.concat {ds : List Nat} {s : List Char} (h : DigitsSpelled ds s) {d : Nat}
    {c : Char} (hc : Text.asciiDigit? c = some d) : DigitsSpelled (ds ++ [d]) (s ++ [c]) := by
  induction h with
  | one hfirst => exact .more hfirst (.one hc)
  | more hfirst _ ih => exact .more hfirst ih

theorem DigitsSpelled.ne_nil {ds : List Nat} {s : List Char} (h : DigitsSpelled ds s) :
    ds ≠ [] := by
  cases h <;> exact List.cons_ne_nil _ _

/-- The decimal digits of a number spell it, and do not begin with a zero unless that is all. -/
theorem exists_digitsSpelled (n : Nat) : ∃ ds, DigitsSpelled ds (Nat.toDigits 10 n) ∧
    digitsValue ds = n ∧ (ds.head? = some 0 → ds = [0]) := by
  have hdigit : ∀ d < 10, Text.asciiDigit? d.digitChar = some d := by decide
  induction n using Nat.strongRecOn with
  | ind n ih =>
    by_cases hlt : n < 10
    · rw [Nat.toDigits_of_lt_base hlt]
      refine ⟨[n], .one (hdigit n hlt), ?_, fun hzero => ?_⟩
      · simp [digitsValue]
      · rw [Option.some.inj hzero]
    · obtain ⟨ds, hspelled, hvalue, hzero⟩ := ih (n / 10) (by omega)
      rw [Nat.toDigits_of_base_le (by decide) (by omega)]
      refine ⟨ds ++ [n % 10], hspelled.concat (hdigit _ (by omega)), ?_, fun hhead => ?_⟩
      · rw [digitsValue, List.foldl_concat]
        rw [digitsValue] at hvalue
        omega
      · -- The digits before the last one are those of a number that is not zero.
        rw [List.head?_append_of_ne_nil _ hspelled.ne_nil] at hhead
        rw [hzero hhead] at hvalue
        have hten : n / 10 = 0 := hvalue.symm
        omega

/-- A number only grows by more digits. -/
theorem le_foldl_digits (ds : List Nat) (n : Nat) :
    n ≤ ds.foldl (fun n d => n * 10 + d) n := by
  induction ds generalizing n with
  | nil => exact Nat.le_refl n
  | cons d ds ih =>
    rw [List.foldl_cons]
    exact Nat.le_trans (by omega) (ih (n * 10 + d))

/-- Digits that fit are all taken. -/
theorem absorb_eq {significand : Nat} {ds : List Nat}
    (h : ds.foldl (fun n d => n * 10 + d) significand < significandBound) :
    absorb significand ds = (ds.foldl (fun n d => n * 10 + d) significand, ds.length) := by
  induction ds generalizing significand with
  | nil => rfl
  | cons d ds ih =>
    rw [List.foldl_cons] at h
    rw [absorb, if_pos (Nat.lt_of_le_of_lt (le_foldl_digits ds _) h), ih h]
    rfl

/-- A whole number that fits into a word is spelled by its text. -/
theorem spells_whole {n : Nat} (h : n < word64Bound) :
    Spells (.number (.whole n)) (write (.number (.whole n))) := by
  obtain ⟨ds, hspelled, hvalue, hzero⟩ := exists_digitsSpelled n
  rw [digitsValue] at hvalue
  have hwrite : write (.number (.whole n)) = Nat.toDigits 10 n := Nat.toList_repr
  refine ⟨.numeral ⟨false, ds, none, none⟩, ?_, ?_⟩
  · rw [hwrite, ← List.append_nil (Nat.toDigits 10 n), ← List.append_nil []]
    exact .numeral (.unsigned rfl (.mk hspelled hzero .absent .absent))
  · have htaken : absorb 0 ds = (n, ds.length) := by
      rw [← hvalue] at h ⊢
      exact absorb_eq h
    rw [Written.value?, Written.valueWithin?, Numeral.value?, htaken]
    simp

/-! ## Strings -/

/-- A code below the surrogates is a character by itself. -/
theorem joinUnits_code {n : Nat} (h : n < 0xD800) (units : List StringUnit) :
    joinUnits (.code n :: units) = (joinUnits units).map (Char.ofNat n :: ·) := by
  have hhigh : ¬ 0xD800 ≤ n := by omega
  have hlow : ¬ 0xDC00 ≤ n := by omega
  rcases units with _ | ⟨_ | _, units⟩ <;> simp [joinUnits, hhigh, hlow]

/-- Controls without a short escape are spelled by their codes. -/
theorem spelled_control {n : Nat} (h : n < 0x20) : StringUnit.Spelled (.code n)
    (['\\', 'u', '0', '0'] ++ (if n < 0x10 then ['0'] else []) ++ Text.hex n) := by
  have hdigits : ∀ n < 0x20, ((if n < 0x10 then ['0'] else []) ++ Text.hex n).map hexDigit? =
      [some (n / 16), some (n % 16)] := by decide
  obtain ⟨a, b, hhex⟩ : ∃ a b, (if n < 0x10 then ['0'] else []) ++ Text.hex n = [a, b] := by
    have hlength := congrArg List.length (hdigits n h)
    rw [List.length_map] at hlength
    exact List.length_eq_two.1 hlength
  have hvalue := hdigits n h
  rw [hhex] at hvalue
  obtain ⟨ha, hb⟩ : hexDigit? a = some (n / 16) ∧ hexDigit? b = some (n % 16) := by
    simpa using hvalue
  have hzero : hexDigit? '0' = some 0 := rfl
  have hcode := StringUnit.Spelled.code hzero hzero ha hb
  have hn : ((0 * 16 + 0) * 16 + n / 16) * 16 + n % 16 = n := by omega
  rw [hn] at hcode
  rw [List.append_assoc, hhex]
  exact hcode

/-- What stands for a character in a string is a unit that is read as the character. -/
theorem exists_spelled_escape (c : Char) : ∃ unit : StringUnit, unit.Spelled (escape c) ∧
    ∀ units, joinUnits (unit :: units) = (joinUnits units).map (c :: ·) := by
  have hshort {e : Char} (he : shortEscape? e = some c) : ∃ unit : StringUnit,
      unit.Spelled ['\\', e] ∧
        ∀ units, joinUnits (unit :: units) = (joinUnits units).map (c :: ·) :=
    ⟨.char c, .short he, fun units => by rw [joinUnits]⟩
  have hcode (hcontrol : c.toNat < 0x20) (units : List StringUnit) :
      joinUnits (.code c.toNat :: units) = (joinUnits units).map (c :: ·) := by
    rw [joinUnits_code (by omega), Char.ofNat_toNat]
  rw [escape]
  split_ifs with hquote hescape hback hfeed hline hreturn htab hcontrol hlow
  · exact hshort (by rw [hquote]; rfl)
  · exact hshort (by rw [hescape]; rfl)
  · exact hshort (by rw [hback]; rfl)
  · exact hshort (by rw [hfeed]; rfl)
  · exact hshort (by rw [hline]; rfl)
  · exact hshort (by rw [hreturn]; rfl)
  · exact hshort (by rw [htab]; rfl)
  · exact ⟨.code c.toNat, by simpa [hlow] using spelled_control hcontrol, hcode hcontrol⟩
  · exact ⟨.code c.toNat, by simpa [hlow] using spelled_control hcontrol, hcode hcontrol⟩
  · exact ⟨.char c, .plain (by omega) hquote hescape, fun units => by rw [joinUnits]⟩

/-- The text between the quotes is read as the characters for which it stands. -/
theorem exists_unitsSpelled (s : List Char) :
    ∃ units, UnitsSpelled units (s.flatMap escape) ∧ joinUnits units = some s := by
  induction s with
  | nil => exact ⟨[], .nil, rfl⟩
  | cons c s ih =>
    obtain ⟨units, hspelled, hjoin⟩ := ih
    obtain ⟨unit, hunit, hread⟩ := exists_spelled_escape c
    refine ⟨unit :: units, .cons hunit hspelled, ?_⟩
    rw [hread, hjoin, Option.map_some]

/-- Characters that need no escape spell themselves. -/
theorem unitsSpelled_plain {s : List Char}
    (h : ∀ c ∈ s, 0x20 ≤ c.toNat ∧ c ≠ '\"' ∧ c ≠ '\\') : UnitsSpelled (s.map .char) s := by
  induction s with
  | nil => exact .nil
  | cons c s ih =>
    obtain ⟨⟨hcontrol, hquote, hescape⟩, hrest⟩ := List.forall_mem_cons.1 h
    exact .cons (.plain hcontrol hquote hescape) (ih hrest)

/-- Text in quotes spells a string. -/
theorem exists_unitsSpelled_quote (s : String) : ∃ units text, UnitsSpelled units text ∧
    quote s = '\"' :: (text ++ ['\"']) ∧ unitsText? units = some s := by
  obtain ⟨units, hspelled, hjoin⟩ := exists_unitsSpelled s.toList
  refine ⟨units, _, hspelled, rfl, ?_⟩
  rw [unitsText?, hjoin, Option.map_some, String.ofList_toList]

theorem spells_string (s : String) : Spells (.string s) (write (.string s)) := by
  obtain ⟨units, text, hspelled, hquote, hunits⟩ := exists_unitsSpelled_quote s
  refine ⟨.string units, ?_, ?_⟩
  · rw [write, hquote]
    exact .string hspelled
  · rw [Written.value?, Written.valueWithin?, hunits, Option.map_some]

/-! ## Members -/

/-- The compact text of members spells them. -/
theorem listed_writeMembers {members : List (String × Json)} (hne : members ≠ [])
    (h : ∀ m ∈ members, Spells m.2 (write m.2)) :
    ∃ spelled : List (List StringUnit × Written),
      Listed (MemberSpelled Written.Spelled) spelled (writeMembers members) ∧
      List.Forall₂ (fun m m' => unitsText? m.1 = some m'.1 ∧ m.2.value? = some m'.2)
        spelled members := by
  have hnone : IsBlanks [] := List.forall_mem_nil _
  have hmember (name : String) {value : Json} (hvalue : Spells value (write value)) :
      ∃ m : List StringUnit × Written,
        MemberSpelled Written.Spelled m (quote name ++ ':' :: write value) ∧
        unitsText? m.1 = some name ∧ m.2.value? = some value := by
    obtain ⟨units, text, hspelled, hquote, hunits⟩ := exists_unitsSpelled_quote name
    obtain ⟨w, hw, hread⟩ := hvalue
    refine ⟨(units, w), ?_, hunits, hread⟩
    have hspelled := MemberSpelled.mk hspelled hnone hnone hw
    simpa [hquote] using hspelled
  induction members with
  | nil => exact absurd rfl hne
  | cons first rest ih =>
    obtain ⟨hfirst, hrest⟩ := List.forall_mem_cons.1 h
    obtain ⟨m, hm, hread⟩ := hmember first.1 hfirst
    by_cases hlast : rest = []
    · subst hlast
      refine ⟨[m], ?_, .cons hread .nil⟩
      have hlisted := Listed.one hnone hm hnone
      rwa [List.nil_append, List.append_nil] at hlisted
    · obtain ⟨spelled, hlisted, hall⟩ := ih hlast hrest
      refine ⟨m :: spelled, ?_, .cons hread hall⟩
      have hmore := Listed.more hnone hm hnone hlisted
      rw [List.nil_append, List.nil_append] at hmore
      rwa [writeMembers]
      exact hlast

/-- Spelled members have names that are read and trees that are read as values. -/
theorem exists_named {spelled : List (List StringUnit × Written)} {members : List (String × Json)}
    (h : List.Forall₂ (fun m m' => unitsText? m.1 = some m'.1 ∧ m.2.value? = some m'.2)
      spelled members) : ∃ written : List (String × Written),
      List.Forall₂ (fun m m' => unitsText? m.1 = some m'.1 ∧ m.2 = m'.2) spelled written ∧
      List.Forall₂ (fun m m' => m.1 = m'.1 ∧ m.2.value? = some m'.2) written members := by
  induction h with
  | nil => exact ⟨[], .nil, .nil⟩
  | @cons m m' _ _ hm _ ih =>
    obtain ⟨written, hnames, hvalues⟩ := ih
    exact ⟨(m'.1, m.2) :: written, .cons ⟨hm.1, rfl⟩ hnames, .cons ⟨rfl, hm.2⟩ hvalues⟩

/-- The compact text of an object is a text of it: its members have these names, and trees with
these values. -/
theorem exists_isObject_write {members : List (String × Json)}
    (h : ∀ m ∈ members, Spells m.2 (write m.2)) : ∃ written : List (String × Written),
      IsObject written (write (.object members)) ∧
      List.Forall₂ (fun m m' => m.1 = m'.1 ∧ m.2.value? = some m'.2) written members := by
  have hnone : IsBlanks [] := List.forall_mem_nil _
  have hobject {spelled : List (List StringUnit × Written)}
      (hspelled : (Written.object spelled).Spelled (write (.object members))) :
      (Written.object spelled).IsText (write (.object members)) := by
    simpa using Written.IsText.mk hnone hspelled hnone
  rcases eq_or_ne members [] with rfl | hne
  · exact ⟨[], .mk (hobject (.emptyObject hnone)) .nil, .nil⟩
  · obtain ⟨spelled, hlisted, hall⟩ := listed_writeMembers hne h
    obtain ⟨written, hnames, hvalues⟩ := exists_named hall
    exact ⟨written, .mk (hobject (.object hlisted)) hnames, hvalues⟩

end Volley.Json
