import Volley.Proofs.Text.Integer
import Volley.Report.Amount

/-!
# Amounts are read back

Amounts that are written one after the other are read back as they are (`amounts_flatMap`), because
numbers and units have no characters in common. So a text of amounts is normalised if each of them is
below the limit of its unit (`isNormalized_of_isBelow`).
-/

namespace Volley.Quantity

/-- An amount as it is written. -/
def Amount.text (a : Amount) : List Char :=
  a.number ++ a.unit

/-! ## Runs of characters -/

/-- A unit is read as a whole, before the number that follows it. -/
theorem amounts_append_unit {unit : List Char} (hne : unit ≠ [])
    (hunit : ∀ c ∈ unit, isNumeric c = false) {s : List Char}
    (hs : ∀ a ∈ (amounts s).head?, a.number ≠ []) : amounts (unit ++ s) = ⟨[], unit⟩ :: amounts s := by
  induction unit with
  | nil => exact absurd rfl hne
  | cons c rest ih =>
    obtain ⟨hc, hrest⟩ := List.forall_mem_cons.1 hunit
    show prepend c (amounts (rest ++ s)) = _
    cases rest with
    | nil =>
      unfold prepend
      rw [List.nil_append, hc, if_neg Bool.false_ne_true]
      split
      next unit as heq =>
        rw [heq] at hs
        exact absurd rfl (hs _ rfl)
      next => rfl
    | cons c' rest =>
      unfold prepend
      rw [ih (List.cons_ne_nil _ _) hrest, hc, if_neg Bool.false_ne_true]

/-- A number is read as a whole, before the unit that follows it. -/
theorem amounts_append_number {number : List Char} (hnumber : ∀ c ∈ number, isNumeric c = true)
    {s unit : List Char} {as : List Amount} (hs : amounts s = ⟨[], unit⟩ :: as) :
    amounts (number ++ s) = ⟨number, unit⟩ :: as := by
  induction number with
  | nil => exact hs
  | cons c rest ih =>
    obtain ⟨hc, hrest⟩ := List.forall_mem_cons.1 hnumber
    show prepend c (amounts (rest ++ s)) = _
    unfold prepend
    rw [ih hrest, hc, if_pos rfl]

/-! ## Amounts -/

/-- A number with a whole part, written out. -/
structure IsNumeral (number : List Char) (whole : Nat) : Prop where
  /-- There is at least one character. -/
  ne_nil : number ≠ []
  /-- No other characters than those of numbers occur. -/
  isNumeric : ∀ c ∈ number, isNumeric c = true
  /-- The whole part is read back. -/
  whole : whole? number = some (whole : Int)

/-- An amount with the whole part of its number and the limit of its unit. -/
structure Amount.Shows (a : Amount) (whole : Nat) (limit : Option Nat) : Prop where
  /-- The number has the whole part. -/
  isNumeral : IsNumeral a.number whole
  /-- The unit has the limit. -/
  lookup : units.lookup (String.ofList a.unit) = some limit

/-- The name of a unit is made of characters that do not occur in numbers. -/
theorem isNumeric_of_lookup {unit : String} {limit : Option Nat}
    (h : units.lookup unit = some limit) :
    unit.toList ≠ [] ∧ ∀ c ∈ unit.toList, isNumeric c = false := by
  have hnames : ∀ entry ∈ units,
      entry.1.toList ≠ [] ∧ entry.1.toList.all (fun c => !isNumeric c) = true := by decide
  have hmem : (unit, limit) ∈ units := by
    obtain ⟨before, after, heq, -⟩ := List.lookup_eq_some_iff.1 h
    rw [heq]
    exact List.mem_append_right _ List.mem_cons_self
  obtain ⟨hne, hall⟩ := hnames _ hmem
  exact ⟨hne, fun c hc => by simpa using List.all_eq_true.1 hall c hc⟩

/-- Amounts that are written one after the other are read back. -/
theorem amounts_flatMap {as : List Amount} (h : ∀ a ∈ as, ∃ whole limit, a.Shows whole limit) :
    amounts (as.flatMap Amount.text) = as := by
  induction as with
  | nil => rfl
  | cons a rest ih =>
    obtain ⟨⟨whole, limit, hnumber, hlimit⟩, hrest⟩ := List.forall_mem_cons.1 h
    obtain ⟨hne, hunit⟩ := isNumeric_of_lookup hlimit
    rw [String.toList_ofList] at hne hunit
    have hhead : ∀ a ∈ (amounts (rest.flatMap Amount.text)).head?, a.number ≠ [] := by
      rw [ih hrest]
      intro next hnext
      obtain ⟨_, _, hnext, -⟩ := hrest next (List.mem_of_mem_head? hnext)
      exact hnext.ne_nil
    rw [List.flatMap_cons, Amount.text, List.append_assoc]
    exact amounts_append_number hnumber.isNumeric
      ((amounts_append_unit hne hunit hhead).trans (by rw [ih hrest]))

/-- An amount that is shown below the limit of its unit, if that has one. -/
def Amount.IsBelow (a : Amount) : Prop :=
  ∃ whole limit, a.Shows whole limit ∧ limit.all (fun bound => decide (whole < bound)) = true

/-- A number with a unit is an amount. -/
theorem IsNumeral.isBelow {number : List Char} {whole : Nat} (h : IsNumeral number whole)
    {unit : String} {limit : Option Nat} (hunit : units.lookup unit = some limit)
    (hbelow : limit.all (fun bound => decide (whole < bound)) = true) :
    Amount.IsBelow ⟨number, unit.toList⟩ :=
  ⟨whole, limit, ⟨h, by rwa [String.ofList_toList]⟩, hbelow⟩

/-- An amount below the limit of its unit is recognised. -/
theorem Amount.IsBelow.isNormal {a : Amount} (h : a.IsBelow) : a.isNormal = true := by
  obtain ⟨whole, limit, hshows, hbelow⟩ := h
  rw [Amount.isNormal, hshows.isNumeral.whole, hshows.lookup]
  cases limit with
  | none => rfl
  | some bound =>
    show decide ((whole : Int) < (bound : Int)) = true
    exact decide_eq_true (Int.ofNat_lt.2 (of_decide_eq_true hbelow))

/-- A text of amounts is normalised if each is below the limit of its unit. -/
theorem isNormalized_of_isBelow {text : String} (as : List Amount) (hne : as ≠ [])
    (htext : text.toList = as.flatMap Amount.text) (h : ∀ a ∈ as, a.IsBelow) :
    isNormalized text = true := by
  have hread : amounts text.toList = as := by
    rw [htext]
    exact amounts_flatMap fun a ha => (h a ha).imp fun _ hlimit => hlimit.imp fun _ => And.left
  rw [isNormalized, hread, Bool.and_eq_true, List.all_eq_true]
  exact ⟨by simpa using hne, fun a ha => (h a ha).isNormal⟩

example : isNormalized "1h59m59.999s" = true := by decide

example : isNormalized "1m60s" = false := by decide

end Volley.Quantity
