/-!
# Zones

A zone is the distance of local from universal time. At most places it changes from time to time,
when the clocks are put forward or back. So a place has a zone for every instant (`TimeZone`), and
two readings of a clock are no readings like the others: clocks that are put forward never show what
they pass over, and clocks that are put back show some of it twice. Which instant a reading belongs
to is therefore known only of those that are shown just once.
-/

namespace Volley.Calendar

/-- The distance of local from universal time in seconds, positive to the east. -/
abbrev Zone : Type := Int

/-- The zones of a place. Times are seconds since the beginning of 1970, in universal time or, where
they are shown by the clocks of the place, in local time. -/
structure TimeZone where
  /-- The zone at a time. -/
  zoneAt : Int → Zone
  /-- The zone in which clocks show a local time, if they show it just once. -/
  zoneShowing? : Int → Option Zone
  /-- A local time is shown just once if it is that of one time only. -/
  zoneShowing?_eq_some_iff : ∀ shown z,
    zoneShowing? shown = some z ↔ ∀ s, s + zoneAt s = shown ↔ s = shown - z

/-- The item of a list whose items are all the same. -/
def only? {α : Type} [DecidableEq α] : List α → Option α
  | [] => none
  | x :: rest => if rest.all (· = x) then some x else none

/-- An item is the only one of a list if no other is in it. -/
theorem only?_eq_some_iff {α : Type} [DecidableEq α] {l : List α} {x : α} :
    only? l = some x ↔ ∀ y, y ∈ l ↔ y = x := by
  cases l with
  | nil =>
    rw [only?]
    exact ⟨fun h => absurd h (by simp), fun h => absurd ((h x).2 rfl) List.not_mem_nil⟩
  | cons first rest =>
    rw [only?]
    constructor
    · intro h
      split at h
      next hall =>
        obtain rfl := Option.some.inj h
        intro y
        rw [List.mem_cons, or_iff_left_of_imp fun hy => by simpa using List.all_eq_true.1 hall y hy]
      next => cases h
    · intro h
      obtain rfl := (h first).1 List.mem_cons_self
      rw [if_pos]
      exact List.all_eq_true.2 fun y hy => by simpa using (h y).1 (List.mem_cons_of_mem _ hy)

namespace TimeZone

/-- A place whose clocks are never put forward or back. -/
def fixed (z : Zone) : TimeZone where
  zoneAt _ := z
  zoneShowing? _ := some z
  zoneShowing?_eq_some_iff shown z' := by
    constructor
    · intro h s
      obtain rfl := Option.some.inj h
      omega
    · intro h
      have hz := (h (shown - z)).1 (Int.sub_add_cancel ..)
      exact congrArg some ((Int.sub_right_inj shown).1 hz)

/-- A zone stands for a place that has no other. -/
instance : Coe Zone TimeZone := ⟨fixed⟩

/-- A number stands for the zone that is so many seconds to the east. -/
instance (n : Nat) : OfNat TimeZone n := ⟨fixed n⟩

section Among

variable (first : Zone) (others : List Zone) (rule : Int → Zone)

/-- The zone that a rule gives, if it is one of some; the first of these otherwise. -/
def zoneAmong (s : Int) : Zone :=
  if rule s ∈ first :: others then rule s else first

/-- A place with some zones, and a rule that says which of them holds when. -/
def among : TimeZone where
  zoneAt := zoneAmong first others rule
  zoneShowing? shown :=
    only? ((first :: others).filter fun z => zoneAmong first others rule (shown - z) = z)
  zoneShowing?_eq_some_iff shown z := by
    have hmem (s : Int) : zoneAmong first others rule s ∈ first :: others := by
      rw [zoneAmong]
      split
      next h => exact h
      next => exact List.mem_cons_self
    have hshown (y z' : Int) : shown - z' + y = shown ↔ y = z' := by omega
    have hback (s z' : Int) : shown - s = z' ↔ s = shown - z' := by omega
    -- A zone shows the time if it is the one that holds when it would show it.
    have hshows (z' : Zone) :
        z' ∈ (first :: others).filter (fun z => zoneAmong first others rule (shown - z) = z) ↔
          shown - z' + zoneAmong first others rule (shown - z') = shown := by
      rw [List.mem_filter, decide_eq_true_eq, hshown]
      exact and_iff_right_of_imp fun h => h ▸ hmem _
    rw [only?_eq_some_iff]
    constructor
    · intro h s
      have hs := (hshows (shown - s)).symm.trans (h (shown - s))
      rw [Int.sub_sub_self] at hs
      exact hs.trans (hback s z)
    · intro h z'
      rw [hshows, h, Int.sub_right_inj]

end Among

end TimeZone

end Volley.Calendar
