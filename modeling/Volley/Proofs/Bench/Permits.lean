import Volley.Bench.Gate

/-!
# Permits come

A worker at the gate does not wait in vain. The tick of a schedule is so long that two ticks are
worth a permit at least (`Refill.pays_ofRate`); what the first of them is worth is carried to the
second if it is no whole permit, so after two ticks the pool is not empty
(`Gate.permits_pos_of_pays`).
-/

namespace Volley

namespace Refill

/-- Two ticks of a schedule are worth a permit. -/
def Pays (r : Refill) : Prop :=
  permitUnit ≤ 2 * (r.rate * r.tick)

/-- The schedule of any rate gives a permit in two ticks: below half a billion permits for each
second the tick is the time of one permit but for a rounding error, and above the shortest tick is
long enough. -/
theorem pays_ofRate (rate : Nat) : (ofRate rate).Pays := by
  unfold Pays ofRate
  dsimp only
  generalize hrate : max rate 1 = n
  have hpos : 0 < n := by omega
  have hquotient : n * (permitUnit / n) ≤ n * max (permitUnit / n) shortestTick :=
    Nat.mul_le_mul_left n (Nat.le_max_left ..)
  have hshortest : n * shortestTick ≤ n * max (permitUnit / n) shortestTick :=
    Nat.mul_le_mul_left n (Nat.le_max_right ..)
  have hdiv := Nat.div_add_mod permitUnit n
  have hmod := Nat.mod_lt permitUnit hpos
  simp only [permitUnit, shortestTick] at *
  omega

/-- A schedule goes on as it is. -/
theorem Pays.next {r : Refill} (h : r.Pays) : r.next.Pays := h

/-- The pool has room for a permit. -/
theorem burst_pos (r : Refill) : 0 < r.burst := by
  rw [burst]
  omega

end Refill

namespace Gate

/-- A tick takes no permit away. -/
theorem permits_le_tick (g : Gate) : g.permits ≤ g.tick.permits := by
  rw [tick]
  exact Nat.le_add_right ..

/-- A tick that gives a permit leaves one in the pool. -/
theorem permits_pos_of_batch {g : Gate} (h : 0 < g.refill.batch) : 0 < g.tick.permits := by
  have hburst := g.refill.burst_pos
  rw [tick]
  dsimp only
  omega

/-- After two ticks there is a permit. -/
theorem permits_pos_of_pays {g : Gate} (h : g.refill.Pays) : 0 < g.tick.tick.permits := by
  by_cases hfirst : 0 < g.refill.batch
  · exact Nat.lt_of_lt_of_le (permits_pos_of_batch hfirst) (permits_le_tick g.tick)
  · -- All that was due at the first tick is carried to the second.
    apply permits_pos_of_batch
    have hdue := g.refill.next_due
    have hzero : g.refill.batch = 0 := by omega
    rw [hzero] at hdue
    have hsecond : permitUnit ≤ g.tick.refill.due := by
      have hpays : permitUnit ≤ 2 * (g.refill.rate * g.refill.tick) := h
      change permitUnit ≤ g.refill.rate * g.refill.tick + g.refill.next.remainder
      rw [Refill.due] at hdue
      omega
    exact Nat.div_pos hsecond (by decide)

end Gate

end Volley
