import Volley.Count

/-!
# The refill schedule of the rate gate

Workers take permits from a pool, which is filled up on a fixed tick. The tick is the time of one
permit, but a millisecond at least. What is due at a tick is in general no whole number of permits;
the rest is carried to the next tick, so that no permit is lost or added in the long run. Two facts
say so: `next_due` for one tick and `remainder_lt` for the rest.

The schedule is computed in words, of 128 bits for what is due and of 64 bits for permits. That is
written apart from the arithmetic (`batchesInWords?`, `burstInWords?`).
-/

namespace Volley

/-- The nanoseconds of a second, in which shares of permits are counted. -/
def permitUnit : Nat := 1000000000

/-- The shortest tick, in nanoseconds. -/
def shortestTick : Nat := 1000000

/-- A schedule of permits. -/
structure Refill where
  /-- The permits for each second. -/
  rate : Nat
  /-- The nanoseconds from one tick to the next. -/
  tick : Nat
  /-- The share of a permit that is carried to the next tick, in billionths. -/
  remainder : Nat := 0
  deriving DecidableEq, Repr, Inhabited

namespace Refill

/-- The schedule for a rate; a rate of zero counts as one. -/
def ofRate (rate : Nat) : Refill :=
  let rate := max rate 1
  ⟨rate, max (permitUnit / rate) shortestTick, 0⟩

/-- What is due at the next tick, in billionths of a permit. -/
def due (r : Refill) : Nat :=
  r.rate * r.tick + r.remainder

/-- The permits of the next tick. -/
def batch (r : Refill) : Nat :=
  r.due / permitUnit

/-- The schedule after the next tick. -/
def next (r : Refill) : Refill :=
  { r with remainder := r.due % permitUnit }

/-- The permits of the next `n` ticks, and the schedule after them. -/
def batches (r : Refill) : Nat → List Nat × Refill
  | 0 => ([], r)
  | n + 1 =>
    let (later, last) := r.next.batches n
    (r.batch :: later, last)

/-- The most permits that one tick can give; the pool holds no more. -/
def burst (r : Refill) : Nat :=
  max 1 ((r.rate * r.tick + (permitUnit - 1)) / permitUnit)

/-! ## In words -/

/-- A number as a word of 128 bits; `none` if it does not fit. -/
def wide? (n : Nat) : Option Nat :=
  if n < word128Bound then some n else none

/-- Permits as a word of 64 bits; the largest word stands for all that do not fit. -/
def narrow (permits : Nat) : Nat :=
  min permits (word64Bound - 1)

/-- The permits of the next tick and the schedule after it, computed in words. -/
def tickInWords? (r : Refill) : Option (Nat × Refill) := do
  let share ← wide? (r.rate * r.tick)
  let due ← wide? (share + r.remainder)
  return (narrow (due / permitUnit), { r with remainder := due % permitUnit })

/-- The permits of the next `n` ticks and the schedule after them, computed in words. -/
def batchesInWords? (r : Refill) : Nat → Option (List Nat × Refill)
  | 0 => some ([], r)
  | n + 1 => do
    let (batch, next) ← r.tickInWords?
    let (later, last) ← next.batchesInWords? n
    return (batch :: later, last)

/-- The most permits that one tick can give, computed in words. -/
def burstInWords? (r : Refill) : Option Nat := do
  let share ← wide? (r.rate * r.tick)
  let whole := share / permitUnit
  return narrow (max 1 (if share % permitUnit = 0 then whole else whole + 1))

/-! ## One tick -/

/-- What is due at a tick is given as permits or carried. -/
theorem next_due (r : Refill) : r.batch * permitUnit + r.next.remainder = r.due := by
  simp only [batch, next]
  rw [Nat.mul_comm]
  exact Nat.div_add_mod ..

/-- Less than one permit is carried. -/
theorem remainder_lt (r : Refill) : r.next.remainder < permitUnit :=
  Nat.mod_lt _ (by decide)

end Refill

end Volley
