import Volley.Bench.Refill

/-!
# The rate gate

A worker takes a permit before each iteration. The pool starts full and is filled up at every tick
of the refill schedule, but never beyond what a single tick can give; permits that find no room are
lost.
-/

namespace Volley

/-- A pool of permits. -/
structure Gate where
  /-- The schedule by which the pool is filled up. -/
  refill : Refill
  /-- The permits that can be taken. -/
  permits : Nat
  deriving DecidableEq, Repr, Inhabited

namespace Gate

/-- A full pool for a rate. -/
def ofRate (rate : Nat) : Gate :=
  ⟨.ofRate rate, (Refill.ofRate rate).burst⟩

/-- The pool after the next tick. -/
def tick (g : Gate) : Gate :=
  { refill := g.refill.next
    permits := g.permits + min g.refill.batch (g.refill.burst - g.permits) }

/-- The pool without one permit, if it has any. -/
def take? (g : Gate) : Option Gate :=
  if g.permits = 0 then none else some { g with permits := g.permits - 1 }

end Gate

end Volley
