import Volley.Count
import Volley.Report.Stat

/-!
# Reports

What the outcomes of a benchmark amount to. The outcomes are put in ascending order of their times
first, so that the order in which they arrived shows nowhere: not in the sum of the times either,
though the addition of floating-point numbers is not associative. Times are those of successful
iterations only, and a percentile is the time at a rank among them.
-/

namespace Volley

/-- A place in the total order of floating-point numbers, which puts minus zero before zero, and
what is no number at the end of its sign. -/
def orderKey (x : Float) : Int :=
  let bits := x.toBits.toNat
  if bits < int64Bound then bits else (int64Bound : Int) - 1 - bits

/-- Two numbers at the same place of the order are the same. -/
theorem eq_of_orderKey_eq {x y : Float} (h : orderKey x = orderKey y) : x = y := by
  have hbits : x.toBits.toNat = y.toBits.toNat := by
    have hx := x.toBits.toNat_lt
    have hy := y.toBits.toNat_lt
    unfold orderKey at h
    dsimp only at h
    split at h <;> split at h <;> omega
  have : x.toBits = y.toBits := UInt64.toNat_inj.1 hbits
  obtain ⟨⟨xb, xv⟩⟩ := x
  obtain ⟨⟨yb, yv⟩⟩ := y
  have : xb = yb := this
  subst this
  rfl

/-- The rank of a fraction of `n` samples: the product, rounded down, but at most the last sample.
-/
def percentileIndex (n : Nat) (fraction : Float) : Nat :=
  min (countFloat n * fraction).toUInt64.toNat (n - 1)

/-- A quantity for each second, none if no time has passed. -/
def perSecond (total time : Float) : Float :=
  if 0 < time then total / time else 0

/-- What the outcomes of a benchmark amount to. Times are in seconds. -/
structure Report where
  /-- The iterations. -/
  totalRequests : Nat := 0
  /-- The workers. -/
  concurrency : Nat := 0
  /-- The iterations that succeeded. -/
  succeeded : Nat := 0
  /-- The iterations that failed. -/
  failed : Nat := 0
  /-- The bytes sent. -/
  totalSent : Nat := 0
  /-- The bytes received. -/
  totalReceived : Nat := 0
  /-- The time of the whole benchmark. -/
  totalTime : Float := 0
  /-- The bytes sent each second. -/
  sendRate : Float := 0
  /-- The bytes received each second. -/
  receiveRate : Float := 0
  /-- The mean time of a successful iteration. -/
  averageTime : Float := 0
  /-- The successful iterations each second. -/
  requestRate : Float := 0
  /-- The shortest time of a successful iteration. -/
  minTime : Float := 0
  /-- The longest time of a successful iteration. -/
  maxTime : Float := 0
  /-- The time that half of the successful iterations stay below. -/
  p50Time : Float := 0
  /-- The time that three quarters of them stay below. -/
  p75Time : Float := 0
  /-- The time that nine in ten of them stay below. -/
  p90Time : Float := 0
  /-- The time that nineteen in twenty of them stay below. -/
  p95Time : Float := 0
  /-- The time that ninety-nine in a hundred of them stay below. -/
  p99Time : Float := 0
  /-- The outcomes, in ascending order of their times. -/
  stats : List Stat := []
  deriving Inhabited

namespace Report

/-- Outcomes in ascending order of their times; outcomes of equal times stay in their order. -/
def sorted (stats : List Stat) : List Stat :=
  stats.mergeSort fun a b => decide (orderKey a.time ≤ orderKey b.time)

/-- The times of the successful outcomes. -/
def latencies (stats : List Stat) : List Float :=
  (stats.filter Stat.isSuccess).map Stat.time

/-- The time at the rank of a fraction. -/
def percentile (times : List Float) (fraction : Float) : Float :=
  times.getD (percentileIndex times.length fraction) 0

/-- The report of a benchmark that took `elapsed` nanoseconds. Without outcomes all of it is zero,
also the time. -/
def ofStats (stats : List Stat) (elapsed : Nat) (concurrency : Nat) : Report :=
  if stats.isEmpty then { concurrency := concurrency }
  else
    let stats := sorted stats
    let times := latencies stats
    let succeeded := total (stats.map Stat.succeeded)
    let sent := total (stats.map Stat.sent)
    let received := total (stats.map Stat.received)
    let time := seconds elapsed
    { totalRequests := total (stats.map Stat.requests)
      concurrency := concurrency
      succeeded := succeeded
      failed := total (stats.map Stat.failed)
      totalSent := sent
      totalReceived := received
      totalTime := time
      sendRate := perSecond (countFloat sent) time
      receiveRate := perSecond (countFloat received) time
      averageTime :=
        if 0 < succeeded then times.foldl (· + ·) 0 / countFloat succeeded else 0
      requestRate := perSecond (countFloat succeeded) time
      minTime := times.headD 0
      maxTime := times.getLastD 0
      p50Time := percentile times 0.50
      p75Time := percentile times 0.75
      p90Time := percentile times 0.90
      p95Time := percentile times 0.95
      p99Time := percentile times 0.99
      stats := stats }

end Report

end Volley
