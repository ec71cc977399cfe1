import Volley.Proofs.Count
import Volley.Report.Basic

/-!
# Reports and the order of arrival

The outcomes of a benchmark arrive in any order, and the sum of floating-point numbers depends on
the order in which they are added. A report does not depend on it, because it is made from the
outcomes in ascending order of their times: outcomes of the same place in that order have the same
time (`eq_of_orderKey_eq`), so a list of times in ascending order is known by what is in it
(`eq_of_perm_of_ascending`). Which of two outcomes with the same time comes first is all that the
order of arrival decides.

The times of failed outcomes count nowhere. Those of successful ones are in the same order among all
outcomes as they are among themselves (`map_time_filter_sorted`), and the number of successes is
theirs alone, so the figures of latency follow from the successful outcomes (`latency_ofStats`),
also where there are none.
-/

namespace Volley.Report

/-! ## Counts -/

/-- Sorting changes nothing but the order. -/
theorem sorted_perm (stats : List Stat) : (sorted stats).Perm stats :=
  List.mergeSort_perm ..

/-- Counts of a report are sums over all outcomes, whatever their order. -/
theorem total_sorted (count : Stat → Nat) (stats : List Stat) :
    total ((sorted stats).map count) = total (stats.map count) :=
  total_perm ((sorted_perm stats).map count)

/-- A report counts all outcomes. -/
theorem counts_ofStats (stats : List Stat) (elapsed concurrency : Nat) :
    (ofStats stats elapsed concurrency).totalRequests = total (stats.map Stat.requests) ∧
      (ofStats stats elapsed concurrency).succeeded = total (stats.map Stat.succeeded) ∧
      (ofStats stats elapsed concurrency).failed = total (stats.map Stat.failed) := by
  cases stats with
  | nil => exact ⟨rfl, rfl, rfl⟩
  | cons stat rest =>
    exact ⟨total_sorted Stat.requests _, total_sorted Stat.succeeded _, total_sorted Stat.failed _⟩

/-- Successful outcomes alone count as successes. -/
theorem total_succeeded_filter (stats : List Stat) :
    total ((stats.filter Stat.isSuccess).map Stat.succeeded) = total (stats.map Stat.succeeded) :=
  total_map_filter fun stat _ hfailed => by simpa [Stat.isSuccess] using hfailed

/-! ## Times -/

/-- Outcomes are sorted by the places of their times. -/
theorem pairwise_sorted (stats : List Stat) :
    (sorted stats).Pairwise fun a b => orderKey a.time ≤ orderKey b.time := by
  have htrans (a b c : Stat) (hab : decide (orderKey a.time ≤ orderKey b.time) = true)
      (hbc : decide (orderKey b.time ≤ orderKey c.time) = true) :
      decide (orderKey a.time ≤ orderKey c.time) = true := by
    simp only [decide_eq_true_eq] at hab hbc ⊢
    exact Int.le_trans hab hbc
  have htotal (a b : Stat) :
      (decide (orderKey a.time ≤ orderKey b.time) || decide (orderKey b.time ≤ orderKey a.time)) =
        true := by
    simpa using Int.le_total (orderKey a.time) (orderKey b.time)
  simpa [sorted] using List.pairwise_mergeSort htrans htotal stats

/-- Times in ascending order are known by what times they are, because times at the same place of
the order are the same. -/
theorem eq_of_perm_of_ascending {times times' : List Float}
    (hascending : times.Pairwise fun x y => orderKey x ≤ orderKey y)
    (hascending' : times'.Pairwise fun x y => orderKey x ≤ orderKey y)
    (h : times.Perm times') : times = times' :=
  h.eq_of_pairwise (fun _ _ _ _ hle hge => eq_of_orderKey_eq (Int.le_antisymm hle hge)) hascending
    hascending'

/-- The times of the sorted outcomes of a kind depend neither on the order of these outcomes nor on
those of another kind. -/
theorem map_time_filter_sorted {kind : Stat → Bool} {stats stats' : List Stat}
    (h : (stats.filter kind).Perm (stats'.filter kind)) :
    ((sorted stats).filter kind).map Stat.time = ((sorted stats').filter kind).map Stat.time := by
  have hascending (stats : List Stat) :
      (((sorted stats).filter kind).map Stat.time).Pairwise
        fun x y => orderKey x ≤ orderKey y :=
    List.pairwise_map.2 ((pairwise_sorted stats).filter kind)
  have hperm : ((sorted stats).filter kind).Perm ((sorted stats').filter kind) :=
    ((sorted_perm stats).filter kind).trans (h.trans ((sorted_perm stats').filter kind).symm)
  exact eq_of_perm_of_ascending (hascending stats) (hascending stats') (hperm.map Stat.time)

/-! ## Latency -/

/-- What a report says of the times of successful iterations. -/
structure Latency where
  /-- The mean. -/
  average : Float
  /-- The shortest. -/
  min : Float
  /-- The longest. -/
  max : Float
  /-- The times at the ranks of the fractions, from a half to ninety-nine in a hundred. -/
  percentiles : List Float

/-- What a report says of the times of successful iterations. -/
def latency (r : Report) : Latency where
  average := r.averageTime
  min := r.minTime
  max := r.maxTime
  percentiles := [r.p50Time, r.p75Time, r.p90Time, r.p95Time, r.p99Time]

/-- The figures of times in ascending order, for a number of successes. -/
def Latency.ofTimes (times : List Float) (succeeded : Nat) : Latency where
  average := if 0 < succeeded then times.foldl (· + ·) 0 / countFloat succeeded else 0
  min := times.headD 0
  max := times.getLastD 0
  percentiles := [0.50, 0.75, 0.90, 0.95, 0.99].map (percentile times)

/-- The figures of latency are those of the times of the successful outcomes. A report without
outcomes is no exception: without times all figures are zero. -/
theorem latency_ofStats (stats : List Stat) (elapsed concurrency : Nat) :
    (ofStats stats elapsed concurrency).latency =
      .ofTimes (latencies (sorted stats)) (total (stats.map Stat.succeeded)) := by
  cases stats with
  | nil => simp [ofStats, latency, Latency.ofTimes, latencies, sorted, percentile]
  | cons stat rest =>
    rw [← total_sorted]
    rfl

/-- The figures of latency follow from the successful outcomes. -/
theorem latency_ofStats_eq {stats stats' : List Stat}
    (h : (stats.filter Stat.isSuccess).Perm (stats'.filter Stat.isSuccess))
    (elapsed elapsed' concurrency concurrency' : Nat) :
    (ofStats stats elapsed concurrency).latency =
      (ofStats stats' elapsed' concurrency').latency := by
  have htimes : latencies (sorted stats) = latencies (sorted stats') := map_time_filter_sorted h
  have hsucceeded : total (stats.map Stat.succeeded) = total (stats'.map Stat.succeeded) := by
    rw [← total_succeeded_filter, total_perm (h.map Stat.succeeded), total_succeeded_filter]
  rw [latency_ofStats, latency_ofStats, htimes, hsucceeded]

/-! ## Whole reports -/

/-- Two reports say the same, but for the order of outcomes that took the same time. -/
structure SameButTies (r r' : Report) : Prop where
  /-- All that is not the list of outcomes is the same. -/
  fields : { r with stats := r'.stats } = r'
  /-- The outcomes are the same. -/
  stats : r.stats.Perm r'.stats
  /-- The outcomes at each place of the list took the same time. -/
  times : r.stats.map Stat.time = r'.stats.map Stat.time

/-- Reports of the same outcomes say the same, in whatever order these arrived. -/
theorem sameButTies_of_perm {stats stats' : List Stat} (h : stats.Perm stats')
    (elapsed concurrency : Nat) :
    SameButTies (ofStats stats elapsed concurrency) (ofStats stats' elapsed concurrency) := by
  have hperm : (sorted stats).Perm (sorted stats') :=
    (sorted_perm stats).trans (h.trans (sorted_perm stats').symm)
  have htimes : (sorted stats).map Stat.time = (sorted stats').map Stat.time := by
    have hall : (stats.filter fun _ => true).Perm (stats'.filter fun _ => true) := by simpa using h
    simpa using map_time_filter_sorted hall
  have hlatencies : latencies (sorted stats) = latencies (sorted stats') :=
    map_time_filter_sorted (h.filter Stat.isSuccess)
  have htotal (count : Stat → Nat) :
      total ((sorted stats).map count) = total ((sorted stats').map count) :=
    total_perm (hperm.map count)
  have hempty : stats.isEmpty = stats'.isEmpty := h.isEmpty_eq
  cases hsome : stats.isEmpty with
  | true =>
    obtain rfl : stats = [] := List.isEmpty_iff.1 hsome
    obtain rfl := h.nil_eq
    exact ⟨rfl, .refl _, rfl⟩
  | false =>
    have hstats : (ofStats stats elapsed concurrency).stats = sorted stats := by
      rw [ofStats, hsome]
      rfl
    have hstats' : (ofStats stats' elapsed concurrency).stats = sorted stats' := by
      rw [ofStats, ← hempty, hsome]
      rfl
    refine ⟨?_, by rwa [hstats, hstats'], by rwa [hstats, hstats']⟩
    simp only [ofStats, ← hempty, hsome, htotal, hlatencies, Bool.false_eq_true, if_false]

/-- A report says the same of the same outcomes, in whatever order they arrived; and what it says of
latency is the same of the same successful outcomes, whatever failed ones come with them, and
however long the benchmark took. -/
theorem ofStats_arrival (stats stats' : List Stat) :
    (stats.Perm stats' → ∀ elapsed concurrency,
        SameButTies (ofStats stats elapsed concurrency) (ofStats stats' elapsed concurrency)) ∧
      ((stats.filter Stat.isSuccess).Perm (stats'.filter Stat.isSuccess) →
        ∀ elapsed elapsed' concurrency concurrency',
          (ofStats stats elapsed concurrency).latency =
            (ofStats stats' elapsed' concurrency').latency) :=
  ⟨sameButTies_of_perm, latency_ofStats_eq⟩

/-- A success that took a quarter of a second and sent so many bytes. -/
def quarter (sent : Nat) : Stat where
  requests := 1
  time := 0.25
  sent := sent
  succeeded := 1

/-- A failure that took nine seconds. -/
def slowFailure : Stat where
  requests := 1
  time := 9
  failed := 1

theorem ofStats_arrival_quarter :
    ([quarter 1, slowFailure, quarter 2].Perm [quarter 2, slowFailure, quarter 1] ∧
      ([slowFailure].filter Stat.isSuccess).Perm ([].filter Stat.isSuccess)) ∧
    SameButTies (ofStats [quarter 1, slowFailure, quarter 2] 1000 2)
      (ofStats [quarter 2, slowFailure, quarter 1] 1000 2) ∧
    (ofStats [slowFailure] 1000 1).latency = (ofStats [] 2000 2).latency := by
  have hperm : [quarter 1, slowFailure, quarter 2].Perm [quarter 2, slowFailure, quarter 1] :=
    List.reverse_perm [quarter 2, slowFailure, quarter 1]
  have hnone : ([slowFailure].filter Stat.isSuccess).Perm ([].filter Stat.isSuccess) := .refl _
  exact ⟨⟨hperm, hnone⟩, (ofStats_arrival _ _).1 hperm 1000 2,
    (ofStats_arrival _ _).2 hnone 1000 2000 1 2⟩

end Volley.Report
