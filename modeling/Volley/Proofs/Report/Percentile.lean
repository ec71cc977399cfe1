import Volley.Proofs.Decimal.Product
import Volley.Proofs.Report.Arrival

/-!
# Percentiles are at the nearest ranks, and in order

A percentile is the time at a rank among the times of the successful outcomes in ascending order.
The rank is the whole part of the number of samples times the fraction, computed with floating-point
numbers, but never past the last sample (`percentileIndex_eq`), so it is a rank among these samples
and not among all outcomes (`nearestRank_lt`). Products with the same number of samples keep the
order of the fractions (`pairwise_nearestRank`), and so the figures of latency, from the shortest
time over the percentiles to the longest one, are times at ascending ranks (`figures_eq`).
-/

namespace Volley.Report

open Decimal

/-- The fractions that a report has percentiles of. -/
def fractions : List Float :=
  [0.50, 0.75, 0.90, 0.95, 0.99]

/-- The shortest time, the percentiles from the smallest fraction on, and the longest time. -/
def figures (r : Report) : List Float :=
  r.minTime :: (r.latency.percentiles ++ [r.maxTime])

/-- The nearest rank of a fraction among `n` samples: the whole part of their product, but at most
the last sample. -/
def nearestRank (n : Nat) (fraction : Float) : Nat :=
  min (Decoded.ofFloat (countFloat n * fraction)).wholeWord (n - 1)

/-! ## Ranks -/

/-- Percentiles are taken at the nearest ranks. -/
theorem percentileIndex_eq (n : Nat) (fraction : Float) :
    percentileIndex n fraction = nearestRank n fraction := by
  rw [percentileIndex, nearestRank, toNat_toUInt64]

/-- A nearest rank is one of the samples. -/
theorem nearestRank_lt {n : Nat} (h : 0 < n) (fraction : Float) : nearestRank n fraction < n := by
  unfold nearestRank
  omega

/-- Of two fractions with the same exponent the larger one has no lower rank. -/
theorem nearestRank_le {p q : Float} {m m' : Nat} {e : Int} (hp : HasFields p m e)
    (hq : HasFields q m' e) (hle : m ≤ m') (n : Nat) : nearestRank n p ≤ nearestRank n q := by
  have hproduct := wholeWord_mul_le (countFloat n) hp hq hle
  unfold nearestRank
  omega

/-- The ranks of the fractions ascend. All of these lie between a half and one, so they have the
same exponent and differ in their significands alone. -/
theorem pairwise_nearestRank (n : Nat) : (fractions.map (nearestRank n)).Pairwise (· ≤ ·) := by
  have h50 : HasFields 0.50 4503599627370496 (-53) := ⟨by decide, by decide, rfl⟩
  have h75 : HasFields 0.75 6755399441055744 (-53) := ⟨by decide, by decide, rfl⟩
  have h90 : HasFields 0.90 8106479329266893 (-53) := ⟨by decide, by decide, rfl⟩
  have h95 : HasFields 0.95 8556839292003942 (-53) := ⟨by decide, by decide, rfl⟩
  have h99 : HasFields 0.99 8917127262193582 (-53) := ⟨by decide, by decide, rfl⟩
  have hchain : (fractions.map (nearestRank n)).IsChain (· ≤ ·) := by
    refine .cons_cons (nearestRank_le h50 h75 (by decide) n) ?_
    refine .cons_cons (nearestRank_le h75 h90 (by decide) n) ?_
    refine .cons_cons (nearestRank_le h90 h95 (by decide) n) ?_
    exact .cons_cons (nearestRank_le h95 h99 (by decide) n) (.singleton _)
  exact List.isChain_iff_pairwise.1 hchain

/-! ## Times -/

/-- The times of the successful outcomes ascend. -/
theorem pairwise_latencies (stats : List Stat) :
    (latencies (sorted stats)).Pairwise fun x y => orderKey x ≤ orderKey y :=
  List.pairwise_map.2 ((pairwise_sorted stats).filter Stat.isSuccess)

/-- In ascending times, a time at a higher rank is no shorter. -/
theorem orderKey_getD_le {times : List Float}
    (h : times.Pairwise fun x y => orderKey x ≤ orderKey y) {i j : Nat} (hij : i ≤ j)
    (hj : j < times.length) : orderKey (times.getD i 0) ≤ orderKey (times.getD j 0) := by
  have hi : i < times.length := Nat.lt_of_le_of_lt hij hj
  rw [← List.getElem_eq_getD (h := hi) 0, ← List.getElem_eq_getD (h := hj) 0]
  rcases Nat.lt_or_eq_of_le hij with hlt | rfl
  · exact List.pairwise_iff_getElem.1 h i j hi hj hlt
  · exact Int.le_refl _

/-- The ranks of the figures of latency among `n` samples. -/
def figureRanks (n : Nat) : List Nat :=
  0 :: (fractions.map (nearestRank n) ++ [n - 1])

/-- The ranks of the figures ascend. -/
theorem pairwise_figureRanks (n : Nat) : (figureRanks n).Pairwise (· ≤ ·) := by
  refine List.pairwise_cons.2 ⟨fun _ _ => Nat.zero_le _, List.pairwise_append.2
    ⟨pairwise_nearestRank n, List.pairwise_singleton .., ?_⟩⟩
  intro rank hrank last hlast
  obtain ⟨fraction, -, rfl⟩ := List.mem_map.1 hrank
  obtain rfl := List.mem_singleton.1 hlast
  exact Nat.min_le_right ..

/-- The ranks of the figures are ranks of samples. -/
theorem figureRanks_lt {n : Nat} (h : 0 < n) : ∀ rank ∈ figureRanks n, rank < n := by
  intro rank hrank
  rcases List.mem_cons.1 hrank with rfl | hrank
  · exact h
  · rcases List.mem_append.1 hrank with hrank | hrank
    · obtain ⟨fraction, -, rfl⟩ := List.mem_map.1 hrank
      exact nearestRank_lt h fraction
    · obtain rfl := List.mem_singleton.1 hrank
      omega

/-- The percentiles of a report are the times at the nearest ranks. -/
theorem percentiles_eq (stats : List Stat) (elapsed concurrency : Nat) :
    (ofStats stats elapsed concurrency).latency.percentiles =
      fractions.map fun p => (latencies (sorted stats)).getD
        (nearestRank (latencies (sorted stats)).length p) 0 := by
  rw [latency_ofStats]
  simp only [← percentileIndex_eq]
  rfl

/-- The figures of latency are the times at their ranks; without times all of them are zero. -/
theorem figures_eq (stats : List Stat) (elapsed concurrency : Nat) :
    (ofStats stats elapsed concurrency).figures =
      (figureRanks (latencies (sorted stats)).length).map ((latencies (sorted stats)).getD · 0) := by
  have hlatency := latency_ofStats stats elapsed concurrency
  have hmin : (ofStats stats elapsed concurrency).minTime = (latencies (sorted stats)).headD 0 :=
    congrArg Latency.min hlatency
  have hmax : (ofStats stats elapsed concurrency).maxTime = (latencies (sorted stats)).getLastD 0 :=
    congrArg Latency.max hlatency
  have hfirst (times : List Float) : times.headD 0 = times.getD 0 0 := by
    cases times with
    | nil => rfl
    | cons time rest => rfl
  have hlast (times : List Float) : times.getLastD 0 = times.getD (times.length - 1) 0 := by
    rw [List.getLastD_eq_getLast?, List.getLast?_eq_getElem?]
    rfl
  have hrank (n : Nat) : nearestRank n = percentileIndex n :=
    funext fun p => (percentileIndex_eq n p).symm
  rw [figures, hmin, hmax, hlatency, hfirst, hlast, figureRanks, hrank]
  rfl

/-! ## The report -/

/-- What a report says of the order of outcomes and of the times of the successful ones. -/
structure IsRanked (stats : List Stat) (r : Report) : Prop where
  /-- The outcomes are those that were reported. -/
  perm : r.stats.Perm stats
  /-- They stand in ascending order of their times. -/
  ascending : r.stats.Pairwise fun a b => orderKey a.time ≤ orderKey b.time
  /-- The shortest and the longest time are the first and the last one of the successful outcomes.
  -/
  ends : ∀ h : latencies r.stats ≠ [],
    r.minTime = (latencies r.stats).head h ∧ r.maxTime = (latencies r.stats).getLast h
  /-- Each fraction has its percentile, the time at the nearest rank, which is one of the successful
  outcomes. -/
  ranks : latencies r.stats ≠ [] → List.Forall₂
    (fun p time => (latencies r.stats)[nearestRank (latencies r.stats).length p]? = some time)
    fractions r.latency.percentiles
  /-- The figures of latency ascend. -/
  ordered : r.figures.Pairwise fun x y => orderKey x ≤ orderKey y
  /-- Without a successful outcome all of them are zero. -/
  zero : latencies r.stats = [] → ∀ figure ∈ r.figures, figure = 0

/-- The outcomes of a report are the sorted ones. -/
theorem stats_ofStats (stats : List Stat) (elapsed concurrency : Nat) :
    (ofStats stats elapsed concurrency).stats = sorted stats := by
  cases stats with
  | nil => simp [ofStats, sorted]
  | cons stat rest => rfl

/-- A report has its outcomes in ascending order of their times, and the figures of latency are
times of successful outcomes at ascending ranks. This holds of all outcomes, whatever their times:
no number and infinities have their places in the order as well. -/
theorem isRanked_ofStats (stats : List Stat) (elapsed concurrency : Nat) :
    IsRanked stats (ofStats stats elapsed concurrency) := by
  have hfigures := figures_eq stats elapsed concurrency
  have hpercentiles := percentiles_eq stats elapsed concurrency
  have hascending := pairwise_latencies stats
  have hstats := stats_ofStats stats elapsed concurrency
  constructor
  case perm => exact hstats ▸ sorted_perm stats
  case ascending => exact hstats ▸ pairwise_sorted stats
  case ends =>
    have hlatency := latency_ofStats stats elapsed concurrency
    have hmin := congrArg Latency.min hlatency
    have hmax := congrArg Latency.max hlatency
    rw [hstats]
    intro h
    have hfirst : (latencies (sorted stats)).headD 0 = (latencies (sorted stats)).head h := by
      rw [List.headD_eq_head?_getD, List.head?_eq_some_head h, Option.getD_some]
    have hlast : (latencies (sorted stats)).getLastD 0 = (latencies (sorted stats)).getLast h := by
      rw [List.getLastD_eq_getLast?, List.getLast?_eq_some_getLast h, Option.getD_some]
    exact ⟨hmin.trans hfirst, hmax.trans hlast⟩
  case ranks =>
    rw [hstats, hpercentiles]
    intro h
    have hpos := List.length_pos_iff.2 h
    refine List.forall₂_map_right_iff.2 (List.forall₂_same.2 fun p _ => ?_)
    have hlt := nearestRank_lt hpos p
    rw [List.getElem?_eq_getElem hlt, List.getElem_eq_getD 0]
  case ordered =>
    rw [hfigures, List.pairwise_map]
    cases htimes : latencies (sorted stats) with
    | nil => exact (pairwise_figureRanks _).imp fun _ => Int.le_refl _
    | cons time rest =>
      rw [htimes] at hascending
      have hpos : 0 < (time :: rest).length := Nat.succ_pos _
      exact (pairwise_figureRanks _).imp_of_mem fun _ hj hij =>
        orderKey_getD_le hascending hij (figureRanks_lt hpos _ hj)
  case zero =>
    rw [hstats, hfigures]
    intro h figure hfigure
    obtain ⟨rank, -, rfl⟩ := List.mem_map.1 hfigure
    rw [h]
    rfl

/-- Twenty successful outcomes with times from twenty seconds down, and a failure after each. -/
def mixed : List Stat :=
  (List.range 20).flatMap fun i =>
    [{ time := countFloat (20 - i), succeeded := 1 }, { time := countFloat i, failed := 1 }]

/-- The times of failures are no times of success. -/
theorem latencies_mixed :
    latencies (sorted mixed) = ((List.range 20).map (· + 1)).map countFloat := by
  have htimes : latencies mixed = ((List.range 20).map (20 - ·)).map countFloat := rfl
  have hsorted : (latencies (sorted mixed)).Perm (latencies mixed) :=
    ((sorted_perm mixed).filter Stat.isSuccess).map Stat.time
  have hcounts : ((List.range 20).map (20 - ·)).Perm ((List.range 20).map (· + 1)) := by decide
  rw [htimes] at hsorted
  exact eq_of_perm_of_ascending (pairwise_latencies mixed) (by decide +kernel)
    (hsorted.trans (hcounts.map countFloat))

/-- Of twenty times, the eleventh is the median, and from nineteen in twenty on the longest one is
the percentile. -/
theorem isRanked_mixed :
    IsRanked mixed (ofStats mixed 1000000000 4) ∧
    latencies (ofStats mixed 1000000000 4).stats = ((List.range 20).map (· + 1)).map countFloat ∧
    (ofStats mixed 1000000000 4).figures = [1, 11, 16, 19, 20, 20, 20] := by
  refine ⟨isRanked_ofStats mixed 1000000000 4, ?_, ?_⟩
  · rw [stats_ofStats, latencies_mixed]
  · rw [figures_eq, latencies_mixed]
    decide +kernel

end Volley.Report
