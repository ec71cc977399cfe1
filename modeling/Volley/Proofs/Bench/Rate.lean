import Volley.Bench.Refill

/-!
# The rate is met

A schedule neither loses nor adds a permit: what a run of ticks has given and what it carries are
together what was due in it (`total_batches`), and less than a permit is carried, so the permits are
the whole ones of the time that has passed (`batches_eq`). The ticks that cover a number of seconds
give the permits of these seconds, although the last tick may end later: a tick that does not divide
the second is worth a permit at most, so what it has too much is no whole permit
(`total_batches_ticksOver`).

All of this is about numbers of any size. The words in which the schedule is computed are large
enough for every rate that is a word itself (`batchesInWords?_eq`).
-/

namespace Volley.Refill

/-! ## Runs of ticks -/

/-- A run begins with the permits of the next tick. -/
theorem batches_succ (r : Refill) (n : Nat) :
    r.batches (n + 1) = (r.batch :: (r.next.batches n).1, (r.next.batches n).2) :=
  rfl

/-- What a run of ticks has given, with what it carries, is what was due in it. -/
theorem total_batches (r : Refill) (n : Nat) :
    total (r.batches n).1 * permitUnit + (r.batches n).2.remainder =
      n * (r.rate * r.tick) + r.remainder := by
  induction n generalizing r with
  | zero => simp [batches]
  | succ n ih =>
    have hfirst : r.batch * permitUnit + r.next.remainder = r.rate * r.tick + r.remainder :=
      r.next_due
    have hlater : total (r.next.batches n).1 * permitUnit + (r.next.batches n).2.remainder =
        n * (r.rate * r.tick) + r.next.remainder := ih r.next
    rw [batches_succ, total_cons, Nat.add_mul, Nat.succ_mul]
    dsimp only
    omega

/-- A run of ticks changes nothing but what is carried, which stays less than a permit. -/
theorem batches_last {r : Refill} (h : r.remainder < permitUnit) (n : Nat) :
    (r.batches n).2 = { r with remainder := (r.batches n).2.remainder } ∧
      (r.batches n).2.remainder < permitUnit := by
  induction n generalizing r with
  | zero => exact ⟨rfl, h⟩
  | succ n ih => exact ih r.remainder_lt

/-- From the start on, the permits of a run are the whole ones of what was due in it, and the rest
is carried. -/
theorem batches_eq {r : Refill} (h : r.remainder = 0) (n : Nat) :
    total (r.batches n).1 = n * (r.rate * r.tick) / permitUnit ∧
      (r.batches n).2 = { r with remainder := n * (r.rate * r.tick) % permitUnit } := by
  obtain ⟨hlast, hcarried⟩ := batches_last (h ▸ by decide : r.remainder < permitUnit) n
  have hdue := total_batches r n
  rw [h, Nat.add_zero] at hdue
  have hdivision : n * (r.rate * r.tick) / permitUnit = total (r.batches n).1 ∧
      n * (r.rate * r.tick) % permitUnit = (r.batches n).2.remainder := by
    refine (Nat.div_mod_unique (by decide)).2 ⟨?_, hcarried⟩
    rw [← hdue, Nat.mul_comm, Nat.add_comm]
  rw [hdivision.1, hdivision.2]
  exact ⟨rfl, hlast⟩

/-! ## The size of a batch -/

/-- The most permits of a tick are worth the share of the tick at least, and less than a permit more
unless they are a single one. -/
theorem burst_bounds (r : Refill) :
    r.rate * r.tick ≤ r.burst * permitUnit ∧
      (r.burst = 1 ∨ r.burst * permitUnit < r.rate * r.tick + permitUnit) := by
  rw [burst]
  generalize r.rate * r.tick = share
  simp only [permitUnit]
  omega

/-- The most that a tick can give does not depend on what is carried. -/
theorem burst_next (r : Refill) : r.next.burst = r.burst :=
  rfl

/-- A tick gives the most that it can or one permit less. -/
theorem batch_eq_burst_or {r : Refill} (h : r.remainder < permitUnit) :
    r.batch = r.burst ∨ r.batch + 1 = r.burst := by
  have hdue : r.batch * permitUnit + r.next.remainder = r.rate * r.tick + r.remainder := r.next_due
  have hcarried := r.remainder_lt
  have hburst := r.burst_bounds
  generalize r.rate * r.tick = share at *
  simp only [permitUnit] at *
  omega

/-- Every tick of a run gives the most that a tick can or one permit less. -/
theorem eq_burst_or_of_mem_batches {r : Refill} (h : r.remainder < permitUnit) {n batch : Nat}
    (hbatch : batch ∈ (r.batches n).1) : batch = r.burst ∨ batch + 1 = r.burst := by
  induction n generalizing r with
  | zero => exact absurd hbatch List.not_mem_nil
  | succ n ih =>
    rw [batches_succ, List.mem_cons] at hbatch
    obtain rfl | hlater := hbatch
    · exact batch_eq_burst_or h
    · rw [← r.burst_next]
      exact ih (r := r.next) r.remainder_lt hlater

/-! ## Whole seconds -/

/-- The number of ticks that cover a number of seconds. -/
def ticksOver (r : Refill) (seconds : Nat) : Nat :=
  (seconds * permitUnit + (r.tick - 1)) / r.tick

/-- So many ticks are as long as the seconds at least, and less than a tick longer. -/
theorem ticksOver_bounds {r : Refill} (h : 0 < r.tick) (seconds : Nat) :
    seconds * permitUnit ≤ r.ticksOver seconds * r.tick ∧
      r.ticksOver seconds * r.tick < seconds * permitUnit + r.tick := by
  have hdivision : r.tick * r.ticksOver seconds + _ = seconds * permitUnit + (r.tick - 1) :=
    Nat.div_add_mod _ r.tick
  have hrest := Nat.mod_lt (seconds * permitUnit + (r.tick - 1)) h
  rw [Nat.mul_comm] at hdivision
  omega

/-- A schedule has a permit for each second at least. -/
theorem rate_ofRate_pos (rate : Nat) : 0 < (ofRate rate).rate :=
  Nat.le_max_right ..

/-- Of any rate, the tick is a second at most, and either it is worth a permit at most or it divides
the second. -/
theorem tick_ofRate (rate : Nat) :
    0 < (ofRate rate).tick ∧ (ofRate rate).tick ≤ permitUnit ∧
      ((ofRate rate).rate * (ofRate rate).tick ≤ permitUnit ∨ (ofRate rate).tick ∣ permitUnit) := by
  rw [ofRate]
  dsimp only
  have hquotient : permitUnit / max rate 1 ≤ permitUnit := Nat.div_le_self ..
  have hshortest : 0 < shortestTick ∧ shortestTick ≤ permitUnit := by decide
  refine ⟨by omega, by omega, ?_⟩
  obtain hslow | hfast := Nat.le_total shortestTick (permitUnit / max rate 1)
  · rw [Nat.max_eq_left hslow]
    exact .inl (Nat.mul_div_le ..)
  · rw [Nat.max_eq_right hfast]
    exact .inr ⟨1000, by decide⟩

/-- The ticks that cover a number of seconds give the permits of these seconds. -/
theorem total_batches_ticksOver (rate seconds : Nat) :
    total ((ofRate rate).batches ((ofRate rate).ticksOver seconds)).1 =
      (ofRate rate).rate * seconds := by
  obtain ⟨hpositive, -, hworth⟩ := tick_ofRate rate
  have hrate := rate_ofRate_pos rate
  rw [(batches_eq rfl _).1]
  generalize ofRate rate = r at *
  obtain ⟨hlong, hover⟩ := ticksOver_bounds hpositive seconds
  generalize r.ticksOver seconds = n at *
  -- How much longer than the seconds the ticks are, and that it is worth less than a permit.
  obtain ⟨excess, hexcess⟩ := Nat.exists_eq_add_of_le hlong
  have hsmall : r.rate * excess < permitUnit := by
    obtain hworth | hdivides := hworth
    · have hshorter : excess < r.tick := by omega
      exact Nat.lt_of_lt_of_le (Nat.mul_lt_mul_of_pos_left hshorter hrate) hworth
    · have hmultiple : r.tick ∣ seconds * permitUnit + excess := hexcess ▸ Nat.dvd_mul_left ..
      have hwhole : r.tick ∣ seconds * permitUnit := Nat.dvd_mul_left_of_dvd hdivides seconds
      have hzero : excess = 0 :=
        Nat.eq_zero_of_dvd_of_lt ((Nat.dvd_add_right hwhole).1 hmultiple) (by omega)
      rw [hzero, Nat.mul_zero]
      decide
  have hdue : n * (r.rate * r.tick) = r.rate * excess + permitUnit * (r.rate * seconds) := by
    calc n * (r.rate * r.tick) = r.rate * (n * r.tick) := Nat.mul_left_comm ..
      _ = r.rate * (seconds * permitUnit) + r.rate * excess := by rw [hexcess, Nat.mul_add]
      _ = r.rate * excess + permitUnit * (r.rate * seconds) := by
        rw [← Nat.mul_assoc, Nat.mul_comm permitUnit, Nat.add_comm]
  rw [hdue, Nat.add_mul_div_left _ _ (by decide), Nat.div_eq_of_lt hsmall, Nat.zero_add]

/-! ## Words -/

/-- What fits a word is kept. -/
theorem wide?_eq {n : Nat} (h : n < word128Bound) : wide? n = some n :=
  if_pos h

/-- Permits that fit a word are kept. -/
theorem narrow_eq {permits : Nat} (h : permits < word64Bound) : narrow permits = permits :=
  Nat.min_eq_left (Nat.le_sub_one_of_lt h)

/-- A schedule whose rate is a word and whose tick is a second at most. -/
structure Fits (r : Refill) : Prop where
  /-- The rate is not zero. -/
  rate_pos : 0 < r.rate
  /-- The rate is a word. -/
  rate_lt : r.rate < word64Bound
  /-- The tick is a second at most. -/
  tick_le : r.tick ≤ permitUnit
  /-- Less than a permit is carried. -/
  remainder_lt : r.remainder < permitUnit

/-- The schedule of a rate that is a word is one of words. -/
theorem fits_ofRate {rate : Nat} (h : rate < word64Bound) : (ofRate rate).Fits where
  rate_pos := rate_ofRate_pos rate
  rate_lt := Nat.max_lt.2 ⟨h, by decide⟩
  tick_le := (tick_ofRate rate).2.1
  remainder_lt := Nat.zero_lt_succ _

variable {r : Refill}

/-- A tick leaves it so. -/
theorem Fits.next (h : r.Fits) : r.next.Fits :=
  { h with remainder_lt := r.remainder_lt }

/-- The share of a tick is worth the rate at most. -/
theorem Fits.share_le (h : r.Fits) : r.rate * r.tick ≤ r.rate * permitUnit :=
  Nat.mul_le_mul_left r.rate h.tick_le

/-- The products are words of 128 bits. -/
theorem Fits.due_lt (h : r.Fits) : r.rate * r.tick < word128Bound ∧ r.due < word128Bound := by
  have hshare := h.share_le
  have hrate := h.rate_lt
  have hcarried := h.remainder_lt
  rw [due]
  generalize r.rate * r.tick = share at *
  simp only [permitUnit, word64Bound, word128Bound] at *
  omega

/-- No tick gives more permits than the rate has for a second. -/
theorem Fits.burst_le (h : r.Fits) : r.burst ≤ r.rate := by
  have hshare := h.share_le
  have hpositive := h.rate_pos
  have hburst := r.burst_bounds
  generalize r.rate * r.tick = share at *
  simp only [permitUnit] at *
  omega

/-- A tick is computed in words as it is in numbers. -/
theorem Fits.tickInWords?_eq (h : r.Fits) : r.tickInWords? = some (r.batch, r.next) := by
  obtain ⟨hshare, hdue⟩ := h.due_lt
  have hbatch : r.batch < word64Bound := by
    have hburst := h.burst_le
    have hrate := h.rate_lt
    obtain heq | heq := batch_eq_burst_or h.remainder_lt <;> omega
  rw [due] at hdue
  rw [tickInWords?, wide?_eq hshare, Option.bind_eq_bind, Option.bind_some, wide?_eq hdue]
  exact congrArg (fun permits => some (permits, r.next)) (narrow_eq hbatch)

/-- A run of ticks is computed in words as it is in numbers. -/
theorem Fits.batchesInWords?_eq (h : r.Fits) (n : Nat) :
    r.batchesInWords? n = some (r.batches n) := by
  induction n generalizing r with
  | zero => rfl
  | succ n ih =>
    have hlater : r.next.batchesInWords? n = some (r.next.batches n) := ih h.next
    rw [batchesInWords?, h.tickInWords?_eq, Option.bind_eq_bind, Option.bind_some]
    dsimp only
    rw [hlater]
    rfl

/-- The most that a tick can give is computed in words as it is in numbers. -/
theorem Fits.burstInWords?_eq (h : r.Fits) : r.burstInWords? = some r.burst := by
  have hrounded (share : Nat) :
      (if share % permitUnit = 0 then share / permitUnit else share / permitUnit + 1) =
        (share + (permitUnit - 1)) / permitUnit := by
    split <;> (simp only [permitUnit] at *; omega)
  have hburst : r.burst < word64Bound := Nat.lt_of_le_of_lt h.burst_le h.rate_lt
  rw [burst] at hburst ⊢
  rw [burstInWords?, wide?_eq h.due_lt.1, Option.bind_eq_bind, Option.bind_some]
  dsimp only
  rw [hrounded, narrow_eq hburst]
  rfl

/-! ## The schedule of a rate -/

/-- What the schedule of a rate promises. -/
structure Meets (r : Refill) (perSecond : Nat) : Prop where
  /-- It is a schedule for this rate. -/
  rate : r.rate = perSecond
  /-- The permits of a run of ticks are the whole ones of what is due in its time. The rest is
  carried, and nothing else has changed. -/
  ticks : ∀ n, total (r.batches n).1 = n * (perSecond * r.tick) / permitUnit ∧
    (r.batches n).2 = { r with remainder := n * (perSecond * r.tick) % permitUnit }
  /-- The ticks that cover a number of seconds give the permits of these seconds. -/
  seconds : ∀ seconds, total (r.batches (r.ticksOver seconds)).1 = perSecond * seconds
  /-- A tick gives as many permits as the pool holds, or one less. -/
  batch : ∀ n, ∀ batch ∈ (r.batches n).1, batch = r.burst ∨ batch + 1 = r.burst
  /-- In words every run of ticks is the same: no product is too large, and no permits are cut off.
  -/
  words : ∀ n, r.batchesInWords? n = some (r.batches n)
  /-- In words the pool holds the same. -/
  poolInWords : r.burstInWords? = some r.burst

/-- The schedule of every rate that is a word meets the rate, where a rate of zero counts as one. -/
theorem meets_ofRate {rate : Nat} (h : rate < word64Bound) : (ofRate rate).Meets (max rate 1) where
  rate := rfl
  ticks := batches_eq rfl
  seconds := total_batches_ticksOver rate
  batch := fun _ _ hbatch => eq_burst_or_of_mem_batches (Nat.zero_lt_succ _) hbatch
  words := (fits_ofRate h).batchesInWords?_eq
  poolInWords := (fits_ofRate h).burstInWords?_eq

/-- Seven permits for each second: the fifteenth tick ends after two seconds and gives no permit too
many. -/
theorem meets_ofRate_seven :
    7 < word64Bound ∧ (ofRate 7).ticksOver 2 = 15 ∧ total ((ofRate 7).batches 15).1 = 14 := by
  have hword : 7 < word64Bound := by decide
  have hticks : (ofRate 7).ticksOver 2 = 15 := by decide
  exact ⟨hword, hticks, hticks ▸ (meets_ofRate hword).seconds 2⟩

end Volley.Refill
