import Volley.Proofs.Bench.Law
import Volley.Proofs.Count

/-!
# A benchmark comes to its end

Nothing in a benchmark waits for ever, whatever the order in which things happen. Until the
collector has heard from all workers, a worker or the collector can do something, if need be after
two ticks that bring a permit (`Law.exists_steps`). And there is only so much that they can do: each
of their actions uses up some of the work that is left (`Law.work_step`), of which there is a fixed
amount at the beginning (`work_start`). Ticks and cancellations are no work; they may happen any
number of times.
-/

namespace Volley

namespace Bench

variable {σ : Type}

/-- Whether an action is one of a worker or of the collector. -/
def Action.isWork : Action → Bool
  | .tick => false
  | .cancel => false
  | _ => true

/-- The actions of an iteration besides the cases: to approach, to begin, to measure and to report
it, and to collect its outcome. -/
def overhead : Nat := 5

/-- The work for the iterations that are left to a worker that has run a number of them. -/
def workAfter (b : Bench σ) (count : Nat) : Nat :=
  (b.plan.iterations - count) * (b.file.cases.length + overhead)

/-- The work that is left because of a worker, which is to leave in the end. -/
def Worker.work (b : Bench σ) (w : Worker σ) : Nat :=
  w.outbox.length +
    match w.phase with
    | .idle => b.workAfter w.executed.length + 2
    | .waiting => b.workAfter w.executed.length + 1
    | .running _ _ place => b.workAfter w.executed.length - place
    | .measured _ => b.workAfter w.executed.length + 4
    | .gone => 0

/-- The work that is left. -/
def State.work (b : Bench σ) (s : State σ) : Nat :=
  total (s.workers.map (Worker.work b))

/-- After one more iteration, the work for it is done. -/
theorem workAfter_eq_add {b : Bench σ} {count : Nat} (h : count < b.plan.iterations) :
    b.workAfter count = b.workAfter (count + 1) + (b.file.cases.length + overhead) := by
  rw [workAfter, workAfter, ← Nat.succ_mul]
  congr 1
  omega

/-- A move uses up work. -/
theorem Worker.Law.work_lt {b : Bench σ} {isCancelled : Bool} {events : List (Event σ)}
    {taken : List Stat} {w w' : Worker σ} {event : Event σ}
    (law : w.Law b isCancelled events taken) (h : Moves b isCancelled w event w') :
    w'.work b < w.work b := by
  have hfits := law.phase
  -- Each phase of an iteration is worth less than the one before it, and the last one is worth less
  -- than the iteration; a message is worth less than what it took to send it.
  cases h with
  | approach hidle hshare =>
    simp only [work, hidle]
    omega
  | begin draw network hwaiting =>
    simp only [work, hwaiting]
    omega
  | advance network hrunning hplace =>
    rw [hrunning] at hfits
    obtain ⟨hshare, -, hreaches⟩ := hfits
    rw [hreaches.length_cases, length_cases_copyFor] at hplace
    have hleft := workAfter_eq_add hshare
    simp only [work, hrunning]
    omega
  | measure hrunning hplace =>
    rw [hrunning] at hfits
    obtain ⟨hshare, hend, -⟩ := hfits
    have hleft := workAfter_eq_add hshare
    simp only [work, hrunning, List.length_append, List.length_singleton, hleft, overhead]
    omega
  | report hmeasured =>
    simp only [work, hmeasured, List.length_append, List.length_singleton]
    omega
  | leave hquiet hquota =>
    rcases hquiet with hphase | hphase
    · simp only [work, hphase, List.length_append, List.length_singleton]
      omega
    · rw [hphase] at hfits
      have hleft := workAfter_eq_add hfits
      simp only [work, hphase, List.length_append, List.length_singleton, overhead] at hleft ⊢
      omega
  | give hhead =>
    simp only [work, hhead, List.length_cons]
    omega
  | part hhead =>
    simp only [work, hhead, List.length_cons]
    omega

variable {b : Bench σ} {s s' : State σ} {log : List (Nat × Event σ)}

/-- An action of a worker or of the collector uses up work, and no other action adds any. -/
theorem Law.work_step {a : Action} (law : Law b s log) (h : b.step s a = some s') : s'.work b +
    (if a.isWork then 1 else 0) ≤ s.work b := by
  cases effect_of_step h with
  | @work i w w' event hw hmove _ hworkers =>
    have htotal := total_map_set (Worker.work b) hw w'
    have hlt := (law.worker i w hw).work_lt hmove
    rw [State.work, State.work, hworkers]
    split <;> omega
  | tick ha _ hs =>
    subst ha hs
    exact Nat.le_refl _
  | cancel ha hs =>
    subst ha hs
    exact Nat.le_refl _

/-- The actions of the workers and of the collector use up work one by one. -/
theorem Law.work_steps {actions : List Action} (law : Law b s log) (h : b.steps s actions = some s')
    : s'.work b + actions.countP Action.isWork ≤ s.work b := by
  induction actions generalizing s log with
  | nil =>
    obtain rfl := Option.some.inj h
    exact Nat.le_refl _
  | cons a later ih =>
    rw [Bench.steps, List.foldlM_cons] at h
    obtain ⟨next, hnext, hlater⟩ := Option.bind_eq_some_iff.1 h
    have hfirst := law.work_step hnext
    have hrest := ih (law.step hnext) hlater
    rw [List.countP_cons]
    omega

/-- The work of a whole benchmark. -/
theorem work_start (b : Bench σ) (network : σ) :
    (b.start network).work b =
      b.plan.connections * (b.plan.iterations * (b.file.cases.length + overhead) + 2) := by
  have htotal : ∀ n, total ((List.replicate n ({} : Worker σ)).map (Worker.work b)) =
      n * (b.plan.iterations * (b.file.cases.length + overhead) + 2) := by
    intro n
    induction n with
    | zero => simp
    | succ n ih =>
      have hwork : ({} : Worker σ).work b =
          b.plan.iterations * (b.file.cases.length + overhead) + 2 := Nat.zero_add _
      rw [List.replicate_succ, List.map_cons, total_cons, ih, hwork, Nat.succ_mul, Nat.add_comm]
  exact htotal b.plan.connections

/-! ## Something can happen -/

/-- What actions lead to, by the first of them. -/
theorem steps_cons (b : Bench σ) (s : State σ) (a : Action) (later : List Action) :
    b.steps s (a :: later) = (b.step s a).bind fun s' => b.steps s' later :=
  List.foldlM_cons

/-- What a single action leads to. -/
theorem steps_singleton (b : Bench σ) (s : State σ) (a : Action) : b.steps s [a] = b.step s a := by
  rw [steps_cons]
  cases b.step s a <;> rfl

/-- The collector can take in a message of any worker until it has heard from all. -/
theorem exists_collect (hover : b.isOver s = false) {i : Nat} {w : Worker σ}
    (hw : s.workers[i]? = some w) (h : w.outbox ≠ []) : (b.step s (.collect i)).isSome := by
  have hstep : b.step s (.collect i) = b.collect? s i w := by rw [step, hw, Option.bind_some]
  rw [hstep, collect?, hover, if_neg Bool.false_ne_true]
  split
  · contradiction
  · rfl
  · rfl

/-- If there is no room for another message, a worker has one under way. -/
theorem exists_outbox_of_not_hasRoom (h : s.hasRoom = false) :
    ∃ (i : Nat) (w : Worker σ), s.workers[i]? = some w ∧ w.outbox ≠ [] := by
  have hpos : 0 < total (s.workers.map fun w => w.outbox.length) := by
    rw [State.hasRoom, decide_eq_false_iff_not, State.underWay, channelCapacity] at h
    omega
  obtain ⟨w, hmem, hlength⟩ := exists_of_total_map_pos hpos
  obtain ⟨i, hw⟩ := List.mem_iff_getElem?.1 hmem
  exact ⟨i, w, hw, List.ne_nil_of_length_pos hlength⟩

/-- Until the collector has heard from all workers, there is one that it has not heard from. -/
theorem Law.exists_unheard (law : Law b s log) (hover : b.isOver s = false) :
    ∃ (i : Nat) (w : Worker σ), s.workers[i]? = some w ∧ w.isHeard = false := by
  have hlt : s.finished < b.plan.connections := by simpa [isOver] using hover
  by_contra hnone
  have hall : ∀ w ∈ s.workers, w.isHeard = true := by
    intro w hmem
    obtain ⟨i, hw⟩ := List.mem_iff_getElem?.1 hmem
    by_contra hunheard
    exact hnone ⟨i, w, hw, by simpa using hunheard⟩
  have hcount := List.countP_eq_length.2 hall
  rw [← law.finished, law.connections] at hcount
  omega

/-- A worker with a permit at hand begins its iteration. -/
theorem exists_begin {i : Nat} {w : Worker σ} (hw : s.workers[i]? = some w)
    (hwaiting : w.phase = .waiting) (h : s.admit?.isSome) (draw : Draw) :
    (b.step s (.begin i draw)).isSome := by
  obtain ⟨gate, hgate⟩ := Option.isSome_iff_exists.1 h
  have hstep : b.step s (.begin i draw) = b.begin? s i w draw := by rw [step, hw, Option.bind_some]
  simp [hstep, begin?, hwaiting, hgate]

/-- There is a permit if the rate is not limited or the pool is not empty. -/
theorem State.isSome_admit? (h : ∀ gate ∈ s.gate, 0 < gate.permits) : s.admit?.isSome := by
  unfold admit?
  split
  · rfl
  · rename_i gate hgate
    have hpos := h gate hgate
    rw [Gate.take?, if_neg (by omega)]
    rfl

/-- A worker that waits begins its iteration after two ticks at the latest. -/
theorem Law.exists_begin_after (law : Law b s log) {i : Nat} {w : Worker σ}
    (hw : s.workers[i]? = some w) (hwaiting : w.phase = .waiting) (draw : Draw) :
    ∃ ticks ≤ 2, (b.steps s (List.replicate ticks .tick ++ [.begin i draw])).isSome := by
  cases hgate : s.gate with
  | none =>
    refine ⟨0, by omega, ?_⟩
    rw [List.replicate_zero, List.nil_append, steps_singleton]
    exact exists_begin hw hwaiting (State.isSome_admit? (by simp [hgate])) draw
  | some gate =>
    refine ⟨2, Nat.le_refl 2, ?_⟩
    have hfirst : b.step s .tick = some { s with gate := some gate.tick } := by
      rw [Bench.step, hgate, Option.map_some]
    let filled : State σ := { s with gate := some gate.tick.tick }
    have hticks : b.steps s (List.replicate 2 .tick ++ [.begin i draw]) =
        b.step filled (.begin i draw) := by
      change b.steps s [.tick, .tick, .begin i draw] = _
      rw [steps_cons, hfirst, Option.bind_some, steps_cons]
      exact steps_singleton b filled _
    have hadmit : filled.admit?.isSome := by
      refine State.isSome_admit? fun later hlater => ?_
      obtain rfl : gate.tick.tick = later := by simpa [filled] using hlater
      exact Gate.permits_pos_of_pays (law.gate gate hgate)
    rw [hticks]
    exact exists_begin (s := filled) hw hwaiting hadmit draw

/-- The draw of a world that stands still and has nothing in it. -/
instance : Inhabited Draw :=
  ⟨{ worldOf := fun _ => ⟨default, 0, fun _ => 0, fun _ => none⟩, builtins := fun _ _ _ => none }⟩

/-- Until the collector has heard from all workers, a worker or the collector can do something, if
need be after two ticks. -/
theorem Law.exists_steps (law : Law b s log) (hover : b.isOver s = false) :
    ∃ ticks ≤ 2, ∃ a, a.isWork = true ∧
      (b.steps s (List.replicate ticks .tick ++ [a])).isSome := by
  have hnow : ∀ a : Action, a.isWork = true → (b.step s a).isSome → ∃ ticks ≤ 2, ∃ a,
      a.isWork = true ∧ (b.steps s (List.replicate ticks .tick ++ [a])).isSome :=
    fun a hwork hstep => ⟨0, by omega, a, hwork, by simpa [steps_singleton] using hstep⟩
  -- Where a worker cannot send for want of room, the collector can take something in.
  cases hroom : s.hasRoom with
  | false =>
    obtain ⟨i, w, hw, houtbox⟩ := exists_outbox_of_not_hasRoom hroom
    exact hnow (.collect i) rfl (exists_collect hover hw houtbox)
  | true =>
    obtain ⟨i, w, hw, hunheard⟩ := law.exists_unheard hover
    cases hphase : w.phase with
    | idle =>
      by_cases hleaves : s.isLeaving b.plan.iterations w = true
      · have hstep : b.step s (.leave i) = b.leave? s i w := by
          rw [Bench.step, hw, Option.bind_some]
        exact hnow (.leave i) rfl (by rw [hstep, leave?, if_pos ⟨hleaves, hroom⟩]; rfl)
      · have hstep : b.step s (.approach i) = b.approach? s i w := by
          rw [Bench.step, hw, Option.bind_some]
        have hgoes : w.executed.length < b.plan.iterations ∧ s.isCancelled = false := by
          simpa [State.isLeaving, hphase] using hleaves
        exact hnow (.approach i) rfl (by simp [hstep, approach?, hphase, hgoes])
    | waiting =>
      obtain ⟨ticks, hticks, hsteps⟩ := law.exists_begin_after hw hphase default
      exact ⟨ticks, hticks, .begin i default, rfl, hsteps⟩
    | running draw run place =>
      by_cases hplace : place < run.file.cases.length
      · have hstep : b.step s (.advance i) = b.advance? s i w := by
          rw [Bench.step, hw, Option.bind_some]
        exact hnow (.advance i) rfl (by simp [hstep, advance?, hphase, hplace])
      · have hstep : b.step s (.measure i) = measure? s i w := by
          rw [Bench.step, hw, Option.bind_some]
        exact hnow (.measure i) rfl (by simp [hstep, measure?, hphase, hplace])
    | measured stat =>
      have hstep : b.step s (.report i) = report? s i w := by rw [Bench.step, hw, Option.bind_some]
      exact hnow (.report i) rfl (by simp [hstep, report?, hphase, hroom])
    | gone =>
      refine hnow (.collect i) rfl (exists_collect hover hw ?_)
      simpa [Worker.isHeard, hphase] using hunheard

/-- What actions lead to that follow others. -/
theorem steps_append (b : Bench σ) (s : State σ) (earlier later : List Action) :
    b.steps s (earlier ++ later) = (b.steps s earlier).bind fun s' => b.steps s' later :=
  List.foldlM_append

/-- From every state the benchmark can come to its end, without a cancellation. -/
theorem Law.exists_over (law : Law b s log) :
    ∃ later s', Action.cancel ∉ later ∧ b.steps s later = some s' ∧ b.isOver s' = true := by
  -- The induction is on the work that is left.
  induction hleft : s.work b using Nat.strongRecOn generalizing s log with
  | ind left ih =>
    cases hover : b.isOver s with
    | true => exact ⟨[], s, by simp, rfl, hover⟩
    | false =>
      obtain ⟨ticks, -, a, hwork, hsome⟩ := law.exists_steps hover
      obtain ⟨next, hnext⟩ := Option.isSome_iff_exists.1 hsome
      have hused := law.work_steps hnext
      have hone : (List.replicate ticks Action.tick ++ [a]).countP Action.isWork ≠ 0 := by
        rw [List.countP_append, List.countP_singleton, if_pos hwork]
        omega
      obtain ⟨later, s', hlater, hsteps, hend⟩ :=
        ih (next.work b) (by omega) (law.steps hnext) rfl
      refine ⟨List.replicate ticks .tick ++ [a] ++ later, s', ?_, ?_, hend⟩
      · have ha : Action.cancel ≠ a := by
          rintro rfl
          exact absurd hwork (by decide)
        simp [hlater, ha]
      · rw [steps_append, hnext, Option.bind_some, hsteps]

end Bench

end Volley
