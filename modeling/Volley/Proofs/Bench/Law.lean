import Volley.Proofs.Bench.Moves
import Volley.Proofs.Bench.Permits

/-!
# The law of a benchmark

`Worker.Law` says what a worker owes: the outcomes of the iterations that it has run are those that
the collector has taken in from it, then those that are under way, then the one that it is about to
send, all in their order; and after the last of them, and only then, it says that it is through.
Every move of a worker keeps this (`Worker.Law.move`). `Law` is the law of a whole benchmark; every
possible action keeps it (`Law.step`), so it holds in every state that a benchmark comes to
(`law_of_steps`).
-/

namespace Volley.Bench

variable {σ : Type}

/-- How many iterations begin in the course of events. -/
def starts (events : List (Event σ)) : Nat :=
  total (events.map Event.begins)

/-- The iterations that end in the course of events. -/
def ends (events : List (Event σ)) : List (Run σ) :=
  events.filterMap Event.ended?

theorem starts_append_singleton (events : List (Event σ)) (event : Event σ) :
    starts (events ++ [event]) = starts events + event.begins := by
  simp [starts]

theorem ends_append_singleton (events : List (Event σ)) (event : Event σ) :
    ends (events ++ [event]) = ends events ++ event.ended?.toList := by
  cases event <;> simp [ends, Event.ended?]

/-- A run of a copy of the file that has come to its end, while others may have used the network.
-/
def IsIteration (b : Bench σ) (run : Run σ) : Prop :=
  ∃ draw, Run.Reaches (b.conditions draw) (b.copyFor draw) run (b.copyFor draw).cases.length

/-- A copy has as many cases as the file. -/
theorem length_cases_copyFor (b : Bench σ) (draw : Draw) :
    (b.copyFor draw).cases.length = b.file.cases.length := by
  simp [copyFor, RequestFile.copy]

namespace Phase

/-- How many iterations a worker is within. -/
def inside : Phase σ → Nat
  | .running _ _ _ => 1
  | _ => 0

/-- The outcome of an iteration that has not been sent. -/
def pending : Phase σ → List Stat
  | .measured stat => [stat]
  | _ => []

/-- What a phase means to a worker that has run a number of iterations. -/
def Fits (b : Bench σ) (isCancelled : Bool) (count : Nat) : Phase σ → Prop
  | .idle => count ≤ b.plan.iterations
  | .waiting => count < b.plan.iterations
  | .running draw run place => count < b.plan.iterations ∧ place ≤ b.file.cases.length ∧
      Run.Reaches (b.conditions draw) (b.copyFor draw) run place
  | .measured _ => count ≤ b.plan.iterations
  | .gone => count ≤ b.plan.iterations ∧ (isCancelled = false → count = b.plan.iterations)

/-- No worker has run more than its share. -/
theorem Fits.le {b : Bench σ} {isCancelled : Bool} {count : Nat} {phase : Phase σ}
    (h : phase.Fits b isCancelled count) : count ≤ b.plan.iterations := by
  cases phase with
  | idle => exact h
  | waiting => exact Nat.le_of_lt h
  | running draw run place => exact Nat.le_of_lt h.1
  | measured stat => exact h
  | gone => exact h.1

/-- A cancellation takes no meaning away. -/
theorem Fits.cancel {b : Bench σ} {isCancelled : Bool} {count : Nat} {phase : Phase σ}
    (h : phase.Fits b isCancelled count) : phase.Fits b true count := by
  cases phase with
  | gone => exact ⟨h.1, fun hfalse => absurd hfalse (by decide)⟩
  | _ => exact h

end Phase

namespace Worker

/-- Whether the collector has heard that the worker is through. -/
def isHeard (w : Worker σ) : Bool :=
  match w.phase with
  | .gone => w.outbox.isEmpty
  | _ => false

/-- What follows the outcomes that a worker has sent. -/
def farewell (w : Worker σ) : List Message :=
  match w.phase with
  | .gone => if w.outbox.isEmpty then [] else [.done]
  | _ => []

/-- The law of a worker, by what was seen of it and what the collector has taken in from it. -/
structure Law (b : Bench σ) (isCancelled : Bool) (events : List (Event σ)) (taken : List Stat)
    (w : Worker σ) : Prop where
  /-- Iterations that have begun have ended, but for the one that the worker is within. -/
  begun : starts events = (ends events).length + w.phase.inside
  /-- The worker keeps the outcomes of the iterations that have ended. -/
  executed : w.executed = (ends events).map outcome
  /-- Outcomes are taken in, under way or yet to be sent, and nothing else is. -/
  accounted : ∃ stats, w.outbox = stats.map Message.outcome ++ w.farewell ∧
    w.executed = taken ++ stats ++ w.phase.pending
  /-- The phase is one that the worker can be in. -/
  phase : w.phase.Fits b isCancelled w.executed.length
  /-- What has ended is an iteration. -/
  iteration : ∀ run ∈ ends events, b.IsIteration run

variable {b : Bench σ} {isCancelled : Bool} {events : List (Event σ)} {taken : List Stat}
  {w w' : Worker σ} {event : Event σ}

/-- A worker that does nothing but wait to begin. -/
theorem law_default (b : Bench σ) (isCancelled : Bool) :
    Law b isCancelled [] [] ({} : Worker σ) where
  begun := rfl
  executed := rfl
  accounted := ⟨[], rfl, rfl⟩
  phase := Nat.zero_le _
  iteration := by simp [ends]

/-- An event that neither begins nor ends an iteration does not change what the worker owes. -/
theorem Law.see (law : w.Law b isCancelled events taken) (hbegins : event.begins = 0)
    (hended : event.ended? = none) : w.Law b isCancelled (events ++ [event]) taken := by
  have hstarts : starts (events ++ [event]) = starts events := by
    rw [starts_append_singleton, hbegins, Nat.add_zero]
  have hends : ends (events ++ [event]) = ends events := by
    rw [ends_append_singleton, hended, Option.toList_none, List.append_nil]
  obtain ⟨hbegun, hexecuted, haccounted, hphase, hiteration⟩ := law
  rw [← hstarts, ← hends] at hbegun
  rw [← hends] at hexecuted hiteration
  exact ⟨hbegun, hexecuted, haccounted, hphase, hiteration⟩

/-- A move of which nothing is seen does not change it either. -/
theorem Law.quiet (law : w.Law b isCancelled events taken) :
    w.Law b isCancelled (events ++ [.quiet]) (taken ++ []) := by
  rw [List.append_nil]
  exact law.see rfl rfl

/-- Outcomes are not farewells, so a message that is taken in first is one of them if it is no
farewell. -/
theorem eq_of_outbox_eq {stats : List Stat} {stat : Stat} {rest farewell : List Message}
    (hfarewell : farewell = [] ∨ farewell = [.done])
    (h : Message.outcome stat :: rest = stats.map Message.outcome ++ farewell) :
    ∃ later, stats = stat :: later ∧ rest = later.map Message.outcome ++ farewell := by
  cases stats with
  | nil => rcases hfarewell with rfl | rfl <;> simp at h
  | cons first later =>
    simp only [List.map_cons, List.cons_append, List.cons.injEq, Message.outcome.injEq] at h
    exact ⟨later, by rw [h.1], h.2⟩

/-- A farewell is the last message. -/
theorem eq_nil_of_outbox_eq {stats : List Stat} {rest farewell : List Message}
    (hfarewell : farewell = [] ∨ farewell = [.done])
    (h : Message.done :: rest = stats.map Message.outcome ++ farewell) :
    stats = [] ∧ farewell = [.done] ∧ rest = [] := by
  cases stats with
  | nil =>
    rcases hfarewell with rfl | rfl
    · simp at h
    · exact ⟨rfl, rfl, by simpa using h⟩
  | cons first later => simp at h

theorem farewell_eq (w : Worker σ) : w.farewell = [] ∨ w.farewell = [.done] := by
  unfold farewell
  split
  · split <;> simp
  · exact .inl rfl

/-- A worker that is gone and has an outcome under way has more under way. -/
theorem rest_ne_nil {stat : Stat} {later : List Stat} {rest : List Message}
    (hgone : w.phase = .gone) (hhead : w.outbox = .outcome stat :: rest)
    (hrest : rest = later.map Message.outcome ++ w.farewell) : rest ≠ [] := by
  have hdone : w.farewell = [.done] := by simp [farewell, hgone, hhead]
  simp [hrest, hdone]

/-- Every move of a worker keeps its law. -/
theorem Law.move (law : w.Law b isCancelled events taken) (h : Moves b isCancelled w event w') :
    w'.Law b isCancelled (events ++ [event]) (taken ++ event.taken?.toList) := by
  obtain ⟨hbegun, hexecuted, ⟨stats, houtbox, haccounted⟩, hphase, hiteration⟩ := law
  -- An outcome passes from pending to under way to taken in; `stats` are those under way.
  cases h with
  | approach hidle hshare =>
    rw [hidle] at hbegun haccounted
    simp only [farewell, hidle] at houtbox
    exact .quiet ⟨hbegun, hexecuted, ⟨stats, houtbox, haccounted⟩, hshare, hiteration⟩
  | begin draw network hwaiting =>
    rw [hwaiting] at hbegun haccounted hphase
    simp only [farewell, hwaiting] at houtbox
    -- One more iteration has begun, and the worker is within it.
    have hends : ends (events ++ [.begun]) = ends events := by
      rw [ends_append_singleton]
      exact List.append_nil _
    rw [← hends] at hbegun hexecuted hiteration
    refine ⟨?_, hexecuted, ⟨stats, houtbox, ?_⟩, ⟨hphase, Nat.zero_le _, .start network⟩,
      hiteration⟩
    · rw [starts_append_singleton, hbegun]
      rfl
    · rw [haccounted]
      simp [Event.taken?, Phase.pending]
  | advance network hrunning hplace =>
    rw [hrunning] at hbegun haccounted hphase
    simp only [farewell, hrunning] at houtbox
    obtain ⟨hshare, -, hreaches⟩ := hphase
    rw [hreaches.length_cases, length_cases_copyFor] at hplace
    exact .quiet ⟨hbegun, hexecuted, ⟨stats, houtbox, haccounted⟩,
      ⟨hshare, hplace, hreaches.next network⟩, hiteration⟩
  | @measure draw run place hrunning hplace =>
    rw [hrunning] at hbegun haccounted hphase
    simp only [farewell, hrunning] at houtbox
    obtain ⟨hshare, hle, hreaches⟩ := hphase
    rw [hreaches.length_cases] at hplace
    -- The run has come to the end of the copy, so its outcome is that of an iteration.
    have hplace : place = (b.copyFor draw).cases.length := by
      rw [length_cases_copyFor] at hplace ⊢
      exact Nat.le_antisymm hle hplace
    have hends : ends (events ++ [.ended run]) = ends events ++ [run] := ends_append_singleton ..
    refine ⟨?_, ?_, ⟨stats, houtbox, ?_⟩, ?_, ?_⟩
    · rw [starts_append_singleton, hends, hbegun, List.length_append]
      rfl
    · rw [hends, List.map_append, hexecuted]
      rfl
    · rw [haccounted]
      simp [Event.taken?, Phase.pending]
    · rw [List.length_append]
      exact hshare
    · rw [hends, List.forall_mem_append, List.forall_mem_singleton]
      exact ⟨hiteration, draw, hplace ▸ hreaches⟩
  | @report stat hmeasured =>
    rw [hmeasured] at hbegun haccounted hphase
    simp only [farewell, hmeasured] at houtbox
    -- The pending outcome is the last one under way now.
    refine .quiet ⟨hbegun, hexecuted, ⟨stats ++ [stat], ?_, ?_⟩, hphase, hiteration⟩
    · simp [farewell, houtbox]
    · simpa [Phase.pending] using haccounted
  | leave hquiet hquota =>
    -- Whichever way it leaves, it is within no iteration and has no outcome left to send.
    have hinside : w.phase.inside = 0 := by rcases hquiet with h | h <;> rw [h] <;> rfl
    have hpending : w.phase.pending = [] := by rcases hquiet with h | h <;> rw [h] <;> rfl
    have hsilent : w.farewell = [] := by rcases hquiet with h | h <;> rw [farewell, h]
    rw [hinside] at hbegun
    rw [hpending] at haccounted
    rw [hsilent, List.append_nil] at houtbox
    refine .quiet ⟨hbegun, hexecuted, ⟨stats, ?_, haccounted⟩, ⟨hphase.le, fun hcancelled => ?_⟩,
      hiteration⟩
    · simp [farewell, houtbox]
    · exact Nat.le_antisymm hphase.le (hquota hcancelled)
  | @give stat rest hhead =>
    rw [hhead] at houtbox
    obtain ⟨later, rfl, hrest⟩ := eq_of_outbox_eq w.farewell_eq houtbox
    -- A farewell that was to come is still to come.
    have hfarewell : farewell { w with outbox := rest } = w.farewell := by
      cases hgone : w.phase with
      | gone => simp [farewell, hgone, hhead, rest_ne_nil hgone hhead hrest]
      | _ => simp [farewell, hgone]
    refine Law.see ⟨hbegun, hexecuted, ⟨later, ?_, ?_⟩, hphase, hiteration⟩ rfl rfl
    · rw [hfarewell, hrest]
    · rw [haccounted]
      simp [Event.taken?]
  | @part rest hhead =>
    rw [hhead] at houtbox
    -- No outcome is under way any more when the farewell is taken in.
    obtain ⟨rfl, hfarewell, rfl⟩ := eq_nil_of_outbox_eq w.farewell_eq houtbox
    have hsilent : farewell { w with outbox := [] } = [] := by
      unfold farewell
      split <;> rfl
    refine Law.see ⟨hbegun, hexecuted, ⟨[], ?_, ?_⟩, hphase, hiteration⟩ rfl rfl
    · rw [hsilent]
      rfl
    · rw [haccounted]
      simp [Event.taken?]

/-- A worker that has messages under way was not heard to be through. -/
theorem isHeard_eq_false (h : w.outbox ≠ []) : w.isHeard = false := by
  unfold isHeard
  split
  · simpa using h
  · rfl

/-- Only a worker that is gone bids farewell. -/
theorem phase_eq_gone (h : w.farewell = [.done]) : w.phase = .gone := by
  unfold farewell at h
  split at h
  · assumption
  · simp at h

/-- A worker that moves was not heard to be through before, and it is after its farewell was taken
in. -/
theorem Law.isHeard_of_move (law : w.Law b isCancelled events taken)
    (h : Moves b isCancelled w event w') :
    w.isHeard = false ∧ (if w'.isHeard then 1 else 0) = event.hears := by
  obtain ⟨stats, houtbox, -⟩ := law.accounted
  cases h with
  | approach hidle hshare => simp [isHeard, hidle, Event.hears]
  | begin draw network hwaiting => simp [isHeard, hwaiting, Event.hears]
  | advance network hrunning hplace => simp [isHeard, hrunning, Event.hears]
  | measure hrunning hplace => simp [isHeard, hrunning, Event.hears]
  | report hmeasured => simp [isHeard, hmeasured, Event.hears]
  | leave hquiet hquota =>
    refine ⟨?_, by simp [isHeard, Event.hears]⟩
    rcases hquiet with hphase | hphase <;> rw [isHeard, hphase]
  | @give stat rest hhead =>
    refine ⟨isHeard_eq_false (by simp [hhead]), ?_⟩
    rw [hhead] at houtbox
    obtain ⟨later, -, hrest⟩ := eq_of_outbox_eq w.farewell_eq houtbox
    have hunheard : isHeard { w with outbox := rest } = false := by
      cases hgone : w.phase with
      | gone => exact isHeard_eq_false (rest_ne_nil hgone hhead hrest)
      | _ => simp [isHeard]
    simp [hunheard, Event.hears]
  | @part rest hhead =>
    refine ⟨isHeard_eq_false (by simp [hhead]), ?_⟩
    rw [hhead] at houtbox
    obtain ⟨-, hfarewell, rfl⟩ := eq_nil_of_outbox_eq w.farewell_eq houtbox
    simp [isHeard, phase_eq_gone hfarewell, Event.hears]

/-- A worker that was heard to be through has no outcome left that was not taken in. -/
theorem Law.settled (law : w.Law b isCancelled events taken) (h : w.isHeard = true) :
    taken = (ends events).map outcome ∧ starts events = (ends events).length ∧
      (isCancelled = false → (ends events).length = b.plan.iterations) := by
  obtain ⟨hbegun, hexecuted, ⟨stats, houtbox, haccounted⟩, hphase, -⟩ := law
  unfold isHeard at h
  split at h
  · rename_i hgone
    rw [hgone] at hbegun haccounted hphase
    rw [List.isEmpty_iff.1 h, eq_comm, List.append_eq_nil_iff, List.map_eq_nil_iff] at houtbox
    rw [houtbox.1, hexecuted] at haccounted
    rw [hexecuted, List.length_map] at hphase
    exact ⟨by simpa [Phase.pending] using haccounted.symm, hbegun, hphase.2⟩
  · exact absurd h Bool.false_ne_true

end Worker

/-! ## The law of the benchmark -/

/-- The law of a benchmark, by what was seen of it. -/
structure Law (b : Bench σ) (s : State σ) (log : List (Nat × Event σ)) : Prop where
  /-- There are as many workers as the plan says. -/
  connections : s.workers.length = b.plan.connections
  /-- Every worker has its law. -/
  worker : ∀ (i : Nat) (w : Worker σ), s.workers[i]? = some w →
    w.Law b s.isCancelled (eventsOf log i) (s.collectedFrom i)
  /-- The collector counts the workers that it has heard to be through. -/
  finished : s.finished = s.workers.countP Worker.isHeard
  /-- What was taken in comes from the workers. -/
  collected : ∀ entry ∈ s.collected, entry.1 < b.plan.connections
  /-- What was seen is seen of the workers. -/
  logged : ∀ entry ∈ log, entry.1 < b.plan.connections
  /-- The pool of permits is filled up. -/
  gate : ∀ gate ∈ s.gate, gate.refill.Pays

variable {b : Bench σ} {s s' : State σ} {log : List (Nat × Event σ)}

/-- A benchmark begins with its law. -/
theorem law_start (b : Bench σ) (network : σ) : Law b (b.start network) [] where
  connections := List.length_replicate
  worker := by
    intro i w hw
    rw [start, List.getElem?_replicate] at hw
    split at hw
    · obtain rfl := Option.some.inj hw
      exact Worker.law_default b false
    · cases hw
  finished := by
    rw [start, List.countP_replicate]
    rfl
  collected := by simp [start]
  logged := by simp
  gate := by
    intro gate hgate
    obtain ⟨rate, -, rfl⟩ := Option.map_eq_some_iff.1 hgate
    exact Refill.pays_ofRate rate

/-- What was taken in from a worker goes on with what is taken in from it next. -/
theorem State.collectedFrom_self {i : Nat} {stat? : Option Stat}
    (h : s'.collected = s.collected ++ stat?.toList.map fun stat => (i, stat)) :
    s'.collectedFrom i = s.collectedFrom i ++ stat?.toList := by
  cases stat? <;> simp [collectedFrom, h]

/-- What is taken in from another worker does not count. -/
theorem State.collectedFrom_ne {i j : Nat} {stat? : Option Stat}
    (h : s'.collected = s.collected ++ stat?.toList.map fun stat => (i, stat)) (hne : i ≠ j) :
    s'.collectedFrom j = s.collectedFrom j := by
  cases stat? <;> simp [collectedFrom, h, hne]

/-- A permit that is taken leaves the schedule as it is. -/
theorem State.refill_of_admit? {gate? : Option Gate} (h : s.admit? = some gate?) :
    ∀ gate ∈ gate?, ∃ before ∈ s.gate, before.refill = gate.refill := by
  unfold admit? at h
  split at h
  · obtain rfl := Option.some.inj h
    simp
  · rename_i before hbefore
    obtain ⟨gate, htake, rfl⟩ := Option.map_eq_some_iff.1 h
    intro gate' hgate'
    obtain rfl : gate = gate' := by simpa using hgate'
    unfold Gate.take? at htake
    split at htake
    · cases htake
    · obtain rfl := Option.some.inj htake
      exact ⟨before, hbefore, rfl⟩

/-- Every possible action keeps the law. -/
theorem Law.step {a : Action} (law : Law b s log) (h : b.step s a = some s') :
    Law b s' (log ++ (seen? s a).toList) := by
  cases effect_of_step h with
  | @work i w w' event hw hmove hseen hworkers hcollected hfinished hcancelled hgate =>
    obtain ⟨hlt, hget⟩ := List.getElem?_eq_some_iff.1 hw
    have hi : i < b.plan.connections := law.connections ▸ hlt
    have hworker := law.worker i w hw
    rw [hseen, Option.toList_some]
    refine ⟨?connections, ?worker, ?finished, ?collected, ?logged, ?gate⟩
    case connections => rw [hworkers, List.length_set, law.connections]
    case worker =>
      intro j v hv
      rw [hworkers, List.getElem?_set] at hv
      rw [hcancelled]
      by_cases hij : i = j
      · subst hij
        rw [if_pos rfl, if_pos hlt] at hv
        obtain rfl := Option.some.inj hv
        rw [eventsOf_append_self, State.collectedFrom_self hcollected]
        exact hworker.move hmove
      · rw [if_neg hij] at hv
        rw [eventsOf_append_ne log hij, State.collectedFrom_ne hcollected hij]
        exact law.worker j v hv
    case finished =>
      obtain ⟨hbefore, hafter⟩ := hworker.isHeard_of_move hmove
      rw [hfinished, hworkers, List.countP_set hlt, hget, hbefore, hafter, law.finished]
      rfl
    case collected =>
      rw [hcollected, List.forall_mem_append, List.forall_mem_map]
      exact ⟨law.collected, fun stat _ => hi⟩
    case logged =>
      rw [List.forall_mem_append, List.forall_mem_singleton]
      exact ⟨law.logged, hi⟩
    case gate =>
      intro gate hmem
      rcases hgate with hsame | hadmit
      · exact law.gate gate (hsame ▸ hmem)
      · obtain ⟨before, hbefore, hrefill⟩ := State.refill_of_admit? hadmit gate hmem
        exact hrefill ▸ law.gate before hbefore
  | @tick gate ha hgate hs =>
    subst ha hs
    rw [seen?, Option.toList_none, List.append_nil]
    refine { law with gate := fun later hmem => ?_ }
    obtain rfl : gate.tick = later := by simpa using hmem
    exact (law.gate gate hgate).next
  | cancel ha hs =>
    subst ha hs
    rw [seen?, Option.toList_none, List.append_nil]
    refine { law with worker := fun i w hw => ?_ }
    have hworker := law.worker i w hw
    exact { hworker with phase := hworker.phase.cancel }

/-- Possible actions keep the law. -/
theorem Law.steps {actions : List Action} (law : Law b s log) (h : b.steps s actions = some s') :
    Law b s' (log ++ b.log s actions) := by
  induction actions generalizing s log with
  | nil =>
    obtain rfl := Option.some.inj h
    rwa [Bench.log, List.append_nil]
  | cons a later ih =>
    rw [Bench.steps, List.foldlM_cons] at h
    obtain ⟨next, hnext, hlater⟩ := Option.bind_eq_some_iff.1 h
    have hlaw := ih (law.step hnext) hlater
    rwa [Bench.log, hnext, Option.elim_some, ← List.append_assoc]

/-- Every state that a benchmark comes to has the law. -/
theorem law_of_steps {network : σ} {actions : List Action}
    (h : b.steps (b.start network) actions = some s) :
    Law b s (b.log (b.start network) actions) :=
  (law_start b network).steps h

end Volley.Bench
