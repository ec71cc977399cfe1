import Mathlib.Tactic.SplitIfs
import Volley.Proofs.Bench.Progress
import Volley.Proofs.Report.Arrival

/-!
# The accounts of a benchmark

What a benchmark amounts to, whatever the order in which things happen, whatever the network answers
and whenever it is cancelled: `Accounts`, which `accounts_of_steps` derives from the law of
benchmarks. At every moment the outcomes that the collector has are those of iterations, each worker
has run no more than its share, and there is something to do unless the benchmark is over. When it
is over, all workers have been heard to be through, and the outcomes are those of the iterations
that were begun, each once. Without a cancellation these are all that the plan asks for.

The collector stops on a count of workers and not of outcomes. That no outcome is lost by this is
due to the order of messages: a worker's farewell comes after all of its outcomes
(`Worker.Law.settled`).
-/

namespace Volley

/-- The plan of settings without a problem has workers and a rate. -/
theorem Plan.accepts_ofSettings {settings : Settings} (h : settings.problem? = none) :
    1 ≤ (Plan.ofSettings settings).connections ∧ (Plan.ofSettings settings).rateLimit ≠ some 0 := by
  unfold Settings.problem? at h
  split_ifs at h with hconnections hstatus hrate
  constructor
  · exact Nat.pos_of_ne_zero fun hzero => hconnections (UInt64.toNat_inj.1 hzero)
  · intro hzero
    obtain ⟨rate, hsome, hrate0⟩ := Option.map_eq_some_iff.1 hzero
    obtain rfl : rate = 0 := UInt64.toNat_inj.1 hrate0
    exact hrate hsome

namespace Bench

variable {σ : Type}

/-! ## The log -/

/-- The iterations that have ended, each with its worker. -/
def iterations (log : List (Nat × Event σ)) : List (Nat × Run σ) :=
  log.filterMap fun entry => entry.2.ended?.map fun run => (entry.1, run)

/-- The iterations of a worker are those that are seen of it. -/
theorem filter_iterations (log : List (Nat × Event σ)) (i : Nat) :
    (iterations log).filter (fun entry => entry.1 == i) =
      (ends (eventsOf log i)).map fun run => (i, run) := by
  induction log with
  | nil => rfl
  | cons entry rest ih =>
    obtain ⟨j, event⟩ := entry
    by_cases hji : j = i <;> cases hended : event.ended? <;>
      simp_all [iterations, ends, eventsOf]

/-- An iteration is one of those that are seen of its worker. -/
theorem mem_iterations {log : List (Nat × Event σ)} {i : Nat} {run : Run σ} :
    (i, run) ∈ iterations log ↔ run ∈ ends (eventsOf log i) := by
  have hmem : (i, run) ∈ (iterations log).filter (fun entry => entry.1 == i) ↔
      (i, run) ∈ iterations log := by simp
  rw [← hmem, filter_iterations]
  simp

/-- What was taken in, by worker. -/
theorem State.filter_collected (s : State σ) (i : Nat) :
    s.collected.filter (fun entry => entry.1 == i) =
      (s.collectedFrom i).map fun stat => (i, stat) := by
  rw [collectedFrom, List.map_map]
  refine (List.map_id _).symm.trans (List.map_congr_left fun entry hmem => ?_)
  obtain ⟨-, hkey⟩ := List.mem_filter.1 hmem
  obtain rfl : entry.1 = i := by simpa using hkey
  rfl

/-- Without a cancellation among the actions, the benchmark is not cancelled. -/
theorem isCancelled_eq_of_steps {b : Bench σ} {s s' : State σ} {actions : List Action}
    (h : b.steps s actions = some s') (hcancel : .cancel ∉ actions) :
    s'.isCancelled = s.isCancelled := by
  induction actions generalizing s with
  | nil =>
    obtain rfl := Option.some.inj h
    rfl
  | cons a later ih =>
    rw [List.mem_cons, not_or] at hcancel
    rw [steps_cons] at h
    obtain ⟨next, hnext, hlater⟩ := Option.bind_eq_some_iff.1 h
    rw [ih hlater hcancel.2]
    cases effect_of_step hnext with
    | work _ _ _ _ _ _ hcancelled => exact hcancelled
    | tick _ _ hs => rw [hs]
    | cancel ha => exact absurd ha.symm hcancel.1

/-! ## Outcomes of iterations -/

/-- What the outcome of an iteration says of it. The iteration is an execution of a copy of the
file, over a network that gives the answers which the iteration received. -/
structure Reports (b : Bench σ) (draw : Draw) (answers : List (Except Fault Response))
    (run : Run σ) (stat : Stat) : Prop where
  /-- The answers are ones of the network that the workers share. -/
  answered : Run.Answers b.send run.sent answers
  /-- With them, the iteration is what executing the copy gives. -/
  execution : (b.copyFor draw).execute (b.conditions draw).scripted answers =
    { file := run.file, network := [], sent := run.sent, failure := run.failure }
  /-- The outcome stands for one iteration. -/
  requests : stat.requests = 1
  /-- It either succeeded or failed. -/
  either : stat.succeeded + stat.failed = 1
  /-- It succeeded if nothing ended it early. -/
  succeeded : stat.succeeded = 1 ↔ run.failure = none
  /-- The file holds the exchanges of this iteration and no others. -/
  held : run.file.cases.filterMap Case.exchange =
    ((b.copyFor draw).attempts (b.conditions draw).scripted answers).filterMap Attempt.exchange?
  /-- The bytes sent are those of these exchanges. -/
  sent : stat.sent =
    total ((run.file.cases.filterMap Case.exchange).map fun e => e.request.size)
  /-- The bytes received are those of these exchanges. -/
  received : stat.received =
    total ((run.file.cases.filterMap Case.exchange).map fun e => e.response.size)

/-- The outcome of an iteration is about that iteration. -/
theorem IsIteration.reports {b : Bench σ} {run : Run σ} (h : b.IsIteration run) :
    ∃ draw answers, b.Reports draw answers run (outcome run) := by
  obtain ⟨draw, hreaches⟩ := h
  obtain ⟨answers, hanswers, hexecute⟩ := hreaches.exists_execute
  have hheld := RequestFile.filterMap_exchange_execute (b.conditions draw).scripted
    (b.copyFor draw) answers
  rw [hexecute] at hheld
  refine ⟨draw, answers, hanswers, hexecute, rfl, ?_, ?_, hheld, Stat.sent_ofRun ..,
    Stat.received_ofRun ..⟩
  · cases hfailure : run.failure <;> simp [outcome, Stat.ofRun, Run.isSuccess, hfailure]
  · cases hfailure : run.failure <;> simp [outcome, Stat.ofRun, Run.isSuccess, hfailure]

/-! ## Accounts -/

/-- The accounts of a benchmark, by the actions that have happened and what was seen of them. -/
structure Accounts (b : Bench σ) (actions : List Action) (s : State σ)
    (log : List (Nat × Event σ)) : Prop where
  /-- The workers and the collector have done no more than a fixed amount of work. -/
  bounded : actions.countP Action.isWork ≤
    b.plan.connections * (b.plan.iterations * (b.file.cases.length + overhead) + 2)
  /-- Until the collector has heard from all workers, there is work that can be done, if need be
  after two ticks. -/
  live : b.isOver s = false → ∃ ticks ≤ 2, ∃ a, a.isWork = true ∧
    (b.steps s (List.replicate ticks .tick ++ [a])).isSome
  /-- From here the benchmark can come to its end, without a cancellation. -/
  possible : ∃ later s', Action.cancel ∉ later ∧ b.steps s later = some s' ∧ b.isOver s' = true
  /-- No worker runs more than its share. -/
  share : ∀ i, (ends (eventsOf log i)).length ≤ b.plan.iterations
  /-- What the collector has taken in from a worker are the outcomes of the worker's iterations, in
  their order, as far as they have arrived. -/
  order : ∀ i, s.collectedFrom i <+: (ends (eventsOf log i)).map outcome
  /-- Every outcome says what its iteration was. -/
  measured : ∀ entry ∈ iterations log, ∃ draw answers,
    b.Reports draw answers entry.2 (outcome entry.2)
  /-- In the end, the collector has heard from all workers. -/
  finished : b.isOver s = true → s.finished = b.plan.connections
  /-- In the end, every iteration that has begun has ended. -/
  ended : b.isOver s = true → ∀ i, starts (eventsOf log i) = (ends (eventsOf log i)).length
  /-- In the end, every iteration has given one outcome, and there is no other. -/
  counted : b.isOver s = true →
    s.collected.Perm ((iterations log).map fun entry => (entry.1, outcome entry.2))
  /-- Without a cancellation, all iterations of all workers have been run in the end. -/
  complete : b.isOver s = true → .cancel ∉ actions →
    (∀ i < b.plan.connections,
      (s.collectedFrom i).length = b.plan.requests / b.plan.connections) ∧
    s.collected.length = b.plan.connections * (b.plan.requests / b.plan.connections)
  /-- A report counts every outcome once. -/
  report : ∀ elapsed, (b.report s elapsed).totalRequests = s.collected.length ∧
    (b.report s elapsed).succeeded + (b.report s elapsed).failed = s.collected.length

variable {b : Bench σ} {s : State σ} {log : List (Nat × Event σ)}

/-- Nothing is seen of a worker that there is not. -/
theorem Law.eventsOf_eq_nil (law : Law b s log) {i : Nat} (hi : b.plan.connections ≤ i) :
    eventsOf log i = [] := by
  rw [eventsOf, List.map_eq_nil_iff, List.filter_eq_nil_iff]
  intro entry hmem
  have hlt := law.logged entry hmem
  simp only [beq_iff_eq]
  omega

/-- Nothing is taken in from a worker that there is not. -/
theorem Law.collectedFrom_eq_nil (law : Law b s log) {i : Nat} (hi : b.plan.connections ≤ i) :
    s.collectedFrom i = [] := by
  rw [State.collectedFrom, List.map_eq_nil_iff, List.filter_eq_nil_iff]
  intro entry hmem
  have hlt := law.collected entry hmem
  simp only [beq_iff_eq]
  omega

/-- There is a worker, or nothing is known of it. -/
theorem Law.worker_or (law : Law b s log) (i : Nat) :
    (∃ w, s.workers[i]? = some w) ∨ eventsOf log i = [] ∧ s.collectedFrom i = [] := by
  cases hw : s.workers[i]? with
  | some w => exact .inl ⟨w, rfl⟩
  | none =>
    have hi := List.getElem?_eq_none_iff.1 hw
    rw [law.connections] at hi
    exact .inr ⟨law.eventsOf_eq_nil hi, law.collectedFrom_eq_nil hi⟩

/-- No worker runs more than its share. -/
theorem Law.share (law : Law b s log) (i : Nat) :
    (ends (eventsOf log i)).length ≤ b.plan.iterations := by
  rcases law.worker_or i with ⟨w, hw⟩ | ⟨hnone, -⟩
  · have hworker := law.worker i w hw
    have hle := hworker.phase.le
    rwa [hworker.executed, List.length_map] at hle
  · rw [hnone]
    exact Nat.zero_le _

/-- What was taken in from a worker is the beginning of what it has run. -/
theorem Law.order (law : Law b s log) (i : Nat) :
    s.collectedFrom i <+: (ends (eventsOf log i)).map outcome := by
  rcases law.worker_or i with ⟨w, hw⟩ | ⟨-, hnone⟩
  · have hworker := law.worker i w hw
    obtain ⟨stats, -, haccounted⟩ := hworker.accounted
    rw [← hworker.executed, haccounted, List.append_assoc]
    exact List.prefix_append ..
  · rw [hnone]
    exact List.nil_prefix

/-- What has ended is an iteration. -/
theorem Law.isIteration (law : Law b s log) {i : Nat} {run : Run σ}
    (h : (i, run) ∈ iterations log) : b.IsIteration run := by
  have hmem := mem_iterations.1 h
  rcases law.worker_or i with ⟨w, hw⟩ | ⟨hnone, -⟩
  · exact (law.worker i w hw).iteration run hmem
  · rw [hnone] at hmem
    cases hmem

/-- In the end, all workers have been heard to be through. -/
theorem Law.isHeard (law : Law b s log) (hover : b.isOver s = true) :
    ∀ w ∈ s.workers, w.isHeard = true := by
  have hle : b.plan.connections ≤ s.finished := by simpa [isOver] using hover
  rw [← law.connections, law.finished] at hle
  exact List.countP_eq_length.1 (Nat.le_antisymm List.countP_le_length hle)

/-- In the end, nothing is left that was not taken in. -/
theorem Law.settled (law : Law b s log) (hover : b.isOver s = true) (i : Nat) :
    s.collectedFrom i = (ends (eventsOf log i)).map outcome ∧
      starts (eventsOf log i) = (ends (eventsOf log i)).length := by
  rcases law.worker_or i with ⟨w, hw⟩ | ⟨hnone, htaken⟩
  · have hheard := law.isHeard hover w (List.mem_of_getElem? hw)
    obtain ⟨htaken, hbegun, -⟩ := (law.worker i w hw).settled hheard
    exact ⟨htaken, hbegun⟩
  · rw [hnone, htaken]
    exact ⟨rfl, rfl⟩

/-- In the end, every iteration has given one outcome. -/
theorem Law.counted (law : Law b s log) (hover : b.isOver s = true) :
    s.collected.Perm ((iterations log).map fun entry => (entry.1, outcome entry.2)) := by
  -- Worker by worker, the two lists are even in the same order.
  apply perm_of_filter_eq Prod.fst
  intro i
  rw [State.filter_collected, (law.settled hover i).1, List.filter_map]
  change _ = ((iterations log).filter fun entry => entry.1 == i).map _
  rw [filter_iterations, List.map_map, List.map_map]
  rfl

/-- Without a cancellation, every worker has run its share in the end. -/
theorem Law.complete (law : Law b s log) (hover : b.isOver s = true)
    (hcancelled : s.isCancelled = false) {i : Nat} (hi : i < b.plan.connections) :
    (s.collectedFrom i).length = b.plan.iterations := by
  rw [← law.connections] at hi
  have hw := List.getElem?_eq_getElem hi
  have hheard := law.isHeard hover _ (List.getElem_mem hi)
  obtain ⟨htaken, -, hquota⟩ := (law.worker i _ hw).settled hheard
  rw [htaken, List.length_map]
  exact hquota hcancelled

/-- An outcome that was taken in is that of an iteration. -/
theorem Law.exists_iteration (law : Law b s log) {stat : Stat} (h : stat ∈ s.collected.map (·.2)) :
    ∃ run, stat = outcome run ∧ b.IsIteration run := by
  obtain ⟨entry, hentry, rfl⟩ := List.mem_map.1 h
  have hmem : entry.2 ∈ s.collectedFrom entry.1 :=
    List.mem_map_of_mem (List.mem_filter.2 ⟨hentry, beq_self_eq_true _⟩)
  obtain ⟨run, hrun, heq⟩ := List.mem_map.1 ((law.order entry.1).subset hmem)
  exact ⟨run, heq.symm, law.isIteration (mem_iterations.2 hrun)⟩

/-- A report counts every outcome once, and each is a success or a failure. -/
theorem Law.report (law : Law b s log) (elapsed : Nat) :
    (b.report s elapsed).totalRequests = s.collected.length ∧
      (b.report s elapsed).succeeded + (b.report s elapsed).failed = s.collected.length := by
  have hone : ∀ stat ∈ s.collected.map (·.2), stat.requests = 1 ∧
      stat.succeeded + stat.failed = 1 := by
    intro stat hstat
    obtain ⟨run, rfl, hiteration⟩ := law.exists_iteration hstat
    obtain ⟨draw, answers, hreports⟩ := hiteration.reports
    exact ⟨hreports.requests, hreports.either⟩
  obtain ⟨hrequests, hsucceeded, hfailed⟩ :=
    Report.counts_ofStats (s.collected.map (·.2)) elapsed b.plan.connections
  have hlength : (s.collected.map (·.2)).length = s.collected.length := List.length_map ..
  rw [Bench.report, hrequests, hsucceeded, hfailed, total_map_add, ← hlength]
  exact ⟨total_map_eq_length fun stat hstat => (hone stat hstat).1,
    total_map_eq_length fun stat hstat => (hone stat hstat).2⟩

/-- Whatever the order in which things happen in a benchmark whose plan has workers and a rate, and
whatever the network answers, it comes to an end, and in the end it has one outcome for every
iteration. -/
theorem accounts_of_steps {b : Bench σ} (hconnections : 1 ≤ b.plan.connections)
    (hrate : b.plan.rateLimit ≠ some 0) {network : σ} {actions : List Action} {s : State σ}
    (h : b.steps (b.start network) actions = some s) :
    b.plan.problem? = none ∧
      (∀ settings : Settings, settings.problem? = none →
        1 ≤ (Plan.ofSettings settings).connections ∧
          (Plan.ofSettings settings).rateLimit ≠ some 0) ∧
      b.Accounts actions s (b.log (b.start network) actions) := by
  have law := law_of_steps h
  refine ⟨?accepted, fun settings => Plan.accepts_ofSettings, ?bounded, law.exists_steps,
    law.exists_over, law.share, law.order, ?measured, ?finished, ?ended, law.counted, ?complete,
    law.report⟩
  case accepted =>
    have hpos : b.plan.connections ≠ 0 := by omega
    rw [Plan.problem?, if_neg hpos, if_neg hrate]
  case bounded =>
    have hwork := (law_start b network).work_steps h
    rw [work_start] at hwork
    omega
  case measured => exact fun entry hmem => (law.isIteration hmem).reports
  case finished =>
    intro hover
    rw [law.finished, List.countP_eq_length.2 (law.isHeard hover), law.connections]
  case ended => exact fun hover i => (law.settled hover i).2
  case complete =>
    intro hover hcancel
    have hcancelled : s.isCancelled = false := isCancelled_eq_of_steps h hcancel
    have hshare : ∀ i < b.plan.connections,
        (s.collectedFrom i).length = b.plan.requests / b.plan.connections :=
      fun i hi => law.complete hover hcancelled hi
    refine ⟨hshare, length_of_filter_length Prod.fst _ law.collected fun i hi => ?_⟩
    rw [← hshare i hi, State.collectedFrom, List.length_map]

/-- A benchmark of two workers with an iteration of two requests each, at two iterations a second.
The network does not answer the second request that it gets. -/
def pairBench : Bench Nat where
  file := { bindings := .empty, cases := [{ method := "GET", url := "a" }, { method := "GET" }] }
  mocks := .builtin
  plan := { connections := 2, requests := 3, rateLimit := some 2 }
  expected := 200
  send := fun _ count =>
    (if count = 1 then .error (.engine "no answer") else .ok ⟨200, [], [], 0, 8⟩, count + 1)

/-- The workers take turns, and the second of them is through first. -/
def pairActions : List Action :=
  [.approach 0, .begin 0 default, .approach 1, .advance 0, .tick, .tick, .begin 1 default,
    .advance 1, .advance 1, .advance 0, .measure 1, .measure 0, .report 1, .leave 1, .collect 1,
    .report 0, .collect 1, .leave 0, .collect 0, .collect 0]

theorem accounts_of_steps_pairBench :
    (1 ≤ pairBench.plan.connections ∧ pairBench.plan.rateLimit ≠ some 0) ∧
      ∃ s, pairBench.steps (pairBench.start 0) pairActions = some s ∧ pairBench.isOver s = true ∧
        pairBench.Accounts pairActions s (pairBench.log (pairBench.start 0) pairActions) ∧
        s.collected.length = 2 := by
  have hany : (pairBench.steps (pairBench.start 0) pairActions).any pairBench.isOver = true := by
    decide +kernel
  have hlimits : 1 ≤ pairBench.plan.connections ∧ pairBench.plan.rateLimit ≠ some 0 := by decide
  cases hs : pairBench.steps (pairBench.start 0) pairActions with
  | none =>
    rw [hs] at hany
    exact absurd hany Bool.false_ne_true
  | some s =>
    rw [hs] at hany
    obtain ⟨-, -, haccounts⟩ := accounts_of_steps hlimits.1 hlimits.2 hs
    have hcomplete := haccounts.complete hany (by simp [pairActions])
    exact ⟨hlimits, s, rfl, hany, haccounts, hcomplete.2⟩

end Bench

end Volley
