import Volley.Bench.Workers
import Volley.Proofs.Run.Shared

/-!
# Moves of the workers

What an action of a benchmark does, said once. Every action but a tick and a cancellation moves one
worker and leaves the others as they are: `Moves` says from what to what, and `Event` what is seen
of it from outside. `effect_of_step` reads this off `Bench.step`, and everything else about a
benchmark is a case analysis of `Moves`. The log of a benchmark is what is seen of all its actions.
-/

namespace Volley.Bench

variable {σ : Type}

/-- What is seen of the move of a worker. -/
inductive Event (σ : Type) where
  /-- Nothing. -/
  | quiet
  /-- An iteration begins. -/
  | begun
  /-- An iteration has ended. -/
  | ended (run : Run σ)
  /-- The collector takes in an outcome. -/
  | taken (stat : Stat)
  /-- The collector hears that the worker is through. -/
  | heard

namespace Event

/-- How many iterations begin. -/
def begins : Event σ → Nat
  | .begun => 1
  | _ => 0

/-- The iteration that has ended. -/
def ended? : Event σ → Option (Run σ)
  | .ended run => some run
  | _ => none

/-- The outcome that is taken in. -/
def taken? : Event σ → Option Stat
  | .taken stat => some stat
  | _ => none

/-- How many workers are heard to be through. -/
def hears : Event σ → Nat
  | .heard => 1
  | _ => 0

end Event

/-- What is seen when a worker takes the outcome of its iteration. -/
def Worker.measurement (w : Worker σ) : Event σ :=
  match w.phase with
  | .running _ run _ => .ended run
  | _ => .quiet

/-- What is seen when the oldest message of a worker is taken in. -/
def Worker.delivery (w : Worker σ) : Event σ :=
  match w.outbox with
  | [] => .quiet
  | .outcome stat :: _ => .taken stat
  | .done :: _ => .heard

/-- What is seen of an action, and of which worker. -/
def seen? (s : State σ) : Action → Option (Nat × Event σ)
  | .begin i _ => some (i, .begun)
  | .measure i => (s.workers[i]?).map fun w => (i, w.measurement)
  | .collect i => (s.workers[i]?).map fun w => (i, w.delivery)
  | .approach i => some (i, .quiet)
  | .advance i => some (i, .quiet)
  | .report i => some (i, .quiet)
  | .leave i => some (i, .quiet)
  | .tick => none
  | .cancel => none

/-- The moves of a worker, and what is seen of them. -/
inductive Moves (b : Bench σ) (isCancelled : Bool) (w : Worker σ) : Event σ → Worker σ → Prop where
  /-- It goes to the gate. -/
  | approach (hphase : w.phase = .idle) (hshare : w.executed.length < b.plan.iterations) :
      Moves b isCancelled w .quiet { w with phase := .waiting }
  /-- It begins an iteration. -/
  | begin (draw : Draw) (network : σ) (hphase : w.phase = .waiting) :
      Moves b isCancelled w .begun
        { w with phase := .running draw ((b.copyFor draw).begin network) 0 }
  /-- It executes the next case, over the network as others have left it. -/
  | advance (network : σ) {draw : Draw} {run : Run σ} {place : Nat}
      (hphase : w.phase = .running draw run place) (hplace : place < run.file.cases.length) :
      Moves b isCancelled w .quiet
        { w with
          phase := .running draw
            (Run.advance (b.conditions draw) { run with network := network } place) (place + 1) }
  /-- It takes the outcome of an iteration of which no case is left. -/
  | measure {draw : Draw} {run : Run σ} {place : Nat}
      (hphase : w.phase = .running draw run place) (hplace : run.file.cases.length ≤ place) :
      Moves b isCancelled w (.ended run)
        { w with phase := .measured (outcome run), executed := w.executed ++ [outcome run] }
  /-- It sends an outcome. -/
  | report {stat : Stat} (hphase : w.phase = .measured stat) :
      Moves b isCancelled w .quiet
        { w with phase := .idle, outbox := w.outbox ++ [.outcome stat] }
  /-- It says that it is through, which it is after its share or because of a cancellation. -/
  | leave (hphase : w.phase = .idle ∨ w.phase = .waiting)
      (hquota : isCancelled = false → b.plan.iterations ≤ w.executed.length) :
      Moves b isCancelled w .quiet { w with phase := .gone, outbox := w.outbox ++ [.done] }
  /-- Its oldest message is taken in, which is an outcome. -/
  | give {stat : Stat} {rest : List Message} (houtbox : w.outbox = .outcome stat :: rest) :
      Moves b isCancelled w (.taken stat) { w with outbox := rest }
  /-- Its oldest message is taken in, which says that it is through. -/
  | part {rest : List Message} (houtbox : w.outbox = .done :: rest) :
      Moves b isCancelled w .heard { w with outbox := rest }

/-- What an action leads to. -/
inductive Effect (b : Bench σ) (s : State σ) (a : Action) (s' : State σ) : Prop where
  /-- A worker moves, and the others stay as they are. -/
  | work {i : Nat} {w w' : Worker σ} {event : Event σ} (hw : s.workers[i]? = some w)
      (hmove : Moves b s.isCancelled w event w') (hseen : seen? s a = some (i, event))
      (hworkers : s'.workers = s.workers.set i w')
      (hcollected : s'.collected = s.collected ++ event.taken?.toList.map fun stat => (i, stat))
      (hfinished : s'.finished = s.finished + event.hears)
      (hcancelled : s'.isCancelled = s.isCancelled)
      (hgate : s'.gate = s.gate ∨ s.admit? = some s'.gate)
  /-- The pool of permits is filled up. -/
  | tick {gate : Gate} (ha : a = .tick) (hgate : s.gate = some gate)
      (hs : s' = { s with gate := some gate.tick })
  /-- The benchmark is cancelled. -/
  | cancel (ha : a = .cancel) (hs : s' = { s with isCancelled := true })

/-- A worker that leaves is idle or waits, and without a cancellation it has had its share. -/
theorem State.quota_of_isLeaving {s : State σ} {share : Nat} {w : Worker σ}
    (h : s.isLeaving share w = true) :
    (w.phase = .idle ∨ w.phase = .waiting) ∧
      (s.isCancelled = false → share ≤ w.executed.length) := by
  unfold isLeaving at h
  split at h
  · rename_i hphase
    refine ⟨.inl hphase, fun hcancelled => ?_⟩
    simpa [hcancelled] using h
  · rename_i hphase
    refine ⟨.inr hphase, fun hcancelled => ?_⟩
    simp [hcancelled] at h
  · exact absurd h Bool.false_ne_true

/-- A possible action has its effect. -/
theorem effect_of_step {b : Bench σ} {s s' : State σ} {a : Action} (h : b.step s a = some s') :
    Effect b s a s' := by
  -- Most moves give the collector nothing.
  have hsame : s.collected = s.collected ++ [] := (List.append_nil _).symm
  cases a with
  | approach i =>
    obtain ⟨w, hw, h⟩ := Option.bind_eq_some_iff.1 h
    unfold approach? at h
    split at h
    · rename_i hphase
      split at h
      · rename_i hgoes
        obtain rfl := Option.some.inj h
        exact .work hw (.approach hphase hgoes.1) rfl rfl hsame rfl rfl (.inl rfl)
      · cases h
    · cases h
  | begin i draw =>
    obtain ⟨w, hw, h⟩ := Option.bind_eq_some_iff.1 h
    unfold begin? at h
    split at h
    · rename_i gate hphase hgate
      obtain rfl := Option.some.inj h
      exact .work hw (.begin draw s.network hphase) rfl rfl hsame rfl rfl (.inr hgate)
    · cases h
  | advance i =>
    obtain ⟨w, hw, h⟩ := Option.bind_eq_some_iff.1 h
    unfold advance? at h
    split at h
    · rename_i draw run place hphase
      split at h
      · rename_i hplace
        obtain rfl := Option.some.inj h
        exact .work hw (.advance s.network hphase hplace) rfl rfl hsame rfl rfl (.inl rfl)
      · cases h
    · cases h
  | measure i =>
    obtain ⟨w, hw, h⟩ := Option.bind_eq_some_iff.1 h
    unfold measure? at h
    split at h
    · rename_i draw run place hphase
      split at h
      · cases h
      · rename_i hplace
        obtain rfl := Option.some.inj h
        have hseen : seen? s (.measure i) = some (i, .ended run) := by
          simp [seen?, hw, Worker.measurement, hphase]
        have hend := Nat.le_of_not_lt hplace
        exact .work hw (.measure hphase hend) hseen rfl hsame rfl rfl (.inl rfl)
    · cases h
  | report i =>
    obtain ⟨w, hw, h⟩ := Option.bind_eq_some_iff.1 h
    unfold report? at h
    split at h
    · rename_i stat hphase
      split at h
      · obtain rfl := Option.some.inj h
        exact .work hw (.report hphase) rfl rfl hsame rfl rfl (.inl rfl)
      · cases h
    · cases h
  | leave i =>
    obtain ⟨w, hw, h⟩ := Option.bind_eq_some_iff.1 h
    unfold leave? at h
    split at h
    · rename_i hleaves
      obtain rfl := Option.some.inj h
      obtain ⟨hphase, hquota⟩ := State.quota_of_isLeaving hleaves.1
      exact .work hw (.leave hphase hquota) rfl rfl hsame rfl rfl (.inl rfl)
    · cases h
  | collect i =>
    obtain ⟨w, hw, h⟩ := Option.bind_eq_some_iff.1 h
    unfold collect? at h
    split at h
    · cases h
    · split at h
      · cases h
      · rename_i stat rest houtbox
        obtain rfl := Option.some.inj h
        have hseen : seen? s (.collect i) = some (i, .taken stat) := by
          simp [seen?, hw, Worker.delivery, houtbox]
        exact .work hw (.give houtbox) hseen rfl rfl rfl rfl (.inl rfl)
      · rename_i rest houtbox
        obtain rfl := Option.some.inj h
        have hseen : seen? s (.collect i) = some (i, .heard) := by
          simp [seen?, hw, Worker.delivery, houtbox]
        exact .work hw (.part houtbox) hseen rfl hsame rfl rfl (.inl rfl)
  | tick =>
    obtain ⟨gate, hgate, rfl⟩ := Option.map_eq_some_iff.1 h
    exact .tick rfl hgate rfl
  | cancel =>
    exact .cancel rfl (Option.some.inj h).symm

/-! ## The log -/

/-- What is seen in the course of a benchmark, in order. -/
def log (b : Bench σ) : State σ → List Action → List (Nat × Event σ)
  | _, [] => []
  | s, a :: later => (seen? s a).toList ++ (b.step s a).elim [] fun s' => log b s' later

/-- What is seen of one worker. -/
def eventsOf (log : List (Nat × Event σ)) (i : Nat) : List (Event σ) :=
  (log.filter fun entry => entry.1 == i).map (·.2)

/-- What is seen of a worker goes on with what is seen of it next. -/
theorem eventsOf_append_self (log : List (Nat × Event σ)) (i : Nat) (event : Event σ) :
    eventsOf (log ++ [(i, event)]) i = eventsOf log i ++ [event] := by
  simp [eventsOf]

/-- What is seen of another worker does not count. -/
theorem eventsOf_append_ne (log : List (Nat × Event σ)) {i j : Nat} (h : i ≠ j)
    (event : Event σ) : eventsOf (log ++ [(i, event)]) j = eventsOf log j := by
  simp [eventsOf, h]

end Volley.Bench
