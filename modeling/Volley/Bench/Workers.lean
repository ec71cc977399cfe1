import Volley.Bench.Gate
import Volley.Count
import Volley.Report.Basic
import Volley.RequestFile.Copy
import Volley.Run.Basic
import Volley.Settings.Basic

/-!
# Workers and the collector

A benchmark runs a file many times. Each worker has its share of the iterations; it makes a copy of
the file for each of them, executes it case by case, and sends the outcome to the collector, and
when it is through it says so. The collector takes in messages until all workers have said that they
are through. Nothing fixes who comes next: an execution of a benchmark is a list of actions, and
`Bench.step` says which actions are possible in a state and what they lead to. Between two cases of
an iteration the other workers may send requests of their own over the same network. Messages of one
worker arrive in the order in which they were sent, those of different workers in any order.

A benchmark may be cancelled at any time. A worker notices it before an iteration, and while it
waits for a permit; an iteration that has begun is finished, and its outcome counts.
-/

namespace Volley

/-- What a benchmark runs: the file, where made-up values come from, the plan, the status that
counts as success, and how requests are sent. -/
structure Bench (σ : Type) where
  /-- The file, which is never executed itself. -/
  file : RequestFile
  /-- What the values of variables are replaced by. -/
  mocks : Mock.Registry
  /-- The shape of the benchmark. -/
  plan : Plan
  /-- The only status that counts as success. -/
  expected : Nat
  /-- Sends a request. -/
  send : Request → σ → Except Fault Response × σ

namespace Bench

/-- What chance and time bring to one iteration. -/
structure Draw where
  /-- The world in which the value of a variable is made up. -/
  worldOf : String → World
  /-- The built-in functions at a site of a case. -/
  builtins : Nat → Site → Resolver

/-- What a worker sends to the collector. -/
inductive Message where
  /-- The outcome of an iteration. -/
  | outcome (stat : Stat)
  /-- The worker is through. -/
  | done
  deriving Repr, Inhabited

/-- What a worker is about to do. -/
inductive Phase (σ : Type) where
  /-- To look whether there is another iteration for it. -/
  | idle
  /-- To begin an iteration, once it has a permit. -/
  | waiting
  /-- To execute the case at a place, or to take the outcome if no case is left. -/
  | running (draw : Draw) (run : Run σ) (place : Nat)
  /-- To send the outcome of an iteration. -/
  | measured (stat : Stat)
  /-- Nothing more. -/
  | gone
  deriving Inhabited

/-- A worker. -/
structure Worker (σ : Type) where
  /-- What it is about to do. -/
  phase : Phase σ := .idle
  /-- The outcomes of the iterations that it has run, in their order. -/
  executed : List Stat := []
  /-- The messages that it has sent and the collector has not taken in, oldest first. -/
  outbox : List Message := []
  deriving Inhabited

/-- A benchmark in progress. -/
structure State (σ : Type) where
  /-- The workers. -/
  workers : List (Worker σ)
  /-- The pool of permits, if the rate is limited. -/
  gate : Option Gate
  /-- The state of the network. -/
  network : σ
  /-- Whether the benchmark was cancelled. -/
  isCancelled : Bool := false
  /-- The outcomes that the collector has taken in, each with its worker, in the order of arrival.
  -/
  collected : List (Nat × Stat) := []
  /-- How many workers have said that they are through. -/
  finished : Nat := 0
  deriving Inhabited

/-- Something that happens in a benchmark. -/
inductive Action where
  /-- A worker finds that there is another iteration for it. -/
  | approach (worker : Nat)
  /-- A worker begins an iteration. -/
  | begin (worker : Nat) (draw : Draw)
  /-- A worker executes the next case of its iteration. -/
  | advance (worker : Nat)
  /-- A worker takes the outcome of its iteration. -/
  | measure (worker : Nat)
  /-- A worker sends the outcome of its iteration. -/
  | report (worker : Nat)
  /-- A worker finds that it is through, and says so. -/
  | leave (worker : Nat)
  /-- The collector takes in the oldest message of a worker. -/
  | collect (worker : Nat)
  /-- The pool of permits is filled up. -/
  | tick
  /-- The benchmark is cancelled. -/
  | cancel

/-- The most messages that can be under way. -/
def channelCapacity : Nat := 1024

namespace State

variable {σ : Type}

/-- The messages that are under way. -/
def underWay (s : State σ) : Nat :=
  total (s.workers.map fun w => w.outbox.length)

/-- Whether another message can be sent. -/
def hasRoom (s : State σ) : Bool :=
  decide (s.underWay < channelCapacity)

/-- The state with another worker in the place of one. -/
def setWorker (s : State σ) (i : Nat) (w : Worker σ) : State σ :=
  { s with workers := s.workers.set i w }

/-- The outcomes that the collector has taken in from a worker. -/
def collectedFrom (s : State σ) (i : Nat) : List Stat :=
  (s.collected.filter fun entry => entry.1 == i).map (·.2)

/-- The pool without the permit that a worker needs: there may be no pool, or no permit in it. -/
def admit? (s : State σ) : Option (Option Gate) :=
  match s.gate with
  | none => some none
  | some gate => gate.take?.map some

/-- Whether a worker that is in a phase leaves: after its share, or because of a cancellation that
it notices. -/
def isLeaving (s : State σ) (share : Nat) (w : Worker σ) : Bool :=
  match w.phase with
  | .idle => decide (share ≤ w.executed.length) || s.isCancelled
  | .waiting => s.gate.isSome && s.isCancelled
  | _ => false

end State

variable {σ : Type}

/-- The circumstances of an iteration. -/
def conditions (b : Bench σ) (draw : Draw) : Conditions σ where
  builtins := draw.builtins
  expected := b.expected
  send := b.send

/-- The copy of the file that an iteration executes. -/
def copyFor (b : Bench σ) (draw : Draw) : RequestFile :=
  b.file.copy (some b.mocks) draw.worldOf true

/-- The outcome of an iteration. -/
def outcome (run : Run σ) : Stat :=
  Stat.ofRun run.file run.isSuccess

/-- The state before anything has happened. -/
def start (b : Bench σ) (network : σ) : State σ where
  workers := List.replicate b.plan.connections {}
  gate := b.plan.rateLimit.map Gate.ofRate
  network := network

/-- Whether the collector has heard from all workers that they are through. -/
def isOver (b : Bench σ) (s : State σ) : Bool :=
  decide (b.plan.connections ≤ s.finished)

/-- A worker that is idle, not through, and not cancelled goes to the gate. -/
def approach? (b : Bench σ) (s : State σ) (i : Nat) (w : Worker σ) : Option (State σ) :=
  match w.phase with
  | .idle =>
    if w.executed.length < b.plan.iterations ∧ s.isCancelled = false then
      some (s.setWorker i { w with phase := .waiting })
    else none
  | _ => none

/-- A worker at the gate that gets a permit begins an iteration. -/
def begin? (b : Bench σ) (s : State σ) (i : Nat) (w : Worker σ) (draw : Draw) :
    Option (State σ) :=
  match w.phase, s.admit? with
  | .waiting, some gate =>
    let run := { file := (b.copyFor draw).release, network := s.network }
    some ({ s with gate := gate }.setWorker i { w with phase := .running draw run 0 })
  | _, _ => none

/-- A worker within an iteration executes the next case, over the network as all workers have left
it. -/
def advance? (b : Bench σ) (s : State σ) (i : Nat) (w : Worker σ) : Option (State σ) :=
  match w.phase with
  | .running draw run place =>
    if place < run.file.cases.length then
      let run := Run.advance (b.conditions draw) { run with network := s.network } place
      some ({ s with network := run.network }.setWorker i
        { w with phase := .running draw run (place + 1) })
    else none
  | _ => none

/-- A worker that has executed all cases takes the outcome of the iteration. -/
def measure? (s : State σ) (i : Nat) (w : Worker σ) : Option (State σ) :=
  match w.phase with
  | .running _ run place =>
    if place < run.file.cases.length then none
    else
      let stat := outcome run
      some (s.setWorker i { w with phase := .measured stat, executed := w.executed ++ [stat] })
  | _ => none

/-- A worker with an outcome sends it if there is room. -/
def report? (s : State σ) (i : Nat) (w : Worker σ) : Option (State σ) :=
  match w.phase with
  | .measured stat =>
    if s.hasRoom then
      some (s.setWorker i { w with phase := .idle, outbox := w.outbox ++ [.outcome stat] })
    else none
  | _ => none

/-- A worker that is through says so if there is room. -/
def leave? (b : Bench σ) (s : State σ) (i : Nat) (w : Worker σ) : Option (State σ) :=
  if s.isLeaving b.plan.iterations w ∧ s.hasRoom then
    some (s.setWorker i { w with phase := .gone, outbox := w.outbox ++ [.done] })
  else none

/-- The collector, unless it has heard from all workers, takes in the oldest message of one. -/
def collect? (b : Bench σ) (s : State σ) (i : Nat) (w : Worker σ) : Option (State σ) :=
  if b.isOver s then none
  else
    match w.outbox with
    | [] => none
    | .outcome stat :: rest =>
      let s := { s with collected := s.collected ++ [(i, stat)] }
      some (s.setWorker i { w with outbox := rest })
    | .done :: rest =>
      some ({ s with finished := s.finished + 1 }.setWorker i { w with outbox := rest })

/-- What an action leads to, if it is possible. -/
def step (b : Bench σ) (s : State σ) : Action → Option (State σ)
  | .approach i => s.workers[i]?.bind (b.approach? s i)
  | .begin i draw => s.workers[i]?.bind fun w => b.begin? s i w draw
  | .advance i => s.workers[i]?.bind (b.advance? s i)
  | .measure i => s.workers[i]?.bind (measure? s i)
  | .report i => s.workers[i]?.bind (report? s i)
  | .leave i => s.workers[i]?.bind (b.leave? s i)
  | .collect i => s.workers[i]?.bind (b.collect? s i)
  | .tick => s.gate.map fun gate => { s with gate := some gate.tick }
  | .cancel => some { s with isCancelled := true }

/-- What a list of actions leads to, if each is possible where it stands. -/
def steps (b : Bench σ) (s : State σ) (actions : List Action) : Option (State σ) :=
  actions.foldlM b.step s

/-- The report of a benchmark that took `elapsed` nanoseconds. -/
def report (b : Bench σ) (s : State σ) (elapsed : Nat) : Report :=
  Report.ofStats (s.collected.map (·.2)) elapsed b.plan.connections

end Bench

end Volley
