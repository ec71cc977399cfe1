import Volley.Bench.Workers

/-!
# Schedules

A schedule is an order in which the actions of a benchmark happen. The orderly one lets the workers
come one after the other, each with all of its share, and the collector take in every message at
once. It needs no more than two ticks before an iteration, since two ticks always bring a permit.
-/

namespace Volley.Bench

variable {σ : Type}

/-- The actions of one iteration of a worker. -/
def iterationActions (b : Bench σ) (worker : Nat) (draw : Draw) : List Action :=
  [.approach worker] ++ (if b.plan.rateLimit.isSome then [.tick, .tick] else []) ++
    [.begin worker draw] ++ List.replicate b.file.cases.length (.advance worker) ++
    [.measure worker, .report worker, .collect worker]

/-- The actions of a worker from its first iteration to its end. -/
def workerActions (b : Bench σ) (drawOf : Nat → Nat → Draw) (worker : Nat) : List Action :=
  (List.range b.plan.iterations).flatMap
      (fun turn => b.iterationActions worker (drawOf worker turn)) ++
    [.leave worker, .collect worker]

/-- The orderly schedule, where `drawOf` gives the draw of each iteration of each worker. -/
def orderly (b : Bench σ) (drawOf : Nat → Nat → Draw) : List Action :=
  (List.range b.plan.connections).flatMap (b.workerActions drawOf)

/-- The schedule of a benchmark that is cancelled before it begins. -/
def cancelled (b : Bench σ) : List Action :=
  .cancel :: (List.range b.plan.connections).flatMap fun worker => [.leave worker, .collect worker]

/-- Runs a benchmark by the orderly schedule, or by that of one cancelled beforehand. Only a plan
that makes no sense is refused. -/
def run (b : Bench σ) (drawOf : Nat → Nat → Draw) (isCancelled : Bool) (network : σ) :
    Except Fault (State σ) :=
  match b.plan.problem? with
  | some problem => .error (.invalid problem)
  | none =>
    let actions := if isCancelled then b.cancelled else b.orderly drawOf
    match b.steps (b.start network) actions with
    | some s => .ok s
    | none => .error (.engine "rate gate closed")

end Volley.Bench
