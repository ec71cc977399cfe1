import Volley.Proofs.RequestFile.Recorded
import Volley.Run.Basic

/-!
# Attempts

What a run does at one case, said once. `Run.advance` leaves the run alone if it has ended or if no
case with a method stands at the place (`advance_eq_self`). Otherwise it makes one attempt: it sends
the request of the case, records the response if one comes back, and ends with a fault unless the
response has the expected status (`advance_eq_after`). Everything about whole runs follows from
these two.
-/

namespace Volley

variable {σ : Type}

/-- What happened at one case of a run. -/
structure Attempt where
  /-- The place of the case in the file. -/
  place : Nat
  /-- The request that was sent. -/
  request : Request
  /-- What came back. -/
  answer : Except Fault Response

namespace Attempt

/-- What the case holds after an attempt: nothing, unless a response came back. -/
def exchange? (a : Attempt) : Option Exchange :=
  match a.answer with
  | .ok response => some ⟨a.request, response⟩
  | .error _ => none

/-- Whether a response with the expected status came back. -/
def succeeded (expected : Nat) (a : Attempt) : Bool :=
  match a.answer with
  | .ok response => response.status == expected
  | .error _ => false

/-- The fault with which a run ends at an attempt that did not succeed: an unexpected status, or the
fault of the sender if no response came back. -/
def fault (expected : Nat) (a : Attempt) : Fault :=
  match a.answer with
  | .ok response => .status a.request.method a.request.url response.status expected
  | .error fault => fault

end Attempt

/-- What a network answers to requests that are sent one after the other. -/
def answers (send : Request → σ → Except Fault Response × σ) :
    List Request → σ → List (Except Fault Response)
  | [], _ => []
  | request :: later, network =>
    (send request network).1 :: answers send later (send request network).2

/-- The state of a network after requests that were sent one after the other. -/
def networkAfter (send : Request → σ → Except Fault Response × σ) (requests : List Request)
    (network : σ) : σ :=
  requests.foldl (fun network request => (send request network).2) network

/-- One more request is answered by the network as the earlier ones have left it. -/
theorem answers_append_singleton (send : Request → σ → Except Fault Response × σ)
    (requests : List Request) (request : Request) (network : σ) :
    answers send (requests ++ [request]) network =
      answers send requests network ++ [(send request (networkAfter send requests network)).1] := by
  induction requests generalizing network with
  | nil => rfl
  | cons first later ih =>
    rw [List.cons_append, answers, ih]
    rfl

/-- One more request moves the network on by one step. -/
theorem networkAfter_append_singleton (send : Request → σ → Except Fault Response × σ)
    (requests : List Request) (request : Request) (network : σ) :
    networkAfter send (requests ++ [request]) network =
      (send request (networkAfter send requests network)).2 := by
  rw [networkAfter, List.foldl_append]
  rfl

namespace Run

/-- The request of a case depends on its templates alone. -/
theorem request_eq_of_released_eq (conditions : Conditions σ) (file : RequestFile) (index : Nat)
    {c d : Case} (h : c.released = d.released) :
    Run.request conditions file index c = Run.request conditions file index d := by
  have hreleased (c : Case) :
      Run.request conditions file index c.released = Run.request conditions file index c := rfl
  rw [← hreleased c, h, hreleased d]

/-- The attempt that a run makes at a case. -/
def attempt (conditions : Conditions σ) (run : Run σ) (index : Nat) (c : Case) : Attempt where
  place := index
  request := Run.request conditions run.file index c
  answer := (conditions.send (Run.request conditions run.file index c) run.network).1

/-- A run after an attempt. -/
def after (conditions : Conditions σ) (run : Run σ) (a : Attempt) : Run σ where
  file := run.file.recordAny a.place a.exchange?
  network := (conditions.send a.request run.network).2
  sent := run.sent ++ [a.request]
  failure := if a.succeeded conditions.expected then none else some (a.fault conditions.expected)

/-- A run does not go on at a place if it has ended or no case with a method stands there. -/
theorem stays_of_not {run : Run σ} {index : Nat}
    (h : ¬ (run.failure = none ∧ run.file.hasMethod index = true)) :
    run.failure ≠ none ∨ run.file.hasMethod index = false := by
  by_cases hfailure : run.failure = none
  · exact .inr (by simpa [hfailure] using h)
  · exact .inl hfailure

/-- A run that has ended stays as it is, and so does any run at a place without a case that has a
method. -/
theorem advance_eq_self (conditions : Conditions σ) {run : Run σ} {index : Nat}
    (h : run.failure ≠ none ∨ run.file.hasMethod index = false) :
    advance conditions run index = run := by
  unfold advance
  split
  · rename_i c hfailure hc
    have hmethod : c.method.isEmpty = true := by
      simpa [hfailure, RequestFile.hasMethod, hc] using h
    rw [if_pos hmethod]
  · rfl

/-- A run that has not ended makes an attempt at a case with a method. -/
theorem advance_eq_after (conditions : Conditions σ) {run : Run σ} {index : Nat} {c : Case}
    (hfailure : run.failure = none) (hc : run.file.cases[index]? = some c)
    (hmethod : run.file.hasMethod index = true) :
    advance conditions run index = run.after conditions (run.attempt conditions index c) := by
  have hempty : ¬ c.method.isEmpty = true := by
    simpa [RequestFile.hasMethod, hc] using hmethod
  unfold advance
  simp only [hfailure, hc]
  rw [if_neg hempty]
  unfold after attempt
  -- A fault of the sender ends the run before anything is recorded, a status after that.
  cases hsend : conditions.send (Run.request conditions run.file index c) run.network with
  | mk answer network =>
    cases answer with
    | error fault =>
      simp [hsend, Attempt.exchange?, Attempt.succeeded, Attempt.fault, RequestFile.recordAny]
    | ok response =>
      simp [hsend, Attempt.exchange?, Attempt.succeeded, Attempt.fault, RequestFile.recordAny,
        statusFault?]

/-- A step of a run does not change the templates. -/
theorem release_advance (conditions : Conditions σ) (run : Run σ) (index : Nat) :
    (advance conditions run index).file.release = run.file.release := by
  by_cases hgoes : run.failure = none ∧ run.file.hasMethod index = true
  · obtain ⟨c, hc⟩ := RequestFile.exists_of_hasMethod hgoes.2
    rw [advance_eq_after conditions hgoes.1 hc hgoes.2]
    exact RequestFile.release_recordAny _ _ _
  · rw [advance_eq_self conditions (stays_of_not hgoes)]

end Run

end Volley
