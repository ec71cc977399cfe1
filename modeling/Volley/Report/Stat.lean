import Volley.Count
import Volley.RequestFile.Basic

/-!
# The outcome of one iteration

An iteration is one execution of a whole file. What counts of it is whether it succeeded, the bytes
in both directions and the time of the round trips, summed over the cases that completed.
-/

namespace Volley

/-- A count as a floating-point number. -/
def countFloat (n : Nat) : Float :=
  Float.ofNat n

/-- A number of nanoseconds in seconds: the whole seconds and the rest are converted apart. -/
def seconds (nanos : Nat) : Float :=
  countFloat (nanos / 1000000000) + countFloat (nanos % 1000000000) / 1e9

/-- The outcome of one iteration. -/
structure Stat where
  /-- The iterations that the outcome stands for. -/
  requests : Nat := 0
  /-- The seconds spent in round trips. -/
  time : Float := 0
  /-- The bytes sent. -/
  sent : Nat := 0
  /-- The bytes received. -/
  received : Nat := 0
  /-- One if the iteration succeeded. -/
  succeeded : Nat := 0
  /-- One if it failed. -/
  failed : Nat := 0
  deriving Repr, Inhabited

namespace Stat

/-- Whether an iteration succeeded. -/
def isSuccess (s : Stat) : Bool :=
  decide (0 < s.succeeded)

/-- The time that a case took. -/
def caseTime (c : Case) : Float :=
  match c.exchange with
  | some e => seconds e.response.elapsed
  | none => 0

/-- The outcome of an iteration that left the file in this state. -/
def ofRun (file : RequestFile) (success : Bool) : Stat where
  requests := 1
  time := file.cases.foldl (fun total c => total + caseTime c) 0
  sent := total (file.cases.map Case.requestSize)
  received := total (file.cases.map Case.responseSize)
  succeeded := if success then 1 else 0
  failed := if success then 0 else 1

end Stat

end Volley
