import Volley.Fault

/-!
# Settings

What a run or a benchmark is told from outside: how many workers and iterations, how fast, and which
status counts as success. A benchmark's plan is the part of it that the workers need.
-/

namespace Volley

/-- The settings of a run. -/
structure Settings where
  /-- The number of workers at a time. -/
  connections : UInt64 := 1
  /-- The iterations of all workers together. -/
  requests : UInt64 := 1
  /-- How many iterations may start each second, if that is limited. -/
  rateLimit : Option UInt64 := none
  /-- The only status that counts as success. -/
  expectedStatus : UInt16 := 200
  /-- The locale of made-up values. -/
  locale : String := "cn"
  /-- How long a round trip may take, in milliseconds. -/
  timeout : UInt64 := 1000
  /-- How many idle connections are kept for each host. -/
  maxIdle : UInt64 := 2048
  /-- Whether to report more. -/
  verbose : Bool := false
  deriving DecidableEq, Repr, Inhabited

namespace Settings

/-- What is wrong with settings, if anything is; the first problem counts. -/
def problem? (s : Settings) : Option Problem :=
  if s.connections = 0 then some .noConnections
  else if s.expectedStatus < 100 ∨ 599 < s.expectedStatus then
    some (.status s.expectedStatus.toNat)
  else if s.rateLimit = some 0 then some .noRate
  else none

/-- Whether the file is to be run more than once. -/
def isBenchmark (s : Settings) : Bool :=
  1 < s.requests

end Settings

/-- The shape of a benchmark. -/
structure Plan where
  /-- The number of workers. -/
  connections : Nat
  /-- The iterations of all workers together. -/
  requests : Nat
  /-- How many iterations may start each second, if that is limited. -/
  rateLimit : Option Nat := none
  /-- Whether to report every failed iteration. -/
  verbose : Bool := false
  deriving DecidableEq, Repr, Inhabited

namespace Plan

/-- The plan that settings ask for. -/
def ofSettings (s : Settings) : Plan where
  connections := s.connections.toNat
  requests := s.requests.toNat
  rateLimit := s.rateLimit.map UInt64.toNat
  verbose := s.verbose

/-- The iterations of each worker. They are the same for all; what is left over is not run. -/
def iterations (p : Plan) : Nat :=
  p.requests / p.connections

/-- What makes a plan impossible, if anything does. -/
def problem? (p : Plan) : Option Problem :=
  if p.connections = 0 then some .planWithoutConnections
  else if p.rateLimit = some 0 then some .planWithoutRate
  else none

end Plan

end Volley
