import Volley.Json.Spelled
import Volley.Settings.Document

/-!
# Excerpts of settings

An object may give some parts of settings and leave others out, in any order and among members that
are no parts of settings at all. `IsExcerpt` says that what it gives are parts of certain settings,
and `keep` what settings it then stands for: these where it has the part, and the default elsewhere.
-/

namespace Volley.Settings

open Json

/-- The names of the parts of settings. -/
def partNames : List String := [
  "connections", "requests", "rate_limit", "expected_status", "mocker", "timeout_ms",
  "max_idle_per_host", "verbose"]

/-- The parts with the given names, and the default for every other part. -/
def keep (s : Settings) (names : List String) : Settings :=
  let default : Settings := {}
  { connections := if "connections" ∈ names then s.connections else default.connections
    requests := if "requests" ∈ names then s.requests else default.requests
    rateLimit := if "rate_limit" ∈ names then s.rateLimit else default.rateLimit
    expectedStatus :=
      if "expected_status" ∈ names then s.expectedStatus else default.expectedStatus
    locale := if "mocker" ∈ names then s.locale else default.locale
    timeout := if "timeout_ms" ∈ names then s.timeout else default.timeout
    maxIdle := if "max_idle_per_host" ∈ names then s.maxIdle else default.maxIdle
    verbose := if "verbose" ∈ names then s.verbose else default.verbose }

/-- Members of an object of which those that are named like a part of settings are parts of these
settings. Nothing is said of the others. -/
structure IsExcerpt (s : Settings) (members : List (String × Written)) : Prop where
  /-- No part is given twice. -/
  once : ∀ name ∈ partNames, (members.map Prod.fst).count name ≤ 1
  /-- A part has the value that it has in the JSON text of the settings. -/
  value : ∀ m ∈ members, m.1 ∈ partNames → ∃ value, (m.1, value) ∈ s.members ∧
    m.2.value? = some value

end Volley.Settings
