import Volley.Report.Basic
import Volley.Report.Quantity

/-!
# Rendering reports

A report is written in one of three ways: with raw numbers or with quantities for the eye, one to a
line under a label, or as indented JSON.
-/

namespace Volley.Report

/-- How a report is written. -/
inductive Format where
  /-- With grouped digits and units. -/
  | human
  /-- With raw numbers. -/
  | plain
  /-- As JSON. -/
  | json
  deriving DecidableEq, Repr, Inhabited

/-- A label, filled up to twenty characters, a colon and a value. -/
def line (label value : String) : String :=
  label ++ String.ofList (List.replicate (20 - label.length) ' ') ++ ": " ++ value ++ "\n"

/-- The lines of times, which both forms for the eye end with; each time is written by `time`. -/
def timeLines (r : Report) (time : Float → String) : String :=
  "\n" ++ line "Avg Time Used" (time r.averageTime) ++ line "Min Time Used" (time r.minTime) ++
    line "Max Time Used" (time r.maxTime) ++
    "\n" ++ line "P50 Time Used" (time r.p50Time) ++ line "P75 Time Used" (time r.p75Time) ++
    line "P90 Time Used" (time r.p90Time) ++ line "P95 Time Used" (time r.p95Time) ++
    line "P99 Time Used" (time r.p99Time)

/-- A report in raw numbers. -/
def plain (r : Report) : String :=
  line "Total Requests" (toString r.totalRequests) ++ line "Concurrency" (toString r.concurrency) ++
    line "Succeeded" (toString r.succeeded) ++ line "Failed" (toString r.failed) ++
    line "Time Used" (Decimal.plain r.totalTime) ++
    line "Requests Per Second" (Decimal.plain r.requestRate) ++
    line "Send Speed" (Decimal.plain r.sendRate) ++
    line "Recv Speed" (Decimal.plain r.receiveRate) ++ r.timeLines Decimal.plain

/-- A report with grouped digits and units. -/
def human (r : Report) : String :=
  line "Total Requests" (Quantity.thousands r.totalRequests) ++
    line "Concurrency" (Quantity.thousands r.concurrency) ++
    line "Succeeded" (Quantity.thousands r.succeeded) ++
    line "Failed" (Quantity.thousands r.failed) ++
    "\n" ++ line "Time Used" (Quantity.duration r.totalTime) ++
    line "Requests Per Second"
      (Quantity.thousands (Quantity.nearestCount r.requestRate) ++ "/s") ++
    line "Send Speed" (Quantity.byteSize r.sendRate ++ "/s") ++
    line "Recv Speed" (Quantity.byteSize r.receiveRate ++ "/s") ++ r.timeLines Quantity.duration

/-- A member of an indented object. -/
def jsonMember (indent name value : String) : String :=
  indent ++ "\"" ++ name ++ "\": " ++ value

/-- An indented object with the given members. -/
def jsonObject (indent : String) (members : List (String × String)) : String :=
  let lines := members.map fun (name, value) => jsonMember (indent ++ "  ") name value
  "\x7b\n" ++ ",\n".intercalate lines ++ "\n" ++ indent ++ "\x7d"

/-- An outcome as an indented object. -/
def statJson (indent : String) (s : Stat) : String :=
  jsonObject indent [
    ("requests", toString s.requests), ("time_consumed", Decimal.compact s.time),
    ("bytes_sent", toString s.sent), ("bytes_received", toString s.received),
    ("succeeded", toString s.succeeded), ("failed", toString s.failed)]

/-- Outcomes as an indented array. -/
def statsJson (indent : String) (stats : List Stat) : String :=
  if stats.isEmpty then "[]"
  else
    let items := stats.map fun s => indent ++ "  " ++ statJson (indent ++ "  ") s
    "[\n" ++ ",\n".intercalate items ++ "\n" ++ indent ++ "]"

/-- A report as indented JSON. -/
def json (r : Report) : String :=
  jsonObject "" [
    ("total_requests", toString r.totalRequests), ("concurrency", toString r.concurrency),
    ("succeeded", toString r.succeeded), ("failed", toString r.failed),
    ("total_sent", toString r.totalSent), ("total_received", toString r.totalReceived),
    ("total_time", Decimal.compact r.totalTime), ("send_rate", Decimal.compact r.sendRate),
    ("recv_rate", Decimal.compact r.receiveRate), ("avg_time", Decimal.compact r.averageTime),
    ("requests_per_second", Decimal.compact r.requestRate),
    ("min_time", Decimal.compact r.minTime), ("max_time", Decimal.compact r.maxTime),
    ("p50_time", Decimal.compact r.p50Time), ("p75_time", Decimal.compact r.p75Time),
    ("p90_time", Decimal.compact r.p90Time), ("p95_time", Decimal.compact r.p95Time),
    ("p99_time", Decimal.compact r.p99Time), ("stats", statsJson "  " r.stats)] ++ "\n"

/-- A report in a format. -/
def render (r : Report) : Format → String
  | .human => r.human
  | .plain => r.plain
  | .json => r.json

end Volley.Report
