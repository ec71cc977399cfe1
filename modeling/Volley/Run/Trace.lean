import Volley.RequestFile.Copy
import Volley.Run.Basic

/-!
# Traces

A trace shows the requests and responses of a run as they go on the wire, one after the other. The
body of a request is followed by two line ends and that of a response by one.
-/

namespace Volley

/-- The end of a line on the wire. -/
def lineEnd : String := "\r\n"

/-- The header lines of a message. -/
def headerLines (headers : List Header) : String :=
  String.join (headers.map fun header => header.1 ++ ": " ++ header.2 ++ lineEnd)

/-- A request and its response as they go on the wire. -/
def Exchange.trace (e : Exchange) : String :=
  e.request.method ++ " " ++ e.request.url ++ " HTTP/1.1" ++ lineEnd ++
    headerLines e.request.headers ++ lineEnd ++ e.request.body ++ lineEnd ++ lineEnd ++
    "HTTP/1.1 " ++ toString e.response.status ++ lineEnd ++
    headerLines e.response.headers ++ lineEnd ++ e.response.bodyText ++ lineEnd

/-- The exchanges of a file, in the order of its cases. -/
def RequestFile.exchanges (file : RequestFile) : List Exchange :=
  file.cases.filterMap Case.exchange

/-- What the cases of a file have sent and received. -/
def RequestFile.trace (file : RequestFile) : String :=
  String.join (file.exchanges.map Exchange.trace)

/-- Runs a copy of a file with made-up values, and shows what it sent and received, or what went
wrong.
-/
def RequestFile.traceRun {σ : Type} (mocks : Mock.Registry) (worldOf : String → World)
    (conditions : Conditions σ) (file : RequestFile) (network : σ) : String × σ :=
  let run := (file.copy (some mocks) worldOf true).execute conditions network
  match run.failure with
  | none => (run.file.trace, run.network)
  | some fault => (fault.message, run.network)

end Volley
