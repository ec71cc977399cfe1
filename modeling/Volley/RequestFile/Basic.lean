import Volley.Dictionary
import Volley.Fault
import Volley.Message

/-!
# Request files

A request file has variables and cases. A case is a request with placeholders, and it may hold what
it sent and received when the file was last executed.
-/

namespace Volley

/-- One request of a file, with placeholders in it. -/
structure Case where
  /-- The name by which later cases refer to this one. -/
  name : Option String := none
  /-- The method; a case without one is passed over when the file is executed. -/
  method : String := ""
  /-- The address. -/
  url : String := ""
  /-- The headers, in the order of the file. -/
  headers : List Header := []
  /-- The body. -/
  body : String := ""
  /-- What the case sent and received in the latest execution. -/
  exchange : Option Exchange := none
  deriving DecidableEq, Repr, Inhabited

namespace Case

/-- A case without what it sent and received. -/
def released (c : Case) : Case :=
  { c with exchange := none }

/-- The bytes that a case sent. -/
def requestSize (c : Case) : Nat :=
  match c.exchange with
  | some e => e.request.size
  | none => 0

/-- The bytes that a case received. -/
def responseSize (c : Case) : Nat :=
  match c.exchange with
  | some e => e.response.size
  | none => 0

end Case

/-- A request file. -/
structure RequestFile where
  /-- The variables of the file. -/
  bindings : Dictionary String
  /-- The cases, in the order of the file. -/
  cases : List Case
  /-- Whether a benchmark releases the file once an iteration has been measured. -/
  autoRelease : Bool := false
  deriving DecidableEq, Inhabited

namespace RequestFile

/-- The first case with a name. -/
def findCase? (file : RequestFile) (name : String) : Option Case :=
  file.cases.find? fun c => c.name == some name

/-- The file without what its cases sent and received. -/
def release (file : RequestFile) : RequestFile :=
  { file with cases := file.cases.map Case.released }

/-- Stores what a case sent and received. A place without a case is ignored. -/
def record (file : RequestFile) (index : Nat) (exchange : Exchange) : RequestFile :=
  { file with cases := file.cases.modify index fun c => { c with exchange := some exchange } }

end RequestFile

end Volley
