import Volley.RequestFile.Lookup
import Volley.Run.Prepared

/-!
# Runs

A run executes the cases of a file in their order. Each case is prepared with what the earlier ones
have received, then sent, and what came back is recorded in the file, whatever its status. The first
case that gets no response, or one with another status than the expected one, ends the run. Cases
without a method are passed over.

The network is a parameter: any function from a request and a state to an outcome and the next
state.
-/

namespace Volley

/-- The circumstances of a run: what is asked before the file, what the built-in functions give at
every site of every case, the status that counts as success, and how requests are sent. -/
structure Conditions (σ : Type) where
  /-- The resolvers that are asked before the file. -/
  extra : List Resolver := []
  /-- The built-in functions at a site of a case. -/
  builtins : Nat → Site → Resolver
  /-- The only status that counts as success. -/
  expected : Nat
  /-- Sends a request. -/
  send : Request → σ → Except Fault Response × σ

/-- A run of a file, as far as it has come. -/
structure Run (σ : Type) where
  /-- The file with what was recorded in it. -/
  file : RequestFile
  /-- The state of the network. -/
  network : σ
  /-- The requests that were given to the network, in their order. -/
  sent : List Request := []
  /-- What ended the run early. -/
  failure : Option Fault := none

namespace Run

variable {σ : Type}

/-- The request of a case in the present state of the file. -/
def request (conditions : Conditions σ) (file : RequestFile) (index : Nat) (c : Case) : Request :=
  c.prepareAt fun site =>
    Resolver.chain (conditions.extra ++ [file.lookup (conditions.builtins index site)])

/-- The fault of a response with another status than the expected one. -/
def statusFault? (expected : Nat) (request : Request) (response : Response) : Option Fault :=
  if response.status = expected then none
  else some (.status request.method request.url response.status expected)

/-- Executes the case at a place, unless the run has ended. -/
def advance (conditions : Conditions σ) (run : Run σ) (index : Nat) : Run σ :=
  match run.failure, run.file.cases[index]? with
  | none, some c =>
    if c.method.isEmpty then run
    else
      let request := Run.request conditions run.file index c
      let (outcome, network) := conditions.send request run.network
      let run := { run with network := network, sent := run.sent ++ [request] }
      match outcome with
      | .error fault => { run with failure := some fault }
      | .ok response =>
        { run with
          file := run.file.record index ⟨request, response⟩
          failure := statusFault? conditions.expected request response }
  | _, _ => run

/-- Whether a run has not been ended early. -/
def isSuccess (run : Run σ) : Bool :=
  run.failure.isNone

end Run

/-- Executes a file. What an earlier run recorded in it is dropped first. -/
def RequestFile.execute {σ : Type} (conditions : Conditions σ) (file : RequestFile) (network : σ) :
    Run σ :=
  (List.range file.cases.length).foldl (Run.advance conditions) ⟨file.release, network, [], none⟩

end Volley
