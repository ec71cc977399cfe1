import Volley.RequestFile.Copy
import Volley.Run.Basic

/-!
# Sessions

Files are worked with side by side. They are executed and released, copies of them are made, and
their variables and templates are changed, in any order. What has been done is a list of operations,
and `replay` gives the files that it leads to. A file is known by its slot, which it keeps; a copy
is a file of its own.

The operations are all there are: the cases of a file stay in their order, and what a case holds is
written by executions alone.
-/

namespace Volley

/-- Replaces the template of a case. What the case holds is kept. -/
def RequestFile.setTemplate (file : RequestFile) (place : Nat) (template : Case) : RequestFile :=
  { file with cases := file.cases.modify place fun c => { template with exchange := c.exchange } }

/-- What can be done with the files of a session. An operation on a slot without a file does
nothing. -/
inductive Operation (σ : Type) where
  /-- Adds a file that has just been read or put together. -/
  | add (file : RequestFile)
  /-- Executes a file, under any circumstances. -/
  | execute (slot : Nat) (conditions : Conditions σ) (network : σ)
  /-- Releases a file. -/
  | release (slot : Nat)
  /-- Adds a copy of a file. -/
  | copy (slot : Nat) (mocks : Option Mock.Registry) (worldOf : String → World) (expand : Bool)
  /-- Replaces the variables of a file. -/
  | setBindings (slot : Nat) (bindings : Dictionary String)
  /-- Replaces the template of a case. -/
  | setTemplate (slot place : Nat) (template : Case)

namespace Operation

variable {σ : Type}

/-- The files after an operation. -/
def apply (files : List RequestFile) : Operation σ → List RequestFile
  | .add file => files ++ [file.release]
  | .execute slot conditions network =>
    files.modify slot fun file => (file.execute conditions network).file
  | .release slot => files.modify slot RequestFile.release
  | .copy slot mocks worldOf expand =>
    files ++ (files[slot]?.map (RequestFile.copy mocks worldOf expand)).toList
  | .setBindings slot bindings => files.modify slot fun file => { file with bindings := bindings }
  | .setTemplate slot place template =>
    files.modify slot fun file => file.setTemplate place template

/-- Whether an operation drops what the cases of the file in a slot hold. -/
def drops (slot : Nat) : Operation σ → Bool
  | .execute executed _ _ => executed = slot
  | .release released => released = slot
  | _ => false

end Operation

/-- The files that operations lead to, one after the other. -/
def replay {σ : Type} (history : List (Operation σ)) : List RequestFile :=
  history.foldl Operation.apply []

end Volley
