import Volley.Mock.Registry
import Volley.RequestFile.Basic
import Volley.Template

/-!
# Copies of request files

A copy is made for one isolated run. The values of its variables may be made up, and its templates
may be filled in with the variables right away, so that one value stands for a variable throughout
the run. Headers are left for the run, like everything that is no variable.
-/

namespace Volley.RequestFile

/-- The variables of a copy. Each value is made up in a world of its own. -/
def copiedBindings (mocks : Option Mock.Registry) (worldOf : String → World) (file : RequestFile) :
    Dictionary String :=
  match mocks with
  | some registry => file.bindings.mapWithKey fun name given =>
      registry.value (worldOf name) name given
  | none => file.bindings

/-- A case whose method, address and body are filled in by a resolver. -/
def expandCase (resolver : Resolver) (c : Case) : Case :=
  { c with
    method := substitute resolver c.method
    url := substitute resolver c.url
    body := substitute resolver c.body }

/-- A copy of a file for one run, with made-up values if there is a registry for them, and with its
templates expanded by its own variables if asked for. It holds nothing that was sent or received. -/
def copy (mocks : Option Mock.Registry) (worldOf : String → World) (expand : Bool)
    (file : RequestFile) : RequestFile :=
  let bindings := file.copiedBindings mocks worldOf
  let cases := file.cases.map Case.released
  { bindings := bindings
    cases := if expand then cases.map (expandCase bindings.get?) else cases
    autoRelease := true }

end Volley.RequestFile
