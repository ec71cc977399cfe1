import Volley.Dictionary
import Volley.Fault
import Volley.Text.Cut
import Volley.Text.Lines
import Volley.Text.Utf8

/-!
# Files on a disk

A path names folders from the root, or from the folder at hand, to a file. On this disk one folder
has files, and the folders on the way to it have nothing else; from any other folder no path leads
to a file. `Disk.find` follows a path and says where it goes wrong, if it does: a name is taken
within the folder that was reached, so only a path whose folders exist can have a name that is too
long.
-/

namespace Volley

/-- Whether a part of a path between slashes counts for what the path is: not if it is empty or a
single dot. -/
def isPathPart (part : List Char) : Bool :=
  !part.isEmpty && part != ['.']

/-- The parts of a path that tell it from other paths. A single dot counts where the path begins
with it, and only there. -/
def pathParts (path : List Char) : List (List Char) :=
  match Text.split (· = '/') path with
  | ['.'] :: rest => ['.'] :: rest.filter isPathPart
  | parts => parts.filter isPathPart

/-- A path in the one spelling that all of its spellings share. -/
def canonicalPath (path : String) : String :=
  let parts := "/".intercalate ((pathParts path.toList).map String.ofList)
  if path.toList.head? = some '/' then "/" ++ parts else parts

/-- A disk with files in one folder. -/
structure Disk where
  /-- The names of the folders on the way from the root to the one with the files. -/
  place : List String := []
  /-- The names of the folders on the way from the root to the one at hand. -/
  here : List String := []
  /-- The bytes of each file. -/
  files : Dictionary (List UInt8) := .empty
  deriving Inhabited

namespace Disk

/-- What a path leads to. -/
inductive Node where
  /-- A folder, by the names on the way to it. -/
  | folder (names : List String)
  /-- A file. -/
  | file (bytes : List UInt8)
  deriving DecidableEq, Repr, Inhabited

/-- The most bytes of a name. -/
def mostNameBytes : Nat := 255

/-- The most bytes of a path. -/
def mostPathBytes : Nat := 4095

/-- What a name leads to from a folder. -/
def child (disk : Disk) (names : List String) (name : String) : Except ReadFailure Node :=
  if mostNameBytes < name.utf8ByteSize then .error .tooLong
  else if names = disk.place then
    match disk.files.get? name with
    | some bytes => .ok (.file bytes)
    | none => .error .missing
  else if (names ++ [name]).isPrefixOf disk.place then .ok (.folder (names ++ [name]))
  else .error .missing

/-- One step of a path. No step leads on from a file. -/
def step (disk : Disk) : Node → List Char → Except ReadFailure Node
  | .file _, _ => .error .noFolder
  | .folder names, ['.'] => .ok (.folder names)
  | .folder names, ['.', '.'] => .ok (.folder names.dropLast)
  | .folder names, part => disk.child names (String.ofList part)

/-- The steps of a path. A slash at its end asks for a folder, as a single dot does. -/
def steps (path : List Char) : List (List Char) :=
  (Text.split (· = '/') path).filter (fun part => !part.isEmpty) ++
    (if path.getLast? = some '/' then [['.']] else [])

/-- The folder that a path starts from. -/
def start (disk : Disk) (path : List Char) : Node :=
  .folder (if path.head? = some '/' then [] else disk.here)

/-- What is wrong with the text of a path, if so. -/
def pathFailure? (path : String) : Option ReadFailure :=
  if path.toList.contains '\x00' then some .noPath
  else if mostPathBytes < path.utf8ByteSize then some .tooLong
  else if path.isEmpty then some .missing
  else none

/-- What a path leads to. -/
def find (disk : Disk) (path : String) : Except ReadFailure Node :=
  match pathFailure? path with
  | some failure => .error failure
  | none => (steps path.toList).foldlM disk.step (disk.start path.toList)

/-- The bytes of a file. -/
def read (disk : Disk) (path : String) : Except ReadFailure (List UInt8) :=
  match disk.find path with
  | .ok (.file bytes) => .ok bytes
  | .ok (.folder _) => .error .noFile
  | .error failure => .error failure

/-- The name that a file at a path has in the folder with the files, if it can be there. -/
def fileName? (disk : Disk) (path : String) : Option String := do
  if (pathFailure? path).isSome then none
  let parts := steps path.toList
  let name := String.ofList (← parts.getLast?)
  match parts.dropLast.foldlM disk.step (disk.start path.toList) with
  | .ok (.folder names) =>
    if names = disk.place ∧ name ≠ "." ∧ name ≠ ".." ∧ name.utf8ByteSize ≤ mostNameBytes then
      some name
    else none
  | _ => none

/-- Puts a file onto the disk, if the path can be one of a file. -/
def write? (disk : Disk) (path : String) (bytes : List UInt8) : Option Disk :=
  (disk.fileName? path).map fun name => { disk with files := disk.files.insert name bytes }

/-- Takes a file off the disk, if it is there. -/
def delete? (disk : Disk) (path : String) : Option Disk := do
  let name ← disk.fileName? path
  if (disk.files.get? name).isSome then some { disk with files := disk.files.erase name } else none

/-- The lines of a file, if it is there and holds text. -/
def lines? (disk : Disk) (path : String) : Option (List String) :=
  match disk.read path with
  | .ok bytes => (Text.Utf8.decode? bytes).map fun text => (Text.lines text).map String.ofList
  | .error _ => none

end Disk

end Volley
