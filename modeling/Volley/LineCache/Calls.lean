import Volley.LineCache

/-!
# Calls on a shared cache

Files change while their lines are asked for. In a history (`Event`) one thing happens after the
other. Calls of several threads overlap, though: a call looks for lines that are kept, reads the
file if there are none, and settles with the cache what it has read, and between these steps
anything can happen (`Action`). Only within one of the steps a call has the cache for itself.
-/

namespace Volley

/-- A change of the files on a disk. -/
inductive FileChange where
  /-- A file is written. -/
  | write (path : String) (bytes : List UInt8)
  /-- A file is deleted. -/
  | delete (path : String)
  deriving DecidableEq, Repr

/-- The disk after a change; one that fails leaves it as it is. -/
def FileChange.apply (disk : Disk) : FileChange → Disk
  | .write path bytes => (disk.write? path bytes).getD disk
  | .delete path => (disk.delete? path).getD disk

namespace LineCache

/-! ## One after the other -/

/-- What happens to the files and the cache in a history. -/
inductive Event where
  /-- A file changes. -/
  | change (change : FileChange)
  /-- The lines of a file are asked for. -/
  | lines (path : String)
  /-- A random line of a file is asked for. -/
  | random (path : String) (chance : Nat)
  deriving DecidableEq, Repr

/-- A disk with a cache of its files. -/
structure Store where
  /-- The disk. -/
  disk : Disk
  /-- The cache. -/
  cache : LineCache := {}

namespace Store

/-- The lines of a file, and the cache after asking for them. -/
def lines (s : Store) (path : String) : Option (List String) × LineCache :=
  s.cache.lines s.disk path

/-- A random line of a file, and the cache after asking for it. -/
def randomLine (s : Store) (path : String) (chance : Nat) : String × LineCache :=
  s.cache.randomLine s.disk path chance

/-- Disk and cache after an event. -/
def after (s : Store) : Event → Store
  | .change change => { s with disk := change.apply s.disk }
  | .lines path => { s with cache := (s.lines path).2 }
  | .random path chance => { s with cache := (s.randomLine path chance).2 }

/-- Disk and cache after a history. -/
def afterAll (s : Store) (history : List Event) : Store :=
  history.foldl after s

end Store

/-! ## Side by side -/

/-- How far a call has come. -/
inductive Phase where
  /-- It is about to look for lines that are kept. -/
  | looking
  /-- It is about to read the file. -/
  | reading
  /-- It is about to settle with the cache what it has read. -/
  | settling (read : List String)
  /-- It has returned. -/
  | done (found : Option (List String))
  deriving DecidableEq, Repr

/-- A call for the lines of a file. -/
structure Call where
  /-- The path of the file. -/
  path : String
  /-- How far the call has come. -/
  phase : Phase := .looking
  deriving DecidableEq, Repr

/-- The next step of a call, and the cache after it. -/
def Call.step (disk : Disk) (cache : LineCache) (call : Call) : Call × LineCache :=
  match call.phase with
  | .looking =>
    match cache.get? call.path with
    | some kept => ({ call with phase := .done (some kept) }, cache)
    | none => ({ call with phase := .reading }, cache)
  | .reading =>
    match disk.lines? call.path with
    | some read => ({ call with phase := .settling read }, cache)
    | none => ({ call with phase := .done none }, cache)
  | .settling read =>
    let (kept, cache) := cache.keep call.path read
    ({ call with phase := .done (some kept) }, cache)
  | .done _ => (call, cache)

/-- What happens to the files and the cache while calls overlap. -/
inductive Action where
  /-- A file changes. -/
  | change (change : FileChange)
  /-- A call begins. -/
  | begin (path : String)
  /-- The call with a number takes its next step. -/
  | step (number : Nat)
  deriving DecidableEq, Repr

/-- A disk with a cache of its files and the calls on it, in the order in which they began. -/
structure Shared where
  /-- The disk. -/
  disk : Disk
  /-- The cache. -/
  cache : LineCache := {}
  /-- The calls; the number of a call is its place. -/
  calls : List Call := []

namespace Shared

/-- Disk, cache and calls after an action. A step of a call that has not begun is none. -/
def act (s : Shared) : Action → Shared
  | .change change => { s with disk := change.apply s.disk }
  | .begin path => { s with calls := s.calls ++ [{ path := path }] }
  | .step number =>
    match s.calls[number]? with
    | some call =>
      let (call, cache) := call.step s.disk s.cache
      { s with cache := cache, calls := s.calls.set number call }
    | none => s

/-- Disk, cache and calls after actions. -/
def run (s : Shared) (actions : List Action) : Shared :=
  actions.foldl act s

end Shared

end LineCache

end Volley
