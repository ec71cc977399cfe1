import Volley.Disk
import Volley.World

/-!
# Lines of files, read once

A cache keeps the lines of every file that was read. What it has once returned for a path it returns
for ever, whatever happens to the file; a read that fails is not kept, so it can be tried again. Two
spellings of a path that differ only in single dots after its beginning, in repeated slashes and in
slashes at the end are the same path.
-/

namespace Volley

/-- The lines of the files that were read, by path. -/
structure LineCache where
  /-- What was read, by the shared spelling of its path. -/
  entries : Dictionary (List String) := .empty
  deriving Inhabited

namespace LineCache

/-- How many files were read. -/
def size (cache : LineCache) : Nat :=
  cache.entries.entries.length

/-- The lines that are kept of a file. -/
def get? (cache : LineCache) (path : String) : Option (List String) :=
  cache.entries.get? (canonicalPath path)

/-- Keeps lines that were just read, unless the path has some already, and returns those that are
kept.
-/
def keep (cache : LineCache) (path : String) (read : List String) : List String × LineCache :=
  match cache.get? path with
  | some kept => (kept, cache)
  | none => (read, ⟨cache.entries.insert (canonicalPath path) read⟩)

/-- The lines of a file: those that are kept, or else those on the disk, which are then kept. -/
def lines (cache : LineCache) (disk : Disk) (path : String) : Option (List String) × LineCache :=
  match cache.get? path with
  | some kept => (some kept, cache)
  | none =>
    match disk.lines? path with
    | some read =>
      let (kept, cache) := cache.keep path read
      (some kept, cache)
    | none => (none, cache)

/-- A random one of the lines that were found; nothing if there is none. -/
def drawn (chance : Nat) (found : Option (List String)) : String :=
  (found.bind (choose? chance)).getD ""

/-- A random line of a file. -/
def randomLine (cache : LineCache) (disk : Disk) (path : String) (chance : Nat) :
    String × LineCache :=
  let (found, cache) := cache.lines disk path
  (drawn chance found, cache)

end LineCache

end Volley
