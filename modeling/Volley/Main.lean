import Std.Time.Format
import Volley.LineCache
import Volley.Network.Basic
import Volley.Program

/-!
# The command line program

Reads the arguments, the request file and the clock, and prints what the library makes of them.
There are no sockets here: the network is one whose hosts cannot be reached.
-/

namespace Volley.Main

/-- The bytes of a file, if it can be read. -/
def contentOf (path : String) : IO (Except ReadFailure (List UInt8)) := do
  try
    return .ok (← IO.FS.readBinFile path).data.toList
  catch failure =>
    match failure with
    | .noFileOrDirectory .. => return .error .missing
    | other => return .error (.other (toString other))

/-- The lines of the files at some paths, each read once. -/
def readLines (paths : List String) : IO LineCache :=
  paths.foldlM (fun (cache : LineCache) path => do
    match (← contentOf path).toOption.bind Text.Utf8.decode? with
    | some text => return (cache.keep path ((Text.lines text).map String.ofList)).2
    | none => return cache) {}

/-- The zones of a place by its rules: those of its past, and those that return every year. -/
def timeZone (rules : Std.Time.TimeZone.ZoneRules) : Calendar.TimeZone :=
  let recurring := match rules.transitionRule with
    | some rule => rule.stdOffset :: (rule.dst.map (·.offset)).toList
    | none => []
  let past := rules.transitions.toList.map (·.localTimeType.gmtOffset)
  .among rules.initialLocalTimeType.gmtOffset.second.val ((past ++ recurring).map (·.second.val))
    fun s =>
      (rules.findLocalTimeTypeForTimestamp (.ofSecondsSinceUnixEpoch ⟨s⟩)).gmtOffset.second.val

/-- The present world. -/
def world (cache : LineCache) : IO World := do
  let now ← Std.Time.Timestamp.now
  let rules ← Std.Time.Database.defaultGetLocalZoneRules
  let nanos := now.toNanosecondsSinceUnixEpoch.val
  let seed := (← IO.getRandomBytes 8).data.toList.foldl (fun n b => n * 256 + b.toNat) 0
  return {
    now := ⟨nanos.fdiv 1000000000, (nanos.fmod 1000000000).toNat⟩
    zone := timeZone rules
    chance := fun k => (seed + k + 1) * 6364136223846793005 / 0x100000
    linesOf := cache.get? }

/-- A number for a part of a case, another one for each. -/
def partNumber : CasePart → Nat
  | .method => 0
  | .url => 1
  | .body => 2
  | .header place => 3 + place

/-- The draw of an iteration: every variable and every placeholder has its own chance. -/
def drawOf (w : World) (worker turn : Nat) : Bench.Draw :=
  let shifted (offset : Nat) : World :=
    { w with chance := fun k => w.chance (((worker * 1048583 + turn) * 1048583 + offset) * 64 + k) }
  { worldOf := fun name => shifted (hash name).toNat
    builtins := fun index site => Builtin.evaluate
      (shifted ((index * 1031 + partNumber site.part) * 65537 + site.piece)) }

/-- Carries out a command line; the result is what the program exits with. -/
def perform (c : CommandLine) : IO UInt32 := do
  match Program.load c (← contentOf c.input) with
  | .error fault =>
    IO.eprintln ("volley: " ++ fault.message)
    return 1
  | .ok file =>
    let w ← world (← readLines (Program.linesPaths file))
    let network : Network := { isUp := false }
    if c.settings.isBenchmark then
      let started ← IO.monoNanosNow
      let bench := Program.bench c file Network.send
      match bench.run (drawOf w) false network with
      | .error fault =>
        IO.eprintln ("volley: " ++ fault.message)
        return 1
      | .ok state =>
        let finished ← IO.monoNanosNow
        let report := bench.report state (finished - started)
        IO.print (Program.printed (report.render c.output))
        return 0
    else
      IO.print (Program.printed (Program.trace c file (drawOf w 0 0) Network.send network))
      return 0

end Volley.Main

/-- The program. -/
def main (arguments : List String) : IO UInt32 := do
  match Volley.CommandLine.parse arguments with
  | .ok c => Volley.Main.perform c
  | .error refusal =>
    let text := Volley.Program.printed (Volley.Program.refusalText refusal)
    match refusal with
    | .displayHelp | .displayVersion =>
      IO.print text
      return 0
    | _ =>
      IO.eprint ("volley: " ++ text)
      return 2
