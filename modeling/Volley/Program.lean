import Volley.Bench.Schedule
import Volley.Builtin
import Volley.CommandLine
import Volley.RequestFile.Reader
import Volley.Run.Trace

/-!
# The program

What a command line comes to: the request file is run once and shown as a trace, or run many times
and summed up in a report. Everything here is a function of the file, the clock, chance and the
network; the command line itself only reads and prints.
-/

namespace Volley.Program

variable {σ : Type}

/-- Where the made-up values of a program come from. -/
def registry (settings : Settings) : Mock.Registry :=
  Mock.Registry.builtin.withLocale settings.locale

/-- The request file of a program, whose settings must make sense. -/
def load (c : CommandLine) (content : Except ReadFailure (List UInt8)) :
    Except Fault RequestFile :=
  match c.settings.problem? with
  | some problem => .error (.invalid problem)
  | none => RequestFile.ofFile c.input content

/-- The trace of a single run. -/
def trace (c : CommandLine) (file : RequestFile) (draw : Bench.Draw)
    (send : Request → σ → Except Fault Response × σ) (network : σ) : String :=
  let conditions : Conditions σ := {
    builtins := draw.builtins
    expected := c.settings.expectedStatus.toNat
    send := send }
  (file.traceRun (registry c.settings) draw.worldOf conditions network).1

/-- The benchmark of a file. -/
def bench (c : CommandLine) (file : RequestFile) (send : Request → σ → Except Fault Response × σ) :
    Bench σ where
  file := file
  mocks := registry c.settings
  plan := Plan.ofSettings c.settings
  expected := c.settings.expectedStatus.toNat
  send := send

/-- The texts of a file in which there may be placeholders. -/
def templates (file : RequestFile) : List String :=
  file.bindings.entries.map (·.2) ++ file.cases.flatMap fun c =>
    [c.method, c.url, c.body] ++ c.headers.map (·.2)

/-- The path that a placeholder takes a random line from, if it takes one. -/
def linesPath? : Piece → Option String
  | .char _ => none
  | .slot inner => Builtin.linesPath? (String.ofList inner)

/-- The files whose lines the placeholders of a file take. -/
def linesPaths (file : RequestFile) : List String :=
  (templates file).flatMap fun text => (Template.pieces text.toList).filterMap linesPath?

/-- A text with a line end at its end. -/
def printed (text : String) : String :=
  if text.toList.getLast? = some '\n' then text else text ++ "\n"

/-- The description of the options. -/
def usage : String :=
  "Runs the requests of a file, once or as a benchmark.\n\n" ++
  "  -i, --in FILE               the request file (test.http)\n" ++
  "  -c, --connections N         the number of workers (1)\n" ++
  "  -n, --requests N            the iterations of all workers together (1)\n" ++
  "  -r, --rate N                the iterations that may start each second\n" ++
  "  -m, --output FORMAT         the form of a report: human, plain or json (human)\n" ++
  "      --expect-status STATUS  the status that counts as success (200)\n" ++
  "      --mocker LOCALE         the locale of made-up values (cn)\n" ++
  "      --timeout-ms N          how long a round trip may take (1000)\n" ++
  "  -v, --verbose               report more\n" ++
  "  -h, --help                  describe the options\n" ++
  "  -V, --version               tell the version\n"

/-- The wording of a refusal. -/
def refusalText : CommandLine.Refusal → String
  | .valueValidation => "a value is not one that its option understands"
  | .invalidValue => "a value is missing or none of the possible ones"
  | .unknownArgument => "a word is no option"
  | .argumentConflict => "an option is given twice"
  | .tooManyValues => "an option that takes no value is given one"
  | .displayHelp => usage
  | .displayVersion => "volley 0.1.0"

end Volley.Program
