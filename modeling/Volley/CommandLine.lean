import Volley.Count
import Volley.Report.Render
import Volley.Settings.Basic
import Volley.Text.Integer

/-!
# The command line

Options have a long name, some a short one as well, and all but two flags take a value: in the same
word, after an equals sign or directly after a short name, or as the next word. Short names may
share a word. A value that comes as the next word is looked at only when the next option begins or
the words end, so that a fault found before that hides a fault in the value. An option may be given
once.
-/

namespace Volley

/-- What a command line asks for. -/
structure CommandLine where
  /-- The request file. -/
  input : String := "test.http"
  /-- How a report is written. -/
  output : Report.Format := .human
  /-- The settings of the run. -/
  settings : Settings := {}
  deriving DecidableEq, Repr, Inhabited

namespace CommandLine

/-- An option that takes a value. -/
inductive Parameter where
  /-- The request file. -/
  | input
  /-- The number of workers. -/
  | connections
  /-- The iterations of all workers together. -/
  | requests
  /-- The iterations that may start each second. -/
  | rate
  /-- How a report is written. -/
  | output
  /-- The status that counts as success. -/
  | expectStatus
  /-- The locale of made-up values. -/
  | mocker
  /-- How long a round trip may take. -/
  | timeout
  deriving DecidableEq, Repr

/-- An option. -/
inductive Switch where
  /-- One that takes a value. -/
  | parameter (p : Parameter)
  /-- To report more. -/
  | verbose
  /-- To explain the options. -/
  | help
  /-- To tell the version. -/
  | version
  deriving DecidableEq, Repr

/-- Why a command line is not carried out. -/
inductive Refusal where
  /-- A value is not one that the option understands. -/
  | valueValidation
  /-- A value is missing or empty, or none of the possible ones. -/
  | invalidValue
  /-- A word is no option. -/
  | unknownArgument
  /-- An option is given twice. -/
  | argumentConflict
  /-- A flag is given a value. -/
  | tooManyValues
  /-- The options are to be explained. -/
  | displayHelp
  /-- The version is to be told. -/
  | displayVersion
  deriving DecidableEq, Repr

/-- The option with a long name. -/
def ofLong? (name : List Char) : Option Switch :=
  match String.ofList name with
  | "in" => some (.parameter .input)
  | "connections" => some (.parameter .connections)
  | "requests" => some (.parameter .requests)
  | "rate" => some (.parameter .rate)
  | "output" => some (.parameter .output)
  | "expect-status" => some (.parameter .expectStatus)
  | "mocker" => some (.parameter .mocker)
  | "timeout-ms" => some (.parameter .timeout)
  | "verbose" => some .verbose
  | "help" => some .help
  | "version" => some .version
  | _ => none

/-- The option with a short name. -/
def ofShort? (name : Char) : Option Switch :=
  match name with
  | 'i' => some (.parameter .input)
  | 'c' => some (.parameter .connections)
  | 'n' => some (.parameter .requests)
  | 'r' => some (.parameter .rate)
  | 'm' => some (.parameter .output)
  | 'v' => some .verbose
  | 'h' => some .help
  | 'V' => some .version
  | _ => none

/-- A natural number below 2 to the 64: digits, and a plus sign before them if one likes. -/
def unsigned? (s : List Char) : Option Nat :=
  let n := match s with
    | '+' :: rest => Text.natural? rest
    | s => Text.natural? s
  n.filter fun n => decide (n < word64Bound)

/-- A number of 64 bits. -/
def word (s : List Char) : Except Refusal UInt64 :=
  match unsigned? s with
  | some n => .ok (UInt64.ofNat n)
  | none => .error .valueValidation

/-- A number of 64 bits that is not zero. -/
def positiveWord (s : List Char) : Except Refusal UInt64 :=
  match unsigned? s with
  | some 0 | none => .error .valueValidation
  | some n => .ok (UInt64.ofNat n)

/-- A status: an integer between 0 and 65535. -/
def statusWord (s : List Char) : Except Refusal UInt16 :=
  match Text.int64? s with
  | some n =>
    if 0 ≤ n ∧ n < word16Bound then .ok (UInt16.ofNat n.toNat) else .error .valueValidation
  | none => .error .valueValidation

/-- The name of a report format. -/
def formatNamed (s : List Char) : Except Refusal Report.Format :=
  match String.ofList s with
  | "human" => .ok .human
  | "plain" => .ok .plain
  | "json" => .ok .json
  | _ => .error .invalidValue

/-- Gives a parameter its value. -/
def assign (c : CommandLine) (p : Parameter) (value : List Char) : Except Refusal CommandLine :=
  match p with
  | .input =>
    if value.isEmpty then .error .invalidValue else .ok { c with input := String.ofList value }
  | .connections => do
    let n ← positiveWord value
    return { c with settings := { c.settings with connections := n } }
  | .requests => do
    let n ← word value
    return { c with settings := { c.settings with requests := n } }
  | .rate => do
    let n ← positiveWord value
    return { c with settings := { c.settings with rateLimit := some n } }
  | .output => do
    let format ← formatNamed value
    return { c with output := format }
  | .expectStatus => do
    let n ← statusWord value
    return { c with settings := { c.settings with expectedStatus := n } }
  | .mocker => .ok { c with settings := { c.settings with locale := String.ofList value } }
  | .timeout => do
    let n ← positiveWord value
    return { c with settings := { c.settings with timeout := n } }

/-- A command line while it is read. -/
structure Progress where
  /-- What it asks for so far. -/
  result : CommandLine := {}
  /-- The options given so far. -/
  given : List Switch := []
  /-- An option that waits for its value, and the value if it has come. -/
  pending : Option (Parameter × Option (List Char)) := none
  deriving Inhabited

namespace Progress

/-- Gives an option its value, if the option is given for the first time. -/
def accept (s : Progress) (p : Parameter) (value : List Char) : Except Refusal Progress :=
  if .parameter p ∈ s.given then .error .argumentConflict
  else do
    let result ← s.result.assign p value
    return { result := result, given := .parameter p :: s.given, pending := none }

/-- Settles the option that waits. -/
def settle (s : Progress) : Except Refusal Progress :=
  match s.pending with
  | none => .ok s
  | some (_, none) => .error .invalidValue
  | some (p, some value) => { s with pending := none }.accept p value

/-- Takes in an option, with a value if one stands in the same word. -/
def take (s : Progress) (switch : Switch) (value : Option (List Char)) :
    Except Refusal Progress := do
  let s ← s.settle
  match switch, value with
  | .parameter p, none => .ok { s with pending := some (p, none) }
  | .parameter p, some value => s.accept p value
  | .verbose, _ =>
    if .verbose ∈ s.given then .error .argumentConflict
    else .ok { s with
      result := { s.result with settings := { s.result.settings with verbose := true } }
      given := .verbose :: s.given }
  | .help, _ => .error .displayHelp
  | .version, _ => .error .displayVersion

/-- Takes in the short names of a word. The first that takes a value takes the rest of the word for
it, without an equals sign at its start; an empty rest is no value. -/
def takeShorts (s : Progress) : List Char → Except Refusal Progress
  | [] => .ok s
  | name :: rest =>
    match ofShort? name with
    | none => .error .unknownArgument
    | some (.parameter p) =>
      match rest with
      | [] => s.take (.parameter p) none
      | '=' :: value => s.take (.parameter p) (some value)
      | value => s.take (.parameter p) (some value)
    | some switch => do
      let s ← s.take switch none
      s.takeShorts rest

/-- Takes in a word with a long name. -/
def takeLong (s : Progress) (word : List Char) : Except Refusal Progress :=
  let name := word.takeWhile (· != '=')
  let value := match word.dropWhile (· != '=') with
    | [] => none
    | _ :: value => some value
  match ofLong? name, value with
  | none, _ => .error .unknownArgument
  | some (.parameter p), value => s.take (.parameter p) value
  | some _, some _ => .error .tooManyValues
  | some switch, none => s.take switch none

/-- Takes in a word that is no option: a value for an option that waits for one. -/
def takeValue (s : Progress) (word : List Char) : Except Refusal Progress :=
  match s.pending with
  | some (p, none) => .ok { s with pending := some (p, some word) }
  | _ => .error .unknownArgument

/-- Takes in a word. A single hyphen is no option. -/
def takeWord (s : Progress) (word : List Char) : Except Refusal Progress :=
  match word with
  | '-' :: '-' :: rest => s.takeLong rest
  | ['-'] => s.takeValue word
  | '-' :: rest => s.takeShorts rest
  | _ => s.takeValue word

/-- Takes in the words of a command line. After two hyphens no word is an option, and none is
wanted. -/
def takeWords (s : Progress) : List (List Char) → Except Refusal Progress
  | [] => s.settle
  | ['-', '-'] :: rest => if rest.isEmpty then s.settle else .error .unknownArgument
  | word :: rest => do
    let s ← s.takeWord word
    s.takeWords rest

end Progress

/-- Reads a command line, without the name of the program. -/
def parse (words : List String) : Except Refusal CommandLine := do
  let s ← Progress.takeWords {} (words.map String.toList)
  return s.result

end CommandLine

end Volley
