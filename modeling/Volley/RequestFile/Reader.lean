import Volley.RequestFile.Basic
import Volley.RequestFile.Line
import Volley.Text.Lines
import Volley.Text.Stream
import Volley.Text.Utf8

/-!
# Reading request files

The lines of a file are read one after the other. A case has three stages: its opening, where
variables may be defined; its headers, from the first of them on; and its body, from the first blank
line after a header on. A separator ends the case from any stage, and the end of the file ends the
last one. Lines of a body are kept as they are.

A file can be read from a text, from a stream of bytes line by line, or from the bytes of a named
file. Reading fails only on bytes that are not text.
-/

namespace Volley

/-- How far the reading of a case has come. -/
inductive Stage where
  /-- Before the first header. -/
  | opening
  /-- Between the first header and the blank line. -/
  | headers
  /-- After the blank line. -/
  | body
  deriving DecidableEq, Repr

/-- A file while it is read: what is complete, and the case that is not. -/
structure Draft where
  /-- The variables defined so far. -/
  bindings : Dictionary String := .empty
  /-- The cases that have ended. -/
  finished : List Case := []
  /-- The case that has not ended, without its body. -/
  current : Case := {}
  /-- Whether that case has its request line; later ones do not count. -/
  hasRequest : Bool := false
  /-- The lines of its body. -/
  bodyLines : List (List Char) := []
  /-- How far that case has come. -/
  stage : Stage := .opening
  deriving Inhabited

namespace Draft

/-- The case that has not ended, with its body. -/
def currentCase (d : Draft) : Case :=
  { d.current with body := "\n".intercalate (d.bodyLines.map String.ofList) }

/-- Ends the current case and begins the next. -/
def endCase (d : Draft) : Draft :=
  { bindings := d.bindings, finished := d.finished ++ [d.currentCase] }

/-- Takes in what a line outside of a body says. -/
def apply (d : Draft) : Line → Draft
  | .separator => d.endCase
  | .definition key value => { d with bindings := d.bindings.insert key value }
  | .name name => { d with current := { d.current with name := some name } }
  | .comment => d
  | .request method url =>
    if d.hasRequest then d
    else { d with current := { d.current with method := method, url := url }, hasRequest := true }
  | .header key value =>
    { d with
      current := { d.current with headers := d.current.headers ++ [(key, value)] }
      stage := .headers }
  | .blank => if d.stage = .headers then { d with stage := .body } else d
  | .other => d

/-- Takes in the next line of the file. -/
def feed (d : Draft) (line : List Char) : Draft :=
  if d.stage = .body then
    if Line.isSeparator line then d.endCase else { d with bodyLines := d.bodyLines ++ [line] }
  else d.apply (Line.read (d.stage == .opening) line)

/-- Takes in the lines of a stream, each as soon as it has been read. -/
def feedChunks (d : Draft) (chunks : List (List UInt8)) : Except Fault Draft :=
  match _h : Text.readLine chunks with
  | ([], _) => .ok d
  | (b :: line, left) =>
    match Text.Utf8.decode? (b :: line) with
    | some text => (d.feed (Text.dropLineEnd text)).feedChunks left
    | none => .error (.stream .notText)
termination_by chunks.flatten.length
decreasing_by
  rw [← Text.readLine_append_flatten chunks, _h, List.length_append, List.length_cons]
  exact Nat.lt_add_of_pos_left (Nat.succ_pos _)

/-- The file, at the end of its lines. -/
def finish (d : Draft) : RequestFile :=
  { bindings := d.endCase.bindings, cases := d.endCase.finished }

end Draft

namespace RequestFile

/-- The file with the given lines. -/
def ofLines (lines : List (List Char)) : RequestFile :=
  (lines.foldl Draft.feed {}).finish

/-- The file of a text. -/
def ofString (text : String) : RequestFile :=
  ofLines (Text.lines text.toList)

/-- The file of a stream that hands out its bytes in chunks. Each line is decoded by itself. -/
def ofChunks (chunks : List (List UInt8)) : Except Fault RequestFile :=
  (({} : Draft).feedChunks chunks).map Draft.finish

/-- The file of a stream that hands out its bytes all at once. -/
def ofStream (bytes : List UInt8) : Except Fault RequestFile :=
  ofChunks [bytes]

/-- The file at a path, which holds the given bytes unless it could not be read. -/
def ofFile (path : String) (content : Except ReadFailure (List UInt8)) : Except Fault RequestFile :=
  match content with
  | .error cause => .error (.file path cause)
  | .ok bytes =>
    match Text.Utf8.decode? bytes with
    | some text => .ok (ofString (String.ofList text))
    | none => .error (.file path .notText)

end RequestFile

end Volley
