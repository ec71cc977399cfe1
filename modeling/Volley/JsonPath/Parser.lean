import Volley.JsonPath.Basic
import Volley.Text.Cut
import Volley.Text.Integer
import Volley.Text.White

/-!
# Reading paths

The text of a path may be wrapped in braces and may begin with a dollar sign. Its segments have no
separators of their own: a dot introduces a name or a star, two dots a descent, and a bracket a
quoted name, a position or a star. A text that begins with neither a dollar sign, a dot nor a
bracket begins with a name.

Every reader of a segment returns a shorter rest, which is why `steps` ends.
-/

namespace Volley.JsonPath

/-- Whether a character ends an unquoted name. -/
def endsName (c : Char) : Bool :=
  c = '.' || c = '['

/-- The name at the start of a text, which ends before a dot or an opening bracket. -/
def splitName (s : List Char) : List Char × List Char :=
  (s.takeWhile (!endsName ·), s.dropWhile (!endsName ·))

/-- What follows a dot: a star or a name. -/
def dotted (s : List Char) : Except PathError (Selector × List Char) :=
  match s with
  | '*' :: rest => .ok (.wildcard, rest)
  | s =>
    match splitName s with
    | ([], _) => .error .emptySegment
    | (name, rest) => .ok (.name (String.ofList name), rest)

/-- A name in quotes and the closing bracket, after the opening quote. -/
def quotedName (quote : Char) (s : List Char) : Except PathError (Selector × List Char) :=
  match Text.cut? [quote] s with
  | none => .error .unclosedBracket
  | some (name, ']' :: rest) => .ok (.name (String.ofList name), rest)
  | some _ => .error .unclosedBracket

/-- What stands between two brackets without quotes: a star or a position. -/
def unquotedSelector (content : List Char) : Except PathError Selector :=
  if content = ['*'] then .ok .wildcard
  else
    match Text.int64? content with
    | some n => .ok (.index n)
    | none => .error (.invalidSelector (String.ofList content))

/-- What follows an opening bracket, up to and with the closing one. A quote counts only right after
the bracket. -/
def bracket (s : List Char) : Except PathError (Selector × List Char) :=
  match s with
  | '\'' :: rest => quotedName '\'' rest
  | '\"' :: rest => quotedName '\"' rest
  | s =>
    match Text.cut? [']'] s with
    | none => .error .unclosedBracket
    | some (content, rest) => do
      let selector ← unquotedSelector (Text.trim content)
      return (selector, rest)

/-- The first segment of a text that has one. -/
def segment (s : List Char) : Except PathError (Step × List Char) :=
  match s with
  | '.' :: '.' :: '[' :: rest => do
    let (selector, rest) ← bracket rest
    return (.descendant selector, rest)
  | '.' :: '.' :: rest => do
    let (selector, rest) ← dotted rest
    return (.descendant selector, rest)
  | '.' :: rest => do
    let (selector, rest) ← dotted rest
    return (.child selector, rest)
  | '[' :: rest => do
    let (selector, rest) ← bracket rest
    return (.child selector, rest)
  | c :: _ => .error (.unexpected c)
  | [] => .error .emptySegment

/-- The segments of a text, to its end. Each takes at least one character, so as many as the text
has characters suffice. -/
def segments : Nat → List Char → Except PathError (List Step)
  | _, [] => .ok []
  | 0, c :: _ => .error (.unexpected c)
  | fuel + 1, s => do
    let (step, rest) ← segment s
    let later ← segments fuel rest
    return step :: later

/-- The text inside a pair of braces around the whole of it, or the text itself; white space around
either does not count. -/
def unwrap (s : List Char) : List Char :=
  let s := Text.trim s
  match (Text.dropStart? ['\x7b'] s).bind (Text.dropStop? ['\x7d']) with
  | some inner => Text.trim inner
  | none => s

/-- The steps of a path whose surroundings are taken off. -/
def unwrapped (s : List Char) : Except PathError (List Step) :=
  match s with
  | [] => .ok []
  | '$' :: rest => segments rest.length rest
  | c :: rest =>
    if endsName c then segments (rest.length + 1) (c :: rest)
    else
      match splitName (c :: rest) with
      | (name, later) => do
        let steps ← segments later.length later
        return .child (.name (String.ofList name)) :: steps

/-- The steps of a path. -/
def parse (s : String) : Except PathError (List Step) :=
  unwrapped (unwrap s.toList)

end Volley.JsonPath
