import Volley.Text.Quoted

/-!
# Faults

Everything that can go wrong outside of a benchmark's iterations, by cause, and the wording of each.
-/

namespace Volley

/-- What makes settings or a request impossible to work with. -/
inductive Problem where
  /-- A request method that is no token. -/
  | method (text : String)
  /-- A plan without workers. -/
  | planWithoutConnections
  /-- A plan whose rate allows no iteration. -/
  | planWithoutRate
  /-- Settings without connections. -/
  | noConnections
  /-- An expected status that no response can have. -/
  | status (expected : Nat)
  /-- A rate limit of zero in the settings. -/
  | noRate
  /-- A problem that was described elsewhere. -/
  | other (description : String)
  deriving DecidableEq, Repr

/-- The wording of a problem. -/
def Problem.message : Problem → String
  | .method text => "invalid request method " ++ Text.quoted text
  | .planWithoutConnections => "connections must be greater than zero"
  | .planWithoutRate => "rate limit must be greater than zero"
  | .noConnections => "connections must be at least 1"
  | .status expected =>
    "expected status " ++ toString expected ++ " is not a valid HTTP status code"
  | .noRate => "rate limit must be positive when set"
  | .other description => description

/-- Why a file or a stream could not be read. -/
inductive ReadFailure where
  /-- There is no such file. -/
  | missing
  /-- The bytes are no UTF-8 text. -/
  | notText
  /-- A file stands where the path has a folder. -/
  | noFolder
  /-- The path leads to a folder. -/
  | noFile
  /-- The path or a name in it is too long. -/
  | tooLong
  /-- The path has a character that no path has. -/
  | noPath
  /-- The system reported something else. -/
  | other (description : String)
  deriving DecidableEq, Repr

/-- The wording of a failure to read. -/
def ReadFailure.message : ReadFailure → String
  | .missing => "No such file or directory (os error 2)"
  | .notText => "stream did not contain valid UTF-8"
  | .noFolder => "Not a directory (os error 20)"
  | .noFile => "Is a directory (os error 21)"
  | .tooLong => "File name too long (os error 36)"
  | .noPath => "file name contained an unexpected NUL byte"
  | .other description => description

/-- Why a request got no complete response. -/
inductive SendFailure where
  /-- The text of the address is none, or a header cannot go on the wire. -/
  | unsendable
  /-- An address is none that requests can be sent to. -/
  | unsupported (address : String)
  /-- No response came from an address. -/
  | unanswered (address : String)
  /-- The response from an address was one redirection too many. -/
  | redirected (address : String)
  /-- The response ended before all of its body had come. -/
  | cutShort
  deriving DecidableEq, Repr

/-- The wording of a failure to get a response. -/
def SendFailure.message : SendFailure → String
  | .unsendable => "builder error"
  | .unsupported address => "builder error for url (" ++ address ++ ")"
  | .unanswered address => "error sending request for url (" ++ address ++ ")"
  | .redirected address => "error following redirect for url (" ++ address ++ ")"
  | .cutShort => "error decoding response body"

/-- A fault, by its cause. -/
inductive Fault where
  /-- A stream could not be read. -/
  | stream (cause : ReadFailure)
  /-- A named file could not be read. -/
  | file (path : String) (cause : ReadFailure)
  /-- A request could not be sent, or no complete response came back. -/
  | request (url : String) (cause : SendFailure)
  /-- A response had another status than the expected one. -/
  | status (method url : String) (received expected : Nat)
  /-- Settings or a request make no sense. -/
  | invalid (problem : Problem)
  /-- The machinery of a benchmark failed. -/
  | engine (description : String)
  deriving DecidableEq, Repr

/-- The wording of a fault. -/
def Fault.message : Fault → String
  | .stream cause => "io error: " ++ cause.message
  | .file path cause => "open " ++ path ++ " failed: " ++ cause.message
  | .request url cause => "request " ++ url ++ " failed: " ++ cause.message
  | .status method url received expected =>
    "request " ++ method ++ " " ++ url ++ " returned status " ++ toString received ++
      ", expected " ++ toString expected
  | .invalid problem => "invalid configuration: " ++ problem.message
  | .engine description => "engine error: " ++ description

end Volley
