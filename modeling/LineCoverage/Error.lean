import LineCoverage.Dump.Reader
import LineCoverage.Json.Error
/-! The failures of reading dumps, sources and snapshots, and of running the dump tool. -/

set_option autoImplicit false

namespace LineCoverage

inductive OsError where
  | notFound
  | isDirectory
  | alreadyExists
  | notDirectory
  | linkLoop
  | other (text : String)
  deriving Repr, DecidableEq

def OsError.message : OsError → String
  | .notFound => "No such file or directory (os error 2)"
  | .isDirectory => "Is a directory (os error 21)"
  | .alreadyExists => "File exists (os error 17)"
  | .notDirectory => "Not a directory (os error 20)"
  | .linkLoop => "Too many levels of symbolic links (os error 40)"
  | .other t => t

inductive Error where
  | io (e : OsError)
  | json (e : Json.ReadError)
  | parse (e : Dump.ParseError)
  /-- The dump tool ended badly: its name, how it ended, and what it wrote to its error stream. -/
  | tool (tool status stderr : String)

def Error.message : Error → String
  | .io e => "I/O error: " ++ e.message
  | .json e => "JSON error: " ++ e.message
  | .parse e => "Parse error at line " ++ toString e.line ++ ": " ++ e.defect.message
  | .tool t s err => t ++ " exited with " ++ s ++ ":\n" ++ err

/-- The text of the failure underneath, if there is one: the system's failure for `io`,
the reader's for `json`. -/
def Error.cause? : Error → Option String
  | .io e => some e.message
  | .json e => some e.message
  | _ => none

end LineCoverage
