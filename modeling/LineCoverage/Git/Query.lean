import LineCoverage.Machine
import LineCoverage.Failure
import LineCoverage.Snapshot.Basic
import LineCoverage.Text.Blank
import LineCoverage.Text.Utf8
/-! Asking git about a repository by running the git program in a directory.

A query fails when the program cannot be started, when it ends with a nonzero status (the
failure quotes what it wrote to its error stream), or when what it prints is not UTF-8. The
metadata of a snapshot is gathered leniently: a query that fails gives an empty text.
-/

set_option autoImplicit false

namespace LineCoverage.Git

structure Query where
  binary : String
  dir : String

def Query.output (q : Query) (m : Machine) (args : List String) : Except Failure String :=
  match m.run q.dir q.binary args with
  | .error e => .error (.context ("Failed to run " ++ q.binary) (.ofOs e))
  | .ok (o, _) =>
    if !o.succeeded then
      .error ⟨"git " ++ " ".intercalate args ++ " failed: " ++ Text.Utf8.decodeLossy o.stderr, []⟩
    else
      match Text.Utf8.decode o.stdout with
      | .ok s => .ok s
      | .error f => .error (.context "git output not valid UTF-8" ⟨f.message, []⟩)

def Query.outputOrEmpty (q : Query) (m : Machine) (args : List String) : String :=
  match q.output m args with
  | .ok s => Text.trim s
  | .error _ => ""

def Query.logField (q : Query) (m : Machine) (placeholder : String) : String :=
  q.outputOrEmpty m ["log", "-1", "--pretty=format:%" ++ placeholder]

def Query.info (q : Query) (m : Machine) : GitInfo :=
  { branch := q.outputOrEmpty m ["rev-parse", "--abbrev-ref", "HEAD"]
    head :=
      { id := q.logField m "H"
        authorName := q.logField m "an"
        authorEmail := q.logField m "ae"
        committerName := q.logField m "cn"
        committerEmail := q.logField m "ce"
        message := q.logField m "B" } }

def Query.toplevel (q : Query) (m : Machine) : Except Failure String :=
  (q.output m ["rev-parse", "--show-toplevel"]).map Text.trim

def Query.show (q : Query) (m : Machine) (commit path : String) : Except Failure String :=
  q.output m ["show", commit ++ ":" ++ path]

end LineCoverage.Git
