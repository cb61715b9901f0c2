import LineCoverage.Cli.Parse
/-! Running the program on a machine: the command line is read, and a command it names is
run. A command that succeeds prints its text; one that fails prints `Error: ` and its
failure with every cause, and the status is 1. Usage errors have status 2.
-/

set_option autoImplicit false

namespace LineCoverage.Cli

/-- How a run of the program ends: its status, what it printed on each stream, and the file
tree after it. -/
structure Exit where
  status : Nat
  stdout : String
  stderr : String
  tree : FileTree

def Exit.ofWorked (w : Worked String) : Exit :=
  match w.result with
  | .ok text => ⟨0, text, "", w.tree⟩
  | .error f => ⟨1, "", "Error: " ++ f.report ++ "\n", w.tree⟩

def run (m : Machine) (args : List String) : Exit :=
  match parseArgs args with
  | .answer a => if a.toStderr then ⟨a.status, "", a.text, m.tree⟩ else ⟨a.status, a.text, "", m.tree⟩
  | .run (.collect opts out) => Exit.ofWorked (collectCommand m opts out)
  | .run (.report opts) => Exit.ofWorked (reportCommand m opts)

end LineCoverage.Cli
