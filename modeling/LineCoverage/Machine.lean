import LineCoverage.Shell.Run
import LineCoverage.Failure
/-! The machine the tools run on: a file tree, the repository in it, a working directory and
the environment variables programs are started with.

A program is started in a directory named from the working directory, which must exist;
where it is looked up and what it does is the shell's business.
-/

set_option autoImplicit false

namespace LineCoverage

structure Machine where
  tree : FileTree
  repo : Option Git.Repository := none
  cwd : Location
  env : List (String × String) := []

structure Worked (α : Type) where
  tree : FileTree
  result : Except Failure α

def Machine.var? (m : Machine) (name : String) : Option String :=
  (m.env.find? (·.1 == name)).map (·.2)

def Machine.cwdPath (m : Machine) : String := "/" ++ "/".intercalate m.cwd

/-- A path made absolute from the working directory, without `.` and `..` components. -/
def Machine.absolute (m : Machine) (path : String) : String :=
  Path.normalize (Path.join m.cwdPath path)

def Machine.run (m : Machine) (dir program : String) (args : List String) :
    Except OsError (Outcome × FileTree) :=
  match m.tree.resolve m.cwd dir with
  | .error e => .error e
  | .ok l =>
    match m.tree.get? l with
    | some .dir => Shell.spawn m.tree m.repo l m.env program args
    | some (.file _) => .error .notDirectory
    | some (.link _) => .error .linkLoop
    | none => .error .notFound

end LineCoverage
