import LineCoverage.Coverage.Accumulator
import LineCoverage.FileTree.System
import LineCoverage.Failure
/-! Reading the dumps of a directory: every file whose extension is exactly `gcov`, found
depth first with the entries of each directory in order of name, is read as a dump and added
to one accumulator; the sources are then looked up in the file tree. Symbolic links are not
files, so a link is not read even when it names a dump.

The first dump that cannot be read or parsed stops the reading, and its path is named.
-/

set_option autoImplicit false

namespace LineCoverage

def dumpExtension : String := "gcov"

def FileTree.filesWithExtension (t : FileTree) (cwd : Location) (root ext : String) : List String :=
  (t.walkAt cwd root).filterMap fun (path, e) =>
    match e with
    | .file _ => if Path.extension path == some ext then some path else none
    | _ => none

/-- Sources looked up in the file tree: a missing file is no source, any other failure to
read it is a failure. -/
def FileTree.probe (t : FileTree) (cwd : Location) : Probe := fun path =>
  match t.readAt cwd path with
  | .ok content => .ok (some (SourceInfo.ofContent content))
  | .error .notFound => .ok none
  | .error e => .error (.io e)

def addDumps (t : FileTree) (cwd : Location) (acc : Accumulator) :
    List String → Except Failure Accumulator
  | [] => .ok acc
  | path :: rest =>
    match t.readAt cwd path with
    | .error e => .error (.context s!"Failed to read {path}" (.ofOs e))
    | .ok content =>
      match Dump.read content with
      | .error e => .error (.context s!"Failed to parse {path}" (.ofError (.parse e)))
      | .ok d => addDumps t cwd (acc.add d) rest

def FileTree.readDumps (t : FileTree) (cwd : Location) (intDir srcDir : String)
    (dirs : RelevantDirs) : Except Failure (List SourceFile) := do
  let paths := if (t.entryAt? cwd intDir).isSome then t.filesWithExtension cwd intDir dumpExtension else []
  let acc ← addDumps t cwd (Accumulator.empty srcDir dirs) paths
  match acc.finish (t.probe cwd) with
  | .ok files => pure files
  | .error e => throw (.ofError e)

end LineCoverage
