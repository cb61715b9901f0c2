import LineCoverage.Collect.Dumps
import LineCoverage.Git.Query
import LineCoverage.Snapshot.Json
/-! The collection run: the dump tool is run over the notes files of a build tree, and the
dumps it writes are folded into a snapshot with the repository's metadata.

The notes files are grouped by the directory holding them, and each directory gets its own
working directory below the intermediate directory, named by `intermediateDirName`. All the
working directories are made before any tool runs, so every run sees all of them. The tool is
called as `gcov -l -i -p -o <object dir> <notes...>`; a run that ends with a nonzero status
stops the collection with what it wrote to its error stream.
-/

set_option autoImplicit false

namespace LineCoverage

structure CollectOptions where
  git : String
  gcov : String
  srcDir : String
  binDir : String
  intDir : String
  dirs : RelevantDirs

def notesExtension : String := "gcno"

/-- Whether one path comes before another, compared name by name. -/
def namesBefore : List String → List String → Bool
  | [], [] => false
  | [], _ :: _ => true
  | _ :: _, [] => false
  | a :: as, b :: bs => if a = b then namesBefore as bs else decide (a < b)

def pathNames (p : String) : List String := (Path.pieces p).filter (· ≠ "")

def addToGroup (groups : List (String × List String)) (file : String) : List (String × List String) :=
  let dir := (Path.parent? file).getD ""
  if groups.any (·.1 == dir) then groups.map fun (d, fs) => if d == dir then (d, fs ++ [file]) else (d, fs)
  else groups ++ [(dir, [file])]

/-- The notes files below a directory, grouped by the directory holding them, the groups in
order of directory and the files of each in walking order. -/
def findNotes (m : Machine) (binDir : String) : Except Failure (List (String × List String)) :=
  let missing (e : OsError) : Failure :=
    ⟨"Failed to walk " ++ binDir, ["IO error for operation on " ++ binDir ++ ": " ++ e.message, e.message]⟩
  match m.tree.resolve m.cwd binDir with
  | .error e => .error (missing e)
  | .ok l =>
    match m.tree.get? l with
    | none => .error (missing .notFound)
    | some _ =>
      let groups := (m.tree.filesWithExtension m.cwd binDir notesExtension).foldl addToGroup []
      .ok (groups.mergeSort fun a b => namesBefore (pathNames a.1) (pathNames b.1))

/-- Makes each working directory with its parents, stopping at the first that fails. -/
def createWorkDirs (cwd : Location) : FileTree → List String → Worked Unit
  | t, [] => ⟨t, .ok ()⟩
  | t, d :: rest =>
    match t.createDirAll cwd d with
    | .error e => ⟨t, .error (.context ("Failed to create " ++ d) (.ofOs e))⟩
    | .ok t' => createWorkDirs cwd t' rest

structure ToolRun where
  workDir : String
  objectDir : String
  notes : List String

/-- Runs the dump tool for each object directory, stopping at the first run that fails. -/
def runTools (m : Machine) (gcov : String) : List ToolRun → Worked Unit
  | [] => ⟨m.tree, .ok ()⟩
  | r :: rest =>
    match m.run r.workDir gcov (["-l", "-i", "-p", "-o", r.objectDir] ++ r.notes) with
    | .error e => ⟨m.tree, .error (.ofError (.io e))⟩
    | .ok (o, t) =>
      if !o.succeeded then
        ⟨t, .error (.ofError (.tool gcov o.ending
          (Text.Utf8.decodeLossy o.stderr)))⟩
      else runTools { m with tree := t } gcov rest

def generateDumps (m : Machine) (gcov binDir intDir : String) : Worked Unit :=
  match findNotes m binDir with
  | .error f => ⟨m.tree, .error f⟩
  | .ok groups =>
    let runs := groups.map fun (dir, notes) =>
      ({ workDir := Path.join intDir (Path.intermediateDirName binDir dir), objectDir := dir, notes := notes } : ToolRun)
    let made := createWorkDirs m.cwd m.tree (runs.map (·.workDir))
    match made.result with
    | .error f => ⟨made.tree, .error f⟩
    | .ok () => runTools { m with tree := made.tree } gcov runs

/-- The whole collection run: the repository's metadata, the dumps, and the source files
they cover, all directories taken as absolute paths. -/
def collect (m : Machine) (opts : CollectOptions) (service : ServiceInfo) : Worked Snapshot :=
  let srcDir := m.absolute opts.srcDir
  let binDir := m.absolute opts.binDir
  let intDir := m.absolute opts.intDir
  let git := (Git.Query.mk opts.git srcDir).info m
  let dumped := generateDumps m opts.gcov binDir intDir
  match dumped.result with
  | .error f => ⟨dumped.tree, .error f⟩
  | .ok () =>
    match dumped.tree.readDumps m.cwd intDir srcDir opts.dirs with
    | .error f => ⟨dumped.tree, .error f⟩
    | .ok files => ⟨dumped.tree, .ok { service := service, git := git, sourceFiles := files }⟩

def FileTree.loadSnapshot (t : FileTree) (cwd : Location) (path : String) : Except Error Snapshot :=
  match t.readAt cwd path with
  | .error e => .error (.io e)
  | .ok bs =>
    match Snapshot.parse bs with
    | .ok s => .ok s
    | .error e => .error (.json e)

/-- The snapshot of an earlier run: one that cannot be read counts as empty. -/
def FileTree.loadPrevious (t : FileTree) (cwd : Location) (path : String) : Snapshot :=
  match t.loadSnapshot cwd path with
  | .ok s => s
  | .error _ => {}

def FileTree.saveSnapshot (t : FileTree) (cwd : Location) (path : String) (s : Snapshot) :
    Except Error FileTree :=
  let made : Except OsError FileTree := match Path.parent? path with
    | some p => if p.isEmpty then .ok t else t.createDirAll cwd p
    | none => .ok t
  match made with
  | .error e => .error (.io e)
  | .ok t' =>
    match t'.writeAt cwd path s.render.toUTF8.toList false with
    | .error e => .error (.io e)
    | .ok t'' => .ok t''

end LineCoverage
