import LineCoverage.Cli.Run
/-! The program on the real file system.

The files below the working directory are read into a file tree (the repository's own
directory left out), the command line runs on it, and the files and directories it made,
changed or removed are written back. Programs run as the shell scripts found in that tree;
no repository is known, so git queries fail as outside one.
-/

namespace LineCoverage.Main

def knownVariables : List String :=
  ["PATH", "HOME", "PWD", "GCOVRS_ROOT", "TRAVIS_JOB_ID", "COVERALLS_REPO_TOKEN"]

def pathOf (l : Location) : String := "/" ++ "/".intercalate l

partial def loadEntry (t : FileTree) (parent : Location) (e : IO.FS.DirEntry) : IO FileTree := do
  let here := parent ++ [e.fileName]
  if e.fileName == ".git" then return t
  if ← e.path.isDir then
    let children ← e.path.readDir
    children.foldlM (fun acc c => loadEntry acc here c) (t.put here .dir)
  else
    let content ← IO.FS.readBinFile e.path
    return t.put here (.file content.toList)

/-- Writes back what changed between two trees; symbolic links made on the way are left
out. -/
def store (before after : FileTree) : IO Unit := do
  for (l, e) in after.entries do
    match e, before.get? l with
    | .dir, some .dir => pure ()
    | .dir, _ => IO.FS.createDirAll (pathOf l)
    | .file c, some (.file c') => if c == c' then pure () else IO.FS.writeBinFile (pathOf l) (ByteArray.mk c.toArray)
    | .file c, _ =>
      IO.FS.createDirAll (pathOf l.dropLast)
      IO.FS.writeBinFile (pathOf l) (ByteArray.mk c.toArray)
    | .link _, _ => pure ()
  for (l, e) in before.entries do
    match e, after.get? l with
    | .file _, none => IO.FS.removeFile (pathOf l)
    | _, _ => pure ()

end LineCoverage.Main

open LineCoverage in
def main (args : List String) : IO UInt32 := do
  let cwd ← IO.currentDir
  let here : Location := (cwd.toString.splitOn "/").filter (· != "")
  let entries ← cwd.readDir
  let tree ← entries.foldlM (fun acc e => Main.loadEntry acc here e)
    (({} : FileTree).withParents (here ++ [""]))
  let mut env : List (String × String) := []
  for name in Main.knownVariables do
    if let some v ← IO.getEnv name then env := env ++ [(name, v)]
  let e := Cli.run { tree := tree, cwd := here, env := env } args
  Main.store tree e.tree
  IO.print e.stdout
  IO.eprint e.stderr
  return e.status.toUInt32
