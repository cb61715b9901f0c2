import LineCoverage.Snapshot.Basic
import LineCoverage.Stats.Delta
/-! Statistics of every file, every directory and the whole of a snapshot, with those of a
previous snapshot beside them.

Directories are single-level: a file belongs to the directory part of its name, the text
before its last slash. A file of the previous snapshot that is gone from the current one is
kept as deleted, with empty current stats and no digest. With a previous snapshot every file,
directory and the total carry previous stats (empty for a new file); without one, none do.
-/

set_option autoImplicit false

namespace LineCoverage

def cutAtLastSlash (name : String) : Option (String × String) :=
  match Text.splitFirst '/' name.toList.reverse with
  | some (after, before) => some (String.ofList before.reverse, String.ofList after.reverse)
  | none => none

def parentDir (name : String) : String := ((cutAtLastSlash name).map (·.1)).getD ""

def baseName (name : String) : String := ((cutAtLastSlash name).map (·.2)).getD name

structure FileReport where
  name : String
  stats : Stats
  previous : Option Stats
  /-- Absent for a file that exists only in the previous snapshot. -/
  digest : Option String
  coverage : List (Option Nat)
  deriving Inhabited

def FileReport.isDeleted (f : FileReport) : Bool := f.digest.isNone

def FileReport.delta (f : FileReport) : StatsDelta := StatsDelta.between f.stats f.previous

def firstIndex (p : Option Nat → Bool) : List (Option Nat) → Option Nat
  | [] => none
  | c :: rest => if p c then some 0 else (firstIndex p rest).map (· + 1)

/-- The line a listing opens at: the first line hit, else the first instrumented line,
else line 1. -/
def FileReport.anchorLine (f : FileReport) : Nat :=
  match firstIndex (fun c => match c with | some h => h > 0 | none => false) f.coverage with
  | some i => i + 1
  | none =>
    match firstIndex Option.isSome f.coverage with
    | some i => i + 1
    | none => 1

structure DirectoryReport where
  name : String
  stats : Stats
  previous : Option Stats
  files : List String
  deriving Inhabited

def DirectoryReport.delta (d : DirectoryReport) : StatsDelta := StatsDelta.between d.stats d.previous

structure Rollup where
  total : Stats
  previous : Option Stats
  files : Std.TreeMap String FileReport compare
  dirs : Std.TreeMap String DirectoryReport compare

def Rollup.delta (r : Rollup) : StatsDelta := StatsDelta.between r.total r.previous

/-- The files of the current snapshot; a later entry under a name replaces an earlier one. -/
def currentFiles (diffed : Bool) (fs : List SourceFile) : Std.TreeMap String FileReport compare :=
  fs.foldl (fun m f =>
    m.insert f.name ⟨f.name, Stats.ofCoverage f.coverage, if diffed then some {} else none,
      some f.digest, f.coverage⟩) {}

def withPrevious (m : Std.TreeMap String FileReport compare) (fs : List SourceFile) :
    Std.TreeMap String FileReport compare :=
  fs.foldl (fun m f =>
    let r := m.getD f.name ⟨f.name, {}, none, none, []⟩
    m.insert f.name { r with previous := some (Stats.ofCoverage f.coverage) }) m

def addPrevious (acc : Option Stats) (p : Option Stats) : Option Stats :=
  match acc, p with
  | some a, some q => some (a + q)
  | acc, _ => acc

def addToDir (diffed : Bool) (dirs : Std.TreeMap String DirectoryReport compare) (f : FileReport) :
    Std.TreeMap String DirectoryReport compare :=
  let name := parentDir f.name
  let d := dirs.getD name ⟨name, {}, if diffed then some {} else none, []⟩
  dirs.insert name ⟨name, d.stats + f.stats, addPrevious d.previous f.previous, d.files ++ [f.name]⟩

def Rollup.build (current : Snapshot) (previous : Option Snapshot) : Rollup :=
  let diffed := previous.isSome
  let files := withPrevious (currentFiles diffed current.sourceFiles)
    ((previous.map Snapshot.sourceFiles).getD [])
  let reports := files.toList.map (·.2)
  { total := Stats.sum (reports.map FileReport.stats)
    previous := reports.foldl (fun acc f => addPrevious acc f.previous) (if diffed then some {} else none)
    files := files
    dirs := reports.foldl (addToDir diffed) {} }

def addPreviousChecked (acc : Option Stats) (p : Option Stats) : Except Panic (Option Stats) :=
  match acc, p with
  | some a, some q => some <$> a.addChecked q
  | acc, _ => pure acc

def addToDirChecked (diffed : Bool) (dirs : Std.TreeMap String DirectoryReport compare)
    (f : FileReport) : Except Panic (Std.TreeMap String DirectoryReport compare) := do
  let name := parentDir f.name
  let d := dirs.getD name ⟨name, {}, if diffed then some {} else none, []⟩
  let stats ← d.stats.addChecked f.stats
  let previous ← addPreviousChecked d.previous f.previous
  pure (dirs.insert name ⟨name, stats, previous, d.files ++ [f.name]⟩)

/-- `Rollup.build` as a build with overflow checks runs it: each addition of line counters
into a directory, the total or a previous side is refused when it passes 2^64 - 1. The
counters of one file never pass the length of its coverage vector, so counting them needs no
check. -/
def Rollup.buildChecked (current : Snapshot) (previous : Option Snapshot) : Except Panic Rollup := do
  let diffed := previous.isSome
  let files := withPrevious (currentFiles diffed current.sourceFiles)
    ((previous.map Snapshot.sourceFiles).getD [])
  let reports := files.toList.map (·.2)
  let total ← (reports.map FileReport.stats).foldlM Stats.addChecked {}
  let previousTotal ← (reports.map FileReport.previous).foldlM addPreviousChecked
    (if diffed then some {} else none)
  let dirs ← reports.foldlM (addToDirChecked diffed) {}
  pure { total, previous := previousTotal, files, dirs }

def Rollup.filesIn (r : Rollup) (d : DirectoryReport) : List FileReport :=
  d.files.filterMap fun n => r.files.get? n

end LineCoverage
