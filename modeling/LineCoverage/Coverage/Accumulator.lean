import LineCoverage.Coverage.Source
import LineCoverage.Coverage.RelevantDirs
import LineCoverage.Dump.Basic
import LineCoverage.Path
import LineCoverage.Error
/-! Summing the hit counts of many dumps.

Headers are compiled into many translation units, so one line of one file appears in many
dumps. The accumulator keeps, for every file below the source root in a relevant directory,
the sum of the hits of each line (line 0 is no line), saturating at 2^64 - 1. A file
appears once it has a line. Finishing looks each file up in its sources: a missing file is
dropped, and an existing one is laid out as one entry per line.
-/

set_option autoImplicit false

-- Powers are the core's `Nat.pow` and `Int.pow`, also where Mathlib's monoid powers are in scope.
attribute [local instance (high)] instPowNat

namespace LineCoverage

/-- The largest hit count; sums stop there. -/
def countLimit : Nat := 2 ^ (64 : Nat) - 1

def addHits (a b : Nat) : Nat := min (a + b) countLimit

abbrev LineHits := Std.TreeMap Nat Nat compare

structure Accumulator where
  root : String
  dirs : RelevantDirs
  files : Std.TreeMap String LineHits compare

def Accumulator.empty (root : String) (dirs : RelevantDirs) : Accumulator := ⟨root, dirs, {}⟩

def addLine (name : String) (files : Std.TreeMap String LineHits compare) (r : LineRecord) :
    Std.TreeMap String LineHits compare :=
  if r.line = 0 then files
  else
    let lines := files.getD name {}
    files.insert name (lines.insert r.line (addHits (lines.getD r.line 0) r.hits))

/-- The name under which the accumulator keeps a path, if it keeps it at all. -/
def Accumulator.nameOf (acc : Accumulator) (path : String) : Option String :=
  match Path.relativeToRoot acc.root path with
  | some name => if acc.dirs.matches name then some name else none
  | none => none

def Accumulator.add (acc : Accumulator) (d : Dump) : Accumulator :=
  { acc with
    files := d.foldl (fun files path records =>
      match acc.nameOf path with
      | some name => records.lines.foldl (addLine name) files
      | none => files) acc.files }

def Accumulator.size (acc : Accumulator) : Nat := acc.files.size

/-- Looks up a file's content: its digest and line count, nothing when it does not exist,
or a failure. -/
abbrev Probe := String → Except Error (Option SourceInfo)

def layout (info : SourceInfo) (lines : LineHits) : List (Option Nat) :=
  let highest := lines.foldl (fun m l _ => max m l) 0
  (List.range (max info.lineCount highest)).map fun i => lines.get? (i + 1)

def finishFiles (root : String) (probe : Probe) :
    List (String × LineHits) → Except Error (List SourceFile)
  | [] => .ok []
  | (name, lines) :: rest =>
    match probe (Path.join root name) with
    | .error e => .error e
    | .ok none => finishFiles root probe rest
    | .ok (some info) =>
      match finishFiles root probe rest with
      | .error e => .error e
      | .ok files => .ok (⟨name, info.digest, layout info lines⟩ :: files)

def Accumulator.finish (acc : Accumulator) (probe : Probe) : Except Error (List SourceFile) :=
  finishFiles acc.root probe acc.files.toList

def aggregate (root : String) (dirs : RelevantDirs) (dumps : List Dump) (probe : Probe) :
    Except Error (List SourceFile) :=
  (dumps.foldl Accumulator.add (Accumulator.empty root dirs)).finish probe

end LineCoverage
