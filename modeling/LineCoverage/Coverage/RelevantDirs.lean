import LineCoverage.Text.Lines
/-! The directories whose files are kept.

Each directory is written relative to the source root; backslashes count as slashes and
slashes at either end are dropped, and an empty entry keeps nothing. A file is kept when its
name continues one of the directories with a slash and something after it, so `app/src`
keeps `app/src/x.c` but neither `app/srcfoo/x.c` nor `app/src` itself.
-/

set_option autoImplicit false

namespace LineCoverage

structure RelevantDirs where
  dirs : List String
  deriving Repr, DecidableEq

/-- A directory entry made canonical: backslashes to slashes, no slash at either end. -/
def canonicalDir (d : String) : String :=
  let cs := d.toList.map fun c => if c = '\\' then '/' else c
  String.ofList ((cs.dropWhile (· = '/')).reverse.dropWhile (· = '/')).reverse

def RelevantDirs.ofList (ds : List String) : RelevantDirs :=
  ⟨(ds.map canonicalDir).filter (· ≠ "")⟩

def RelevantDirs.parse (list : String) : RelevantDirs :=
  .ofList ((Text.splitAll ':' list.toList).map String.ofList)

/-- `name` continues `dir` with a slash and at least one more character. -/
def underDir (dir name : String) : Bool :=
  match (dir.toList).isPrefixOf? name.toList with
  | some ('/' :: _ :: _) => true
  | _ => false

def RelevantDirs.matches (r : RelevantDirs) (name : String) : Bool := r.dirs.any (underDir · name)

example : (RelevantDirs.parse "app/src:libs/").matches "app/src/x.c" = true := by decide
example : (RelevantDirs.parse "app/src").matches "app/srcfoo/x.c" = false := by decide
example : (RelevantDirs.parse "app/src").matches "app/src/" = false := by decide

end LineCoverage
