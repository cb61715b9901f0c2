/-! A tree of files, directories and symbolic links, each named by its absolute location: the
list of names from the root down to it. The root, the empty list, is always a directory.

The tree keeps one entry per location; `put` replaces what stood there and `erase` removes a
location with everything below it. Listing a directory gives its children sorted by name,
which for names as UTF-8 bytes is the order of their bytes.
-/

set_option autoImplicit false

namespace LineCoverage

inductive Entry where
  | file (content : List UInt8)
  | dir
  | link (target : String)
  deriving DecidableEq, Repr

abbrev Location := List String

structure FileTree where
  entries : List (Location × Entry) := []
  executable : List Location := []

namespace FileTree

def get? (t : FileTree) (l : Location) : Option Entry :=
  if l = [] then some .dir else (t.entries.find? (·.1 == l)).map (·.2)

/-- The tree with `e` at `l`, in place of what stood there; a file written over keeps
whether it may be run. -/
def put (t : FileTree) (l : Location) (e : Entry) : FileTree :=
  { t with entries := (l, e) :: t.entries.filter (·.1 != l) }

def erase (t : FileTree) (l : Location) : FileTree :=
  { entries := t.entries.filter fun x => !l.isPrefixOf x.1
    executable := t.executable.filter fun x => !l.isPrefixOf x }

def isExecutable (t : FileTree) (l : Location) : Bool := t.executable.contains l

def setExecutable (t : FileTree) (l : Location) (allowed : Bool) : FileTree :=
  let others := t.executable.filter (· != l)
  { t with executable := if allowed then l :: others else others }

def isDir (t : FileTree) (l : Location) : Bool := t.get? l == some .dir

def children (t : FileTree) (l : Location) : List (String × Entry) :=
  let below := t.entries.filterMap fun x =>
    match x.1.drop l.length with
    | [name] => if l.isPrefixOf x.1 then some (name, x.2) else none
    | _ => none
  below.mergeSort fun a b => decide (a.1 ≤ b.1)

def mapNames (t : FileTree) (f : String → String) : FileTree :=
  { entries := t.entries.map fun (l, e) => (l.map f, match e with
      | .link target => .link (f target)
      | other => other)
    executable := t.executable.map (·.map f) }

def files (t : FileTree) : List (Location × List UInt8) :=
  let fs := t.entries.filterMap fun x =>
    match x.2 with
    | .file c => some (x.1, c)
    | _ => none
  fs.mergeSort fun a b => decide ("/".intercalate a.1 ≤ "/".intercalate b.1)

def withParents (t : FileTree) : Location → FileTree
  | [] => t
  | l => (List.range l.length).foldl (fun acc n => if n = 0 then acc else acc.put (l.take n) .dir) t

@[simp] theorem get?_root (t : FileTree) : t.get? [] = some .dir := by simp [get?]

theorem get?_put_self (t : FileTree) (l : Location) (e : Entry) (h : l ≠ []) :
    (t.put l e).get? l = some e := by
  simp [get?, put, h]

theorem get?_put_other (t : FileTree) (l m : Location) (e : Entry) (h : m ≠ l) :
    (t.put l e).get? m = t.get? m := by
  unfold get? put
  by_cases hm : m = []
  · simp [hm]
  · simp only [hm, if_false]
    congr 1
    simp only [List.find?_cons]
    have : (l == m) = false := by simpa using Ne.symm h
    rw [this]
    simp only
    rw [List.find?_filter]
    congr 1
    funext x
    by_cases hx : x.1 = m
    · simp [hx, h]
    · simp [hx]

end FileTree

end LineCoverage
