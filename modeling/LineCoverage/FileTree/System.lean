import LineCoverage.FileTree.Basic
import LineCoverage.Path
import LineCoverage.Error
/-! The operations of the system on a file tree, addressed by path strings seen from a
working directory, with the failures the system reports.

A path is read one piece at a time from the root (when it starts with a slash) or from the
working directory: `.` stays, `..` goes up, a name goes down. Every piece but the last must
pass through an existing directory: through nothing the failure is `notFound`, through a
file it is `notDirectory`. A symbolic link on the way is replaced by the location its target
names, read from the link's directory; the last piece's link is followed too, except by the
operations that act on the link itself. Following more than `linkLimit` links is the failure
`linkLoop`. The last piece may name nothing yet; a path that ends in a slash, `.` or `..` can
only name a directory.
-/

set_option autoImplicit false

namespace LineCoverage.FileTree

def stepInto (here : Location) (piece : String) : Location :=
  if piece = "." then here else if piece = ".." then here.dropLast else here ++ [piece]

def linkLimit : Nat := 40

def movingPieces (path : String) : List String := (Path.pieces path).filter (· ≠ "")

/-- Reads pieces from the directory `here`, following links on the way (and the last one
when `follow`), with `hops` links still allowed: the location reached and the links still
allowed. Each round reads a piece or enters a link, so `fuel` above the number of pieces read
in all is enough. -/
def walkPieces (t : FileTree) : Nat → Nat → Location → List String → Bool →
    Except OsError (Location × Nat)
  | 0, _, _, _, _ => .error .linkLoop
  | _ + 1, hops, here, [], _ => .ok (here, hops)
  | fuel + 1, hops, here, piece :: rest, follow =>
    match t.get? here with
    | some .dir =>
      let next := stepInto here piece
      match t.get? next with
      | some (.link target) =>
        if rest.isEmpty && !follow then .ok (next, hops)
        else if hops = 0 then .error .linkLoop
        else
          let start : Location := if target.startsWith "/" then [] else here
          match walkPieces t fuel (hops - 1) start (movingPieces target) true with
          | .ok (l, hops) => walkPieces t fuel hops l rest follow
          | .error e => .error e
      | _ => walkPieces t fuel hops next rest follow
    | some (.file _) => .error .notDirectory
    | some (.link _) => .error .linkLoop
    | none => .error .notFound

def walkFuelFor (t : FileTree) (path : String) : Nat :=
  let widest := t.entries.foldl (fun m x =>
    match x.2 with
    | .link target => max m (movingPieces target).length
    | _ => m) 0
  (movingPieces path).length + (linkLimit + 1) * (widest + 1) + 1

/-- The location a path names from `cwd`, every directory on the way existing; a link that
the last piece names is followed when `follow`. -/
def resolveWith (t : FileTree) (cwd : Location) (path : String) (follow : Bool) :
    Except OsError Location :=
  if path = "" then .error .notFound
  else
    let start : Location := if path.startsWith "/" then [] else cwd
    (walkPieces t (t.walkFuelFor path) linkLimit start (movingPieces path) follow).map (·.1)

def resolve (t : FileTree) (cwd : Location) (path : String) : Except OsError Location :=
  t.resolveWith cwd path true

def namesDir (path : String) : Bool :=
  path.endsWith "/" || (Path.pieces path).getLast? == some "." || (Path.pieces path).getLast? == some ".."

def entryAt? (t : FileTree) (cwd : Location) (path : String) : Option Entry :=
  match t.resolve cwd path with
  | .ok l =>
    match t.get? l with
    | some (.file c) => if namesDir path then none else some (.file c)
    | some (.link _) => none
    | e => e
  | .error _ => none

def linkAt? (t : FileTree) (cwd : Location) (path : String) : Option String :=
  match t.resolveWith cwd path false with
  | .ok l =>
    match t.get? l with
    | some (.link target) => if namesDir path then none else some target
    | _ => none
  | .error _ => none

def isDirAt (t : FileTree) (cwd : Location) (path : String) : Bool :=
  t.entryAt? cwd path == some .dir

/-- Whether a path names the null device, which stands outside the tree: reading it gives
nothing and what is written to it is lost. -/
def isNullDevice (path : String) : Bool := path = "/dev/null"

def readAt (t : FileTree) (cwd : Location) (path : String) : Except OsError (List UInt8) := do
  if isNullDevice path then return []
  let l ← t.resolve cwd path
  match t.get? l with
  | none => throw .notFound
  | some .dir => throw .isDirectory
  | some (.link _) => throw .linkLoop
  | some (.file c) => if namesDir path then throw .notDirectory else pure c

def writeAt (t : FileTree) (cwd : Location) (path : String) (content : List UInt8)
    (keep : Bool) : Except OsError FileTree := do
  if isNullDevice path then return t
  let l ← t.resolve cwd path
  match t.get? l with
  | some .dir => throw .isDirectory
  | some (.link _) => throw .linkLoop
  | some (.file old) =>
    if namesDir path then throw .notDirectory
    else pure (t.put l (.file (if keep then old ++ content else content)))
  | none => if namesDir path then throw .isDirectory else pure (t.put l (.file content))

/-- The tree with a new directory at a path; its parent must exist, and a link standing
there is not followed. -/
def makeDirAt (t : FileTree) (cwd : Location) (path : String) : Except OsError FileTree := do
  let l ← t.resolveWith cwd path false
  match t.get? l with
  | some _ => throw .alreadyExists
  | none => pure (t.put l .dir)

/-- Makes a directory and, where that fails for want of a parent, its parents first; a
directory that already stands there is no failure. -/
def createDirAllFuel (t : FileTree) (cwd : Location) : Nat → String → Except OsError FileTree
  | 0, _ => .error .notFound
  | fuel + 1, path =>
    if path = "" then .ok t
    else
      match t.makeDirAt cwd path with
      | .ok t' => .ok t'
      | .error e =>
        if e != .notFound then (if t.isDirAt cwd path then .ok t else .error e)
        else
          match Path.parent? path with
          | none => .error (.other "failed to create whole tree")
          | some p =>
            match t.createDirAllFuel cwd fuel p with
            | .error e' => .error e'
            | .ok t' =>
              match t'.makeDirAt cwd path with
              | .ok t'' => .ok t''
              | .error e'' => if t'.isDirAt cwd path then .ok t' else .error e''

def createDirAll (t : FileTree) (cwd : Location) (path : String) : Except OsError FileTree :=
  t.createDirAllFuel cwd ((Path.components path).length + 1) path

def listAt (t : FileTree) (cwd : Location) (path : String) :
    Except OsError (List (String × Entry)) := do
  let l ← t.resolve cwd path
  match t.get? l with
  | none => throw .notFound
  | some (.file _) => throw .notDirectory
  | some (.link _) => throw .linkLoop
  | some .dir => pure (t.children l)

/-- The tree without the file or link at a path; a link is removed, not what it names. -/
def removeFileAt (t : FileTree) (cwd : Location) (path : String) : Except OsError FileTree := do
  let l ← t.resolveWith cwd path false
  match t.get? l with
  | none => throw .notFound
  | some .dir => throw .isDirectory
  | some _ => pure (t.erase l)

def linkAt (t : FileTree) (cwd : Location) (path target : String) : Except OsError FileTree := do
  let l ← t.resolveWith cwd path false
  match t.get? l with
  | some _ => throw .alreadyExists
  | none => if namesDir path then throw .notFound else pure (t.put l (.link target))

def walkFuel (t : FileTree) : Nat → Location → String → Entry → List (String × Entry)
  | 0, _, _, _ => []
  | fuel + 1, l, path, e =>
    (path, e) :: match e with
      | .dir => (t.children l).flatMap fun c => t.walkFuel fuel (l ++ [c.1]) (Path.join path c.1) c.2
      | _ => []

def walkAt (t : FileTree) (cwd : Location) (path : String) : List (String × Entry) :=
  match t.resolve cwd path, t.entryAt? cwd path with
  | .ok l, some e => t.walkFuel (t.entries.length + 1) l path e
  | _, _ => []

def place (t : FileTree) (l : Location) (content : List UInt8) : FileTree :=
  (t.withParents l).put l (.file content)

end LineCoverage.FileTree
