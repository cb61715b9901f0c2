import LineCoverage.Text.Lines
/-! Slash-separated paths, read as lists of components.

A path is cut at slashes. A leading slash is the root; empty pieces and `.` pieces vanish,
except that a relative path starting with `.` keeps it as its first component; `..` stays.
Comparing two paths compares their components, so `a//b/` and `a/./b` are the same path,
and `a/b` lies below `a` while `ab` does not.
-/

set_option autoImplicit false

namespace LineCoverage.Path

inductive Component where
  | root
  | current
  | parent
  | normal (name : String)
  deriving Repr, DecidableEq

def Component.text : Component → String
  | .root => "/"
  | .current => "."
  | .parent => ".."
  | .normal n => n

def pieces (p : String) : List String := (Text.splitAll '/' p.toList).map String.ofList

def classify (piece : String) : Option Component :=
  if piece = "" ∨ piece = "." then none
  else if piece = ".." then some .parent
  else some (.normal piece)

def components (p : String) : List Component :=
  match pieces p with
  | "" :: rest => if p = "" then [] else .root :: rest.filterMap classify
  | "." :: rest => .current :: rest.filterMap classify
  | ps => ps.filterMap classify

def stripPrefix : List Component → List Component → Option (List Component)
  | [], rest => some rest
  | _ :: _, [] => none
  | b :: bs, c :: cs => if b = c then stripPrefix bs cs else none

def render (sep : String) (cs : List Component) : String := sep.intercalate (cs.map Component.text)

/-- The path of `p` below `root`, slash-separated; nothing when `p` does not lie strictly
below `root`. -/
def relativeToRoot (root p : String) : Option String :=
  match stripPrefix (components root) (components p) with
  | some (c :: cs) => some (render "/" (c :: cs))
  | _ => none

/-- `name` taken from `base`: an absolute name stands for itself, and otherwise a slash
joins the two unless `base` is empty or ends in one. -/
def join (base name : String) : String :=
  if name.startsWith "/" then name
  else if base = "" ∨ base.endsWith "/" then base ++ name
  else base ++ "/" ++ name

/-- The result of walking components with a stack: whether the path is absolute, and the
names kept. `.` is passed over, `..` drops the last name if there is one, a name is kept. -/
def walk (acc : Bool × List String) : Component → Bool × List String
  | .root => (true, [])
  | .current => acc
  | .parent => (acc.1, acc.2.dropLast)
  | .normal n => (acc.1, acc.2 ++ [n])

/-- A path without `.` and `..` components: each `..` removes the name before it, and at
the top it is dropped. -/
def normalize (p : String) : String :=
  let r := (components p).foldl walk (false, [])
  if r.1 then "/" ++ "/".intercalate r.2 else "/".intercalate r.2

/-- The name of the working directory of the dump tool for an object directory: its
components below `binDir` joined by `#`, or `.` for `binDir` itself. An object directory
outside `binDir` keeps all its components. -/
def intermediateDirName (binDir objectDir : String) : String :=
  let below := (stripPrefix (components binDir) (components objectDir)).getD (components objectDir)
  if below = [] then "." else render "#" below

def fileName (p : String) : Option String :=
  match (components p).getLast? with
  | some (.normal n) => some n
  | _ => none

def extension (p : String) : Option String :=
  match fileName p with
  | none => none
  | some n =>
    let parts := Text.splitAll '.' n.toList
    match parts with
    | [] | [_] => none
    | first :: _ =>
      if parts.length = 2 ∧ first = [] then none
      else (parts.getLast?).map String.ofList

def ofComponents : List Component → String
  | .root :: rest => "/" ++ "/".intercalate (rest.map Component.text)
  | cs => "/".intercalate (cs.map Component.text)

def parent? (p : String) : Option String :=
  match components p with
  | [] | [.root] => none
  | cs => some (ofComponents cs.dropLast)

example : parent? "/a/./b/" = some "/a" ∧ parent? "/a" = some "/" ∧ parent? "a" = some "" := by
  decide
example : parent? "/" = none ∧ parent? "int/." = some "" ∧ parent? "./a" = some "." := by decide

example : components "/a//b/./c/" = [.root, .normal "a", .normal "b", .normal "c"] := by decide
example : components "./a" = [.current, .normal "a"] ∧ components "" = [] := by decide
example : relativeToRoot "" "/a/b.c" = some "//a/b.c" := by decide
example : normalize "a/b/../../../c" = "c" ∧ normalize "/a/./../b" = "/b" := by decide

end LineCoverage.Path
