import LineCoverage.Git.Revision
import LineCoverage.Git.Patch
/-! The answers of the git commands the coverage tools run: the top of the working tree, the
branch, fields of the last commit, and an object shown by name.

A command run outside the working tree, or anywhere when there is no repository, fails as git
does, with status 128 and a `fatal:` line.

`show NAME` first reads the whole name as a revision. Failing that, a name `:/TEXT` searches
commit messages, a name `:PATH` or `:N:PATH` is a path of the index at stage `N` (0 to 3, 0 when
left out), and a name `REV:PATH` (the first colon outside braces) a path of the tree that `REV`
names, the path taken from the top unless it starts with `./` or `../`. A blob is shown as its
bytes, a tree as a listing and a commit as its log entry and patch. A name that names nothing
is read as a path pattern instead if it looks like one or a file of that name exists, and the
last commit is shown with the patches of the files it picks, or nothing when it picks none;
otherwise the command reads the name once more to say what is wrong, so error lines from
reading it come twice before the final message.
-/

set_option autoImplicit false

namespace LineCoverage.Git

def treeListing (name : String) (files : FileSet) : String :=
  let blobs := files.filterMap fun (l, _) => match l with
    | [n] => some (n, n)
    | _ => none
  let dirs := (dirNames files).map fun d => (d ++ "/", d ++ "/")
  let names := (blobs ++ dirs).mergeSort fun a b => decide (a.1 ≤ b.1)
  s!"tree {name}\n\n" ++ String.join (names.map (·.2 ++ "\n"))

def civilDate (days : Nat) : Nat × Nat × Nat :=
  let z := days + 719468
  let era := z / 146097
  let doe := z - era * 146097
  let yoe := (doe - doe / 1460 + doe / 36524 - doe / 146096) / 365
  let doy := doe - (365 * yoe + yoe / 4 - yoe / 100)
  let mp := (5 * doy + 2) / 153
  let d := doy - (153 * mp + 2) / 5 + 1
  let m := if mp < 10 then mp + 3 else mp - 9
  let y := yoe + era * 400 + (if m ≤ 2 then 1 else 0)
  (y, m, d)

def twoDigits (n : Nat) : String := if n < 10 then "0" ++ toString n else toString n

/-- A signature's time as `git log` writes it: `Wed Jan 1 00:00:00 2020 +0000`, in the
signature's own zone. -/
def Signature.dateText (s : Signature) : String :=
  match s.stamp.splitOn " " with
  | [secs, zone] =>
    let offset : Int :=
      match zone.toList with
      | sign :: h1 :: h2 :: m1 :: m2 :: [] =>
        let n := (String.ofList [h1, h2]).toNat! * 3600 + (String.ofList [m1, m2]).toNat! * 60
        if sign = '-' then -(n : Int) else n
      | _ => 0
    let shifted := ((secs.toNat! : Int) + offset).toNat
    let days := shifted / 86400
    let t := shifted % 86400
    let (y, m, d) := civilDate days
    let weekdays := ["Sun", "Mon", "Tue", "Wed", "Thu", "Fri", "Sat"]
    let months := ["Jan", "Feb", "Mar", "Apr", "May", "Jun", "Jul", "Aug", "Sep", "Oct", "Nov", "Dec"]
    let weekday := weekdays.getD ((days + 4) % 7) ""
    let month := months.getD (m - 1) ""
    s!"{weekday} {month} {d} " ++
      s!"{twoDigits (t / 3600)}:{twoDigits (t % 3600 / 60)}:{twoDigits (t % 60)} {y} {zone}"
  | _ => s.stamp

def expandTabs (line : List Char) : List Char :=
  (line.foldl (fun (acc : List Char × Nat) c =>
    if c = '\t' then
      let n := 8 - acc.2 % 8
      (acc.1 ++ List.replicate n ' ', acc.2 + n)
    else (acc.1 ++ [c], acc.2 + 1)) ([], 0)).1

/-- The entry of a commit in `git log`'s medium format: its id, author and date, then its
message indented by four columns, blank lines at the start left out and trailing blanks cut. -/
def Commit.logEntry (c : Commit) : String :=
  let isSpace (ch : Char) : Bool := ch = ' ' ∨ ch = '\t' ∨ ch = '\r' ∨ ch = '\n'
  let lines := (c.message.splitOn "\n").map fun l => (l.toList.reverse.dropWhile isSpace).reverse
  let body := (lines.dropWhile List.isEmpty).map fun l => "    " ++ String.ofList (expandTabs l) ++ "\n"
  let text := s!"Author: {c.author.name} <{c.author.email}>\nDate:   {c.author.dateText}\n\n" ++
    String.join body
  s!"commit {c.id}\n" ++ String.ofList (text.toList.reverse.dropWhile isSpace).reverse ++ "\n"

/-- A path that starts with `./` or `../`, taken from the directory `dir` (below the top,
ending in a slash unless empty): `.` dropped, `..` taking away the name before it, repeated
slashes made one, and a final slash kept. None when it leaves the top. -/
def fromDirectory (dir path : String) : Option String :=
  let segs := (dir ++ path).splitOn "/"
  let kept := segs.foldl (fun (acc : Option (List String)) seg => acc.bind fun st =>
    if seg = "" ∨ seg = "." then some st
    else if seg = ".." then (match st with
      | [] => none
      | _ :: rest => some rest)
    else some (seg :: st)) (some [])
  kept.map fun st =>
    let trailing := match segs.getLast? with
      | some "" | some "." | some ".." => true
      | _ => false
    "/".intercalate st.reverse ++ (if trailing && !st.isEmpty then "/" else "")

def Repository.prefixOf (r : Repository) (cwd : Location) : String :=
  let rel := cwd.drop r.top.length
  if rel.isEmpty then "" else "/".intercalate rel ++ "/"

def Repository.pathFrom (r : Repository) (cwd : Location) (path : String) : Except String String :=
  if path.startsWith "./" || path.startsWith "../" then
    match fromDirectory (r.prefixOf cwd) path with
    | some p => .ok p
    | none =>
      let top := "/".intercalate r.top
      .error s!"fatal: '{path}' is outside repository at '/{top}'\n"
  else .ok path

def splitColon (cs : List Char) : Option (List Char × List Char) :=
  let rec go : List Char → Nat → List Char → Option (List Char × List Char)
    | [], _, _ => none
    | c :: rest, depth, before =>
      if c = '{' then go rest (depth + 1) (c :: before)
      else if depth > 0 && c = '}' then go rest (depth - 1) (c :: before)
      else if depth = 0 && c = ':' then some (before.reverse, rest)
      else go rest depth (c :: before)
  go cs 0 []

/-- What one reading of a `show` name gives: an object, or nothing with the message a second
reading ends with (none when it ends with no message of its own), or the end of the command;
each with the error lines written. -/
inductive Reading where
  | found (errors : List String) (o : Found)
  | missing (errors : List String) (diagnosis : Option String)
  | fatal (errors : List String) (message : String)

/-- Reads a path of the index at a stage, given as `:PATH` (stage 0) or `:N:PATH`. Every
file of the index here is at stage 0. -/
def Repository.readIndex (r : Repository) (tree : FileTree) (cwd : Location) (errors : List String)
    (stage : Nat) (path : String) : Reading :=
  match r.pathFrom cwd path with
  | .error m => .fatal errors m
  | .ok p =>
    let indexed (q : String) : Bool := (r.index.find? (·.1 == q.splitOn "/")).isSome
    let full := r.prefixOf cwd ++ p
    match r.index.find? (·.1 == p.splitOn "/") with
    | some (_, c) =>
      if stage = 0 then .found errors (.blob c)
      else .missing errors (some (s!"fatal: path '{p}' is in the index, but not at stage {stage}\n" ++
        s!"hint: Did you mean ':0:{p}'?\n"))
    | none =>
      if full != p && indexed full then
        .missing errors (some (s!"fatal: path '{full}' is in the index, but not '{p}'\n" ++
          s!"hint: Did you mean ':0:{full}' aka ':0:./{p}'?\n"))
      else if (tree.entryAt? r.top p).isSome then
        .missing errors (some s!"fatal: path '{p}' exists on disk, but not in the index\n")
      else .missing errors (some s!"fatal: path '{p}' does not exist (neither on disk nor in the index)\n")

def Repository.readName (r : Repository) (tree : FileTree) (cwd : Location) (name : String) : Reading :=
  match r.resolve .any name with
  | .found o => .found [] o
  | .fatal m => .fatal [] m
  | .missing errs =>
    match name.toList with
    | ':' :: '/' :: rest@(_ :: _) =>
      match r.head with
      | some c => if c.answers rest == some true then .found errs (.commit c) else .missing errs none
      | none => .missing errs none
    | ':' :: d :: ':' :: rest =>
      if '0' ≤ d && d ≤ '3' then r.readIndex tree cwd errs (d.toNat - 48) (String.ofList rest)
      else r.readIndex tree cwd errs 0 (String.ofList (d :: ':' :: rest))
    | ':' :: rest => r.readIndex tree cwd errs 0 (String.ofList rest)
    | cs =>
      match splitColon cs with
      | none => .missing errs none
      | some (revChars, pathChars) =>
        let rev := String.ofList revChars
        match r.resolve .treeish rev with
        | .fatal m => .fatal errs m
        | .missing more => .missing (errs ++ more) (some s!"fatal: invalid object name '{rev}'.\n")
        | .found o =>
          match r.pathFrom cwd (String.ofList pathChars) with
          | .error m => .fatal errs m
          | .ok path =>
            match o.treeFiles?.bind (findPath · path) with
            | some x => .found errs x
            | none =>
              let pre := r.prefixOf cwd
              let full := pre ++ path
              if (tree.entryAt? r.top path).isSome then
                .missing errs (some s!"fatal: path '{path}' exists on disk, but not in '{rev}'\n")
              else if !pre.isEmpty && (o.treeFiles?.bind (findPath · full)).isSome then
                .missing errs (some (s!"fatal: path '{full}' exists, but not '{path}'\n" ++
                  s!"hint: Did you mean '{rev}:{full}' aka '{rev}:./{path}'?\n"))
              else .missing errs (some s!"fatal: path '{path}' does not exist in '{rev}'\n")

/-- Whether a name looks like a path pattern: it has an unescaped `*`, `?` or `[`, or starts
with `:(`. -/
def looksLikePattern (name : String) : Bool :=
  let rec go : List Char → Bool
    | [] => false
    | '\\' :: _ :: rest => go rest
    | c :: rest => c = '*' || c = '?' || c = '[' || go rest
  go name.toList || name.startsWith ":("

def errorText (errors : List String) : String := String.join (errors.map (· ++ "\n"))

/-- What `show` prints for a commit: its log entry, then after a blank line the patches of
the files that path patterns pick. With patterns that pick no file it prints nothing. -/
def Commit.shown (c : Commit) (specs : List Pathspec) : List UInt8 :=
  let patches := addedPatches specs c.files
  if patches.isEmpty && !specs.isEmpty then []
  else c.logEntry.toUTF8.toList ++ (if patches.isEmpty then [] else 10 :: patches)

/-- Whether a name is a path of the working tree, as git checks one on the command line: after
`:/` from the top, after `:!` or `:^` from the working directory; those magic prefixes alone
name every file. -/
def Repository.namesFile (r : Repository) (tree : FileTree) (cwd : Location) (name : String) : Bool :=
  match name.toList with
  | ':' :: '/' :: rest => rest.isEmpty || (tree.entryAt? r.top (String.ofList rest)).isSome
  | ':' :: '!' :: rest | ':' :: '^' :: rest => rest.isEmpty || (tree.entryAt? cwd (String.ofList rest)).isSome
  | _ => (tree.entryAt? cwd name).isSome

def Repository.show (r : Repository) (tree : FileTree) (cwd : Location) (spec : String) : Outcome :=
  if spec.startsWith "-" then .failed 128 s!"fatal: unrecognized argument: {spec}\n"
  else
    let negated := spec.startsWith "^"
    let name := if negated then String.ofList (spec.toList.drop 1) else spec
    let printed (errors : List String) (o : Found) : Outcome :=
      let out := match o with
        | .blob bytes => bytes
        | .tree files => (treeListing name files).toUTF8.toList
        | .commit c => c.shown []
        | .unknown _ => []
      { status := 0, stdout := out, stderr := (errorText errors).toUTF8.toList }
    match r.readName tree cwd name with
    | .found errors o => printed errors o
    | .fatal errors m => .failed 128 (errorText errors ++ m)
    | .missing errors diagnosis =>
      if negated then .failed 128 (errorText errors ++ s!"fatal: bad revision '{spec}'\n")
      else if looksLikePattern spec || r.namesFile tree cwd spec then
        match r.head with
        | some c =>
          { status := 0, stdout := c.shown [Pathspec.read (r.prefixOf cwd) spec],
            stderr := (errorText errors).toUTF8.toList }
        | none => .failed 128 (errorText errors ++
            s!"fatal: your current branch '{r.branch}' does not have any commits yet\n")
      else
        let ambiguous := s!"fatal: ambiguous argument '{spec}': unknown revision or path not in the working tree.\n" ++
          "Use '--' to separate paths from revisions, like this:\n" ++
          "'git <command> [<revision>...] -- [<file>...]'\n"
        let skipsDiagnosis := spec = ":" || spec.startsWith ":/"
        if skipsDiagnosis then .failed 128 (errorText errors ++ ambiguous)
        else .failed 128 (errorText errors ++ errorText errors ++ diagnosis.getD ambiguous)

def run (repo : Option Repository) (tree : FileTree) (cwd : Location) (args : List String) : Outcome :=
  match repo with
  | none => .failed 128 notARepository
  | some r =>
    if !r.top.isPrefixOf cwd then .failed 128 notARepository
    else
      match args with
      | ["rev-parse", "--show-toplevel"] => .printed ("/" ++ "/".intercalate r.top ++ "\n")
      | ["rev-parse", "--abbrev-ref", "HEAD"] =>
        match r.head with
        | some _ => .printed (r.branch ++ "\n")
        | none =>
          { status := 128, stdout := "HEAD\n".toUTF8.toList
            stderr := ("fatal: ambiguous argument 'HEAD': unknown revision or path not in the working tree.\n" ++
              "Use '--' to separate paths from revisions, like this:\n" ++
              "'git <command> [<revision>...] -- [<file>...]'\n").toUTF8.toList }
      | ["log", "-1", pretty] =>
        match r.head with
        | none => .failed 128 s!"fatal: your current branch '{r.branch}' does not have any commits yet\n"
        | some c =>
          if pretty.startsWith "--pretty=format:" then .printed (fill c (pretty.toList.drop 16))
          else .printed (fill c pretty.toList)
      | ["show", spec] => r.show tree cwd spec
      | _ => .failed 129 "usage: git [<options>] <command> [<args>]\n"

example : (civilDate 18262) = (2020, 1, 1) := by decide

end LineCoverage.Git
