import LineCoverage.Git.Object
import LineCoverage.Git.Attributes
import LineCoverage.FileTree.System
import LineCoverage.Text.Lines
import LineCoverage.Signal
/-! A git repository beside a working tree: its branch, the commit on it, and the index.

The repository has one branch, at most one commit on it, and the index as staged by that
commit. Committing stages every file that no ignore rule leaves out, with its bytes as its
attributes store them.
-/

set_option autoImplicit false

namespace LineCoverage

structure Outcome where
  status : Nat
  stdout : List UInt8 := []
  stderr : List UInt8 := []
  signal : Option Nat := none
  deriving Repr

def Outcome.succeeded (o : Outcome) : Bool := o.signal.isNone && o.status == 0

/-- How a program ended, in words: `exit status: 2`, or `signal: 9 (SIGKILL)`. -/
def Outcome.ending (o : Outcome) : String :=
  match o.signal with
  | some n =>
    match Signal.name? n with
    | some name => s!"signal: {n} (SIG{name})"
    | none => s!"signal: {n}"
  | none => s!"exit status: {o.status}"

def Outcome.printed (s : String) : Outcome := { status := 0, stdout := s.toUTF8.toList }

def Outcome.failed (status : Nat) (message : String) : Outcome :=
  { status := status, stderr := message.toUTF8.toList }

namespace Git

structure Repository where
  top : Location
  branch : String
  head : Option Commit := none
  index : FileSet := []

def Repository.init (top : Location) (branch : String) : Repository := ⟨top, branch, none, []⟩

/-- The files that adding every change stages: those of the working tree below the top that
no ignore rule leaves out, each with its bytes as its attributes store them. -/
def worktreeFiles (tree : FileTree) (top : Location) : FileSet :=
  (takenBelow tree top).filterMap fun rel =>
    match tree.get? (top ++ rel) with
    | some (.file c) => some (rel, (attrStack tree top rel).storedBytes rel c)
    | _ => none

def storedMessage (message : String) : String :=
  if message.endsWith "\n" then message else message ++ "\n"

/-- Stages every file of the working tree and commits them on the branch, with the names
and addresses cleaned. An empty message, or a name with nothing left after cleaning, makes
no commit. -/
def Repository.commitAll (r : Repository) (tree : FileTree) (author committer : Signature)
    (message : String) : Repository :=
  let files := worktreeFiles tree r.top
  match author.clean, committer.clean with
  | some a, some c =>
    if message.isEmpty then { r with index := files }
    else { r with index := files, head := some ⟨files, a, c, storedMessage message⟩ }
  | _, _ => { r with index := files }

def subjectOf (message : String) : String :=
  " ".intercalate ((Text.lines message).takeWhile (fun l => !(Text.trim l).isEmpty))

def bodyOf (message : String) : String :=
  let rest := (Text.lines message).dropWhile (fun l => !(Text.trim l).isEmpty)
  String.join ((rest.dropWhile (fun l => (Text.trim l).isEmpty)).map (· ++ "\n"))

/-- A log format filled in for a commit: `%H` the id, `%h` its first seven digits, `%T` the
tree, `%an %ae %cn %ce` names and addresses, `%B` the raw message, `%s` the subject, `%b` the
body, `%n` a line break and `%%` a percent sign. Anything else stands for itself. -/
def fill (c : Commit) : List Char → String
  | '%' :: 'H' :: rest => c.id ++ fill c rest
  | '%' :: 'h' :: rest => String.ofList (c.id.toList.take 7) ++ fill c rest
  | '%' :: 'T' :: rest => Digest.hex (treeId c.files) ++ fill c rest
  | '%' :: 'a' :: 'n' :: rest => c.author.name ++ fill c rest
  | '%' :: 'a' :: 'e' :: rest => c.author.email ++ fill c rest
  | '%' :: 'c' :: 'n' :: rest => c.committer.name ++ fill c rest
  | '%' :: 'c' :: 'e' :: rest => c.committer.email ++ fill c rest
  | '%' :: 'B' :: rest => c.message ++ fill c rest
  | '%' :: 's' :: rest => subjectOf c.message ++ fill c rest
  | '%' :: 'b' :: rest => bodyOf c.message ++ fill c rest
  | '%' :: 'n' :: rest => "\n" ++ fill c rest
  | '%' :: '%' :: rest => "%" ++ fill c rest
  | ch :: rest => ch.toString ++ fill c rest
  | [] => ""

def notARepository : String := "fatal: not a git repository (or any of the parent directories): .git\n"

end Git

end LineCoverage
