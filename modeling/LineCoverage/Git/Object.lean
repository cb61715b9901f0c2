import LineCoverage.Digest.Sha1
import LineCoverage.Digest.Words
import LineCoverage.FileTree.Basic
/-! Objects of a git repository and their ids.

An object is stored as its kind, a space, its size in decimal, a zero byte and its content;
its id is the SHA-1 digest of that. A file is a blob. A directory is a tree: one entry per
child, `mode name` then a zero byte then the child's raw id, the entries sorted by name
where a directory's name counts as if it ended in a slash. A commit names its tree, author
and committer with their time stamps, then a blank line and the message.
-/

set_option autoImplicit false

namespace LineCoverage.Git

def objectId (kind : String) (content : List UInt8) : List UInt8 :=
  Digest.sha1 ((kind ++ " " ++ toString content.length).toUTF8.toList ++ [0] ++ content)

abbrev FileSet := List (Location × List UInt8)

def dirNames (files : FileSet) : List String :=
  (files.filterMap fun (l, _) => match l with
    | n :: _ :: _ => some n
    | _ => none).eraseDups

def below (files : FileSet) (name : String) : FileSet :=
  files.filterMap fun (l, c) => match l with
    | n :: rest@(_ :: _) => if n = name then some (rest, c) else none
    | _ => none

structure TreeEntry where
  key : String
  mode : String
  name : String
  id : List UInt8

def treeContent : Nat → FileSet → List UInt8
  | 0, _ => []
  | fuel + 1, files =>
    let blobs : List TreeEntry := files.filterMap fun (l, c) => match l with
      | [n] => some ⟨n, "100644", n, objectId "blob" c⟩
      | _ => none
    let trees : List TreeEntry := (dirNames files).map fun d =>
      ⟨d ++ "/", "40000", d, objectId "tree" (treeContent fuel (below files d))⟩
    let sorted := (blobs ++ trees).mergeSort fun a b => decide (a.key ≤ b.key)
    sorted.flatMap fun e => (e.mode ++ " " ++ e.name).toUTF8.toList ++ [0] ++ e.id

def depthBound (files : FileSet) : Nat := (files.map (·.1.length)).foldl max 0 + 1

def treeId (files : FileSet) : List UInt8 := objectId "tree" (treeContent (depthBound files) files)

structure Signature where
  name : String
  email : String
  stamp : String
  deriving DecidableEq, Repr

/-- Characters trimmed from both ends of a name or an address: blanks, controls and the
punctuation `. , : ; < > " \\ '`. -/
def isCrud (c : Char) : Bool := c.toNat ≤ 32 || ".,:;<>\"\\'".toList.contains c

/-- A name or address as it goes into a signature line: crud trimmed from both ends, and the
line break and angle brackets, which delimit the fields of the line, dropped inside. -/
def cleanIdent (s : String) : String :=
  let cs := ((s.toList.dropWhile isCrud).reverse.dropWhile isCrud).reverse
  String.ofList (cs.filter fun c => c != '\n' && c != '<' && c != '>')

def Signature.clean (s : Signature) : Option Signature :=
  let name := cleanIdent s.name
  if name.isEmpty then none else some { s with name := name, email := cleanIdent s.email }

example : cleanIdent " Dr. Who. " = "Dr. Who" ∧ cleanIdent "Ann <Boss>" = "Ann Boss" ∧
    cleanIdent "\"y\"@z" = "y\"@z" := by decide

def Signature.line (role : String) (s : Signature) : String :=
  s!"{role} {s.name} <{s.email}> {s.stamp}\n"

structure Commit where
  files : FileSet
  author : Signature
  committer : Signature
  message : String

def Commit.text (c : Commit) : String :=
  s!"tree {Digest.hex (treeId c.files)}\n" ++ c.author.line "author" ++
    c.committer.line "committer" ++ "\n" ++ c.message

def Commit.id (c : Commit) : String := Digest.hex (objectId "commit" c.text.toUTF8.toList)


end LineCoverage.Git
