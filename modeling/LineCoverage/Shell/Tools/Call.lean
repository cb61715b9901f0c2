import LineCoverage.FileTree.System
import LineCoverage.Text.Bytewise
/-! A call of one of the system's utilities, and what it leaves behind.

A utility sees its arguments, the bytes of its standard input, the working directory, the file
tree and its environment; it ends with a status, the bytes of its two output streams and the
file tree after it. Texts here hold one character per byte, as the utilities work in the C
locale. The lines of an input keep their line breaks, so that a last line without one can be
told apart.
-/

set_option autoImplicit false

namespace LineCoverage.Shell

structure Call where
  args : List String
  stdin : List UInt8
  cwd : Location
  tree : FileTree
  env : List (String × String)
  name : String := ""

/-- How a utility ended: its status, what it wrote on its output (1) and error (2) streams in
the order the writes reached them, and the file tree after it. -/
structure Done where
  status : Nat
  output : List (Nat × List UInt8)
  tree : FileTree

/-- How a utility ended that writes its output through a buffer emptied when it ends, as the
GNU utilities do when their output is not a terminal: its messages, written at once, come
before all of its output. -/
def Done.buffered (status : Nat) (out err : List UInt8) (tree : FileTree) : Done :=
  ⟨status, [(2, err), (1, out)].filter (!·.2.isEmpty), tree⟩

def Done.written (d : Done) (stream : Nat) : List UInt8 :=
  d.output.flatMap fun (n, bs) => if n = stream then bs else []

def bytes (s : String) : List UInt8 := Text.Bytewise.encode s

def textOf (bs : List UInt8) : String := Text.Bytewise.decode bs

def Call.answer (c : Call) (status : Nat) (out err : String) : Done := Done.buffered status (bytes out) (bytes err) c.tree

def Call.tool (c : Call) (fallback : String) : String := if c.name.isEmpty then fallback else c.name

def osText : OsError → String
  | .notFound => "No such file or directory"
  | .isDirectory => "Is a directory"
  | .alreadyExists => "File exists"
  | .notDirectory => "Not a directory"
  | .linkLoop => "Too many levels of symbolic links"
  | .other t => t

/-- Lines of text, each with its line break; the last may lack one. -/
def linesWithBreaks (s : String) : List String :=
  let parts := s.splitOn "\n"
  match parts.getLast? with
  | some "" => parts.dropLast.map (· ++ "\n")
  | _ => (parts.dropLast.map (· ++ "\n")) ++ (parts.getLast?.toList)

def chomp (l : String) : String := if l.endsWith "\n" then String.ofList (l.toList.dropLast) else l

def linesOf (s : String) : List String := (linesWithBreaks s).map chomp

def records (delim : Char) (s : String) : List String :=
  let parts := s.splitOn delim.toString
  let ended := parts.dropLast.map (· ++ delim.toString)
  match parts.getLast? with
  | some "" => ended
  | some last => ended ++ [last]
  | none => []

def Call.readInput (c : Call) (name : String) : Except OsError (List UInt8) :=
  if name = "-" then .ok c.stdin else c.tree.readAt c.cwd name

/-- The contents of the inputs named, or of the standard input when none (or `-`) is named,
with the messages of those that cannot be read, each made by `complain`. -/
def Call.readAll (c : Call) (names : List String) (complain : String → OsError → String) :
    List (String × List UInt8) × String :=
  let names := if names.isEmpty then ["-"] else names
  names.foldl (fun (acc, err) n =>
    match c.readInput n with
    | .ok bs => (acc ++ [(n, bs)], err)
    | .error e => (acc, err ++ complain n e)) ([], "")

/-- A name in single quotes, or in double quotes when it holds a single quote: how the
utilities name a file in most of their messages. -/
def quoteAlways (s : String) : String :=
  if s.toList.contains '\'' then "\"" ++ s ++ "\"" else "'" ++ s ++ "'"

/-- A name quoted only when the shell would read it otherwise: when it is empty or holds a
character outside letters, digits and `%+,-./:@]_` and braces, or starts with `#` or `~`. -/
def quoteIfNeeded (s : String) : String :=
  let plain (c : Char) : Bool := c.isAlphanum || "%+,-./:@]_#~\x7b\x7d".toList.contains c
  let startsPlain := match s.toList.head? with
    | some '#' | some '~' => false
    | _ => true
  if !s.isEmpty && startsPlain && s.all plain then s else quoteAlways s

def readInputs (c : Call) (tool : String) (names : List String) : List (String × List UInt8) × String :=
  c.readAll names fun n e => tool ++ ": " ++ quoteIfNeeded n ++ ": " ++ osText e ++ "\n"

end LineCoverage.Shell
