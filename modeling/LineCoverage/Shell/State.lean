import LineCoverage.Shell.Parse
import LineCoverage.Shell.Tools
import LineCoverage.Shell.Builtins
import LineCoverage.Git.Commands
/-! The state of a running shell and what its commands produce.

A shell keeps its variables (some of them exported to the programs it starts), its
positional parameters, its working directory, the status of the last command, whether it
stops at the first failure, and the functions defined. Its commands act on the file tree and
the repository, and read from its standard input.

What a command writes is a list of chunks, each on a descriptor, in the order written;
redirections decide where each chunk goes once the command has run: to a descriptor of the
enclosing command, appended to a file, or nowhere.
-/

set_option autoImplicit false

namespace LineCoverage.Shell

abbrev Output := List (Nat × List UInt8)

/-- The options of the shell, in the order in which `$-` gives their letters and `set -o` lists
them. -/
inductive ShellOption where
  | errexit | noglob | ignoreeof | interactive | monitor | noexec | stdin | xtrace | verbose
  | vi | emacs | noclobber | allexport | notify | nounset | nolog | debug
  deriving DecidableEq, Repr

namespace ShellOption

def all : List ShellOption :=
  [errexit, noglob, ignoreeof, interactive, monitor, noexec, stdin, xtrace, verbose, vi, emacs,
    noclobber, allexport, notify, nounset, nolog, debug]

def name : ShellOption → String
  | errexit => "errexit" | noglob => "noglob" | ignoreeof => "ignoreeof"
  | interactive => "interactive" | monitor => "monitor" | noexec => "noexec" | stdin => "stdin"
  | xtrace => "xtrace" | verbose => "verbose" | vi => "vi" | emacs => "emacs"
  | noclobber => "noclobber" | allexport => "allexport" | notify => "notify"
  | nounset => "nounset" | nolog => "nolog" | debug => "debug"

/-- The letter that turns the option on after `-` and off after `+`; the last two have none. -/
def letter? : ShellOption → Option Char
  | errexit => some 'e' | noglob => some 'f' | ignoreeof => some 'I' | interactive => some 'i'
  | monitor => some 'm' | noexec => some 'n' | stdin => some 's' | xtrace => some 'x'
  | verbose => some 'v' | vi => some 'V' | emacs => some 'E' | noclobber => some 'C'
  | allexport => some 'a' | notify => some 'b' | nounset => some 'u' | nolog => none
  | debug => none

def ofLetter? (c : Char) : Option ShellOption := all.find? (·.letter? == some c)

def ofName? (s : String) : Option ShellOption := all.find? (·.name == s)

end ShellOption

structure Vars where
  values : List (String × String) := []
  exported : List String := []
  readonly : List String := []
  params : List String := []
  scriptName : String := "sh"
  status : Nat := 0
  options : List ShellOption := []
  hashed : List (String × String) := []

namespace Vars

def has (v : Vars) (o : ShellOption) : Bool := v.options.contains o

def setOption (v : Vars) (o : ShellOption) (on : Bool) : Vars :=
  { v with options := if on then (if v.has o then v.options else v.options ++ [o])
                      else v.options.filter (· != o) }

def get? (v : Vars) (name : String) : Option String := (v.values.find? (·.1 == name)).map (·.2)

def markExported (v : Vars) (name : String) : Vars :=
  if v.exported.contains name then v else { v with exported := v.exported ++ [name] }

def set (v : Vars) (name value : String) : Vars :=
  let v' := { v with values := (name, value) :: v.values.filter (·.1 != name)
                     hashed := if name = "PATH" then [] else v.hashed }
  if v.has .allexport then v'.markExported name else v'

def lockedAmong (v : Vars) (names : List String) : Option String := names.find? v.readonly.contains

def unset (v : Vars) (name : String) : Vars :=
  { v with values := v.values.filter (·.1 != name), exported := v.exported.filter (· != name) }

def environment (v : Vars) : List (String × String) :=
  let vs := v.exported.filterMap fun n => (v.get? n).map fun x => (n, x)
  vs.mergeSort fun a b => decide (a.1 ≤ b.1)

end Vars

structure State where
  vars : Vars
  cwd : Location
  tree : FileTree
  repo : Option Git.Repository
  stdin : List UInt8
  line : Nat := 0
  substStatus : Nat := 0
  funcs : List (String × Command) := []
  loops : Nat := 0
  locals : Option (List (String × Option String)) := none
  traps : List (Nat × String) := []
  tested : Bool := false
  fds : List Nat := []
  within : Option String := none
  /-- Where `getopts` goes on: the argument it reads next (counted from 1), the place in the
  argument before it where it stopped inside a group of letters, and the value of `OPTIND`
  it left, by which it sees that `OPTIND` was set since. -/
  getopts : Nat × Option Nat × String := (1, none, "1")
  aliases : List (String × String) := []
  /-- The permission bits that files made are made without. -/
  mask : Nat := 18
  jobs : List (Nat × Nat) := []

def State.cwdPath (st : State) : String := "/" ++ "/".intercalate st.cwd

def State.blame (st : State) (line : Nat) : String :=
  st.vars.scriptName ++ ": " ++ toString line ++ ": " ++ (st.within.map (· ++ ": ")).getD ""

def State.here (st : State) : String := st.blame st.line

/-- The shell as a subshell starts it: the commands set for signals are reset, and the signals
set to be ignored stay ignored. -/
def State.forSubshell (st : State) : State := { st with traps := st.traps.filter (·.2.isEmpty) }

/-- How the commands after one go on: in order, or not at all because the shell is leaving
(`exit`, or a failure under `set -e`), or because of a jump: `return` leaves the function
(or the script), `break` and `continue` leave or restart the loop that many levels out. A
command may also send a signal to the shell itself, which the shell then acts on, and a signal
not caught ends the shell. -/
inductive Flow where
  | next
  | exit
  | leave
  | breakLoops (levels : Nat)
  | continueLoop (levels : Nat)
  | signal (n : Nat)
  | killed (n : Nat)

inductive Dest where
  | fd (n : Nat)
  | file (l : Location)
  | discard
  | closed
  deriving Inhabited, DecidableEq

/-- Where each redirected descriptor's output goes; the others go to the same descriptor of
the enclosing command. -/
abbrev FdMap := List (Nat × Dest)

def FdMap.lookup (m : FdMap) (n : Nat) : Dest := ((m.find? (·.1 == n)).map (·.2)).getD (.fd n)

/-- How a command ended: the state after it, what it wrote, its status, how the commands
after it go on, whether its failure may be ignored by `set -e` (it came from a test of `&&`,
`||` or `!`), and the descriptors it moved for good (`exec` without a command), innermost
first, that the commands after it write through. -/
structure Ran where
  state : State
  out : Output
  status : Nat
  flow : Flow := .next
  lenient : Bool := false
  reroute : List FdMap := []

def Ran.settle (r : Ran) : Ran :=
  { r with state := { r.state with vars := { r.state.vars with status := r.status } } }

def Ran.stops (r : Ran) : Bool :=
  match r.flow with
  | .next => false
  | _ => true

/-- An expansion that failed: the message written, and the status the shell leaves with (above
128 when a signal of that number less 128 ends it). -/
structure Abort where
  message : String
  status : Nat

abbrev Expanded (α : Type) := Except (Abort × Output) (α × State × Output)

structure Fields where
  done : List (List (Char × Bool)) := []
  current : List (Char × Bool) := []
  started : Bool := false

namespace Fields

/-- Adds text that is neither split nor matched against file names. -/
def addQuoted (f : Fields) (s : String) : Fields :=
  { f with current := f.current ++ s.toList.map (·, true), started := true }

/-- Adds text that is matched against file names but not split. -/
def addPlain (f : Fields) (s : String) : Fields :=
  { f with current := f.current ++ s.toList.map (·, false), started := f.started || !s.isEmpty }

def cut (f : Fields) : Fields :=
  if f.current.isEmpty && !f.started then f
  else { done := f.done ++ [f.current], current := [], started := false }

def cutAlways (f : Fields) : Fields := { done := f.done ++ [f.current], current := [], started := false }

/-- How splitting stands after a character: within a field, after field-separating white
space (which takes one other separator after it along), or after another separator (which
takes the white space after it along). -/
inductive SplitState where
  | inField
  | afterSpace
  | afterSeparator

/-- Adds the result of an unquoted expansion, split into fields at separator characters. White
space among the separators is dropped at the start of a field, and a run of it, with at
most one other separator in it, ends one field. Every other separator ends a field, so two
of them in a row leave an empty field between them. Separators at the end end the field
before them without starting another. -/
def addSplit (f : Fields) (separators : List Char) (s : String) : Fields :=
  let isSpace (c : Char) : Bool := c = ' ' || c = '\t' || c = '\n'
  let step (acc : Fields × SplitState) (c : Char) : Fields × SplitState :=
    let (g, state) := acc
    if !separators.contains c then ({ g with current := g.current ++ [(c, false)], started := true }, .inField)
    else if isSpace c then
      match state with
      | .inField => if g.current.isEmpty && !g.started then (g, .inField) else (g.cut, .afterSpace)
      | other => (g, other)
    else
      match state with
      | .afterSpace => (g, .afterSeparator)
      | _ => (g.cutAlways, .afterSeparator)
  (s.toList.foldl step (f, .inField)).1

def finish (f : Fields) : List (List (Char × Bool)) := f.cut.done

end Fields

def fieldText (f : List (Char × Bool)) : String := String.ofList (f.map (·.1))

def State.separators (st : State) : List Char := ((st.vars.get? "IFS").getD " \t\n").toList

def Fields.addValue (f : Fields) (st : State) (split quoted : Bool) (v : String) : Fields :=
  if quoted then f.addQuoted v else if split then f.addSplit st.separators v else f.addPlain v

def appendAt (t : FileTree) (l : Location) (bs : List UInt8) : FileTree :=
  match t.get? l with
  | some (.file old) => t.put l (.file (old ++ bs))
  | _ => t.put l (.file bs)

def route (m : FdMap) : FileTree → Output → FileTree × Output
  | t, [] => (t, [])
  | t, (fd, bs) :: rest =>
    match m.lookup fd with
    | .fd k => let (t', o) := route m t rest; (t', (k, bs) :: o)
    | .file l => route m (appendAt t l bs) rest
    | .discard | .closed => route m t rest

def routeThrough : List FdMap → FileTree → Output → FileTree × Output
  | [], t, out => (t, out)
  | m :: ms, t, out =>
    let (t', out') := route m t out
    routeThrough ms t' out'

inductive Opened where
  | toFile (fd : Nat) (path : String) (append : Bool)
  | fromFile (fd : Nat) (path : String)
  | copy (fd : Nat) (target : String)
  | here (fd : Nat) (text : String)

def openAll (st : State) (line : Nat) : List Opened → FdMap → Option (List UInt8) → FileTree →
    Except String (FdMap × Option (List UInt8) × FileTree)
  | [], m, input, t => .ok (m, input, t)
  | r :: rest, m, input, t =>
    match r with
    | .toFile fd path append =>
      if path = "/dev/null" then openAll st line rest ((fd, .discard) :: m) input t
      else if path = "/dev/stdout" then openAll st line rest ((fd, m.lookup 1) :: m) input t
      else if path = "/dev/stderr" then openAll st line rest ((fd, m.lookup 2) :: m) input t
      else
        match t.writeAt st.cwd path [] append, t.resolve st.cwd path with
        | .ok t', .ok l => openAll st line rest ((fd, .file l) :: m) input t'
        | .error e, _ =>
          let reason := match e with
            | .notFound | .notDirectory => "Directory nonexistent"
            | other => osText other
          .error (st.blame line ++ s!"cannot create {path}: {reason}\n")
        | _, .error _ => .error (st.blame line ++ s!"cannot create {path}: Directory nonexistent\n")
    | .fromFile fd path =>
      if path = "/dev/null" then openAll st line rest m (if fd = 0 then some [] else input) t
      else
        match t.readAt st.cwd path with
        | .ok bs =>
          if fd = 0 then openAll st line rest m (some bs) t
          else openAll st line rest ((fd, .discard) :: m) input t
        | .error e =>
          let reason := match e with
            | .notFound | .notDirectory => "No such file"
            | other => osText other
          .error (st.blame line ++ s!"cannot open {path}: {reason}\n")
    | .copy fd target =>
      if target = "-" then openAll st line rest ((fd, .closed) :: m) input t
      else
        match target.toNat? with
        | some k =>
          if (k > 2 && !st.fds.contains k && !(m.any (·.1 == k))) || m.lookup k == .closed then
            .error (st.blame line ++ s!"{k}: Bad file descriptor\n")
          else if fd = 0 then openAll st line rest m input t
          else openAll st line rest ((fd, m.lookup k) :: m) input t
        | none => .error (st.blame line ++ s!"{target}: bad file descriptor\n")
    | .here fd text => openAll st line rest m (if fd = 0 then some (bytes text) else input) t

def onDescriptor (n : Nat) (out : Output) : List UInt8 :=
  out.flatMap fun (fd, bs) => if fd = n then bs else []

def offDescriptor (n : Nat) (out : Output) : Output := out.filter (·.1 != n)

def State.complain (st : State) (message : String) (status : Nat) : Ran :=
  { state := st, out := [(2, bytes message)], status := status }

/-- File names matching a pattern, sorted; the pattern itself, quotes removed, when none
does. -/
def globField (tree : FileTree) (cwd : Location) (field : List (Char × Bool)) : List String :=
  if !isGlob field then [fieldText field]
  else
    let absolute := field.head?.map (·.1) == some '/'
    let comps : List (List (Char × Bool)) :=
      (field.foldl (fun (acc : List (List (Char × Bool))) c =>
        if c.1 = '/' then acc ++ [[]] else acc.dropLast ++ [(acc.getLast?.getD []) ++ [c]]) [[]]).filter (!·.isEmpty)
    let start : List (Location × String) := [(if absolute then [] else cwd, if absolute then "/" else "")]
    let joinText (pre name : String) : String :=
      if pre.isEmpty || pre.endsWith "/" then pre ++ name else pre ++ "/" ++ name
    let step (cands : List (Location × String)) (comp : List (Char × Bool)) : List (Location × String) :=
      cands.flatMap fun (l, pre) =>
        if isGlob comp then
          let hidden := comp.head?.map (·.1) == some '.'
          -- a pattern that starts with a dot also sees the entries `.` and `..`
          let dots : List (String × Location) := if hidden && tree.isDir l then [(".", l), ("..", l.dropLast)] else []
          let entries := dots ++ (tree.children l).map fun (name, _) => (name, l ++ [name])
          entries.filterMap fun (name, place) =>
            if (hidden || !name.startsWith ".") && globMatches comp name then some (place, joinText pre name)
            else none
        else
          let name := fieldText comp
          [(FileTree.stepInto l name, joinText pre name)]
    let found := (comps.foldl step start).filter fun (l, _) => (tree.get? l).isSome
    -- a pattern that ends in a slash names directories only, and keeps its slash
    let trailing := field.getLast?.map (·.1) == some '/'
    let found := if !trailing then found
      else found.filterMap fun (l, name) =>
        match tree.resolve [] ("/" ++ "/".intercalate l) with
        | .ok m => if tree.isDir m then some (l, if name.endsWith "/" then name else name ++ "/") else none
        | .error _ => none
    let names := (found.map (·.2)).mergeSort fun a b => decide (a ≤ b)
    if names.isEmpty then [fieldText field] else names

end LineCoverage.Shell
