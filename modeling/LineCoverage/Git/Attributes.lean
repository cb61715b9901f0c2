import LineCoverage.Git.Ignore
import LineCoverage.Text.Utf8
/-! Attribute files, and how a file's bytes change when it is stored.

An attribute file holds a pattern and attribute states on each line: `name` sets an
attribute, `-name` unsets it, `!name` leaves it unspecified and `name=value` gives it a value.
Blank lines, lines starting with `#`, negated patterns and lines with an invalid attribute
name say nothing. The attribute file at the top may define macros, `[attr]name states`; the
macro `binary` stands for `-diff -merge -text`. A macro that gets set sets its states too.

For a path, each attribute takes its state from the deepest attribute file, the last matching
line of it, and the last mention in that line.

When a file is stored, the attributes `text`, `crlf` and `eol` decide its line endings. A
file marked as text has each carriage return before a line feed dropped; with `text=auto`, a
file that looks like text (no lone carriage return, no zero byte, and few unprintable bytes) has
every carriage return dropped. A file that is neither is stored as it is. The attribute
`ident` turns each `$Id: ...$` on one line back into `$Id$`.
-/

set_option autoImplicit false

namespace LineCoverage.Git

inductive AttrState where
  | set
  | unset
  | unspecified
  | value (v : String)
  deriving DecidableEq, Repr

structure AttrLine where
  pattern : PathPattern
  states : List (String × AttrState)
  deriving Repr

structure AttrStack where
  files : List (List AttrLine) := []
  macros : List (String × List (String × AttrState)) := []

def isAttrBlank (b : UInt8) : Bool := b == 32 || b == 9 || b == 13 || b == 10

/-- Whether a text is a valid attribute name: letters, digits, `-`, `.` and `_`, not
starting with `-`. -/
def validAttrName (name : List UInt8) : Bool :=
  !name.isEmpty && name.head? != some 45 &&
    name.all fun b =>
      let n := b.toNat
      (48 ≤ n && n ≤ 57) || (65 ≤ n && n ≤ 90) || (97 ≤ n && n ≤ 122) || n == 45 || n == 46 || n == 95

def textOf (bs : List UInt8) : String := Text.Utf8.decodeLossy bs

def readState (token : List UInt8) : Option (String × AttrState) :=
  match token with
  | 45 :: rest | 33 :: rest =>
    let name := rest.takeWhile (· != 61)
    if validAttrName name then
      some (textOf name, if token.head? == some 45 then .unset else .unspecified)
    else none
  | _ =>
    let name := token.takeWhile (· != 61)
    if !validAttrName name then none
    else if name.length == token.length then some (textOf name, .set)
    else some (textOf name, .value (textOf (token.drop (name.length + 1))))

def fieldsOf (line : List UInt8) : List (List UInt8) :=
  (line.foldr (fun b acc =>
    if isAttrBlank b then [] :: acc
    else match acc with
      | f :: more => (b :: f) :: more
      | [] => [[b]]) [[]]).filter (!·.isEmpty)

inductive AttrEntry where
  | line (l : AttrLine)
  | define (name : String) (states : List (String × AttrState))

def readAttrLine (base : Location) (allowMacros : Bool) (line : List UInt8) : Option AttrEntry :=
  match fieldsOf line with
  | [] => none
  | first :: rest =>
    if first.head? == some 35 then none
    else
      match rest.mapM readState with
      | none => none
      | some states =>
        let macroMark := "[attr]".toUTF8.toList
        if macroMark.isPrefixOf first && first.length > macroMark.length then
          let name := first.drop macroMark.length
          if allowMacros && validAttrName name then some (.define (textOf name) states) else none
        else
          let p := PathPattern.read base first
          if p.negative then none else some (.line ⟨p, states⟩)

def readAttributes (base : Location) (allowMacros : Bool) (content : List UInt8) : List AttrEntry :=
  (fileLines content).filterMap (readAttrLine base allowMacros)

def builtinMacros : List (String × List (String × AttrState)) :=
  [("binary", [("diff", .unset), ("merge", .unset), ("text", .unset)])]

def attrStack (tree : FileTree) (top path : Location) : AttrStack :=
  let dirs := (List.range path.length).map path.take
  dirs.foldl (fun st dir =>
    match tree.get? (top ++ dir ++ [".gitattributes"]) with
    | some (.file c) =>
      let entries := readAttributes dir dir.isEmpty c
      let lines := entries.filterMap fun | .line l => some l | .define _ _ => none
      let macros := entries.filterMap fun | .define n s => some (n, s) | .line _ => none
      { files := lines :: st.files, macros := macros.reverse ++ st.macros }
    | _ => st) { macros := builtinMacros }

/-- Gives the states of a line to the attributes that have none yet, the last state first; a
macro that gets set gives its own states in turn. `fuel` bounds the nesting of macros. -/
def giveStates (macros : List (String × List (String × AttrState))) :
    Nat → List (String × AttrState) → List (String × AttrState) → List (String × AttrState)
  | 0, _, known => known
  | fuel + 1, states, known =>
    states.reverse.foldl (fun known (name, s) =>
      if known.any (·.1 == name) then known
      else
        let known := (name, s) :: known
        match s, macros.find? (·.1 == name) with
        | .set, some (_, more) => giveStates macros fuel more known
        | _, _ => known) known

def AttrStack.statesFor (st : AttrStack) (path : Location) : List (String × AttrState) :=
  let fuel := st.macros.length + 1
  st.files.foldl (fun known lines =>
    lines.reverse.foldl (fun known l =>
      if l.pattern.matches path false then giveStates st.macros fuel l.states known else known)
      known) []

inductive Endings where
  | keep
  | text
  /-- Every carriage return dropped, if the file looks like text. -/
  | auto
  deriving DecidableEq, Repr

def endingsOf (states : List (String × AttrState)) : Endings :=
  let stateOf (name : String) : Option AttrState := (states.find? (·.1 == name)).map (·.2)
  let fromState : Option AttrState → Option Endings
    | some .set => some .text
    | some .unset => none
    | some (.value "input") => some .text
    | some (.value "auto") => some .auto
    | _ => some .keep
  let first := fromState (stateOf "text")
  let chosen := if first == some .keep then fromState (stateOf "crlf") else first
  match chosen with
  | none => .keep
  | some e =>
    let eol := match stateOf "eol" with
      | some (.value "lf") | some (.value "crlf") => true
      | _ => false
    if e == .keep && eol then .text else e

structure ByteCounts where
  crlf : Nat := 0
  loneCr : Nat := 0
  nul : Nat := 0
  printable : Nat := 0
  unprintable : Nat := 0

def countBytes : List UInt8 → ByteCounts → ByteCounts
  | [], c => c
  | 13 :: 10 :: rest, c => countBytes rest { c with crlf := c.crlf + 1 }
  | 13 :: rest, c => countBytes rest { c with loneCr := c.loneCr + 1 }
  | 10 :: rest, c => countBytes rest c
  | b :: rest, c =>
    if b == 127 then countBytes rest { c with unprintable := c.unprintable + 1 }
    else if b < 32 then
      if b == 8 || b == 9 || b == 27 || b == 12 then countBytes rest { c with printable := c.printable + 1 }
      else if b == 0 then countBytes rest { c with nul := c.nul + 1, unprintable := c.unprintable + 1 }
      else countBytes rest { c with unprintable := c.unprintable + 1 }
    else countBytes rest { c with printable := c.printable + 1 }

/-- Whether a file looks like data rather than text: it has a lone carriage return or a zero
byte, or more than one unprintable byte in 128 printable ones. A final end-of-file mark
(byte 26) is not counted. -/
def looksBinary (content : List UInt8) : Bool :=
  let c := countBytes content {}
  let unprintable := if content.getLast? == some 26 then c.unprintable - 1 else c.unprintable
  c.loneCr > 0 || c.nul > 0 || c.printable / 128 < unprintable

def dropCrBeforeLf : List UInt8 → List UInt8
  | [] => []
  | 13 :: 10 :: rest => 10 :: dropCrBeforeLf rest
  | b :: rest => b :: dropCrBeforeLf rest

def Endings.apply (e : Endings) (content : List UInt8) : List UInt8 :=
  let c := countBytes content {}
  if c.crlf == 0 then content
  else match e with
    | .keep => content
    | .text => dropCrBeforeLf content
    | .auto => if looksBinary content then content else content.filter (· != 13)

/-- Turns each `$Id: ...$` on one line back into `$Id$`; `fuel` above the number of bytes
is enough. -/
def collapseIdents : Nat → List UInt8 → List UInt8
  | 0, bs => bs
  | _, [] => []
  | fuel + 1, 36 :: rest =>
    match rest with
    | 73 :: 100 :: 58 :: more@(_ :: _) =>
      match more.findIdx? (· == 36) with
      | none => 36 :: rest
      | some k =>
        if (more.take k).contains 10 then 36 :: collapseIdents fuel rest
        else 36 :: "Id$".toUTF8.toList ++ collapseIdents fuel (more.drop (k + 1))
    | _ => 36 :: collapseIdents fuel rest
  | fuel + 1, b :: rest => b :: collapseIdents fuel rest

def AttrStack.storedBytes (st : AttrStack) (path : Location) (content : List UInt8) : List UInt8 :=
  let states := st.statesFor path
  let content := (endingsOf states).apply content
  if (states.find? (·.1 == "ident")).map (·.2) == some .set then
    collapseIdents (content.length + 1) content
  else content

example : (endingsOf [("text", .value "auto"), ("eol", .value "crlf")]).apply
    "x\r\ny\r\n".toUTF8.toList = "x\ny\n".toUTF8.toList := by decide +kernel
example : endingsOf [("text", .unset)] = .keep ∧ endingsOf [] = .keep ∧
    endingsOf [("eol", .value "lf")] = .text := by decide

end LineCoverage.Git
