import LineCoverage.Dump.Basic
import LineCoverage.Numeral
import LineCoverage.Text.Utf8
import LineCoverage.Text.Lines
import LineCoverage.Text.Blank
/-! Reading the dump tool's intermediate text format.

The text is read as UTF-8, invalid bytes replaced. Each line is cut at its first colon into a
tag and a value; lines without a colon and unknown tags are passed over.

* `file:<path>` opens the records of a source file (the path trimmed of blanks);
* `function:<start>,<end>,<count>,<name>` records a function;
* `lcount:<line>,<count>,<flag>` records a line; a non-zero flag marks an unexecuted block.

Records before the first `file:` line belong to no file and are not even checked. The first
malformed record stops the reading, with its line number.
-/

set_option autoImplicit false

namespace LineCoverage.Dump

inductive Field where
  | functionStart
  | functionEnd
  | functionCount
  | unexecutedFlag
  | lineNumber
  | executionCount
  deriving Repr, DecidableEq

def Field.describe : Field → String
  | .functionStart => "function start line"
  | .functionEnd => "function end line"
  | .functionCount => "function execution count"
  | .unexecutedFlag => "unexecuted block flag"
  | .lineNumber => "line number"
  | .executionCount => "execution count"

inductive Defect where
  | functionShape (value : String)
  | lineShape (value : String)
  /-- A field that is not a numeral in range; the text is trimmed. -/
  | badNumber (field : Field) (text : String)
  deriving Repr, DecidableEq

def Defect.message : Defect → String
  | .functionShape v => "expected 'start,stop,count,name' in function record, got '" ++ v ++ "'"
  | .lineShape v => "expected 'line,count,has_unexecuted_block' in lcount record, got '" ++ v ++ "'"
  | .badNumber f t => "invalid " ++ f.describe ++ ": '" ++ t ++ "'"

structure ParseError where
  line : Nat
  defect : Defect
  deriving Repr, DecidableEq

def number (field : Field) (bound : Nat) (cs : List Char) : Except Defect Nat :=
  let t := Text.trimChars cs
  match Numeral.read? bound t with
  | some n => .ok n
  | none => .error (.badNumber field (String.ofList t))

def readFunction (value : List Char) : Except Defect FunctionRecord :=
  match Text.splitAtMost ',' 4 value with
  | [a, b, c, d] => do
    let start ← number .functionStart Numeral.bound32 a
    let stop ← number .functionEnd Numeral.bound32 b
    let calls ← number .functionCount Numeral.bound64 c
    pure ⟨start, stop, calls, String.ofList (Text.trimChars d)⟩
  | _ => .error (.functionShape (String.ofList value))

/-- The value of an `lcount:` line; the flag is checked first, then the line, then the count. -/
def readLineCount (value : List Char) : Except Defect LineRecord :=
  match Text.splitAll ',' value with
  | [a, b, c] => do
    let flag ← number .unexecutedFlag Numeral.bound32 c
    let line ← number .lineNumber Numeral.bound32 a
    let hits ← number .executionCount Numeral.bound64 b
    pure ⟨line, hits, flag != 0⟩
  | _ => .error (.lineShape (String.ofList value))

abbrev Section := Option (String × FileRecords)

def close (d : Dump) : Section → Dump
  | none => d
  | some (path, r) => d.add path r

def tagFile : List Char := "file".toList
def tagFunction : List Char := "function".toList
def tagLineCount : List Char := "lcount".toList

def readLines (n : Nat) (d : Dump) (current : Section) : List (List Char) → Except ParseError Dump
  | [] => .ok (close d current)
  | l :: rest =>
    match Text.splitFirst ':' l with
    | none => readLines (n + 1) d current rest
    | some (tag, value) =>
      if tag = tagFile then
        readLines (n + 1) (close d current) (some (String.ofList (Text.trimChars value), {})) rest
      else if tag = tagFunction then
        match current with
        | none => readLines (n + 1) d current rest
        | some (path, r) =>
          match readFunction value with
          | .error e => .error ⟨n, e⟩
          | .ok f => readLines (n + 1) d (some (path, { r with functions := r.functions ++ [f] })) rest
      else if tag = tagLineCount then
        match current with
        | none => readLines (n + 1) d current rest
        | some (path, r) =>
          match readLineCount value with
          | .error e => .error ⟨n, e⟩
          | .ok x => readLines (n + 1) d (some (path, { r with lines := r.lines ++ [x] })) rest
      else readLines (n + 1) d current rest

def read (bytes : List UInt8) : Except ParseError Dump :=
  readLines 1 {} none (Text.lineChars ((Text.Utf8.pieces bytes).map Text.Utf8.Piece.char))

end LineCoverage.Dump
