import LineCoverage.Regex.Match
import LineCoverage.Numeral
/-! Scripts of the stream editor `sed`, and how their text is read.

A script is a list of steps. A step has up to two addresses that pick the lines it applies to,
may be negated with `!`, and holds one command. Blocks `{ ... }` and jumps are resolved to
positions in the list, so running a script only moves a position through it.

Reading follows the GNU editor character by character, because its complaints say how many
characters of an expression had been read when something went wrong (`char N`). Several
expressions (`-e` and `-f`) make one script: a block or an `a` text may go on in the next one,
and the count of characters starts again in each.
-/

set_option autoImplicit false

namespace LineCoverage.Shell.Sed

inductive CaseMode where
  | keep
  | lower
  | upper
  deriving DecidableEq, Repr

inductive Piece where
  | text (cs : List Char)
  | group (n : Nat)
  | mode (m : CaseMode)
  | once (upper : Bool)

structure Substitution where
  pattern : Option Regex.Expr
  pieces : List Piece
  global : Bool
  nth : Nat
  print : Bool
  target : Option String

/-- An address: a line number, every `step`th line from `first`, the last line, the lines a
pattern matches; as the end of a range also `+N` (N lines more) and `~N` (up to a multiple of N). -/
inductive Address where
  | line (n : Nat)
  | every (first step : Nat)
  | last
  | matching (pattern : Option Regex.Expr)
  | following (n : Nat)
  | untilMultiple (n : Nat)

inductive Jump where
  | always
  | ifReplaced
  | unlessReplaced
  deriving DecidableEq

inductive Command where
  | openBlock (close : Nat)
  | closeBlock
  | append (text : List Char)
  | insert (text : List Char)
  | change (text : List Char)
  | jump (kind : Jump) (label : String) (target : Option Nat)
  | label (name : String)
  | lineNumber
  | delete
  | deleteFirst
  | copyHold
  | appendHold
  | hold
  | holdAppend
  | exchange
  | list (width : Option Nat)
  | next
  | appendNext
  | print
  | printFirst
  | quit (code : Option Nat) (silent : Bool)
  | readFile (name : String)
  | readLine (name : String)
  | write (name : String)
  | writeFirst (name : String)
  | substitute (s : Substitution)
  | transliterate (pairs : List (Char × Char))
  | zap
  | fileName
  | ignored

structure Step where
  first : Option Address
  second : Option Address
  negated : Bool
  command : Command

inductive ScriptError where
  | multipleBang
  | unexpectedComma
  | stepFirst
  | unmatchedBrace
  | unexpectedBrace
  | extraChars
  | expectedBackslash
  | braceAddress
  | colonAddress
  | commentAddress
  | missingCommand
  | oneAddress
  | unterminatedAddress
  | unterminatedS
  | unterminatedY
  | unknownSOption
  | multipleP
  | multipleG
  | multipleNumber
  | zeroNumber
  | yLengths
  | lineZero
  | unknownCommand (c : Char)
  | colonLabel
  | missingFilename
  | badPattern (p : Regex.Problem)
  | badReference (n : Nat)
  | noPrevious

def ScriptError.message : ScriptError → String
  | .multipleBang => "multiple `!'s"
  | .unexpectedComma => "unexpected `,'"
  | .stepFirst => "invalid usage of +N or ~N as first address"
  | .unmatchedBrace => "unmatched `\x7b'"
  | .unexpectedBrace => "unexpected `\x7d'"
  | .extraChars => "extra characters after command"
  | .expectedBackslash => "expected \\ after `a', `c' or `i'"
  | .braceAddress => "`\x7d' doesn't want any addresses"
  | .colonAddress => ": doesn't want any addresses"
  | .commentAddress => "comments don't accept any addresses"
  | .missingCommand => "missing command"
  | .oneAddress => "command only uses one address"
  | .unterminatedAddress => "unterminated address regex"
  | .unterminatedS => "unterminated `s' command"
  | .unterminatedY => "unterminated `y' command"
  | .unknownSOption => "unknown option to `s'"
  | .multipleP => "multiple `p' options to `s' command"
  | .multipleG => "multiple `g' options to `s' command"
  | .multipleNumber => "multiple number options to `s' command"
  | .zeroNumber => "number option to `s' command may not be zero"
  | .yLengths => "strings for `y' command are different lengths"
  | .lineZero => "invalid usage of line address 0"
  | .unknownCommand c => "unknown command: `" ++ c.toString ++ "'"
  | .colonLabel => "\":\" lacks a label"
  | .missingFilename => "missing filename in r/R/w/W commands"
  | .badPattern p => p.message
  | .badReference n => "invalid reference \\" ++ toString n ++ " on `s' command's RHS"
  | .noPrevious => "no previous regular expression"

structure Located where
  problem : ScriptError
  used : Nat
  line : Nat

structure Reader where
  rest : List Char
  used : Nat
  line : Nat
  steps : Array Step
  blocks : List Nat
  pending : Option Nat
  quiet : Bool
  firstExpression : Bool
  extended : Bool

abbrev Parse := StateT Reader (Except Located)

def fail {α : Type} (e : ScriptError) : Parse α := do
  let r ← get
  throw ⟨e, r.used, r.line⟩

def isBlank (c : Char) : Bool := c = ' ' || c = '\t'

def isSpace (c : Char) : Bool :=
  c = ' ' || c = '\t' || c = '\n' || c = '\r' || c.toNat = 11 || c.toNat = 12

def readChar : Parse (Option Char) := modifyGet fun r =>
  match r.rest with
  | [] => (none, r)
  | c :: cs => (some c, { r with rest := cs, used := r.used + 1, line := if c = '\n' then r.line + 1 else r.line })

def unread (c : Option Char) : Parse Unit := modify fun r =>
  match c with
  | none => r
  | some c => { r with rest := c :: r.rest, used := r.used - 1, line := if c = '\n' then r.line - 1 else r.line }

def takeWhile (p : Char → Bool) : Parse (List Char) := modifyGet fun r =>
  let cs := r.rest.takeWhile p
  let lines := cs.count '\n'
  (cs, { r with rest := r.rest.drop cs.length, used := r.used + cs.length, line := r.line + lines })

def readNonblank : Parse (Option Char) := do
  let _ ← takeWhile isBlank
  readChar

def readNumber (c : Option Char) : Parse Nat := do
  match c with
  | some d =>
    if d.isDigit then
      let ds ← takeWhile Char.isDigit
      pure (Numeral.digitsValue (d :: ds))
    else
      unread c
      pure 0
  | none => pure 0

/-- The end of a command: blanks, then a line break, `;` or the end; a `}` or `#` is left for
what follows. -/
def endOfCommand : Parse Unit := do
  let c ← readNonblank
  match c with
  | some '}' | some '#' => unread c
  | none | some '\n' | some ';' => pure ()
  | some _ => fail .extraChars

/-- Reads up to a delimiter: a backslash keeps the character after it (the delimiter itself
without the backslash, and `\n` in a pattern as a line break). None when the line or the
expression ends first. -/
def readDelimited (delim : Option Char) (pattern : Bool) : Parse (Option (List Char)) := do
  let fuel := (← get).rest.length + 1
  go fuel []
where
  go : Nat → List Char → Parse (Option (List Char))
    | 0, _ => pure none
    | fuel + 1, acc => do
      let c ← readChar
      match c with
      | none => pure none
      | some '\n' =>
        unread c
        pure none
      | some ch =>
        if some ch = delim then pure (some acc.reverse)
        else if ch = '\\' then
          let d ← readChar
          match d with
          | none => pure none
          | some e =>
            if e = 'n' && pattern then go fuel ('\n' :: acc)
            else if e != '\n' && (some e != delim || (!pattern && e = '&')) then go fuel (e :: '\\' :: acc)
            else go fuel (e :: acc)
        else go fuel (ch :: acc)

def readLabel : Parse String := do
  let c ← readNonblank
  match c with
  | none => pure ""
  | some ch =>
    if isSpace ch || ch = ';' then pure ""
    else
      let more ← takeWhile fun d => !(isSpace d || d = ';')
      let _ ← readChar
      pure (String.ofList (ch :: more))

def readFilename : Parse String := do
  let c ← readNonblank
  match c with
  | none | some '\n' => pure ""
  | some ch =>
    let more ← takeWhile (· ≠ '\n')
    let _ ← readChar
    pure (String.ofList (ch :: more))

def digitsIn (base : Nat) (cs : List Char) : Nat :=
  cs.foldl (fun acc c =>
    let v := if c.isDigit then c.toNat - 48 else if 'a' ≤ c && c ≤ 'f' then c.toNat - 87 else c.toNat - 55
    acc * base + v) 0

def isDigitIn (base : Nat) (c : Char) : Bool :=
  if base = 16 then c.isDigit || ('a' ≤ c && c ≤ 'f') || ('A' ≤ c && c ≤ 'F')
  else if base = 8 then '0' ≤ c && c ≤ '7'
  else c.isDigit

/-- The character a backslash escape names, with how many of the characters after it the
escape also takes: `\a`, `\f`, `\n`, `\r`, `\t`, `\v`, and `\dNNN`, `\oNNN`, `\xHH` by number. -/
def escapeOf (c : Char) (rest : List Char) : Option (Char × Nat) :=
  match c with
  | 'a' => some (Char.ofNat 7, 0)
  | 'f' => some (Char.ofNat 12, 0)
  | 'n' => some ('\n', 0)
  | 'r' => some ('\r', 0)
  | 't' => some ('\t', 0)
  | 'v' => some (Char.ofNat 11, 0)
  | 'd' | 'o' | 'x' =>
    let base := if c = 'd' then 10 else if c = 'o' then 8 else 16
    let most := if c = 'x' then 2 else 3
    let ds := (rest.takeWhile (isDigitIn base)).take most
    if ds.isEmpty then none else some (Char.ofNat (digitsIn base ds % 256), ds.length)
  | _ => none

/-- The escapes of a pattern or a replacement turned into their characters; any other
backslash pair is kept, and in a replacement a `&` or backslash made by number keeps a
backslash before it. -/
def convertEscapes (replacement : Bool) : List Char → List Char
  | [] => []
  | '\\' :: c :: rest =>
    match escapeOf c rest with
    | some (ch, k) =>
      let made := if replacement && (ch = '&' || ch = '\\') && (c = 'd' || c = 'o' || c = 'x') then ['\\', ch] else [ch]
      made ++ convertEscapes replacement (rest.drop k)
    | none => '\\' :: c :: convertEscapes replacement rest
  | c :: rest => c :: convertEscapes replacement rest
termination_by cs => cs.length
decreasing_by all_goals (simp only [List.length_drop, List.length_cons]; omega)

/-- The text of an `a`, `i` or `c` command: escapes turned into characters and any other
backslash dropped, so that the character after it stands for itself. -/
def textEscapes : List Char → List Char
  | [] => []
  | ['\\'] => []
  | '\\' :: c :: rest =>
    match escapeOf c rest with
    | some (ch, k) => ch :: textEscapes (rest.drop k)
    | none => c :: textEscapes rest
  | c :: rest => c :: textEscapes rest
termination_by cs => cs.length
decreasing_by all_goals (simp only [List.length_drop, List.length_cons]; omega)

def replacementPieces : List Char → List Piece
  | [] => []
  | ['\\'] => [.text ['\\']]
  | '\\' :: c :: rest =>
    let here : Piece :=
      if c.isDigit then .group (c.toNat - 48)
      else match c with
        | 'L' => .mode .lower
        | 'U' => .mode .upper
        | 'E' => .mode .keep
        | 'l' => .once false
        | 'u' => .once true
        | _ => .text [c]
    here :: replacementPieces rest
  | '&' :: rest => .group 0 :: replacementPieces rest
  | c :: rest => .text [c] :: replacementPieces rest

def mostGroup (ps : List Piece) : Nat :=
  ps.foldl (fun acc p => match p with
    | .group n => max acc n
    | _ => acc) 0

def compilePattern (text : List Char) (ignoreCase multiline : Bool) : Parse (Option Regex.Expr) := do
  if text.isEmpty then
    if ignoreCase || multiline then fail .noPrevious else pure none
  else
    let r ← get
    let flavor := if r.extended then Regex.Flavor.posixExtended else Regex.Flavor.posixBasic
    match Regex.compile flavor (String.ofList (convertEscapes false text)) ignoreCase with
    | .ok e => pure (some { e with multiline := multiline })
    | .error p => fail (.badPattern p)

def patternFlags : Nat → Bool → Bool → Parse (Bool × Bool)
  | 0, i, m => pure (i, m)
  | fuel + 1, i, m => do
    let c ← readNonblank
    match c with
    | some 'I' => patternFlags fuel true m
    | some 'M' => patternFlags fuel i true
    | _ =>
      unread c
      pure (i, m)

def readAddress (c : Option Char) : Parse (Option Address) := do
  match c with
  | some '/' | some '\\' =>
    let delim ← if c = some '\\' then readChar else pure c
    match ← readDelimited delim true with
    | none => fail .unterminatedAddress
    | some text =>
      let fuel := (← get).rest.length + 1
      let (i, m) ← patternFlags fuel false false
      let p ← compilePattern text i m
      pure (some (.matching p))
  | some '$' => pure (some .last)
  | some '+' | some '~' =>
    let n ← readNumber (← readNonblank)
    pure (some (if c = some '+' then .following n else .untilMultiple n))
  | some d =>
    if d.isDigit then
      let n ← readNumber c
      let after ← readNonblank
      if after = some '~' then
        let step ← readNumber (← readNonblank)
        pure (some (if step > 0 then .every n step else .line n))
      else
        unread after
        pure (some (.line n))
    else pure none
  | none => pure none

def addStep (s : Step) : Parse Unit := modify fun r => { r with steps := r.steps.push s }

def readText (lead : Option Char) : Parse (Option (List Char)) := do
  match lead with
  | none => pure none
  | some l =>
    let fuel := (← get).rest.length + 1
    let text ← go fuel (if l = '\n' then [] else [l])
    pure (some (textEscapes text))
where
  go : Nat → List Char → Parse (List Char)
    | 0, acc => pure (acc ++ ['\n'])
    | fuel + 1, acc => do
      let c ← readChar
      match c with
      | none | some '\n' => pure (acc ++ ['\n'])
      | some '\\' =>
        let d ← readChar
        match d with
        | none => pure (acc ++ ['\n'])
        | some e => go fuel (acc ++ ['\\', e])
      | some ch => go fuel (acc ++ [ch])

structure SubstFlags where
  global : Bool := false
  print : Bool := false
  nth : Nat := 0
  ignoreCase : Bool := false
  multiline : Bool := false
  target : Option String := none

def substFlags : Nat → SubstFlags → Parse SubstFlags
  | 0, f => pure f
  | fuel + 1, f => do
    let c ← readChar
    match c with
    | some 'i' | some 'I' => substFlags fuel { f with ignoreCase := true }
    | some 'm' | some 'M' => substFlags fuel { f with multiline := true }
    | some 'e' => substFlags fuel f
    | some 'p' => if f.print then fail .multipleP else substFlags fuel { f with print := true }
    | some 'g' => if f.global then fail .multipleG else substFlags fuel { f with global := true }
    | some 'w' =>
      let name ← readFilename
      if name.isEmpty then fail .missingFilename else pure { f with target := some name }
    | some '}' | some '#' =>
      unread c
      pure f
    | none | some '\n' | some ';' => pure f
    | some d =>
      if d.isDigit then
        if f.nth > 0 then fail .multipleNumber
        else
          let n ← readNumber c
          if n = 0 then fail .zeroNumber else substFlags fuel { f with nth := n }
      else fail .unknownSOption

def transliterationText (cs : List Char) : List Char :=
  let rec undouble : List Char → List Char
    | '\\' :: '\\' :: rest => '\\' :: undouble rest
    | c :: rest => c :: undouble rest
    | [] => []
  undouble (convertEscapes false cs)

def readSubstitution (f : Option Address) (s : Option Address) (negated : Bool) : Parse Unit := do
  let delim ← readChar
  let some pattern ← readDelimited delim true | fail .unterminatedS
  let some replacement ← readDelimited delim false | fail .unterminatedS
  let pieces := replacementPieces (convertEscapes true replacement)
  let fuel := (← get).rest.length + 2
  let flags ← substFlags fuel {}
  let p ← compilePattern pattern flags.ignoreCase flags.multiline
  let most := mostGroup pieces
  match p with
  | some e => if most > e.groups then fail (.badReference most) else pure ()
  | none => pure ()
  addStep ⟨f, s, negated, .substitute ⟨p, pieces, flags.global, max flags.nth 1, flags.print, flags.target⟩⟩

def readTransliteration (f : Option Address) (s : Option Address) (negated : Bool) : Parse Unit := do
  let delim ← readChar
  let some source ← readDelimited delim false | fail .unterminatedY
  let some dest ← readDelimited delim false | fail .unterminatedY
  let source := transliterationText source
  let dest := transliterationText dest
  if source.length != dest.length then fail .yLengths
  else
    endOfCommand
    addStep ⟨f, s, negated, .transliterate (source.zip dest)⟩

def readCommand (f : Option Address) (s : Option Address) (negated : Bool) (c : Option Char) :
    Parse Unit := do
  let add (cmd : Command) : Parse Unit := addStep ⟨f, s, negated, cmd⟩
  match c with
  | none => fail .missingCommand
  | some ch =>
    match ch with
    | '#' =>
      if f.isSome then fail .commentAddress
      else
        let r ← get
        let d ← readChar
        let d ← if d = some 'n' && r.firstExpression && r.line < 2 && r.used = 1 then
            let e ← readChar
            if e = none || e = some '\n' then modify fun r => { r with quiet := true }
            pure e
          else pure d
        if d = none || d = some '\n' then pure ()
        else
          let _ ← takeWhile (· ≠ '\n')
          let _ ← readChar
          pure ()
    | 'v' =>
      let _ ← readLabel
      pure ()
    | '{' =>
      let r ← get
      set { r with blocks := r.steps.size :: r.blocks }
      add (.openBlock 0)
    | '}' =>
      let r ← get
      match r.blocks with
      | [] => fail .unexpectedBrace
      | b :: outer =>
        if f.isSome then fail .braceAddress
        else
          endOfCommand
          modify fun r =>
            let opened := r.steps[b]?.map fun st => { st with command := .openBlock r.steps.size }
            { r with blocks := outer, steps := match opened with
              | some st => r.steps.set! b st
              | none => r.steps }
          add .closeBlock
    | 'a' | 'i' | 'c' =>
      let d ← readNonblank
      match d with
      | none => fail .expectedBackslash
      | some e =>
        let lead ← if e = '\\' then readChar else do unread d; pure (some '\n')
        let text ← readText lead
        let body := text.getD []
        if text.isNone then modify fun r => { r with pending := some r.steps.size } else pure ()
        add (if ch = 'a' then .append body else if ch = 'i' then .insert body else .change body)
    | ':' =>
      if f.isSome then fail .colonAddress
      else
        let l ← readLabel
        if l.isEmpty then fail .colonLabel else add (.label l)
    | 'b' | 't' | 'T' =>
      let l ← readLabel
      add (.jump (if ch = 'b' then .always else if ch = 't' then .ifReplaced else .unlessReplaced) l none)
    | 'q' | 'Q' | 'l' =>
      if (ch = 'q' || ch = 'Q') && s.isSome then fail .oneAddress
      else
        let d ← readNonblank
        let (n, d) ← match d with
          | some e =>
            if e.isDigit then do
              let n ← readNumber d
              let after ← readNonblank
              pure (some n, after)
            else pure (none, d)
          | none => pure (none, d)
        match d with
        | some '}' | some '#' => unread d
        | none | some '\n' | some ';' => pure ()
        | some _ => fail .extraChars
        add (if ch = 'l' then .list n else .quit n (ch = 'Q'))
    | '=' => endOfCommand *> add .lineNumber
    | 'd' => endOfCommand *> add .delete
    | 'D' => endOfCommand *> add .deleteFirst
    | 'F' => endOfCommand *> add .fileName
    | 'g' => endOfCommand *> add .copyHold
    | 'G' => endOfCommand *> add .appendHold
    | 'h' => endOfCommand *> add .hold
    | 'H' => endOfCommand *> add .holdAppend
    | 'n' => endOfCommand *> add .next
    | 'N' => endOfCommand *> add .appendNext
    | 'p' => endOfCommand *> add .print
    | 'P' => endOfCommand *> add .printFirst
    | 'z' => endOfCommand *> add .zap
    | 'x' => endOfCommand *> add .exchange
    | 'e' =>
      let _ ← readFilename
      add .ignored
    | 'r' | 'R' | 'w' | 'W' =>
      let name ← readFilename
      if name.isEmpty then fail .missingFilename
      else add (match ch with
        | 'r' => .readFile name
        | 'R' => .readLine name
        | 'w' => .write name
        | _ => .writeFirst name)
    | 's' => readSubstitution f s negated
    | 'y' => readTransliteration f s negated
    | other => fail (.unknownCommand other)

def readStep (c : Char) : Parse Unit := do
  let a ← readAddress (some c)
  let (first, second, d) ← match a with
    | none => pure (none, none, some c)
    | some a =>
      match a with
      | .following _ | .untilMultiple _ => fail .stepFirst
      | _ =>
        let d ← readNonblank
        if d = some ',' then
          let b ← readAddress (← readNonblank)
          match b with
          | none => fail .unexpectedComma
          | some b => pure (some a, some b, ← readNonblank)
        else pure (some a, none, d)
  match first, second with
  | some (.line 0), some (.matching _) => pure ()
  | some (.line 0), _ => fail .lineZero
  | _, _ => pure ()
  if d = some '!' then
    let e ← readNonblank
    if e = some '!' then fail .multipleBang else readCommand first second true e
  else readCommand first second false d

def readSteps : Nat → Parse Unit
  | 0 => pure ()
  | fuel + 1 => do
    let _ ← takeWhile fun c => c = ';' || isSpace c
    match ← readChar with
    | none => pure ()
    | some c =>
      readStep c
      readSteps fuel

/-- Reads one expression into the script being built: first the text an `a`, `i` or `c` of the
expression before waits for, then the steps. -/
def readExpression : Parse Unit := do
  let r ← get
  match r.pending with
  | some idx =>
    let text ← readText (some '\n')
    modify fun r => { r with pending := none, steps := match r.steps[idx]? with
      | some st => r.steps.set! idx { st with command := match st.command with
        | .append _ => .append (text.getD [])
        | .insert _ => .insert (text.getD [])
        | .change _ => .change (text.getD [])
        | other => other }
      | none => r.steps }
  | none => pure ()
  readSteps ((← get).rest.length + 1)

inductive Origin where
  | expression (n : Nat)
  | file (name : String)

def complaint (tool : String) (o : Origin) (e : Located) : String :=
  match o with
  | .expression n =>
    tool ++ ": -e expression #" ++ toString n ++ ", char " ++ toString e.used ++ ": " ++ e.problem.message ++ "\n"
  | .file name =>
    tool ++ ": file " ++ name ++ " line " ++ toString e.line ++ ": " ++ e.problem.message ++ "\n"

inductive CompileError where
  | text (o : Origin) (e : Located)
  | noLabel (name : String)

structure Script where
  steps : Array Step
  quiet : Bool

/-- The jumps of a script pointed at their labels: the last label of the name; an empty label
is the end of the script. -/
def resolveJumps (steps : Array Step) : Except String (Array Step) :=
  let labels := steps.toList.zipIdx.filterMap fun (st, i) => match st.command with
    | .label n => some (n, i)
    | _ => none
  steps.mapM fun st => match st.command with
    | .jump k l _ =>
      if l.isEmpty then .ok st
      else match (labels.filter (·.1 == l)).getLast? with
        | some (_, i) => .ok { st with command := .jump k l (some i) }
        | none => .error l
    | _ => .ok st

def compileScript (extended : Bool) (texts : List (Origin × List Char)) : Except CompileError Script :=
  let start : Reader := ⟨[], 0, 0, #[], [], none, false, true, extended⟩
  let step (acc : Except CompileError (Reader × Origin)) (t : Origin × List Char) : Except CompileError (Reader × Origin) :=
    match acc with
    | .error e => .error e
    | .ok (r, _) =>
      let line := match t.1 with
        | .file _ => 1
        | .expression _ => 0
      let r := { r with rest := t.2, used := 0, line := line }
      match readExpression.run r with
      | .ok ((), r') => .ok ({ r' with firstExpression := false }, t.1)
      | .error e => .error (.text t.1 e)
  match texts.foldl step (.ok (start, .expression 1)) with
  | .error e => .error e
  | .ok (r, last) =>
    if !r.blocks.isEmpty then
      .error (.text (match last with
        | .expression n => .expression n
        | .file _ => .expression 1) ⟨.unmatchedBrace, 0, 0⟩)
    else
      match resolveJumps r.steps with
      | .ok steps => .ok ⟨steps, r.quiet⟩
      | .error l => .error (.noLabel l)

end LineCoverage.Shell.Sed
