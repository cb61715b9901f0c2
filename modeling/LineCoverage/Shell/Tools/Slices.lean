import LineCoverage.Shell.Tools.Options
/-! `head`, `tail` and `cut`: parts of the lines of their inputs.

`head` keeps the first lines (or bytes) of each input, or with a count starting `-` all but
the last ones; `tail` keeps the last ones, or with a count starting `+` those from a line on.
With several inputs each is headed by its name. A count may carry a multiplier such as `k`
(1024) or `kB` (1000).

`cut` keeps bytes, characters or fields of each line, named by a list of numbers and ranges;
the list is put in order and merged, so each piece is kept once and in the order of the line.
A line without the field delimiter is kept whole, unless `-s` drops it.
-/

set_option autoImplicit false

namespace LineCoverage.Shell

/-- What `head` or `tail` is asked for: lines or bytes, how many, and whether the count runs
from the other end (all but the last for `head`, from a line on for `tail`). -/
structure Span where
  lines : Bool
  count : Nat
  fromOtherEnd : Bool

def headPart (sp : Span) (delim : Char) (bs : List UInt8) : List UInt8 :=
  if sp.lines then
    let rs := records delim (textOf bs)
    bytes (String.join (if sp.fromOtherEnd then rs.take (rs.length - sp.count) else rs.take sp.count))
  else if sp.fromOtherEnd then bs.take (bs.length - sp.count)
  else bs.take sp.count

def tailPart (sp : Span) (delim : Char) (bs : List UInt8) : List UInt8 :=
  if sp.lines then
    let rs := records delim (textOf bs)
    bytes (String.join (if sp.fromOtherEnd then rs.drop (sp.count - 1) else rs.drop (rs.length - sp.count)))
  else if sp.fromOtherEnd then bs.drop (sp.count - 1)
  else bs.drop (bs.length - sp.count)

def slicesOf (c : Call) (tool : String) (keep : List UInt8 → List UInt8) (names : List String)
    (headers : Option Bool) : Done :=
  let names := if names.isEmpty then ["-"] else names
  let showNames := headers.getD (names.length > 1)
  let step (acc : List UInt8 × String × Bool) (n : String) : List UInt8 × String × Bool :=
    let (out, err, first) := acc
    let heading := if showNames then
        bytes ((if first then "" else "\n") ++ "==> " ++ (if n = "-" then "standard input" else n) ++ " <==\n")
      else []
    match c.readInput n with
    | .ok bs => (out ++ heading ++ keep bs, err, false)
    | .error .isDirectory =>
      (out ++ heading, err ++ tool ++ ": error reading " ++ quoteAlways n ++ ": Is a directory\n", false)
    | .error e =>
      (out, err ++ tool ++ ": cannot open " ++ quoteAlways n ++ " for reading: " ++ osText e ++ "\n", first)
  let (out, err, _) := names.foldl step ([], "", true)
  Done.buffered (if err.isEmpty then 0 else 1) (out) (bytes err) c.tree

def sliceSpecs (withFollow : Bool) : List OptionSpec :=
  [.withArg 'c', .withArg 'n', .flag 'q', .flag 'v', .flag 'z',
    .alias "bytes" 'c' .argument, .alias "lines" 'n' .argument, .alias "quiet" 'q' .nothing,
    .alias "silent" 'q' .nothing, .alias "verbose" 'v' .nothing, .alias "zero-terminated" 'z' .nothing] ++
  (if withFollow then
    [.flag 'f', .flag 'F', .withArg 's', .alias "follow" 'f' .optional, .alias "sleep-interval" 's' .argument,
      .longOnly "retry" .nothing, .longOnly "pid" .argument]
  else [])

def spanOf (cl : CommandLine) (signed : Char) (default : Span) : Except (String × String) Span :=
  let chosen := (cl.options.filter fun o => o.1 == "c" || o.1 == "n").getLast?
  match chosen with
  | none => .ok default
  | some (key, arg) =>
    let text := arg.getD ""
    let (other, body) := match text.toList with
      | d :: r => if d = signed then (true, String.ofList r) else if d = '-' && signed = '+' then (false, String.ofList r) else (false, text)
      | [] => (false, text)
    let lines := key == "n"
    match readCount body with
    | some n => .ok ⟨lines, n, other⟩
    | none => .error ((if lines then "invalid number of lines" else "invalid number of bytes"), text)

def oldHeadSpan (arg : String) : Option (Except Char (Span × Option Bool)) :=
  match arg.toList with
  | '-' :: d :: rest =>
    if !d.isDigit then none
    else
      let ds := (d :: rest).takeWhile Char.isDigit
      let letters := (d :: rest).drop ds.length
      let n := Numeral.digitsValue ds
      let step (acc : Except Char (Bool × Nat × Option Bool)) (l : Char) : Except Char (Bool × Nat × Option Bool) :=
        acc.bind fun (lines, mult, hdr) =>
          match l with
          | 'c' => .ok (false, 1, hdr)
          | 'b' => .ok (false, 512, hdr)
          | 'k' => .ok (false, 1024, hdr)
          | 'm' => .ok (false, 1048576, hdr)
          | 'l' => .ok (true, mult, hdr)
          | 'q' => .ok (lines, mult, some false)
          | 'v' => .ok (lines, mult, some true)
          | 'z' => .ok (lines, mult, hdr)
          | other => .error other
      some ((letters.foldl step (.ok (true, 1, none))).map fun (lines, mult, hdr) => (⟨lines, n * mult, false⟩, hdr))
  | _ => none

def head (c : Call) : Done :=
  let tool := c.tool "head"
  let usage (m : String) : Done := c.answer 1 "" (tool ++ ": " ++ m ++ "\n" ++ tryHelp tool)
  let (old, args) : Option (Except Char (Span × Option Bool)) × List String :=
    match c.args with
    | a :: rest => match oldHeadSpan a with
      | some r => (some r, rest)
      | none => (none, c.args)
    | [] => (none, [])
  match old with
  | some (.error l) => usage ("invalid trailing option -- " ++ l.toString)
  | _ =>
  match readCommandLine (sliceSpecs false) true args with
  | .error e => c.answer 1 "" (e.message tool ++ tryHelp tool)
  | .ok cl =>
    let default : Span := match old with
      | some (.ok (sp, _)) => sp
      | _ => ⟨true, 10, false⟩
    match spanOf cl '-' default with
    | .error (what, text) => c.answer 1 "" (tool ++ ": " ++ what ++ ": " ++ quoteAlways text ++ "\n")
    | .ok sp =>
      let fromFlags : Option Bool :=
        (cl.options.filter fun o => o.1 == "q" || o.1 == "v").getLast?.map (·.1 == "v")
      let oldHeaders := match old with
        | some (.ok (_, h)) => h
        | _ => none
      let delim := if cl.has "z" then Char.ofNat 0 else '\n'
      slicesOf c tool (headPart sp delim) cl.operands (fromFlags.orElse fun _ => oldHeaders)

def oldTailSpan (args : List String) : Option (Span × List String) :=
  let single := match args with
    | [a] => some (a, [])
    | [a, f] => if f.startsWith "-" && f.length > 1 then none else some (a, [f])
    | _ => none
  single.bind fun (a, files) =>
    let (fromStart, body) := match a.toList with
      | '+' :: r => (some true, r)
      | '-' :: r => if r.isEmpty || r = ['c'] then (none, r) else (some false, r)
      | r => (none, r)
    fromStart.bind fun start =>
      let ds := body.takeWhile Char.isDigit
      let rest := body.drop ds.length
      let (lines, mult, rest) := match rest with
        | 'b' :: r => (false, 512, r)
        | 'c' :: r => (false, 1, r)
        | 'l' :: r => (true, 1, r)
        | r => (true, 1, r)
      let rest := match rest with
        | 'f' :: r => r
        | r => r
      if !rest.isEmpty then none
      else
        let n := if ds.isEmpty then 10 else Numeral.digitsValue ds
        some (⟨lines, n * mult, start⟩, files)

def tail (c : Call) : Done :=
  let tool := c.tool "tail"
  match oldTailSpan c.args with
  | some (sp, files) => slicesOf c tool (tailPart sp '\n') files none
  | none =>
  match readCommandLine (sliceSpecs true) true c.args with
  | .error e => c.answer 1 "" (e.message tool ++ tryHelp tool)
  | .ok cl =>
    match spanOf cl '+' ⟨true, 10, false⟩ with
    | .error (what, text) => c.answer 1 "" (tool ++ ": " ++ what ++ ": " ++ quoteAlways text ++ "\n")
    | .ok sp =>
      let fromFlags : Option Bool :=
        (cl.options.filter fun o => o.1 == "q" || o.1 == "v").getLast?.map (·.1 == "v")
      let delim := if cl.has "z" then Char.ofNat 0 else '\n'
      slicesOf c tool (tailPart sp delim) cl.operands fromFlags

/-! ### cut -/

inductive ListError where
  | numberedFromOne
  | decreasing
  | invalidRange
  | noEndpoint
  | invalidValue (rest : String)
  | missing

def ListError.message (positions : Bool) : ListError → String
  | .numberedFromOne => if positions then "byte/character positions are numbered from 1" else "fields are numbered from 1"
  | .decreasing => "invalid decreasing range"
  | .invalidRange => if positions then "invalid byte or character range" else "invalid field range"
  | .noEndpoint => "invalid range with no endpoint: -"
  | .invalidValue r => (if positions then "invalid byte/character position " else "invalid field value ") ++ quoteAlways r
  | .missing => if positions then "missing list of byte/character positions" else "missing list of fields"

/-- The ranges of a `cut` list: numbers and ranges `m-n`, `-n` and `m-` (open at the end)
separated by commas or blanks. -/
def readRanges (spec : String) : Except ListError (List (Nat × Option Nat)) :=
  let parts := (spec.map fun c => if c = ' ' || c = '\t' then ',' else c).splitOn ","
  let one (part : String) : Except ListError (Option (Nat × Option Nat)) :=
    if part.isEmpty then .ok none
    else
      match part.splitOn "-" with
      | [n] =>
        if n.all Char.isDigit then
          let v := Numeral.digitsValue n.toList
          if v = 0 then .error .numberedFromOne else .ok (some (v, some v))
        else .error (.invalidValue part)
      | [a, b] =>
        if !(a.all Char.isDigit) then .error (.invalidValue part)
        else if !(b.all Char.isDigit) then .error (.invalidValue b)
        else if a.isEmpty && b.isEmpty then .error .noEndpoint
        else
          let lo := if a.isEmpty then 1 else Numeral.digitsValue a.toList
          if !a.isEmpty && lo = 0 then .error .numberedFromOne
          else if b.isEmpty then .ok (some (lo, none))
          else
            let hi := Numeral.digitsValue b.toList
            if hi < lo then .error .decreasing else .ok (some (lo, some hi))
      | _ => .error .invalidRange
  let ranges := parts.foldl (fun (acc : Except ListError (List (Nat × Option Nat))) p =>
    acc.bind fun rs => (one p).map fun r => rs ++ r.toList) (.ok [])
  match ranges with
  | .ok [] => .error .missing
  | r => r

def inRanges (ranges : List (Nat × Option Nat)) (i : Nat) : Bool :=
  ranges.any fun (lo, hi) => lo ≤ i && (hi.map fun h => decide (i ≤ h)).getD true

def cutPositions (ranges : List (Nat × Option Nat)) (complement : Bool) (between : Option String)
    (line : List Char) : String :=
  let kept := (line.zipIdx.map fun (c, i) => (c, i + 1, inRanges ranges (i + 1) != complement)).filter (·.2.2)
  match between with
  | none => String.ofList (kept.map (·.1))
  | some d =>
    let rec go : List (Char × Nat × Bool) → Option Nat → String
      | [], _ => ""
      | (c, i, _) :: rest, prev =>
        let sep := match prev with
          | some p => if p + 1 = i then "" else d
          | none => ""
        sep ++ c.toString ++ go rest (some i)
    go kept none

def cut (c : Call) : Done :=
  let tool := c.tool "cut"
  let usage (m : String) : Done := c.answer 1 "" (tool ++ ": " ++ m ++ "\n" ++ tryHelp tool)
  let specs : List OptionSpec :=
    [.withArg 'b', .withArg 'c', .withArg 'd', .withArg 'f', .flag 'n', .flag 's', .flag 'z',
      .alias "bytes" 'b' .argument, .alias "characters" 'c' .argument, .alias "delimiter" 'd' .argument,
      .alias "fields" 'f' .argument, .alias "only-delimited" 's' .nothing, .alias "zero-terminated" 'z' .nothing,
      .longOnly "complement" .nothing, .longOnly "output-delimiter" .argument]
  match readCommandLine specs true c.args with
  | .error e => c.answer 1 "" (e.message tool ++ tryHelp tool)
  | .ok cl =>
    let lists := cl.options.filter fun o => o.1 == "b" || o.1 == "c" || o.1 == "f"
    let kinds := (lists.map (·.1)).eraseDups
    if kinds.length > 1 then usage "only one type of list may be specified"
    else
    match lists.getLast? with
    | none => usage "you must specify a list of bytes, characters, or fields"
    | some (kind, spec) =>
      let fields := kind == "f"
      let delim := cl.last? "d"
      if delim.isSome && !fields then usage "an input delimiter may be specified only when operating on fields"
      else if cl.has "s" && !fields then
        usage "suppressing non-delimited lines makes sense\n\tonly when operating on fields"
      else if (delim.map (·.length != 1)).getD false then usage "the delimiter must be a single character"
      else
      match readRanges (spec.getD "") with
      | .error e => usage (e.message !fields)
      | .ok ranges =>
        let complement := cl.has "complement"
        let ending := if cl.has "z" then Char.ofNat 0 else '\n'
        let d := ((delim.bind (·.toList.head?)).getD '\t')
        let outDelim := cl.last? "output-delimiter"
        let (inputs, err) := readInputs c tool cl.operands
        let lines := inputs.flatMap fun (_, bs) => (records ending (textOf bs)).map fun r =>
          if r.endsWith ending.toString then String.ofList (r.toList.dropLast) else r
        let cutLine (l : String) : Option String :=
          if fields then
            let parts := l.splitOn d.toString
            if parts.length = 1 then (if cl.has "s" then none else some l)
            else
              let kept := (parts.zipIdx.filter fun (_, i) => inRanges ranges (i + 1) != complement).map (·.1)
              some ((outDelim.getD d.toString).intercalate kept)
          else some (cutPositions ranges complement outDelim l.toList)
        let out := String.join (lines.filterMap fun l => (cutLine l).map (· ++ ending.toString))
        Done.buffered (if err.isEmpty then 0 else 1) (bytes out) (bytes err) c.tree

example : inRanges [(3, some 3), (5, none)] 7 = true := by decide

end LineCoverage.Shell
