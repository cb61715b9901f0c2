import LineCoverage.Shell.Tools.Options
import LineCoverage.Text.Pad
/-! `cat` and `od`: the bytes of the inputs, as they are or made visible.

`cat` writes its inputs one after the other; it may number lines (`-n`, or `-b` for lines that
are not empty), squeeze runs of empty lines (`-s`), mark line ends with `$` (`-E`), and show
tabs (`-T`) and other control bytes (`-v`) as `^X`, bytes above 127 with `M-`. Numbering goes
on from one input to the next.

`od` writes the bytes of its inputs in lines of sixteen, each headed by its offset, in one or
more formats: bytes as characters (`-c`) or named characters, octal, decimal or hexadecimal
numbers of one, two, four or eight bytes (little-endian). A line equal to the one before is
written as `*`, unless `-v`.
-/

set_option autoImplicit false

-- Powers are the core's `Nat.pow` and `Int.pow`, also where Mathlib's monoid powers are in scope.
attribute [local instance (high)] instPowNat

namespace LineCoverage.Shell

structure CatStyle where
  number : Bool := false
  numberNonblank : Bool := false
  squeeze : Bool := false
  ends : Bool := false
  tabs : Bool := false
  nonprinting : Bool := false

def CatStyle.byte (st : CatStyle) (c : Char) : String :=
  let n := c.toNat
  if c = '\t' then (if st.tabs then "^I" else "\t")
  else if c = '\n' then "\n"
  else if !st.nonprinting then c.toString
  else
    let low (k : Nat) : String :=
      if k < 32 then "^" ++ (Char.ofNat (k + 64)).toString
      else if k = 127 then "^?"
      else (Char.ofNat k).toString
    if n ≥ 128 then "M-" ++ low (n - 128) else low n

/-- Shows the lines of the input: the number of lines numbered so far goes from one input to
the next, and so does whether the last line shown was empty. -/
def CatStyle.render (st : CatStyle) (text : String) : String :=
  let lines := records '\n' text
  let step (acc : String × Nat × Bool) (l : String) : String × Nat × Bool :=
    let (out, count, lastEmpty) := acc
    let empty := l = "\n"
    if st.squeeze && empty && lastEmpty then acc
    else
      let numbered := st.numberNonblank && !empty || (!st.numberNonblank && st.number)
      let count := if numbered then count + 1 else count
      let number := if numbered then Text.padLeft 6 (toString count) ++ "\t" else ""
      let body := l.toList.filter (· ≠ '\n')
      let shown := String.join (body.map st.byte)
      let ending := if l.endsWith "\n" then (if st.ends then "$\n" else "\n") else ""
      (out ++ number ++ shown ++ ending, count, empty)
  let (out, _, _) := lines.foldl step ("", 0, false)
  out

def cat (c : Call) : Done :=
  let tool := c.tool "cat"
  let specs : List OptionSpec :=
    "AbeEnstTuv".toList.map OptionSpec.flag ++
    [.alias "show-all" 'A' .nothing, .alias "number-nonblank" 'b' .nothing, .alias "show-ends" 'E' .nothing,
      .alias "number" 'n' .nothing, .alias "squeeze-blank" 's' .nothing, .alias "show-tabs" 'T' .nothing,
      .alias "show-nonprinting" 'v' .nothing]
  match readCommandLine specs true c.args with
  | .error e => c.answer 1 "" (e.message tool ++ tryHelp tool)
  | .ok cl =>
    let has (k : String) : Bool := cl.has k
    let st : CatStyle :=
      { number := has "n", numberNonblank := has "b", squeeze := has "s"
        ends := has "E" || has "A" || has "e", tabs := has "T" || has "A" || has "t"
        nonprinting := has "v" || has "A" || has "e" || has "t" }
    let plain := !(st.number || st.numberNonblank || st.squeeze || st.ends || st.tabs || st.nonprinting)
    let shown (bs : List UInt8) : List UInt8 := if plain then bs else bytes (st.render (textOf bs))
    -- each input is written before the next is opened, so messages fall between them
    let names := if cl.operands.isEmpty then ["-"] else cl.operands
    let step (acc : List (Nat × List UInt8) × List UInt8 × Nat × Bool) (n : String) :
        List (Nat × List UInt8) × List UInt8 × Nat × Bool :=
      let (chunks, read, written, bad) := acc
      match c.readInput n with
      | .ok bs =>
        let read := read ++ bs
        let all := shown read
        (chunks ++ [(1, all.drop written)], read, all.length, bad)
      | .error e => (chunks ++ [(2, bytes (tool ++ ": " ++ quoteIfNeeded n ++ ": " ++ osText e ++ "\n"))], read, written, true)
    let (chunks, _, _, bad) := names.foldl step ([], [], 0, false)
    ⟨if bad then 1 else 0, chunks.filter (!·.2.isEmpty), c.tree⟩

/-! ### od -/

inductive DumpFormat where
  | chars
  | names
  | number (size : Nat) (base : Nat) (signed : Bool)
  deriving DecidableEq

def DumpFormat.size : DumpFormat → Nat
  | .chars | .names => 1
  | .number s _ _ => s

def controlNames : List String :=
  ["nul", "soh", "stx", "etx", "eot", "enq", "ack", "bel", "bs", "ht", "nl", "vt", "ff", "cr", "so",
    "si", "dle", "dc1", "dc2", "dc3", "dc4", "nak", "syn", "etb", "can", "em", "sub", "esc", "fs", "gs",
    "rs", "us", "sp"]

def numeralIn (base : Nat) (n : Nat) : String :=
  let rec go : Nat → Nat → List Char → List Char
    | 0, _, acc => acc
    | fuel + 1, k, acc =>
      let d := k % base
      let c := if d < 10 then Char.ofNat (48 + d) else Char.ofNat (87 + d)
      if k < base then c :: acc else go fuel (k / base) (c :: acc)
  String.ofList (go (n + 1) n [])

def DumpFormat.width : DumpFormat → Nat
  | .chars | .names => 3
  | .number s base signed =>
    let top := 2 ^ (8 * s) - 1
    if base = 10 then
      if signed then (toString (2 ^ (8 * s - 1))).length + 1 else (toString top).length
    else (numeralIn base top).length

/-- One item of a format, from its bytes (little-endian), without padding. -/
def DumpFormat.item (f : DumpFormat) (bs : List Nat) : String :=
  match f with
  | .chars =>
    let b := bs.headD 0
    match b with
    | 0 => "\\0" | 7 => "\\a" | 8 => "\\b" | 9 => "\\t" | 10 => "\\n" | 11 => "\\v" | 12 => "\\f"
    | 13 => "\\r"
    | _ =>
      if b ≥ 32 && b < 127 then (Char.ofNat b).toString
      else
        let o := numeralIn 8 b
        String.ofList (List.replicate (3 - o.length) '0') ++ o
  | .names =>
    let b := (bs.headD 0) % 128
    if b ≤ 32 then controlNames.getD b "" else if b = 127 then "del" else (Char.ofNat b).toString
  | .number s base signed =>
    let v := bs.foldr (fun b acc => acc * 256 + b) 0
    if base = 10 then
      if signed && v ≥ 2 ^ (8 * s - 1) then "-" ++ toString (2 ^ (8 * s) - v) else toString v
    else
      let d := numeralIn base v
      String.ofList (List.replicate (f.width - d.length) '0') ++ d

structure DumpSpec where
  format : DumpFormat
  trailer : Bool

def readDumpType (spec : String) : Except String (List DumpSpec) :=
  let whole := quoteAlways spec
  let rec go : Nat → List Char → Except String (List DumpSpec)
    | 0, _ => .ok []
    | _ + 1, [] => .ok []
    | fuel + 1, c :: rest =>
      let withTrailer (f : DumpFormat) (after : List Char) : Except String (List DumpSpec) :=
        match after with
        | 'z' :: r => (go fuel r).map (⟨f, true⟩ :: ·)
        | r => (go fuel r).map (⟨f, false⟩ :: ·)
      let sized (base : Nat) (signed : Bool) : Except String (List DumpSpec) :=
        let ds := rest.takeWhile Char.isDigit
        let (size, after) : Nat × List Char :=
          if !ds.isEmpty then (Numeral.digitsValue ds, rest.drop ds.length)
          else match rest with
            | 'C' :: r => (1, r)
            | 'S' :: r => (2, r)
            | 'I' :: r => (4, r)
            | 'L' :: r => (8, r)
            | r => (4, r)
        if [1, 2, 4, 8].contains size then withTrailer (.number size base signed) after
        else .error ("invalid type string " ++ whole ++ ";\nthis system doesn't provide a " ++
          toString size ++ "-byte integral type")
      match c with
      | 'c' => withTrailer .chars rest
      | 'a' => withTrailer .names rest
      | 'o' => sized 8 false
      | 'x' => sized 16 false
      | 'u' => sized 10 false
      | 'd' => sized 10 true
      | _ => .error ("invalid character '" ++ c.toString ++ "' in type string " ++ whole)
  go (spec.length + 1) spec.toList

def dumpLines (specs : List DumpSpec) (address : Option Nat) (width : Nat) (all : Bool)
    (start : Nat) (data : List Nat) : String :=
  let addr (n : Nat) : String :=
    match address with
    | some base =>
      let d := numeralIn base n
      let pad := if base = 16 then 6 else 7
      String.ofList (List.replicate (pad - d.length) '0') ++ d
    | none => ""
  let blank := match address with
    | some base => String.ofList (List.replicate (if base = 16 then 6 else 7) ' ')
    | none => ""
  let blockWidth := (specs.map fun sp => (sp.format.width + 1) * (width / sp.format.size)).foldl max 0
  let lineFor (offset : Nat) (chunk : List Nat) (first : Bool) (sp : DumpSpec) : String :=
    let f := sp.format
    let fields := width / f.size
    let pad := blockWidth - f.width * fields
    let padded := chunk ++ List.replicate ((f.size - chunk.length % f.size) % f.size) 0
    let present := padded.length / f.size
    let items := (List.range present).map fun j =>
      let i := fields - j
      let before := pad * i / fields
      let after := pad * (i - 1) / fields
      let it := f.item ((padded.drop (j * f.size)).take f.size)
      Text.padLeft (before - after + f.width) it
    let trailer :=
      if sp.trailer then
        let missing := (width - chunk.length) / f.size
        String.ofList (List.replicate (missing * f.width + pad * missing / fields) ' ') ++ "  >" ++
          String.ofList (chunk.map fun b => if b ≥ 32 && b < 127 then Char.ofNat b else '.') ++ "<"
      else ""
    (if first then addr offset else blank) ++ String.join items ++ trailer ++ "\n"
  let chunks := (List.range ((data.length + width - 1) / width)).map fun i =>
    (start + i * width, (data.drop (i * width)).take width)
  let step (acc : String × Option (List Nat) × Bool) (ch : Nat × List Nat) : String × Option (List Nat) × Bool :=
    let (out, prev, starred) := acc
    let (offset, chunk) := ch
    if !all && prev == some chunk && chunk.length = width then
      (if starred then out else out ++ "*\n", prev, true)
    else
      let text := String.join (specs.zipIdx.map fun (sp, i) => lineFor offset chunk (i = 0) sp)
      (out ++ text, some chunk, false)
  let (out, _, _) := chunks.foldl step ("", none, false)
  out ++ (match address with
    | some _ => addr (start + data.length) ++ "\n"
    | none => "")

structure DumpRequest where
  specs : List DumpSpec := []
  address : Option Nat := some 8
  skip : Nat := 0
  limit : Option Nat := none
  width : Option Nat := none
  complaints : String := ""

def dumpLetter (c : Char) : Option String :=
  match c with
  | 'a' => some "a" | 'b' => some "o1" | 'c' => some "c" | 'D' => some "u4" | 'd' => some "u2"
  | 'H' | 'X' => some "x4" | 'h' | 'x' => some "x2" | 'i' => some "dI"
  | 'I' | 'L' | 'l' => some "dL" | 'O' => some "o4" | 'B' | 'o' => some "o2" | 's' => some "d2"
  | _ => none

def readDumpRequest (tool : String) (options : List (String × Option String)) :
    Except String DumpRequest :=
  let sizeArg (letter : String) (v : String) : Except String Nat :=
    match readOffset v with
    | some n => .ok n
    | none =>
      let lead := v.toList.dropWhile fun c => c = ' ' || c = '\t'
      let what := if lead.head?.any Char.isDigit then "invalid suffix in -" else "invalid -"
      .error (tool ++ ": " ++ what ++ letter ++ " argument " ++ quoteAlways v ++ "\n")
  options.foldlM (fun (r : DumpRequest) (k, arg) =>
    let addType (t : String) : Except String DumpRequest :=
      match readDumpType t with
      | .ok fs => .ok { r with specs := r.specs ++ fs }
      | .error m => .ok { r with complaints := r.complaints ++ tool ++ ": " ++ m ++ "\n" }
    match k, arg with
    | "t", some t => addType t
    | "A", some a =>
      match a.toList.head? with
      | some 'd' => .ok { r with address := some 10 }
      | some 'o' => .ok { r with address := some 8 }
      | some 'x' => .ok { r with address := some 16 }
      | some 'n' => .ok { r with address := none }
      | _ => .error (r.complaints ++ tool ++ ": invalid output address radix '" ++
          String.ofList (a.toList.take 1) ++ "'; it must be one character from [doxn]\n")
    | "j", some v => (sizeArg "j" v).map fun n => { r with skip := n }
    | "N", some v => (sizeArg "N" v).map fun n => { r with limit := some n }
    | "w", v => .ok { r with width := some ((v.bind String.toNat?).getD 32) }
    | _, _ =>
      match k.toList with
      | [c] => match dumpLetter c with
        | some t => addType t
        | none => .ok r
      | _ => .ok r) {}

def od (c : Call) : Done :=
  let tool := c.tool "od"
  let specs : List OptionSpec :=
    "abBcdDhHiIlLoOsxXv".toList.map OptionSpec.flag ++
    [.withArg 'A', .withArg 't', .withArg 'N', .withArg 'j', ⟨"w", some 'w', none, .optional⟩,
      .alias "address-radix" 'A' .argument, .alias "format" 't' .argument,
      .alias "read-bytes" 'N' .argument, .alias "skip-bytes" 'j' .argument,
      .alias "output-duplicates" 'v' .nothing, .alias "width" 'w' .optional]
  match readCommandLine specs true c.args with
  | .error e => c.answer 1 "" (e.message tool ++ tryHelp tool)
  | .ok cl =>
    match readDumpRequest tool cl.options with
    | .error m => c.answer 1 "" m
    | .ok r =>
    if !r.complaints.isEmpty then c.answer 1 "" r.complaints
    else
      let fs := if r.specs.isEmpty then [⟨.number 2 8 false, false⟩] else r.specs
      let unit := fs.foldl (fun acc sp => Nat.lcm acc sp.format.size) 1
      let (width, warning) := match r.width with
        | some w =>
          if w != 0 && w % unit == 0 then (w, "")
          else (unit, tool ++ ": warning: invalid width " ++ toString w ++ "; using " ++ toString unit ++ " instead\n")
        | none => (if 16 % unit == 0 then 16 else unit, "")
      let (inputs, err) := readInputs c tool cl.operands
      let data := (inputs.flatMap (·.2)).map (·.toNat)
      if r.skip > data.length then
        c.answer 1 "" (warning ++ err ++ tool ++ ": cannot skip past end of combined input\n")
      else
      let data := data.drop r.skip
      let data := match r.limit with
        | some n => data.take n
        | none => data
      Done.buffered (if err.isEmpty then 0 else 1)
        (bytes (dumpLines fs r.address width (cl.has "v") r.skip data)) (bytes (warning ++ err)) c.tree

end LineCoverage.Shell
