import LineCoverage.Shell.Tools.Options
import LineCoverage.Regex.Basic
/-! `tr`: translating, deleting and squeezing bytes.

A set is written as bytes, backslash escapes (`\n`, `\t`, `\\`, octal `\NNN`), ranges `a-z`,
classes `[:lower:]`, equivalence classes `[=c=]` and, in the second set, repeats `[c*n]` (`[c*]`
filling it out). With `-c` the first set is every byte not in it, in order. Translating maps
each byte of the first set to the byte at the same place in the second, whose last byte is
repeated to make it long enough; `[:lower:]` and `[:upper:]` facing each other map case.
`-d` deletes the bytes of the first set and `-s` squeezes runs of a byte of the last set.
-/

set_option autoImplicit false

namespace LineCoverage.Shell

inductive SetPiece where
  | chars (cs : List Char)
  | named (name : String)
  | fill (c : Char) (count : Option Nat)

def trEscape (cs : List Char) : Char × List Char :=
  match cs with
  | [] => ('\\', [])
  | c :: rest =>
    if '0' ≤ c && c ≤ '7' then
      let ds := (cs.takeWhile fun d => '0' ≤ d && d ≤ '7').take 3
      let v := ds.foldl (fun acc d => acc * 8 + (d.toNat - 48)) 0
      if v > 255 then
        let ds := ds.take 2
        (Char.ofNat (ds.foldl (fun acc d => acc * 8 + (d.toNat - 48)) 0), cs.drop ds.length)
      else (Char.ofNat v, cs.drop ds.length)
    else
      let out := match c with
        | 'a' => Char.ofNat 7 | 'b' => Char.ofNat 8 | 'f' => Char.ofNat 12 | 'n' => '\n'
        | 'r' => '\r' | 't' => '\t' | 'v' => Char.ofNat 11 | other => other
      (out, rest)

inductive SetError where
  | reversed (lo hi : Char)
  | badClass (name : String)
  | badRepeat (text : String)

def SetError.message : SetError → String
  | .reversed lo hi =>
    "range-endpoints of '" ++ lo.toString ++ "-" ++ hi.toString ++ "' are in reverse collating sequence order"
  | .badClass n => "invalid character class " ++ quoteAlways n
  | .badRepeat t => quoteAlways t ++ ": invalid repeat count"

def setChar : List Char → Option (Char × List Char)
  | [] => none
  | '\\' :: rest => some (trEscape rest)
  | c :: rest => some (c, rest)

def readSetPieces (cs : List Char) : Except SetError (List SetPiece) :=
  let rec go : Nat → List Char → Except SetError (List SetPiece)
    | 0, _ => .ok []
    | _ + 1, [] => .ok []
    | fuel + 1, cs =>
      let more (p : SetPiece) (rest : List Char) : Except SetError (List SetPiece) :=
        (go fuel rest).map (p :: ·)
      match cs with
      | '[' :: ':' :: rest =>
        let name := rest.takeWhile (· ≠ ':')
        match rest.drop name.length with
        | ':' :: ']' :: after =>
          let n := String.ofList name
          if Regex.classNames.contains n then more (.named n) after else .error (.badClass n)
        | _ => more (.chars ['[']) (':' :: rest)
      | '[' :: '=' :: c :: '=' :: ']' :: after => more (.chars [c]) after
      | '[' :: rest =>
        match setChar rest with
        | some (c, '*' :: after) =>
          let ds := after.takeWhile (· ≠ ']')
          match after.drop ds.length with
          | ']' :: after' =>
            if ds.isEmpty then more (.fill c none) after'
            else if ds.all Char.isDigit then
              let n := if ds.head? = some '0' then
                  ds.foldl (fun acc d => acc * 8 + (d.toNat - 48)) 0
                else Numeral.digitsValue ds
              more (.fill c (if n = 0 then none else some n)) after'
            else .error (.badRepeat (String.ofList (c :: '*' :: ds)))
          | _ => more (.chars ['[']) rest
        | _ => more (.chars ['[']) rest
      | _ =>
        match setChar cs with
        | none => .ok []
        | some (lo, '-' :: rest) =>
          match setChar rest with
          | some (hi, after) =>
            if hi < lo then .error (.reversed lo hi)
            else more (.chars ((List.range (hi.toNat - lo.toNat + 1)).map fun i => Char.ofNat (lo.toNat + i))) after
          | none => more (.chars [lo, '-']) []
        | some (c, rest) => more (.chars [c]) rest
  go (cs.length + 1) cs

def classChars (name : String) : List Char :=
  (List.range 256).filterMap fun i =>
    let c := Char.ofNat i
    if Regex.inClass name c then some c else none

def SetPiece.expand (room : Nat) : SetPiece → List Char
  | .chars cs => cs
  | .named n => classChars n
  | .fill c count => List.replicate (count.getD room) c

def firstSet (pieces : List SetPiece) (complement : Bool) : List Char :=
  let cs := pieces.flatMap (SetPiece.expand 0)
  if complement then (List.range 256).filterMap fun i =>
    let c := Char.ofNat i
    if cs.contains c then none else some c
  else cs

/-- The bytes of a second set made as long as the first: a fill without a count takes up the
room left, and the last byte is repeated after it. -/
def secondSet (pieces : List SetPiece) (length : Nat) : List Char :=
  let fixed := (pieces.map fun p => match p with
    | .fill _ none => 0
    | p => (p.expand 0).length).foldl (· + ·) 0
  let room := length - fixed
  let cs := pieces.flatMap (SetPiece.expand room)
  match cs.getLast? with
  | some last => cs ++ List.replicate (length - cs.length) last
  | none => cs

def squeeze (set : List Char) (cs : List Char) : List Char :=
  (cs.foldl (fun (acc : List Char) ch =>
    if set.contains ch && acc.head? == some ch then acc else ch :: acc) []).reverse

def tr (c : Call) : Done :=
  let tool := c.tool "tr"
  let usage (m : String) : Done := c.answer 1 "" (tool ++ ": " ++ m ++ "\n" ++ tryHelp tool)
  let specs : List OptionSpec :=
    [.flag 'c', .flag 'C', .flag 'd', .flag 's', .flag 't',
      .alias "complement" 'c' .nothing, .alias "delete" 'd' .nothing,
      .alias "squeeze-repeats" 's' .nothing, .alias "truncate-set1" 't' .nothing]
  match readCommandLine specs true c.args with
  | .error e => c.answer 1 "" (e.message tool ++ tryHelp tool)
  | .ok cl =>
    let complement := cl.has "c" || cl.has "C"
    let delete := cl.has "d"
    let squeezing := cl.has "s"
    let translating := !delete && !squeezing || (!delete && cl.operands.length = 2)
    let needed := if delete && squeezing then 2 else if delete then 1 else if squeezing then 1 else 2
    match cl.operands with
    | [] => usage "missing operand"
    | [s] =>
      if needed = 2 && !(squeezing && !delete) then
        let why := if delete && squeezing then "Two strings must be given when both deleting and squeezing repeats."
          else "Two strings must be given when translating."
        usage ("missing operand after " ++ quoteAlways s ++ "\n" ++ why)
      else
        match readSetPieces s.toList with
        | .error e => c.answer 1 "" (tool ++ ": " ++ e.message ++ "\n")
        | .ok ps =>
          let set := firstSet ps complement
          let input := (textOf c.stdin).toList
          let out := if delete then input.filter (!set.contains ·) else squeeze set input
          c.answer 0 (String.ofList out) ""
    | [s1, s2] =>
      if delete && !squeezing then
        usage ("extra operand " ++ quoteAlways s2 ++ "\nOnly one string may be given when deleting without squeezing repeats.")
      else
        match readSetPieces s1.toList, readSetPieces s2.toList with
        | .error e, _ => c.answer 1 "" (tool ++ ": " ++ e.message ++ "\n")
        | _, .error e => c.answer 1 "" (tool ++ ": " ++ e.message ++ "\n")
        | .ok p1, .ok p2 =>
          let input := (textOf c.stdin).toList
          let set1 := firstSet p1 complement
          if delete then
            let set2 := p2.flatMap (SetPiece.expand 0)
            c.answer 0 (String.ofList (squeeze set2 (input.filter (!set1.contains ·)))) ""
          else
            let badClass := p2.find? fun p => match p with
              | .named n => n != "upper" && n != "lower"
              | _ => false
            match badClass with
            | some _ =>
              c.answer 1 "" (tool ++ ": when translating, the only character classes that may appear in\nstring2 are 'upper' and 'lower'\n")
            | none =>
              let set1 := if cl.has "t" then set1.take (p2.flatMap (SetPiece.expand 0)).length else set1
              let set2 := secondSet p2 set1.length
              if set2.isEmpty && !set1.isEmpty then
                c.answer 1 "" (tool ++ ": when not truncating set1, string2 must be non-empty\n")
              else
                let mapped := input.map fun ch =>
                  match (set1.zip set2).reverse.find? (·.1 == ch) with
                  | some (_, image) => image
                  | none => ch
                let out := if squeezing && translating then squeeze set2 mapped else mapped
                c.answer 0 (String.ofList out) ""
    | _ :: _ :: extra :: _ => usage ("extra operand " ++ quoteAlways extra)

end LineCoverage.Shell
