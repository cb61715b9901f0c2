import LineCoverage.Shell.Tools.Options
import LineCoverage.Text.Pad
/-! `wc`: counting the lines, words and bytes of each input.

The counts asked for come in the order lines, words, characters, bytes and longest line, each
right-aligned to one width: the digits of the total size of the inputs when all are files,
at least seven when one is not, and no padding at all for one count of one input. With
several inputs a total follows.
-/

set_option autoImplicit false

namespace LineCoverage.Shell

def digitsOf (n : Nat) : Nat := (toString n).length

def isWordBreak (c : Char) : Bool :=
  c = ' ' || c = '\n' || c = '\t' || c = '\r' || c.toNat = 11 || c.toNat = 12

def wordCount (cs : List Char) : Nat :=
  (cs.foldl (fun (acc : Nat × Bool) c =>
    if isWordBreak c then (acc.1, false)
    else if acc.2 then acc else (acc.1 + 1, true)) (0, false)).1

/-- The length of the longest line, tabs reaching the next multiple of eight. -/
def longestLine (cs : List Char) : Nat :=
  let step (acc : Nat × Nat) (c : Char) : Nat × Nat :=
    let (best, col) := acc
    if c = '\n' then (max best col, 0)
    else if c = '\t' then (best, col + 8 - col % 8)
    else if c.toNat < 32 then (best, col)
    else (best, col + 1)
  let (best, col) := cs.foldl step (0, 0)
  max best col

def wc (c : Call) : Done :=
  let tool := c.tool "wc"
  let specs : List OptionSpec :=
    [.flag 'c', .flag 'm', .flag 'l', .flag 'w', .flag 'L',
      .alias "bytes" 'c' .nothing, .alias "chars" 'm' .nothing, .alias "lines" 'l' .nothing,
      .alias "words" 'w' .nothing, .alias "max-line-length" 'L' .nothing, .longOnly "total" .argument]
  match readCommandLine specs true c.args with
  | .error e => c.answer 1 "" (e.message tool ++ tryHelp tool)
  | .ok cl =>
    let asked := ['l', 'w', 'm', 'c', 'L'].filter fun f => cl.has f.toString
    let pick := if asked.isEmpty then ['l', 'w', 'c'] else asked
    let files := cl.operands
    let names := if files.isEmpty then ["-"] else files
    let results := names.map fun n => (n, c.readInput n)
    let err := String.join (results.filterMap fun (n, r) => match r with
      | .error e => some (tool ++ ": " ++ quoteIfNeeded n ++ ": " ++ osText e ++ "\n")
      | .ok _ => none)
    let countsOf (bs : List UInt8) : List Nat :=
      let cs := (textOf bs).toList
      pick.map fun f =>
        match f with
        | 'l' => bs.count 10
        | 'w' => wordCount cs
        | 'm' => cs.length
        | 'L' => longestLine cs
        | _ => bs.length
    let rows := results.filterMap fun (n, r) => match r with
      | .ok bs => some (if files.isEmpty then "" else n, countsOf bs)
      | .error .isDirectory => some (n, pick.map fun _ => 0)
      | .error _ => none
    let totals := pick.zipIdx.map fun (f, i) =>
      let column := rows.map fun r => r.2.getD i 0
      if f = 'L' then column.foldl max 0 else column.foldl (· + ·) 0
    let rows := if names.length > 1 then rows ++ [("total", totals)] else rows
    let firstOk := match results.head? with
      | some (_, .ok _) => true
      | _ => false
    let width :=
      if (pick.length = 1 && names.length = 1) || !firstOk then 1
      else if names.any (· = "-") then 7
      else
        let total := (results.filterMap fun (_, r) => r.toOption.map List.length).foldl (· + ·) 0
        digitsOf total
    let line (r : String × List Nat) : String :=
      " ".intercalate (r.2.map fun n => Text.padLeft width (toString n)) ++
        (if r.1.isEmpty then "" else " " ++ r.1) ++ "\n"
    Done.buffered (if err.isEmpty then 0 else 1) (bytes (String.join (rows.map line))) (bytes err) c.tree

end LineCoverage.Shell
