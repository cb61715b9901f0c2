import LineCoverage.Shell.Tools.Options
import LineCoverage.Regex.Match
/-! `grep`: the lines of its inputs that match one of its patterns.

Patterns are basic expressions (`-G`, the default), extended ones (`-E`) or fixed strings
(`-F`); each line of a pattern argument is a pattern of its own. A line is selected when some
pattern matches in it (with `-x` the whole line, with `-w` a whole word), or with `-v` when
none does. Of the matches in a line the leftmost is taken, and of those the longest.

Selected lines are printed with the name of their input when there are several inputs, and
with `-n` their number; `-c`, `-l`, `-L`, `-o` and `-q` print counts, names, the matches or
nothing instead. The status is 0 when a line was selected, 1 when none was, and 2 after a
trouble, unless `-q` found a line.
-/

set_option autoImplicit false

namespace LineCoverage.Shell

inductive Matcher where
  | expressions (es : List Regex.Expr)
  | fixed (patterns : List (List Char)) (ignoreCase : Bool)

def fixedAt (line : Array Char) (ignoreCase : Bool) (p : List Char) (pos : Nat) : Bool :=
  p.length + pos ≤ line.size &&
    (p.zipIdx.all fun (c, i) => Regex.sameChar ignoreCase (line.getD (pos + i) ' ') c)

/-- The first match at or after `start` that passes a test on its span, the longest of those
starting there. -/
def Matcher.find (m : Matcher) (line : Array Char) (start : Nat) (ok : Nat → Nat → Bool) :
    Option (Nat × Nat) :=
  match m with
  | .expressions es =>
    let found := es.filterMap fun e => (e.searchWhere line start ok).map fun (s, t, _) => (s, t)
    found.foldl (fun best (s, t) => match best with
      | none => some (s, t)
      | some (bs, bt) => if s < bs || (s = bs && t > bt) then some (s, t) else best) none
  | .fixed ps ic =>
    let positions := (List.range (line.size + 1 - start)).map (start + ·)
    positions.findSome? fun pos =>
      let ends := ps.filterMap fun p => if fixedAt line ic p pos && ok pos (pos + p.length) then some (pos + p.length) else none
      ends.foldl (fun best e => match best with
        | none => some (pos, e)
        | some (_, be) => if e > be then some (pos, e) else best) none

def grepTest (line : Array Char) (whole word : Bool) (s e : Nat) : Bool :=
  if whole then s = 0 && e = line.size
  else if word then
    (s = 0 || !Regex.isWordChar (line.getD (s - 1) ' ')) && (e ≥ line.size || !Regex.isWordChar (line.getD e ' '))
  else true

def matchesIn (m : Matcher) (line : Array Char) (whole word : Bool) : List (Nat × Nat) :=
  let rec go : Nat → Nat → List (Nat × Nat)
    | 0, _ => []
    | fuel + 1, pos =>
      if pos > line.size then []
      else match m.find line pos (grepTest line whole word) with
        | none => []
        | some (s, e) => if e = s then go fuel (s + 1) else (s, e) :: go fuel e
  go (line.size + 2) 0

structure GrepMode where
  invert : Bool
  whole : Bool
  word : Bool
  count : Bool
  listMatching : Bool
  listMissing : Bool
  onlyMatching : Bool
  quiet : Bool
  numbers : Bool
  offsets : Bool
  withNames : Bool
  nullAfterName : Bool
  before : Nat
  after : Nat
  most : Option Nat
  delim : Char
  binaryAsText : Bool

structure Searched where
  out : String
  selected : Nat
  binaryHit : Bool

def grepLines (delim : Char) (text : String) : List (String × Nat) :=
  let parts := records delim text
  let (_, ls) := parts.foldl (fun (acc : Nat × List (String × Nat)) l =>
    let body := if l.endsWith delim.toString then String.ofList l.toList.dropLast else l
    (acc.1 + l.length, acc.2 ++ [(body, acc.1)])) (0, [])
  ls

def searchInput (m : Matcher) (mode : GrepMode) (name : String) (content : List UInt8) : Searched :=
  let text := textOf content
  let binary := !mode.binaryAsText && mode.delim != Char.ofNat 0 && content.contains 0
  let lines := (grepLines mode.delim text).zipIdx
  let isSelected (l : String) : Bool :=
    let arr := l.toList.toArray
    (m.find arr 0 (grepTest arr mode.whole mode.word)).isSome != mode.invert
  let marks := lines.map fun ((l, _), _) => isSelected l
  -- the selected lines, up to the most asked for
  let chosen := (lines.zip marks).filter (·.2) |>.map (·.1.2)
  let chosen := match mode.most with
    | some k => chosen.take k
    | none => chosen
  let selected := chosen.length
  let lastChosen := chosen.getLast?
  let lead (n : Nat) (offset : Nat) (sep : Char) : String :=
    (if mode.withNames then name ++ (if mode.nullAfterName then (Char.ofNat 0).toString else sep.toString) else "") ++
    (if mode.numbers then toString (n + 1) ++ sep.toString else "") ++
    (if mode.offsets then toString offset ++ sep.toString else "")
  let ending := mode.delim.toString
  if mode.quiet then ⟨"", selected, false⟩
  else if mode.count then
    ⟨(if mode.withNames then name ++ (if mode.nullAfterName then (Char.ofNat 0).toString else ":") else "") ++ toString selected ++ "\n", selected, false⟩
  else if mode.listMatching then
    ⟨if selected > 0 then name ++ (if mode.nullAfterName then (Char.ofNat 0).toString else "\n") else "", selected, false⟩
  else if mode.listMissing then
    ⟨if selected = 0 then name ++ (if mode.nullAfterName then (Char.ofNat 0).toString else "\n") else "", selected, false⟩
  else if binary then ⟨"", selected, selected > 0⟩
  else
    -- a line is shown when chosen, or within the context of a chosen line
    let near (i : Nat) : Bool :=
      chosen.any fun j => (j ≤ i && i ≤ j + mode.after) || (i ≤ j && j ≤ i + mode.before)
    let limit := match lastChosen with
      | some j => j + mode.after
      | none => 0
    let shownLines := lines.filter fun (_, i) => near i && (lastChosen.isSome && i ≤ limit)
    let context := mode.before > 0 || mode.after > 0
    let (out, _) := shownLines.foldl (fun (acc : String × Option Nat) ((l, offset), i) =>
      let (out, prev) := acc
      let gap := context && (match prev with
        | some p => i > p + 1
        | none => false)
      let out := if gap then out ++ "--\n" else out
      have isChosen := chosen.contains i
      let piece :=
        if mode.onlyMatching then
          if isChosen && !mode.invert then
            let arr := l.toList.toArray
            String.join ((matchesIn m arr mode.whole mode.word).map fun (s, e) =>
              lead i (offset + s) ':' ++ String.ofList (arr.extract s e).toList ++ ending)
          else ""
        else lead i offset (if isChosen then ':' else '-') ++ l ++ ending
      (out ++ piece, some i)) ("", none)
    ⟨out, selected, false⟩

def patternLines (s : String) : List String := s.splitOn "\n"

def filesBelow (c : Call) (dir shown : String) : List (String × String) :=
  (c.tree.walkAt c.cwd dir).filterMap fun (path, e) => match e with
    | .file _ =>
      let rel := path.drop dir.length |>.toString
      some (path, shown ++ rel)
    | _ => none

def grep (c : Call) : Done :=
  let tool := c.tool "grep"
  let usage := "Usage: " ++ tool ++ " [OPTION]... PATTERNS [FILE]...\n" ++ tryHelp tool
  let specs : List OptionSpec :=
    "EFGivwxclLoqsHhnbrRzaIZUy".toList.map OptionSpec.flag ++
    "0123456789".toList.map OptionSpec.flag ++
    [.withArg 'e', .withArg 'f', .withArg 'm', .withArg 'A', .withArg 'B', .withArg 'C',
      .alias "extended-regexp" 'E' .nothing, .alias "fixed-strings" 'F' .nothing,
      .alias "basic-regexp" 'G' .nothing, .alias "regexp" 'e' .argument, .alias "file" 'f' .argument,
      .alias "ignore-case" 'i' .nothing, .longOnly "no-ignore-case" .nothing,
      .alias "invert-match" 'v' .nothing, .alias "word-regexp" 'w' .nothing,
      .alias "line-regexp" 'x' .nothing, .alias "count" 'c' .nothing,
      .alias "files-with-matches" 'l' .nothing, .alias "files-without-match" 'L' .nothing,
      .alias "max-count" 'm' .argument, .alias "only-matching" 'o' .nothing,
      .alias "quiet" 'q' .nothing, .alias "silent" 'q' .nothing, .alias "no-messages" 's' .nothing,
      .alias "with-filename" 'H' .nothing, .alias "no-filename" 'h' .nothing,
      .alias "line-number" 'n' .nothing, .alias "byte-offset" 'b' .nothing,
      .alias "after-context" 'A' .argument, .alias "before-context" 'B' .argument,
      .alias "context" 'C' .argument, .alias "recursive" 'r' .nothing,
      .alias "dereference-recursive" 'R' .nothing, .alias "null-data" 'z' .nothing,
      .alias "text" 'a' .nothing, .alias "null" 'Z' .nothing, .longOnly "color" .optional,
      .longOnly "colour" .optional, .longOnly "label" .argument, .longOnly "include" .argument,
      .longOnly "exclude" .argument, .longOnly "exclude-dir" .argument, .longOnly "line-buffered" .nothing,
      .longOnly "help" .nothing, .longOnly "version" .nothing]
  match readCommandLine specs true c.args with
  | .error e => c.answer 2 "" (e.message tool ++ usage)
  | .ok cl =>
    let kinds := cl.options.filterMap fun (k, _) =>
      if k = "E" || k = "F" || k = "G" then some k else none
    let conflicting := match kinds with
      | [] => false
      | k :: more => more.any (· != k)
    let numberArg (key : String) : Option (Option Nat) :=
      (cl.last? key).map fun v => if !v.isEmpty && v.all Char.isDigit then some (Numeral.leadingValue v) else none
    let digits := String.ofList (cl.options.filterMap fun (k, _) =>
      if k.length = 1 && (k.toList.head?.map Char.isDigit).getD false then k.toList.head? else none)
    if conflicting then c.answer 2 "" (tool ++ ": conflicting matchers specified\n")
    else
    match numberArg "m" with
    | some none => c.answer 2 "" (tool ++ ": invalid max count\n")
    | _ =>
    let badContext := ["A", "B", "C"].findSome? fun k => match numberArg k with
      | some none => cl.last? k
      | _ => none
    match badContext with
    | some v => c.answer 2 "" (tool ++ ": " ++ v ++ ": invalid context length argument\n")
    | none =>
    let contextOf (k : String) : Option Nat := (numberArg k).bind id
    let around := (contextOf "C").getD (if digits.isEmpty then 0 else Numeral.leadingValue digits)
    let given := cl.options.filter fun (k, _) => k = "e" || k = "f"
    let (patterns, operands, patternErr) : List (String × Option (String × Nat)) × List String × String :=
      if given.isEmpty then
        match cl.operands with
        | p :: rest => ((patternLines p).map (·, none), rest, "")
        | [] => ([], [], "?")
      else
        let (ps, err) := given.foldl (fun (acc : List (String × Option (String × Nat)) × String) (k, v) =>
          let v := v.getD ""
          if k = "e" then (acc.1 ++ (patternLines v).map (·, none), acc.2)
          else match c.readInput v with
            | .ok bs =>
              let t := textOf bs
              let ls := linesOf t
              (acc.1 ++ ls.zipIdx.map fun (l, i) => (l, some (v, i + 1)), acc.2)
            | .error e => (acc.1, acc.2 ++ tool ++ ": " ++ v ++ ": " ++ osText e ++ "\n")) ([], "")
        (ps, cl.operands, err)
    if patternErr = "?" then c.answer 2 "" usage
    else if !patternErr.isEmpty then c.answer 2 "" patternErr
    else
    let ignoreCase := (cl.has "i" || cl.has "y") && !(match (cl.options.filter fun (k, _) => k = "i" || k = "y" || k = "no-ignore-case").getLast? with
      | some ("no-ignore-case", _) => true
      | _ => false)
    let flavor := if cl.has "E" then Regex.Flavor.grepExtended else Regex.Flavor.grepBasic
    let compiled : Except String Matcher :=
      if cl.has "F" then .ok (.fixed (patterns.map (·.1.toList)) ignoreCase)
      else
        let results := patterns.map fun (p, origin) => (Regex.compile flavor p ignoreCase, origin)
        let errs := String.join (results.filterMap fun (r, origin) => match r with
          | .error e => some (tool ++ ": " ++ (match origin with
            | some (f, n) => f ++ ":" ++ toString n ++ ": "
            | none => "") ++ e.message ++ "\n")
          | .ok _ => none)
        if errs.isEmpty then .ok (.expressions (results.filterMap (·.1.toOption))) else .error errs
    match compiled with
    | .error errs => c.answer 2 "" errs
    | .ok matcher =>
    let recursive := cl.has "r" || cl.has "R"
    let names := if operands.isEmpty then (if recursive then ["."] else ["-"]) else operands
    let label := (cl.last? "label").getD "(standard input)"
    -- the inputs: each file, or each file below a directory with -r
    let inputs : List (String × Except String (List UInt8)) := names.flatMap fun n =>
      if n = "-" then [(label, .ok c.stdin)]
      else if recursive && c.tree.isDirAt c.cwd n then
        let shown := if operands.isEmpty then "" else n
        (filesBelow c n shown).map fun (path, s) =>
          let s := if operands.isEmpty then String.ofList (s.toList.dropWhile (· = '/')) else s
          (s, (c.tree.readAt c.cwd path).mapError fun e => osText e)
      else
        match c.tree.readAt c.cwd n with
        | .ok bs => [(n, .ok bs)]
        | .error e => [(n, .error (osText e))]
    let withNames := if cl.has "h" && cl.has "H" then
        (match (cl.options.filter fun (k, _) => k = "h" || k = "H").getLast? with
          | some ("H", _) => true
          | _ => false)
      else if cl.has "H" then true else if cl.has "h" then false
      else recursive || names.length > 1
    let mode : GrepMode :=
      { invert := cl.has "v", whole := cl.has "x", word := cl.has "w", count := cl.has "c",
        listMatching := cl.has "l", listMissing := cl.has "L", onlyMatching := cl.has "o",
        quiet := cl.has "q", numbers := cl.has "n", offsets := cl.has "b", withNames := withNames,
        nullAfterName := cl.has "Z", before := (contextOf "B").getD around,
        after := (contextOf "A").getD around, most := (numberArg "m").bind id,
        delim := if cl.has "z" then Char.ofNat 0 else '\n', binaryAsText := cl.has "a" }
    let quietErrors := cl.has "s"
    let step (acc : String × String × Bool × Bool) (input : String × Except String (List UInt8)) :
        String × String × Bool × Bool :=
      let (out, err, any, trouble) := acc
      let (n, r) := input
      if mode.quiet && any then acc
      else match r with
        | .error why => (out, (if quietErrors then err else err ++ tool ++ ": " ++ n ++ ": " ++ why ++ "\n"), any, true)
        | .ok bs =>
          let s := searchInput matcher mode n bs
          let err := if s.binaryHit then err ++ tool ++ ": " ++ n ++ ": binary file matches\n" else err
          (out ++ s.out, err, any || s.selected > 0, trouble)
    let (out, err, any, trouble) := inputs.foldl step ("", "", false, false)
    let status :=
      if mode.quiet && any then 0
      else if trouble then 2
      else if mode.listMissing then (if out.isEmpty then 1 else 0)
      else if any then 0 else 1
    c.answer status out err

end LineCoverage.Shell
