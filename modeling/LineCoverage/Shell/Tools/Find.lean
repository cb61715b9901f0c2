import LineCoverage.Shell.Tools.Options
import LineCoverage.Shell.Pattern
import LineCoverage.Regex.Match
/-! `find`: walking file trees and acting on the files an expression picks.

The arguments before the first that starts an expression are the starting points (`.` when
there are none). Each is walked depth first, the entries of a directory in order of name,
the directory before what it holds unless `-depth` is given. The expression is made of tests
(`-name`, `-type`, ...), actions (`-print`, `-delete`, ...) and options (`-maxdepth`, ...),
joined by `!`, `-a` (or nothing), `-o`, `,` and parentheses, binding in that order. An
expression without an action prints every file it picks.
-/

set_option autoImplicit false

namespace LineCoverage.Shell

inductive FindTest where
  | name (pattern : List (Char × Bool)) (ignoreCase : Bool)
  | path (pattern : List (Char × Bool)) (ignoreCase : Bool)
  | kind (letters : List Char)
  | empty
  | executable
  | size (compare : Int) (count : Nat) (unit : Nat)
  | regex (e : Regex.Expr)
  | always (value : Bool)
  | prune
  | quit
  | print (ending : String)
  | printf (format : List Char)
  | delete

inductive FindExpr where
  | test (t : FindTest)
  | not (e : FindExpr)
  | both (a b : FindExpr)
  | either (a b : FindExpr)
  | sequence (a b : FindExpr)

/-- Whether an expression holds an action, so that nothing is printed for it. -/
def FindExpr.acts : FindExpr → Bool
  | .test t => match t with
    | .print _ | .printf _ | .delete | .quit => true
    | _ => false
  | .not e => e.acts
  | .both a b | .either a b | .sequence a b => a.acts || b.acts

structure FindOptions where
  maxDepth : Option Nat := none
  minDepth : Nat := 0
  depthFirst : Bool := false
  follow : Bool := false
  regexExtended : Bool := false

inductive FindError where
  | unknown (arg : String)
  | missing (arg : String)
  | badType (arg : String)
  | typeLetters
  | pathsFirst (arg : String) (after : Option String)
  | nothingBefore (op : String)
  | nothingAfter (op : String)
  | noClose
  | tooManyClose
  | emptyParens
  | badNumber (option arg : String)
  | badRegex (message : String)

def FindError.message : FindError → String
  | .unknown a => "unknown predicate `" ++ a ++ "'"
  | .missing a => "missing argument to `" ++ a ++ "'"
  | .badType a => "Unknown argument to -type: " ++ a
  | .typeLetters => "Must separate multiple arguments to -type using: ','"
  | .pathsFirst a after =>
    "paths must precede expression: `" ++ a ++ "'" ++ (match after with
      | some p => "\nfind: possible unquoted pattern after predicate `" ++ p ++ "'?"
      | none => "")
  | .nothingBefore op => "invalid expression; you have used a binary operator '" ++ op ++ "' with nothing before it."
  | .nothingAfter op => "invalid expression; you have used a binary operator '" ++ op ++ "' with nothing after it."
  | .noClose => "invalid expression; I was expecting to find a ')' somewhere but did not see one."
  | .tooManyClose => "invalid expression; you have too many ')'"
  | .emptyParens => "invalid expression; empty parentheses are not allowed."
  | .badNumber o a => "Expected a positive decimal integer argument to " ++ o ++ ", but got `" ++ a ++ "'"
  | .badRegex m => m

/-- A `find` pattern as pattern characters: a backslash makes the next one stand for itself. -/
def findPattern (s : String) : List (Char × Bool) :=
  let rec go : List Char → List (Char × Bool)
    | '\\' :: c :: rest => (c, true) :: go rest
    | c :: rest => (c, false) :: go rest
    | [] => []
  go s.toList

/-- The predicates that take a pattern, after which a stray word may be an unquoted one. -/
def patternPredicates : List String :=
  ["-name", "-iname", "-path", "-ipath", "-wholename", "-iwholename", "-lname", "-ilname", "-regex", "-iregex"]

structure FindReader where
  rest : List String
  options : FindOptions
  firstTest : Option String
  warnings : List String

def readPrimary (r : FindReader) (p : String) : Except FindError (FindExpr × FindReader) :=
  let arg : Except FindError (String × FindReader) := match r.rest with
    | a :: more => .ok (a, { r with rest := more })
    | [] => .error (.missing p)
  let tested (r : FindReader) : FindReader := { r with firstTest := r.firstTest.orElse fun _ => some p }
  let globalOption (r : FindReader) : FindReader :=
    match r.firstTest with
    | some t => { r with warnings := r.warnings ++ ["warning: you have specified the global option " ++ p ++
        " after the argument " ++ t ++ ", but global options are not positional, i.e., " ++ p ++
        " affects tests specified before it as well as those specified after it.  " ++
        "Please specify global options before other arguments."] }
    | none => r
  let yes : FindExpr := .test (.always true)
  match p with
  | "-name" | "-iname" =>
    arg.map fun (a, r) => (.test (.name (findPattern a) (p = "-iname")), tested r)
  | "-path" | "-ipath" | "-wholename" | "-iwholename" =>
    arg.map fun (a, r) => (.test (.path (findPattern a) (p = "-ipath" || p = "-iwholename")), tested r)
  | "-regex" | "-iregex" =>
    arg.bind fun (a, r) =>
      let flavor := if r.options.regexExtended then Regex.Flavor.posixExtended else Regex.Flavor.grepBasic
      match Regex.compile flavor a (p = "-iregex") with
      | .ok e => .ok (.test (.regex e), tested r)
      | .error e => .error (.badRegex e.message)
  | "-type" | "-xtype" =>
    arg.bind fun (a, r) =>
      let parts := a.splitOn ","
      let valid := "bcdpflsD".toList
      match parts.find? (·.length != 1) with
      | some q =>
        if q.length > 1 && q.toList.all valid.contains then .error .typeLetters
        else .error (.badType (String.ofList (q.toList.take 1)))
      | none =>
        let letters := parts.filterMap fun q => q.toList.head?
        match letters.find? fun ch => !valid.contains ch with
        | some ch => .error (.badType ch.toString)
        | none => .ok (.test (.kind letters), tested r)
  | "-empty" => .ok (.test .empty, tested r)
  | "-executable" => .ok (.test .executable, tested r)
  | "-readable" | "-writable" => .ok (yes, tested r)
  | "-true" => .ok (yes, tested r)
  | "-false" => .ok (.test (.always false), tested r)
  | "-size" =>
    arg.bind fun (a, r) =>
      let (cmp, body) := match a.toList with
        | '+' :: rest => ((1 : Int), rest)
        | '-' :: rest => (-1, rest)
        | cs => (0, cs)
      let ds := body.takeWhile Char.isDigit
      let unitText := body.drop ds.length
      let unit := match unitText with
        | [] | ['b'] => some 512
        | ['c'] => some 1
        | ['w'] => some 2
        | ['k'] => some 1024
        | ['M'] => some 1048576
        | ['G'] => some 1073741824
        | _ => none
      match unit with
      | some u => if ds.isEmpty then .error (.badType a) else .ok (.test (.size cmp (Numeral.digitsValue ds) u), tested r)
      | none => .error (.badType a)
  | "-prune" => .ok (.test .prune, tested r)
  | "-quit" => .ok (.test .quit, tested r)
  | "-print" => .ok (.test (.print "\n"), tested r)
  | "-print0" => .ok (.test (.print (Char.ofNat 0).toString), tested r)
  | "-printf" => arg.map fun (a, r) => (.test (.printf a.toList), tested r)
  | "-delete" =>
    .ok (.test .delete, tested { r with options := { r.options with depthFirst := true } })
  | "-maxdepth" | "-mindepth" =>
    arg.bind fun (a, r) =>
      if a.isEmpty || !a.all Char.isDigit then .error (.badNumber p a)
      else
        let n := Numeral.leadingValue a
        let r := globalOption r
        .ok (yes, { r with options := if p = "-maxdepth" then { r.options with maxDepth := some n }
          else { r.options with minDepth := n } })
  | "-depth" | "-d" => .ok (yes, { globalOption r with options := { r.options with depthFirst := true } })
  | "-follow" => .ok (yes, { globalOption r with options := { r.options with follow := true } })
  | "-xdev" | "-mount" | "-noleaf" | "-ignore_readdir_race" | "-daystart" => .ok (yes, globalOption r)
  | "-regextype" =>
    arg.map fun (a, r) => (yes, { r with options := { r.options with regexExtended := a = "posix-extended" || a = "egrep" } })
  | _ =>
    if p.startsWith "-" && p.length > 1 then .error (.unknown p)
    else .error (.pathsFirst p none)

def endsOperand (w : String) : Bool := w = ")" || w = "-o" || w = "-or" || w = ","

mutual

def readSequence : Nat → FindReader → Except FindError (FindExpr × FindReader)
  | 0, _ => .error .noClose
  | fuel + 1, r => do
    let (e, r) ← readEither fuel r
    readSequenceMore fuel e r

def readSequenceMore : Nat → FindExpr → FindReader → Except FindError (FindExpr × FindReader)
  | 0, e, r => .ok (e, r)
  | fuel + 1, e, r =>
    match r.rest with
    | "," :: more =>
      match more with
      | [] | ")" :: _ => .error (.nothingAfter ",")
      | _ => do
        let (b, r) ← readEither fuel { r with rest := more }
        readSequenceMore fuel (.sequence e b) r
    | _ => .ok (e, r)

def readEither : Nat → FindReader → Except FindError (FindExpr × FindReader)
  | 0, _ => .error .noClose
  | fuel + 1, r => do
    let (e, r) ← readBoth fuel r
    readEitherMore fuel e r

def readEitherMore : Nat → FindExpr → FindReader → Except FindError (FindExpr × FindReader)
  | 0, e, r => .ok (e, r)
  | fuel + 1, e, r =>
    match r.rest with
    | op :: more =>
      if op = "-o" || op = "-or" then
        match more with
        | [] => .error (.nothingAfter op)
        | w :: _ => if endsOperand w then .error (.nothingAfter op) else do
          let (b, r) ← readBoth fuel { r with rest := more }
          readEitherMore fuel (.either e b) r
      else .ok (e, r)
    | [] => .ok (e, r)

def readBoth : Nat → FindReader → Except FindError (FindExpr × FindReader)
  | 0, _ => .error .noClose
  | fuel + 1, r => do
    let (e, r) ← readUnary fuel r
    readBothMore fuel e r

def readBothMore : Nat → FindExpr → FindReader → Except FindError (FindExpr × FindReader)
  | 0, e, r => .ok (e, r)
  | fuel + 1, e, r =>
    match r.rest with
    | [] => .ok (e, r)
    | w :: more =>
      if endsOperand w then .ok (e, r)
      else if w = "-a" || w = "-and" then
        match more with
        | [] => .error (.nothingAfter w)
        | x :: _ => if endsOperand x then .error (.nothingAfter w) else do
          let (b, r) ← readUnary fuel { r with rest := more }
          readBothMore fuel (.both e b) r
      else do
        let (b, r) ← readUnary fuel r
        readBothMore fuel (.both e b) r

def readUnary : Nat → FindReader → Except FindError (FindExpr × FindReader)
  | 0, _ => .error .noClose
  | fuel + 1, r =>
    match r.rest with
    | [] => .error .noClose
    | w :: more =>
      if w = "!" || w = "-not" then
        match more with
        | [] => .error (.nothingAfter w)
        | _ => do
          let (e, r) ← readUnary fuel { r with rest := more }
          .ok (.not e, r)
      else if w = "(" then
        match more with
        | ")" :: _ => .error .emptyParens
        | _ => do
          let (e, r) ← readSequence fuel { r with rest := more }
          match r.rest with
          | ")" :: after => .ok (e, { r with rest := after })
          | _ => .error .noClose
      else if w = ")" then .error .tooManyClose
      else if w = "-o" || w = "-or" || w = "-a" || w = "-and" || w = "," then .error (.nothingBefore w)
      else readPrimary { r with rest := more } w

end

def readFindExpr (args : List String) : Except FindError (Option FindExpr × FindOptions × List String) :=
  match args with
  | [] => .ok (none, {}, [])
  | _ =>
    let r : FindReader := ⟨args, {}, none, []⟩
    match readSequence (4 * args.length + 4) r with
    | .error e => .error e
    | .ok (e, r) =>
      match r.rest with
      | [] => .ok (some e, r.options, r.warnings)
      | ")" :: _ => .error .tooManyClose
      | w :: _ =>
        let prev := (args.take (args.length - r.rest.length)).getLast?
        .error (.pathsFirst w (prev.filter patternPredicates.contains))

structure Visit where
  path : String
  start : String
  depth : Nat
  location : Location
  entry : Entry

structure FindState where
  out : String
  err : String
  tree : FileTree
  quit : Bool
  pruned : Bool
  failed : Bool

def pathName (p : String) : String :=
  let cs := p.toList
  let trimmed := (cs.reverse.dropWhile (· = '/')).reverse
  if trimmed.isEmpty then (if cs.isEmpty then "" else "/")
  else String.ofList ((trimmed.reverse.takeWhile (· ≠ '/')).reverse)

def visitSize (v : Visit) : Nat :=
  match v.entry with
  | .file bs => bs.length
  | .dir => 4096
  | .link t => t.length

def typeLetter (e : Entry) : Char :=
  match e with
  | .file _ => 'f'
  | .dir => 'd'
  | .link _ => 'l'

def printfText (v : Visit) : List Char → String
  | [] => ""
  | '%' :: c :: rest =>
    let here := match c with
      | 'p' => v.path
      | 'f' => pathName v.path
      | 'h' =>
        let cs := v.path.toList
        let dir := (cs.reverse.dropWhile (· ≠ '/')).reverse
        if dir.isEmpty then "." else String.ofList dir.dropLast
      | 'P' => String.ofList ((v.path.toList.drop v.start.length).dropWhile (· = '/'))
      | 'd' => toString v.depth
      | 's' => toString (visitSize v)
      | 'y' => (typeLetter v.entry).toString
      | 'm' => if v.entry = .dir then "755" else "644"
      | '%' => "%"
      | other => "%" ++ other.toString
    here ++ printfText v rest
  | '\\' :: c :: rest =>
    let here := match c with
      | 'n' => "\n"
      | 't' => "\t"
      | '0' => (Char.ofNat 0).toString
      | '\\' => "\\"
      | other => "\\" ++ other.toString
    here ++ printfText v rest
  | c :: rest => c.toString ++ printfText v rest

def FindExpr.eval (c : Call) (tool : String) (v : Visit) : FindExpr → FindState → Bool × FindState
  | .test t, s =>
    match t with
    | .name p ic =>
      let n := pathName v.path
      let p := if ic then p.map fun (ch, q) => (ch.toLower, q) else p
      (globMatches p (if ic then n.toLower else n), s)
    | .path p ic =>
      let p := if ic then p.map fun (ch, q) => (ch.toLower, q) else p
      (globMatches p (if ic then v.path.toLower else v.path), s)
    | .kind letters => (letters.contains (typeLetter v.entry), s)
    | .empty =>
      let b := match v.entry with
        | .file bs => bs.isEmpty
        | .dir => (s.tree.children v.location).isEmpty
        | .link _ => false
      (b, s)
    | .executable =>
      let b := match v.entry with
        | .dir => true
        | .file _ => s.tree.isExecutable v.location
        | .link _ => false
      (b, s)
    | .size cmp n unit =>
      let size := (visitSize v + unit - 1) / unit
      (if cmp > 0 then size > n else if cmp < 0 then size < n else size = n, s)
    | .regex e =>
      let input := v.path.toList.toArray
      ((e.searchWhere input 0 fun a b => a = 0 && b = input.size).isSome, s)
    | .always b => (b, s)
    | .prune => (true, { s with pruned := true })
    | .quit => (true, { s with quit := true })
    | .print ending => (true, { s with out := s.out ++ v.path ++ ending })
    | .printf f => (true, { s with out := s.out ++ printfText v f })
    | .delete =>
      if v.path = "." then (true, s)
      else
        match v.entry with
        | .dir =>
          if (s.tree.children v.location).isEmpty then (true, { s with tree := s.tree.erase v.location })
          else (false, { s with err := s.err ++ tool ++ ": cannot delete " ++ quoteAlways v.path ++ ": Directory not empty\n", failed := true })
        | _ => (true, { s with tree := s.tree.erase v.location })
  | .not e, s => let (b, s) := e.eval c tool v s; (!b, s)
  | .both a b, s =>
    let (x, s) := a.eval c tool v s
    if x && !s.quit then b.eval c tool v s else (x, s)
  | .either a b, s =>
    let (x, s) := a.eval c tool v s
    if x || s.quit then (x, s) else b.eval c tool v s
  | .sequence a b, s =>
    let (_, s) := a.eval c tool v s
    if s.quit then (false, s) else b.eval c tool v s

def findWalk (c : Call) (tool : String) (e : FindExpr) (o : FindOptions) :
    Nat → Visit → FindState → FindState
  | 0, _, s => s
  | fuel + 1, v, s =>
    if s.quit then s
    else
      let act (s : FindState) : FindState :=
        if v.depth ≥ o.minDepth then (e.eval c tool v { s with pruned := false }).2 else { s with pruned := false }
      let deeper := match o.maxDepth with
        | some m => v.depth < m
        | none => true
      let below (s : FindState) : FindState :=
        match v.entry with
        | .dir =>
          if !deeper then s
          else (s.tree.children v.location).foldl (fun s (name, entry) =>
            let loc := v.location ++ [name]
            let entry := match entry, o.follow with
              | .link _, true =>
                match s.tree.resolve c.cwd ("/" ++ "/".intercalate loc) with
                | .ok l => (s.tree.get? l).getD entry
                | .error _ => entry
              | _, _ => entry
            let path := if v.path.endsWith "/" then v.path ++ name else v.path ++ "/" ++ name
            findWalk c tool e o fuel ⟨path, v.start, v.depth + 1, loc, entry⟩ s) s
        | _ => s
      if o.depthFirst then act (below s)
      else
        let s := act s
        if s.pruned then { s with pruned := false } else below s

def find (c : Call) : Done :=
  let tool := c.tool "find"
  let (modes, rest) := (c.args.takeWhile fun a => a = "-H" || a = "-L" || a = "-P",
    c.args.dropWhile fun a => a = "-H" || a = "-L" || a = "-P")
  let follow := modes.getLast? = some "-L"
  let startsExpr (a : String) : Bool := (a.startsWith "-" && a.length > 1) || a = "(" || a = "!"
  let paths := rest.takeWhile (!startsExpr ·)
  let exprArgs := rest.drop paths.length
  match readFindExpr exprArgs with
  | .error e => c.answer 1 "" (tool ++ ": " ++ e.message ++ "\n")
  | .ok (expr, options, warnings) =>
    let options := { options with follow := options.follow || follow }
    let warned := String.join (warnings.map fun w => tool ++ ": " ++ w ++ "\n")
    let expr := match expr with
      | none => FindExpr.test (.print "\n")
      | some e => if e.acts then e else .both e (.test (.print "\n"))
    let paths := if paths.isEmpty then ["."] else paths
    let fuel := c.tree.entries.length + 2
    let start : FindState := ⟨"", warned, c.tree, false, false, false⟩
    let s := paths.foldl (fun s p =>
      if s.quit then s
      else if p.isEmpty then
        { s with err := s.err ++ tool ++ ": '': No such file or directory\n", failed := true }
      else
        let entry := if options.follow || modes.getLast? = some "-H" then
            match s.tree.resolve c.cwd p with
            | .ok l => s.tree.get? l
            | .error _ => s.tree.entryAt? c.cwd p
          else match s.tree.linkAt? c.cwd p with
            | some t => some (.link t)
            | none => s.tree.entryAt? c.cwd p
        match entry, s.tree.resolveWith c.cwd p false with
        | some e, .ok l =>
          let l := match e with
            | .dir => (s.tree.resolve c.cwd p).toOption.getD l
            | _ => l
          findWalk c tool expr options fuel ⟨p, p, 0, l, e⟩ s
        | _, .error err => { s with err := s.err ++ tool ++ ": " ++ quoteAlways p ++ ": " ++ osText err ++ "\n", failed := true }
        | none, _ => { s with err := s.err ++ tool ++ ": " ++ quoteAlways p ++ ": No such file or directory\n", failed := true }) start
    Done.buffered (if s.failed then 1 else 0) (bytes s.out) (bytes s.err) s.tree

end LineCoverage.Shell
