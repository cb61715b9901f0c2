import LineCoverage.Cli.Spec
import LineCoverage.Cli.Similar
import LineCoverage.Commands
/-! Reading the command line.

The first word names the subcommand; before it only `-h`/`--help` and `-V`/`--version` are
known. A subcommand's options are read left to right: `--name value` or `--name=value` for an
option, `--name` for a flag. An option whose value has not come yet takes the next word, and
is settled when the next option starts or the line ends: with no value then, its value is
missing. An option given twice, an empty path, an unknown word, and in the end a required
option not given, are usage errors; each error shows a usage line, and for an unknown name
the similar names that exist.
-/

set_option autoImplicit false

namespace LineCoverage.Cli

/-- How a command line that runs no command ends: the text, whether it goes to the error
stream, and the exit status. -/
structure Answer where
  text : String
  toStderr : Bool
  status : Nat
  deriving DecidableEq, Repr

def usageErrorWith (helpFlag : Bool) (message : String) (tips : List String) (usage : String) : Answer :=
  let tipText := if tips.isEmpty then "" else "\n" ++ String.join (tips.map fun t => "\n  tip: " ++ t)
  let ending := if helpFlag then "\n\nFor more information, try '--help'.\n" else "\n"
  ⟨"error: " ++ message ++ tipText ++ "\n\nUsage: " ++ usage ++ ending, true, 2⟩

def usageError (message : String) (tips : List String) (usage : String) : Answer :=
  usageErrorWith true message tips usage

def emptyValue (o : Opt) : Answer :=
  ⟨"error: a value is required for '" ++ o.display ++ "' but none was supplied\n\n" ++
    "For more information, try '--help'.\n", true, 2⟩

def similarTip (kind : String) : List String → List String
  | [] => []
  | [n] => ["a similar " ++ kind ++ " exists: '" ++ n ++ "'"]
  | ns => ["some similar " ++ kind ++ "s exist: " ++ ", ".intercalate (ns.map fun n => "'" ++ n ++ "'")]

def shown (text : String) : Answer := ⟨text, false, 0⟩

inductive Request where
  | collect (opts : CollectOptions) (out : String)
  | report (opts : ReportOptions)

inductive Parsed where
  | run (r : Request)
  | answer (a : Answer)

/-- The options of a subcommand read so far, in the order first given, and the option
waiting for its value, with the value once it has come. -/
structure Reading where
  given : List (String × Option String) := []
  pending : Option (Opt × Option String) := none

/-- Whether an option's value is a path, which may not be empty. -/
def Opt.isPath (o : Opt) : Bool := o.long != "dirs"

def Reading.record (s : Sub) (r : Reading) (o : Opt) (value : Option String) : Except Answer Reading :=
  if r.given.any (·.1 == o.long) then
    .error (usageError ("the argument '" ++ o.display ++ "' cannot be used multiple times") [] s.usage)
  else if value == some "" && o.isPath then .error (emptyValue o)
  else .ok { r with given := r.given ++ [(o.long, value)] }

def Reading.settle (s : Sub) (r : Reading) : Except Answer Reading :=
  match r.pending with
  | none => .ok r
  | some (o, none) => .error (emptyValue o)
  | some (o, some v) => { r with pending := none }.record s o (some v)

def Reading.settled (s : Sub) (r : Reading) : Reading :=
  match r.settle s with
  | .ok r' => r'
  | .error _ => { r with pending := none }

def Sub.longs (s : Sub) : List String := s.opts.map (·.long) ++ ["help"]

def Sub.unknownLong (s : Sub) (r : Reading) (name : String) : Answer :=
  let r := r.settled s
  let used := r.given.map (·.1)
  match (didYouMean name s.longs).getLast? with
  | some best =>
    let used := if used.contains best then used else used ++ [best]
    usageError ("unexpected argument '--" ++ name ++ "' found")
      ["a similar argument exists: '--" ++ best ++ "'"] (s.smartUsage used)
  | none =>
    usageError ("unexpected argument '--" ++ name ++ "' found") []
      (if used.isEmpty then s.usage else s.smartUsage used)

def Sub.request (s : Sub) (r : Reading) : Request :=
  let value (long : String) : Option String := ((r.given.find? (·.1 == long)).bind (·.2))
  let text (long : String) : String := (value long).getD ""
  if s.name = "collect" then
    .collect
      { git := (value "git").getD "git"
        gcov := text "gcov"
        srcDir := text "src-dir"
        binDir := text "bin-dir"
        intDir := text "int-dir"
        dirs := RelevantDirs.parse (text "dirs") }
      (text "out")
  else
    .report
      { input := text "in"
        previous := value "prev"
        out := value "out"
        dirty := r.given.any (·.1 == "dirty")
        git := (value "git").getD "git" }

def Sub.finish (s : Sub) (r : Reading) : Parsed :=
  let missing := s.opts.filter fun o => o.required && !r.given.any (·.1 == o.long)
  if missing.isEmpty then .run (s.request r)
  else
    let used := r.given.map (·.1) ++ missing.map (·.long)
    .answer ⟨"error: the following required arguments were not provided:" ++
      String.join (missing.map fun o => "\n  " ++ o.display) ++ "\n\nUsage: " ++ s.smartUsage used ++
      "\n\nFor more information, try '--help'.\n", true, 2⟩

def Sub.read (s : Sub) : Reading → Bool → List String → Parsed
  | r, _, [] =>
    match r.settle s with
    | .error a => .answer a
    | .ok r' => s.finish r'
  | _, true, a :: _ => .answer (usageError ("unexpected argument '" ++ a ++ "' found") [] s.usage)
  | r, false, a :: rest =>
    if a = "--" then s.read r true rest
    else if a.startsWith "--" then
      let body := String.ofList (a.toList.drop 2)
      let name := String.ofList (body.toList.takeWhile (· ≠ '='))
      let attached : Option String :=
        if body.toList.contains '=' then some (String.ofList ((body.toList.dropWhile (· ≠ '=')).drop 1)) else none
      if name = "help" then
        match attached with
        | some v =>
          let used := (r.given.map (·.1)).filter (fun u => !(s.opts.any fun o => o.long == u && o.required))
          .answer (usageError ("unexpected value '" ++ v ++ "' for '--help' found; no more were expected") []
            (s.smartUsage (used ++ ["help"])))
        | none =>
          match r.settle s with
          | .error e => .answer e
          | .ok _ => .answer (shown s.help)
      else
        match s.opts.find? (·.long == name) with
        | none => .answer (s.unknownLong r name)
        | some o =>
          match o.valueName, attached with
          | some _, some v =>
            match r.settle s >>= fun r' => r'.record s o (some v) with
            | .error e => .answer e
            | .ok r' => s.read r' false rest
          | some _, none =>
            match r.settle s with
            | .error e => .answer e
            | .ok r' => s.read { r' with pending := some (o, none) } false rest
          | none, some v =>
            let used := (r.given.map (·.1)).filter (fun u => !(s.opts.any fun o => o.long == u && o.required))
            .answer (usageError ("unexpected value '" ++ v ++ "' for '" ++ o.display ++
              "' found; no more were expected") [] (s.smartUsage (used ++ [o.long])))
          | none, none =>
            match r.settle s >>= fun r' => r'.record s o none with
            | .error e => .answer e
            | .ok r' => s.read r' false rest
    else if a.startsWith "-" && a.length > 1 then
      match a.toList.drop 1 with
      | 'h' :: _ =>
        match r.settle s with
        | .error e => .answer e
        | .ok _ => .answer (shown s.help)
      | c :: _ => .answer (usageError ("unexpected argument '-" ++ c.toString ++ "' found") [] s.usage)
      | [] => .answer (usageError ("unexpected argument '" ++ a ++ "' found") [] s.usage)
    else
      match r.pending with
      | some (o, none) => s.read { r with pending := some (o, some a) } false rest
      | _ => .answer (usageError ("unexpected argument '" ++ a ++ "' found") [] s.usage)

def subNamed? (name : String) : Option Sub := subs.find? (·.name == name)

def subNames : List String := subs.map (·.name) ++ ["help"]

def helpOf : Option Sub → Bool → List String → Answer
  | none, false, [] => shown rootHelp
  | some s, _, [] => shown s.help
  | _, true, [] => shown helpHelp
  | none, false, n :: rest =>
    if n = "help" then helpOf none true rest
    else
      match subNamed? n with
      | some s => helpOf (some s) false rest
      | none => usageError ("unrecognized subcommand '" ++ n ++ "'") [] rootUsage
  | some s, _, n :: _ => usageError ("unrecognized subcommand '" ++ n ++ "'") [] s.usage
  | none, true, n :: _ =>
    usageErrorWith false ("unrecognized subcommand '" ++ n ++ "'") [] (programName ++ " help [COMMAND]...")

def rootSmartUsage (used : List String) : String :=
  " ".intercalate ([programName] ++ used.map ("--" ++ ·) ++ ["<COMMAND>"])

/-- The error of an unknown long option before the subcommand: a tip names the most similar
option of the program, or else an option of a subcommand named later on the line. -/
def unknownRootLong (name : String) (rest : List String) : Answer :=
  match (didYouMean name ["help", "version"]).getLast? with
  | some best =>
    usageError ("unexpected argument '--" ++ name ++ "' found") ["a similar argument exists: '--" ++ best ++ "'"]
      (rootSmartUsage [best])
  | none =>
    let candidates := subs.filterMap fun s =>
      match (didYouMean name s.longs).getLast?, rest.idxOf? s.name with
      | some best, some pos => some (pos, s.name ++ " --" ++ best)
      | _, _ => none
    let tips := match (candidates.mergeSort fun p q => p.1 ≤ q.1).head? with
      | some (_, t) => ["'" ++ t ++ "' exists"]
      | none => []
    usageError ("unexpected argument '--" ++ name ++ "' found") tips rootUsage

def readRoot : Bool → List String → Parsed
  | _, [] => .answer ⟨rootHelp, true, 2⟩
  | trailing, a :: rest =>
    if !trailing && a = "help" then .answer (helpOf none false rest)
    else if !trailing && (subNamed? a).isSome then
      match subNamed? a with
      | some s => s.read {} false rest
      | none => .answer (shown rootHelp)
    else if !trailing && a = "--" then readRoot true rest
    else if !trailing && a.startsWith "--" then
      let body := String.ofList (a.toList.drop 2)
      let name := String.ofList (body.toList.takeWhile (· ≠ '='))
      let attached : Option String :=
        if body.toList.contains '=' then some (String.ofList ((body.toList.dropWhile (· ≠ '=')).drop 1)) else none
      if name = "help" || name = "version" then
        match attached with
        | some v =>
          .answer (usageError ("unexpected value '" ++ v ++ "' for '--" ++ name ++ "' found; no more were expected")
            [] (rootSmartUsage [name]))
        | none => .answer (shown (if name = "help" then rootHelp else versionText))
      else .answer (unknownRootLong name rest)
    else if !trailing && a.startsWith "-" && a.length > 1 then
      match a.toList.drop 1 with
      | 'h' :: _ => .answer (shown rootHelp)
      | 'V' :: _ => .answer (shown versionText)
      | c :: _ => .answer (usageError ("unexpected argument '-" ++ c.toString ++ "' found") [] rootUsage)
      | [] => .answer (usageError ("unexpected argument '" ++ a ++ "' found") [] rootUsage)
    else if trailing && subNames.contains a then
      .answer (usageError ("unexpected argument '" ++ a ++ "' found")
        ["subcommand '" ++ a ++ "' exists; to use it, remove the '--' before it"] rootUsage)
    else
      .answer (usageError ("unrecognized subcommand '" ++ a ++ "'") (similarTip "subcommand" (didYouMean a subNames))
        rootUsage)

def parseArgs (args : List String) : Parsed := readRoot false args

end LineCoverage.Cli
