import LineCoverage.Shell.Tools.Sed.Script
import LineCoverage.Shell.Tools.Options
/-! Running a `sed` script over its input, and the `sed` utility.

The editor reads its input a line at a time into the pattern space and runs the script over
it; at the end of the script it prints the pattern space (unless `-n`) and starts the next
cycle. A line that had no line break is printed without one, and a line break is put in
front of whatever is printed after it. Text queued by `a`, `r` and `R` is printed at the end
of the cycle, or when `n` or `N` reads the next line. A range of two addresses stays open
from a line its first address picks to one its second picks, which is looked for only from
the next line on unless it is a line number not past the first.
-/

set_option autoImplicit false

namespace LineCoverage.Shell.Sed

structure Record where
  source : String
  text : String
  ended : Bool

structure Target where
  text : String
  missing : Bool

def Target.empty : Target := ⟨"", false⟩

def Target.emit (t : Target) (s : String) : Target :=
  ⟨t.text ++ (if t.missing then "\n" else "") ++ s, false⟩

def Target.emitLine (t : Target) (s : String) (ended : Bool) (delim : Char) : Target :=
  let t := t.emit s
  if ended then { t with text := t.text.push delim } else { t with missing := true }

inductive Queued where
  | text (s : String)
  | file (name : String)

inductive Range where
  | outside
  | inside (stop : Option Nat)

structure Setup where
  steps : Array Step
  quiet : Bool
  width : Nat
  delim : Char
  inPlace : Bool
  tree : FileTree
  cwd : Location

structure Machine where
  space : String
  hold : String
  ended : Bool
  line : Nat
  source : String
  input : List Record
  replaced : Bool
  queue : List Queued
  out : Target
  console : Target
  errors : Target
  files : List (String × Target)
  ranges : Array Range
  lastPattern : Option Regex.Expr
  linesTaken : List (String × Nat)

def initialRanges (steps : Array Step) : Array Range :=
  steps.map fun st => match st.first with
    | some (.line 0) => .inside none
    | _ => .outside

def Machine.writeTo (cfg : Setup) (m : Machine) (name : String) (f : Target → Target) : Machine :=
  if name = "/dev/stdout" then
    if cfg.inPlace then { m with console := f m.console } else { m with out := f m.out }
  else if name = "/dev/stderr" then { m with errors := f m.errors }
  else
    let t := ((m.files.find? (·.1 == name)).map (·.2)).getD Target.empty
    { m with files := (name, f t) :: m.files.filter (·.1 != name) }

def readable (cfg : Setup) (name : String) : Option String :=
  (cfg.tree.readAt cfg.cwd name).toOption.map textOf

def Machine.flush (cfg : Setup) (m : Machine) : Machine :=
  let out := m.queue.foldl (fun (o : Target) q => match q with
    | .text s => o.emit s
    | .file n => match readable cfg n with
      | some s => o.emit s
      | none => o) m.out
  { m with out := out, queue := [] }

def Machine.printSpace (cfg : Setup) (m : Machine) : Machine :=
  { m with out := m.out.emitLine m.space m.ended cfg.delim }

def Machine.readNext (cfg : Setup) (m : Machine) (joined : Bool) : Option Machine :=
  match m.input with
  | [] => none
  | r :: rest =>
    let m := m.flush cfg
    some { m with
      space := if joined then m.space.push cfg.delim ++ r.text else r.text
      ended := r.ended
      line := m.line + 1
      source := r.source
      input := rest
      replaced := false }

def Machine.pattern (m : Machine) (p : Option Regex.Expr) : Option (Regex.Expr × Machine) :=
  match p with
  | some e => some (e, { m with lastPattern := some e })
  | none => m.lastPattern.map fun e => (e, m)

def Machine.picks (m : Machine) (a : Address) : Option (Bool × Machine) :=
  match a with
  | .line n => some (m.line == n, m)
  | .every first step => some (m.line ≥ first && (m.line - first) % step == 0, m)
  | .last => some (m.input.isEmpty, m)
  | .matching p => (m.pattern p).map fun (e, m) => (e.found m.space, m)
  | .following _ | .untilMultiple _ => some (false, m)

def Machine.selects (m : Machine) (i : Nat) (st : Step) : Option (Bool × Machine) :=
  match st.first with
  | none => some (true, m)
  | some a =>
    match st.second with
    | none => m.picks a
    | some b =>
      let setRange (m : Machine) (r : Range) : Machine := { m with ranges := m.ranges.set! i r }
      match m.ranges[i]? with
      | some (.inside stop) =>
        match b with
        | .line _ | .following _ | .untilMultiple _ =>
          let stop := stop.getD 0
          let m := if m.line ≥ stop then setRange m .outside else m
          some (m.line ≤ stop, m)
        | _ =>
          (m.picks b).map fun (hit, m) => (true, if hit then setRange m .outside else m)
      | _ =>
        (m.picks a).map fun (hit, m) =>
          if !hit then (false, m)
          else
            let r : Range := match b with
              | .line n => if m.line ≥ n then .outside else .inside (some n)
              | .following n => if n = 0 then .outside else .inside (some (m.line + n))
              | .untilMultiple n =>
                if n = 0 || m.line % n = 0 then .outside else .inside (some ((m.line / n + 1) * n))
              | _ => .inside none
            (true, setRange m r)

structure CaseState where
  mode : CaseMode
  once : Option Bool

def CaseState.apply (st : CaseState) (cs : List Char) : List Char × CaseState :=
  let conv (c : Char) : Char := match st.mode with
    | .keep => c
    | .lower => c.toLower
    | .upper => c.toUpper
  match cs with
  | [] => ([], st)
  | c :: rest =>
    let first := match st.once with
      | some true => c.toUpper
      | some false => c.toLower
      | none => conv c
    (first :: rest.map conv, { st with once := none })

def expand (input : Array Char) (start stop : Nat) (caps : Regex.Captures) (pieces : List Piece) :
    List Char :=
  let groupText (n : Nat) : List Char :=
    if n = 0 then (input.extract start stop).toList
    else match caps.get? n with
      | some (a, b) => (input.extract a b).toList
      | none => []
  let step (acc : List Char × CaseState) (p : Piece) : List Char × CaseState :=
    let (out, st) := acc
    match p with
    | .text cs => let (t, st) := st.apply cs; (out ++ t, st)
    | .group n => let (t, st) := st.apply (groupText n); (out ++ t, st)
    | .mode md => (out, { st with mode := md })
    | .once u => (out, { st with once := some u })
  (pieces.foldl step ([], ⟨.keep, none⟩)).1

/-- Substitutes the matches of a pattern in a text: the `nth` and, when `global`, every one
after it. An empty match right where the match before ended is passed over. The second part
says whether anything was replaced. -/
def substituteText (e : Regex.Expr) (s : Substitution) (text : String) : String × Bool :=
  let input := text.toList.toArray
  let rest (pos : Nat) : List Char := (input.extract pos input.size).toList
  let rec go : Nat → Nat → Option Nat → Nat → List Char → Bool → List Char × Bool
    | 0, start, _, _, acc, done => (acc ++ rest start, done)
    | fuel + 1, start, prevEnd, count, acc, done =>
      if start > input.size then (acc, done)
      else
      match e.search input start with
      | none => (acc ++ rest start, done)
      | some (o, stop, caps) =>
        if o = stop && prevEnd = some o then
          if o < input.size then go fuel (o + 1) none count (acc ++ (input.extract start (o + 1)).toList) done
          else (acc ++ rest start, done)
        else
          let count := count + 1
          let acc := acc ++ (input.extract start o).toList
          let replacing := count ≥ s.nth
          let acc := if replacing then acc ++ expand input o stop caps s.pieces else acc ++ (input.extract o stop).toList
          let done := done || replacing
          let again := !replacing || s.global
          if o = stop then
            let acc := if o < input.size then acc ++ [input.getD o ' '] else acc
            if again then go fuel (stop + 1) (some stop) count acc done
            else (acc ++ rest (stop + 1), done)
          else if again then go fuel stop (some stop) count acc done
          else (acc ++ rest stop, done)
  let (cs, done) := go (input.size + 2) 0 none 0 [] false
  (String.ofList cs, done)

def shown (c : Char) : String :=
  let n := c.toNat
  if 32 ≤ n && n < 127 then (if c = '\\' then "\\\\" else c.toString)
  else match n with
    | 7 => "\\a" | 8 => "\\b" | 12 => "\\f" | 10 => "\\n" | 13 => "\\r" | 9 => "\\t" | 11 => "\\v"
    | _ =>
      let d (k : Nat) : Char := Char.ofNat (48 + (n / k) % 8)
      String.ofList ['\\', d 64, d 8, d 1]

/-- The pattern space as `l` shows it: lines broken with a backslash before `width` columns
(never for width 0), and a `$` at the end. -/
def listing (width : Nat) (s : String) : String :=
  let (out, _) := s.toList.foldl (fun (acc : String × Nat) c =>
    let (out, col) := acc
    let p := shown c
    if width > 0 && col + p.length > width - 1 then (out ++ "\\\n" ++ p, p.length)
    else (out ++ p, col + p.length)) ("", 0)
  out ++ "$\n"

/-- How a run of the script over one pattern space ends: at the end of the script or by `d`
(printing the pattern space or not), by `D` with text left, by a quit, or for lack of a
pattern. -/
inductive Ending where
  | cycle (print : Bool)
  | restart
  | quit (code : Option Nat) (print : Bool)
  | noPattern

def firstLine (cfg : Setup) (s : String) : String × Option String :=
  match s.splitOn cfg.delim.toString with
  | [] => (s, none)
  | [one] => (one, none)
  | a :: more => (a, some (cfg.delim.toString.intercalate more))

def execute (cfg : Setup) : Nat → Nat → Machine → Ending × Machine
  | 0, _, m => (.cycle true, m)
  | fuel + 1, pc, m =>
    match cfg.steps[pc]? with
    | none => (.cycle true, m)
    | some st =>
      match m.selects pc st with
      | none => (.noPattern, m)
      | some (hit, m) =>
        if hit == st.negated then
          match st.command with
          | .openBlock close => execute cfg fuel (close + 1) m
          | _ => execute cfg fuel (pc + 1) m
        else
        let onward (m : Machine) : Ending × Machine := execute cfg fuel (pc + 1) m
        match st.command with
        | .openBlock _ | .closeBlock | .label _ | .ignored => onward m
        | .append t => onward { m with queue := m.queue ++ [.text (String.ofList t)] }
        | .insert t => onward { m with out := m.out.emit (String.ofList t) }
        | .change t =>
          let inRange := match m.ranges[pc]? with
            | some (.inside _) => st.second.isSome
            | _ => false
          let m := if inRange then m else { m with out := m.out.emit (String.ofList t) }
          (.cycle false, m)
        | .jump kind _ target =>
          let taken := match kind with
            | .always => true
            | .ifReplaced => m.replaced
            | .unlessReplaced => !m.replaced
          let m := if kind != .always then { m with replaced := false } else m
          if taken then
            match target with
            | some i => execute cfg fuel i m
            | none => (.cycle true, m)
          else onward m
        | .lineNumber => onward { m with out := m.out.emit (toString m.line ++ "\n") }
        | .delete => (.cycle false, m)
        | .deleteFirst =>
          match firstLine cfg m.space with
          | (_, some after) => (.restart, { m with space := after })
          | (_, none) => (.cycle false, m)
        | .copyHold => onward { m with space := m.hold }
        | .appendHold => onward { m with space := m.space.push cfg.delim ++ m.hold }
        | .hold => onward { m with hold := m.space }
        | .holdAppend => onward { m with hold := m.hold.push cfg.delim ++ m.space }
        | .exchange => onward { m with space := m.hold, hold := m.space }
        | .list w => onward { m with out := m.out.emit (listing (w.getD cfg.width) m.space) }
        | .next =>
          if m.input.isEmpty then (.cycle true, m)
          else
            let m := if cfg.quiet then m else m.printSpace cfg
            match m.readNext cfg false with
            | some m => onward m
            | none => (.cycle false, m)
        | .appendNext =>
          match m.readNext cfg true with
          | some m => onward m
          | none => (.cycle true, m)
        | .print => onward (m.printSpace cfg)
        | .printFirst =>
          match firstLine cfg m.space with
          | (l, some _) => onward { m with out := m.out.emitLine l true cfg.delim }
          | (_, none) => onward (m.printSpace cfg)
        | .quit code silent => (.quit code !silent, m)
        | .readFile n => onward { m with queue := m.queue ++ [.file n] }
        | .readLine n =>
          let taken := ((m.linesTaken.find? (·.1 == n)).map (·.2)).getD 0
          let lines := match readable cfg n with
            | some s => linesWithBreaks s
            | none => []
          match lines[taken]? with
          | some l =>
            onward { m with queue := m.queue ++ [.text l],
                              linesTaken := (n, taken + 1) :: m.linesTaken.filter (·.1 != n) }
          | none => onward m
        | .write n => onward (m.writeTo cfg n fun t => t.emitLine m.space m.ended cfg.delim)
        | .writeFirst n =>
          match firstLine cfg m.space with
          | (l, some _) => onward (m.writeTo cfg n fun t => t.emitLine l true cfg.delim)
          | (_, none) => onward (m.writeTo cfg n fun t => t.emitLine m.space m.ended cfg.delim)
        | .substitute s =>
          match m.pattern s.pattern with
          | none => (.noPattern, m)
          | some (e, m) =>
            let (text, done) := substituteText e s m.space
            if !done then onward m
            else
              let m := { m with space := text, replaced := true }
              let m := if s.print then m.printSpace cfg else m
              let m := match s.target with
                | some n => m.writeTo cfg n fun t => t.emitLine m.space m.ended cfg.delim
                | none => m
              onward m
        | .transliterate pairs =>
          let mapped := m.space.toList.map fun c => ((pairs.reverse.find? (·.1 == c)).map (·.2)).getD c
          onward { m with space := String.ofList mapped }
        | .zap => onward { m with space := "" }
        | .fileName => onward { m with out := m.out.emit (m.source ++ "\n") }

inductive Finish where
  | done
  | quit (code : Option Nat)
  | noPattern

def cycles (cfg : Setup) (steps : Nat) : Nat → Machine → Finish × Machine
  | 0, m => (.done, m)
  | fuel + 1, m =>
    match execute cfg steps 0 m with
    | (.cycle print, m) =>
      let m := if print && !cfg.quiet then m.printSpace cfg else m
      match m.readNext cfg false with
      | some m => cycles cfg steps fuel m
      | none => (.done, m.flush cfg)
    | (.restart, m) => cycles cfg steps fuel (m.flush cfg)
    | (.quit code print, m) =>
      if print then
        let m := if cfg.quiet then m else m.printSpace cfg
        (.quit code, m.flush cfg)
      else (.quit code, m)
    | (.noPattern, m) => (.noPattern, m)

def runInput (cfg : Setup) (m : Machine) (input : List Record) : Finish × Machine :=
  let size := (input.map fun r => r.text.length + 1).foldl (· + ·) 0
  let m := { m with input := input, line := 0, ranges := initialRanges cfg.steps }
  match m.readNext cfg false with
  | none => (.done, m)
  | some m =>
    let steps := (cfg.steps.size + 1) * (size + 2) * 8 + 64
    cycles cfg steps (input.length + size + 2) m

def Machine.start (cfg : Setup) : Machine :=
  ⟨"", "", true, 0, "-", [], false, [], Target.empty, Target.empty, Target.empty, [],
    initialRanges cfg.steps, none, []⟩

def writtenFiles (steps : Array Step) : List String :=
  let names := steps.toList.filterMap fun st => match st.command with
    | .write n | .writeFirst n => some n
    | .substitute s => s.target
    | _ => none
  names.foldl (fun acc n => if acc.contains n || n = "/dev/stdout" || n = "/dev/stderr" then acc else acc ++ [n]) []

/-- The usage line the editor prints after a complaint about its command line. -/
def usageText (tool : String) : String :=
  "Usage: " ++ tool ++ " [OPTION]... \x7bscript-only-if-no-other-script\x7d [input-file]...\n"

def sedOptions : List OptionSpec :=
  [.flag 'n', .withArg 'e', .withArg 'f', .flag 'E', .flag 'r', .flag 's', ⟨"i", some 'i', none, .optional⟩,
    .withArg 'l', .flag 'z', .flag 'u', .flag 'b',
    .alias "binary" 'b' .nothing, .alias "regexp-extended" 'E' .nothing, .longOnly "debug" .nothing,
    .alias "in-place" 'i' .optional, .alias "expression" 'e' .argument, .alias "file" 'f' .argument,
    .alias "line-length" 'l' .argument, .alias "null-data" 'z' .nothing,
    .alias "zero-terminated" 'z' .nothing, .alias "quiet" 'n' .nothing, .longOnly "posix" .nothing,
    .alias "silent" 'n' .nothing, .longOnly "sandbox" .nothing, .alias "separate" 's' .nothing,
    .alias "unbuffered" 'u' .nothing, .longOnly "follow-symlinks" .nothing]

def recordsOf (source : String) (delim : Char) (bs : List UInt8) : List Record :=
  (records delim (textOf bs)).map fun l =>
    if l.endsWith delim.toString then ⟨source, String.ofList l.toList.dropLast, true⟩
    else ⟨source, l, false⟩

/-- The name of the backup of a file edited in place: the suffix added, or with a `*` the
suffix with the file's name in place of the star. -/
def backupName (file suffix : String) : String :=
  if suffix.toList.contains '*' then
    let base := String.ofList ((file.toList.reverse.takeWhile (· ≠ '/')).reverse)
    let dir := String.ofList ((file.toList.reverse.dropWhile (· ≠ '/')).reverse)
    let made := base.intercalate (suffix.splitOn "*")
    if made.toList.contains '/' then made else dir ++ made
  else file ++ suffix

end LineCoverage.Shell.Sed

namespace LineCoverage.Shell

open Sed in
def sed (c : Call) : Done :=
  let tool := c.tool "sed"
  match readCommandLine sedOptions true c.args with
  | .error e => c.answer 1 "" (e.message tool ++ usageText tool)
  | .ok cl =>
    let given := cl.options.filter fun (k, _) => k = "e" || k = "f"
    let (texts, operands) : List (Except String (Origin × List Char)) × List String :=
      if given.isEmpty then
        match cl.operands with
        | s :: rest => ([.ok (.expression 1, s.toList)], rest)
        | [] => ([], [])
      else
        let (_, ts) := given.foldl (fun (acc : Nat × List (Except String (Origin × List Char))) (k, v) =>
          let (n, ts) := acc
          let v := v.getD ""
          if k = "e" then (n + 1, ts ++ [.ok (.expression (n + 1), v.toList)])
          else
            match c.readInput v with
            | .ok bs =>
              let body := (textOf bs).toList
              let body := if body.getLast? = some '\n' then body.dropLast else body
              (n, ts ++ [.ok (.file v, body)])
            | .error e => (n, ts ++ [.error (tool ++ ": couldn't open file " ++ v ++ ": " ++ osText e ++ "\n")])) (0, [])
        (ts, cl.operands)
    if texts.isEmpty then c.answer 1 "" (usageText tool)
    else
    let failed := texts.filterMap fun t => match t with
      | .error m => some m
      | .ok _ => none
    match failed.head? with
    | some m => c.answer 4 "" m
    | none =>
    let texts := texts.filterMap (·.toOption)
    match compileScript (cl.has "E" || cl.has "r") texts with
    | .error (.text o e) => c.answer 1 "" (complaint tool o e)
    | .error (.noLabel l) => c.answer 4 "" (tool ++ ": can't find label for jump to `" ++ l ++ "'\n")
    | .ok script =>
      let inPlace := cl.has "i"
      let width := match cl.last? "l" with
        | some w => Numeral.leadingValue w
        | none => 70
      let delim := if cl.has "z" then Char.ofNat 0 else '\n'
      let cfg : Setup := ⟨script.steps, cl.has "n" || script.quiet, width, delim, inPlace, c.tree, c.cwd⟩
      -- the files `w` writes are made empty before anything runs
      let opened := (writtenFiles script.steps).foldl (fun (acc : Except String FileTree) n =>
        acc.bind fun t => match t.writeAt c.cwd n [] false with
          | .ok t' => .ok t'
          | .error e => .error (tool ++ ": couldn't open file " ++ n ++ ": " ++ osText e ++ "\n")) (.ok c.tree)
      match opened with
      | .error m => c.answer 4 "" m
      | .ok tree =>
      let files := if operands.isEmpty then ["-"] else operands
      let finishWith (status : Nat) (m : Machine) (t : FileTree) (err : String) : Done :=
        let t := m.files.foldl (fun (t : FileTree) (n, target) =>
          match t.writeAt c.cwd n (bytes target.text) false with
          | .ok t' => t'
          | .error _ => t) t
        let out := if inPlace then m.console.text else m.out.text
        Done.buffered (status) (bytes out) (bytes (err ++ m.errors.text)) t
      let statusOf (f : Finish) (bad : Bool) : Nat :=
        match f with
        | .quit (some n) => n % 256
        | _ => if bad then 2 else 0
      if inPlace then
        if operands.isEmpty then c.answer 4 "" (tool ++ ": no input files\n")
        else
          let suffix := (cl.last? "i").getD ""
          -- each file on its own, its output written back in its place
          let rec eachFile : List String → Machine → FileTree → String → Bool → Done
            | [], m, t, err, bad => finishWith (if bad then 2 else 0) m t err
            | f :: more, m, t, err, bad =>
              match c.tree.entryAt? c.cwd f, c.tree.readAt c.cwd f with
              | some .dir, _ => finishWith 4 m t (err ++ tool ++ ": couldn't edit " ++ f ++ ": not a regular file\n")
              | _, .error e => eachFile more m t (err ++ tool ++ ": can't read " ++ f ++ ": " ++ osText e ++ "\n") true
              | _, .ok bs =>
                let (fin, m') := runInput cfg { m with out := Target.empty, source := f } (recordsOf f delim bs)
                let t := if suffix.isEmpty then t else
                  match t.writeAt c.cwd (backupName f suffix) bs false with
                  | .ok t' => t'
                  | .error _ => t
                let t := match t.writeAt c.cwd f (bytes m'.out.text) false with
                  | .ok t' => t'
                  | .error _ => t
                match fin with
                | .done => eachFile more m' t err bad
                | .quit _ => finishWith (statusOf fin bad) m' t err
                | .noPattern => finishWith 4 m' t (err ++ tool ++ ": no previous regular expression\n")
          eachFile operands (Machine.start cfg) tree "" false
      else
        let read := files.map fun f => (f, c.readInput f, c.tree.entryAt? c.cwd f)
        let err := String.join (read.filterMap fun (f, r, e) => match r, e with
          | _, some .dir => none
          | .error e, _ => some (tool ++ ": can't read " ++ f ++ ": " ++ osText e ++ "\n")
          | .ok _, _ => none)
        let bad := read.any fun (_, r, e) => match r, e with
          | _, some .dir => false
          | .error _, _ => true
          | .ok _, _ => false
        -- reading stops at a directory
        let upTo := read.takeWhile fun (f, _, e) => !(f != "-" && e = some .dir)
        let stopped := upTo.length < read.length
        let stopName := ((read.drop upTo.length).head?.map (·.1)).getD ""
        let inputs := upTo.map fun (f, r, _) => match r with
          | .ok bs => recordsOf f delim bs
          | .error _ => []
        let stopErr := if stopped then tool ++ ": read error on " ++ stopName ++ ": Is a directory\n" else ""
        let separate := cl.has "s"
        let groups := if separate then inputs else [inputs.flatten]
        let rec eachGroup : List (List Record) → Machine → Finish × Machine
          | [], m => (.done, m)
          | g :: more, m =>
            match runInput cfg m g with
            | (.done, m) => eachGroup more m
            | other => other
        let (fin, m) := eachGroup groups (Machine.start cfg)
        match fin with
        | .noPattern => finishWith 4 m tree (err ++ tool ++ ": no previous regular expression\n")
        | .quit _ => finishWith (statusOf fin bad) m tree err
        | .done =>
          if stopped then finishWith 4 m tree (err ++ stopErr)
          else finishWith (statusOf fin bad) m tree err

end LineCoverage.Shell
