import LineCoverage.Shell.State
import LineCoverage.Shell.Arith
import LineCoverage.Shell.Format
/-! Running shell scripts.

Words are expanded left to right: parameters, command substitutions (run as a subshell,
their zero bytes and trailing line breaks removed) and arithmetic; then the results of unquoted expansions
are split at the field separators, and fields with unquoted pattern characters are replaced
by the file names they match. A simple command then opens its redirections, runs as a
builtin, as a function, as git, as a shell, as a utility, or as a script found on the search
path, and its output goes where the redirections send it. `exec` with redirections only moves
the shell's own descriptors: what the commands after it write goes through them.

A script is read a line at a time: the commands of a line run before the next line is read,
so a syntax error stops a script only where it stands. An expansion error, `exit`, and with
`set -e` a failing command, end the script; `return`, `break` and `continue` skip the rest of
a function or of a loop's body.

Everything here runs on fuel: each step of evaluation spends one unit, and a run that uses it
all up stops with a message.
-/

set_option autoImplicit false

-- Powers are the core's `Nat.pow` and `Int.pow`, also where Mathlib's monoid powers are in scope.
attribute [local instance (high)] instPowNat

namespace LineCoverage.Shell

def isDigits (s : String) : Bool := !s.isEmpty && s.all Char.isDigit

def State.param? (st : State) (name : String) : Option String :=
  match name with
  | "@" | "*" => some (" ".intercalate st.vars.params)
  | "#" => some (toString st.vars.params.length)
  | "?" => some (toString st.vars.status)
  | "$" => some "1"
  | "!" => st.jobs.head?.map fun j => toString j.1
  | "-" => some (String.ofList (ShellOption.all.filterMap fun o => if st.vars.has o then o.letter? else none))
  | "0" => some st.vars.scriptName
  | _ => if isDigits name then st.vars.params[Numeral.leadingValue name - 1]? else st.vars.get? name

def dropTrailingBreaks (s : String) : String :=
  String.ofList (s.toList.reverse.dropWhile (· = '\n')).reverse

/-- A value with the shortest (`#`, `%`) or longest (`##`, `%%`) prefix (`#`) or suffix (`%`)
that matches a pattern removed. -/
def removeMatch (op : ParamOp) (value : String) (pattern : List (Char × Bool)) : String :=
  let cs := value.toList
  let n := cs.length
  let cuts := List.range (n + 1)
  let prefixCut (order : List Nat) : String :=
    match order.find? (fun i => globMatches pattern (String.ofList (cs.take i))) with
    | some i => String.ofList (cs.drop i)
    | none => value
  let suffixCut (order : List Nat) : String :=
    match order.find? (fun i => globMatches pattern (String.ofList (cs.drop (n - i)))) with
    | some i => String.ofList (cs.take (n - i))
    | none => value
  match op with
  | .trimPrefix false => prefixCut cuts
  | .trimPrefix true => prefixCut cuts.reverse
  | .trimSuffix false => suffixCut cuts
  | .trimSuffix true => suffixCut cuts.reverse
  | _ => value

/-- The text that joins the positional parameters in `$*`: the first field separator, a blank
when `IFS` is unset, and nothing when it is empty. -/
def State.joiner (st : State) : String :=
  match st.vars.get? "IFS" with
  | none => " "
  | some ifs => String.ofList (ifs.toList.take 1)

/-- The failure of an arithmetic expansion: a syntax error or division by zero names the
expression, a variable that holds no number names its value, and a trap ends the shell with
the arithmetic signal. -/
def State.arithFailure (st : State) (text : String) : ArithError → Abort
  | .malformed message => ⟨st.here ++ "arithmetic expression: " ++ message ++ ": \"" ++ text ++ "\"\n", 2⟩
  | .divisionByZero => ⟨st.here ++ "arithmetic expression: division by zero: \"" ++ text ++ "\"\n", 2⟩
  | .badNumber value => ⟨st.here ++ "Illegal number: " ++ value ++ "\n", 2⟩
  | .trap => ⟨"", 128 + 8⟩

def State.tooDeep (st : State) : Abort := ⟨st.here ++ "evaluation too deep\n", 2⟩

/-- A run that stopped the shell on an expansion failure; a status above 128 is the shell
ended by the signal of that number less 128. -/
def State.abort (st : State) (a : Abort) (out : Output) : Ran :=
  { state := st, out := if a.message.isEmpty then out else out ++ [(2, bytes a.message)],
    status := a.status, flow := if a.status > 128 then .killed (a.status - 128) else .exit }

def State.reply (st : State) (text : String) (status : Nat) : Ran :=
  { state := st, out := if text.isEmpty then [] else [(1, bytes text)], status := status }

/-- A run whose output comes before another's; the other writes through the descriptors the
first one moved for good. -/
def Ran.andThen (r next : Ran) : Ran :=
  let (t, out) := routeThrough r.reroute next.state.tree next.out
  { next with state := { next.state with tree := t }, out := r.out ++ out, reroute := next.reroute ++ r.reroute }

def Ran.after (out : Output) (r : Ran) : Ran := { r with out := out ++ r.out }

/-- A run whose output goes at once through the descriptors moved for good before it
(`active`, innermost first), so that what it writes to a file is there for the commands
after it; those then write through both its own moves and these. -/
def Ran.through (active : List FdMap) (r : Ran) : Ran :=
  let (t, out) := routeThrough active r.state.tree r.out
  { r with state := { r.state with tree := t }, out := out, reroute := r.reroute ++ active }

def Expanded.after {α : Type} (out : Output) : Expanded α → Expanded α
  | .ok (v, st, o) => .ok (v, st, out ++ o)
  | .error (a, o) => .error (a, out ++ o)

/-- Runs a command with its redirections opened and its output sent where they say; when
one cannot be opened the command does not run, and a `fatal` failure ends the shell. What
the shell itself writes once they are open (`before`) goes where it would without them. The
descriptors the command moves for good are moved back after it. -/
def redirected (fatal : Bool) (st : State) (opened : List Opened) (before : Output) (run : State → Ran) : Ran :=
  match openAll st st.line opened [] none st.tree with
  | .error message => { state := st, out := [(2, bytes message)], status := 2, flow := if fatal then .exit else .next }
  | .ok (m, input, t) =>
    let opened := (m.map (·.1)).filter (· > 2)
    let r := run { st with tree := t, stdin := input.getD st.stdin, fds := opened ++ st.fds }
    let (t', out) := route m r.state.tree r.out
    { r with
      state := { r.state with tree := t', stdin := if input.isSome then st.stdin else r.state.stdin
                              fds := st.fds }
      out := before ++ out
      reroute := [] }

def specialBuiltins : List String :=
  [".", ":", "break", "continue", "eval", "exec", "exit", "export", "readonly", "return", "set",
    "shift", "times", "trap", "unset"]

/-! ### Builtins -/

def printfBuiltin (st : State) (args : List String) : Ran :=
  let args : Except Char (List String) := match args with
    | "--" :: rest => .ok rest
    | a :: rest =>
      match a.toList with
      | '-' :: c :: _ => .error c
      | _ => .ok (a :: rest)
    | [] => .ok []
  match args with
  | .error c => st.complain (st.here ++ "printf: Illegal option -" ++ c.toString ++ "\n") 2
  | .ok [] => st.complain (st.here ++ "printf: usage: printf format [arg ...]\n") 2
  | .ok (format :: rest) =>
    let (text, warnings, error) := printfRun format rest
    let complaint (w : String) : Nat × List UInt8 := (2, bytes (st.here ++ "printf: " ++ w ++ "\n"))
    { state := st
      out := (warnings ++ error.toList).map complaint ++ (if text.isEmpty then [] else [(1, text)])
      status := if error.isSome then 2 else if warnings.isEmpty then 0 else 1 }

def exitBuiltin (st : State) (args : List String) : Ran :=
  match args with
  | [] => { state := st, out := [], status := st.vars.status, flow := .exit }
  | a :: _ =>
    match a.toNat? with
    | some n => { state := st, out := [], status := n % 256, flow := .exit }
    | none => { st.complain (st.here ++ "exit: Illegal number: " ++ a ++ "\n") 2 with flow := .exit }

def returnBuiltin (st : State) (args : List String) : Ran :=
  match args with
  | [] => { state := st, out := [], status := st.vars.status, flow := .leave }
  | a :: _ =>
    match a.toNat? with
    | some n => { state := st, out := [], status := n, flow := .leave }
    | none => { st.complain (st.here ++ "return: Illegal number: " ++ a ++ "\n") 2 with flow := .exit }

/-- `break` (`leaving`) and `continue`: leave or restart the loop that many levels out, at
most as many as there are; outside a loop they do nothing. -/
def loopBuiltin (leaving : Bool) (st : State) (args : List String) : Ran :=
  let name := if leaving then "break" else "continue"
  let given := args.headD "1"
  match given.toNat? with
  | some (k + 1) =>
    let levels := min (k + 1) st.loops
    if levels = 0 then st.reply "" 0
    else
      { state := st, out := [], status := 0
        flow := if leaving then .breakLoops levels else .continueLoop levels }
  | _ => { st.complain (st.here ++ name ++ ": Illegal number: " ++ given ++ "\n") 2 with flow := .exit }

/-- `local`: makes variables belong to the function running, keeping their values unless one
is given; the values from before come back when the function returns. -/
def localBuiltin (st : State) (args : List String) : Ran :=
  match st.locals with
  | none => st.complain (st.here ++ "local: not in a function\n") 2
  | some saved =>
    let step (acc : Vars × List (String × Option String)) (a : String) :
        Vars × List (String × Option String) :=
      let (name, value) := match a.splitOn "=" with
        | n :: v :: more => (n, some ("=".intercalate (v :: more)))
        | _ => (a, none)
      let kept := if acc.2.any (·.1 == name) then acc.2 else acc.2 ++ [(name, acc.1.get? name)]
      ((value.map (acc.1.set name)).getD acc.1, kept)
    let (vars, saved') := args.foldl step (st.vars, saved)
    { state := { st with vars := vars, locals := some saved' }, out := [], status := 0 }

/-- Reads the options of a builtin as the shell's option reader does: arguments that start
with `-` (not `-` alone) up to `--`, each letter one of `letters`; a letter of `withArgument`
takes the rest of its argument, or the next argument. The options in order with their
arguments, and the operands; or the complaint about the first option that cannot be read. -/
def builtinArguments (letters withArgument : List Char) : List String →
    Except String (List (Char × String) × List String)
  | [] => .ok ([], [])
  | a :: rest =>
    match a.toList with
    | ['-', '-'] => .ok ([], rest)
    | '-' :: c :: cs =>
      let rec inArg : List Char → List String → Except String (List (Char × String) × List String)
        | [], more => (builtinArguments letters withArgument more)
        | c :: cs, more =>
          if withArgument.contains c then
            if !cs.isEmpty then
              (builtinArguments letters withArgument more).map fun (os, ops) => ((c, String.ofList cs) :: os, ops)
            else
              match more with
              | v :: more' => (builtinArguments letters withArgument more').map fun (os, ops) => ((c, v) :: os, ops)
              | [] => .error ("No arg for -" ++ c.toString ++ " option")
          else if letters.contains c then
            (inArg cs more).map fun (os, ops) => ((c, "") :: os, ops)
          else .error ("Illegal option -" ++ c.toString)
      inArg (c :: cs) rest
    | _ => .ok ([], a :: rest)

def cdBuiltin (st : State) (args : List String) : Ran :=
  match builtinArguments ['L', 'P'] [] args with
  | .error m => st.complain (st.here ++ "cd: " ++ m ++ "\n") 2
  | .ok (_, args) =>
  let (target, print) := match args with
    | [] => ((st.vars.get? "HOME").getD "", false)
    | "-" :: _ => ((st.vars.get? "OLDPWD").getD "", true)
    | a :: _ => (a, false)
  let target := if target.isEmpty then "." else target
  match st.tree.resolve st.cwd target with
  | .ok l =>
    if st.tree.isDir l then
      let path := "/" ++ "/".intercalate l
      let vars := (st.vars.set "OLDPWD" st.cwdPath).set "PWD" path
      { state := { st with cwd := l, vars := vars }, out := if print then [(1, bytes (path ++ "\n"))] else [],
        status := 0 }
    else st.complain (st.here ++ "cd: can't cd to " ++ target ++ "\n") 2
  | .error _ => st.complain (st.here ++ "cd: can't cd to " ++ target ++ "\n") 2

def singleQuoted (s : String) : String :=
  let rec go : Nat → List Char → String
    | 0, _ => ""
    | fuel + 1, cs =>
      let plain := cs.takeWhile (· ≠ '\'')
      let after := cs.drop plain.length
      let quotes := after.takeWhile (· = '\'')
      let more := after.drop quotes.length
      "'" ++ String.ofList plain ++ "'" ++
        (if quotes.isEmpty then "" else "\"" ++ String.ofList quotes ++ "\"") ++
        (if quotes.isEmpty || more.isEmpty then "" else go fuel more)
  go (s.length + 1) s.toList

def builtinOptions (allowed : List Char) : List String → Except Char (List Char × List String)
  | [] => .ok ([], [])
  | a :: rest =>
    match a.toList with
    | ['-', '-'] => .ok ([], rest)
    | '-' :: c :: cs =>
      match (c :: cs).find? (!allowed.contains ·) with
      | some bad => .error bad
      | none => (builtinOptions allowed rest).map fun (ls, ops) => (c :: cs ++ ls, ops)
    | _ => .ok ([], a :: rest)

def State.fatal (st : State) (builtin message : String) : Ran :=
  { st.complain (st.here ++ builtin ++ ": " ++ message ++ "\n") 2 with flow := .exit }

def Vars.listed (v : Vars) (name : String) : String :=
  match v.get? name with
  | some x => name ++ "=" ++ singleQuoted x
  | none => name

def markBuiltin (exporting : Bool) (st : State) (args : List String) : Ran :=
  let word := if exporting then "export" else "readonly"
  let mark (v : Vars) (n : String) : Vars :=
    if exporting then v.markExported n
    else if v.readonly.contains n then v else { v with readonly := v.readonly ++ [n] }
  let rec apply : List String → Vars → Except String Vars
    | [], v => .ok v
    | a :: rest, v =>
      let (name, value) := match a.splitOn "=" with
        | n :: x :: more => (n, some ("=".intercalate (x :: more)))
        | _ => (a, none)
      if !isName name then .error (name ++ ": bad variable name")
      else
        match value with
        | some x =>
          if v.readonly.contains name then .error (name ++ ": is read only")
          else apply rest (mark (v.set name x) name)
        | none => apply rest (mark v name)
  match builtinOptions ['p'] args with
  | .error c => st.fatal word ("Illegal option -" ++ c.toString)
  | .ok (flags, names) =>
    if flags.contains 'p' || names.isEmpty then
      let marked := if exporting then st.vars.exported else st.vars.readonly
      let sorted := marked.mergeSort fun a b => decide (a ≤ b)
      st.reply (String.join (sorted.map fun n => word ++ " " ++ st.vars.listed n ++ "\n")) 0
    else
      match apply names st.vars with
      | .ok v => { state := { st with vars := v }, out := [], status := 0 }
      | .error m => st.fatal word m

def unsetBuiltin (st : State) (args : List String) : Ran :=
  match builtinOptions ['f', 'v'] args with
  | .error c => st.fatal "unset" ("Illegal option -" ++ c.toString)
  | .ok (flags, names) =>
    if flags.getLast? == some 'f' then
      { state := { st with funcs := st.funcs.filter (!names.contains ·.1) }, out := [], status := 0 }
    else
      match names.find? (!isName ·), st.vars.lockedAmong names with
      | some n, _ => st.fatal "unset" (n ++ ": bad variable name")
      | none, some n => st.fatal "unset" (n ++ ": is read only")
      | none, none => { state := { st with vars := names.foldl Vars.unset st.vars }, out := [], status := 0 }

def setLetters (on : Bool) : List Char → Vars × String × List String →
    Except String (Vars × String × List String)
  | [], acc => .ok acc
  | 'o' :: cs, (v, listed, args) =>
    match args with
    | [] =>
      let listing := if on then
          "Current option settings\n" ++ String.join (ShellOption.all.map fun o =>
            let name := o.name
            name ++ String.ofList (List.replicate (16 - name.length) ' ') ++
              (if v.has o then "on" else "off") ++ "\n")
        else String.join (ShellOption.all.map fun o =>
            "set " ++ (if v.has o then "-o " else "+o ") ++ o.name ++ "\n")
      setLetters on cs (v, listed ++ listing, [])
    | name :: more =>
      match ShellOption.ofName? name with
      | some o => setLetters on cs (v.setOption o on, listed, more)
      | none => .error ("Illegal option -o " ++ name)
  | c :: cs, (v, listed, args) =>
    match ShellOption.ofLetter? c with
    | some o =>
      let v := v.setOption o on
      let v := if on && o == .vi then v.setOption .emacs false
        else if on && o == .emacs then v.setOption .vi false else v
      setLetters on cs (v, listed, args)
    | none => .error ("Illegal option " ++ (if on then "-" else "+") ++ c.toString)

def setBuiltin (st : State) (args : List String) : Ran :=
  let rec go : Nat → List String → Vars × String → Except String (Vars × String)
    | 0, _, acc => .ok acc
    | _ + 1, [], acc => .ok acc
    | fuel + 1, a :: rest, (v, listed) =>
      match a.toList with
      | ['-'] =>
        let v := (v.setOption .xtrace false).setOption .verbose false
        .ok (if rest.isEmpty then v else { v with params := rest }, listed)
      | ['-', '-'] => .ok ({ v with params := rest }, listed)
      | '-' :: cs | '+' :: cs =>
        match setLetters (a.startsWith "-") cs (v, listed, rest) with
        | .ok (v', listed', rest') => go fuel rest' (v', listed')
        | .error e => .error e
      | _ => .ok ({ v with params := a :: rest }, listed)
  if args.isEmpty then
    let names := (st.vars.values.map (·.1)).mergeSort fun a b => decide (a ≤ b)
    st.reply (String.join (names.map fun n => st.vars.listed n ++ "\n")) 0
  else
    match go (args.length + 1) args (st.vars, "") with
    | .ok (v, listed) => { state := { st with vars := v }, out := if listed.isEmpty then [] else [(1, bytes listed)], status := 0 }
    | .error e => st.fatal "set" e

def shiftBuiltin (st : State) (args : List String) : Ran :=
  let n := match args with
    | a :: _ => a.toNat?
    | [] => some 1
  match n with
  | some k =>
    if k ≤ st.vars.params.length then
      { state := { st with vars := { st.vars with params := st.vars.params.drop k } }, out := [], status := 0 }
    else { st.complain (st.here ++ "shift: can't shift that many\n") 2 with flow := .exit }
  | none => { st.complain (st.here ++ "shift: Illegal number: " ++ (args.headD "") ++ "\n") 2 with flow := .exit }

def testBuiltin (bracketed : Bool) (st : State) (args : List String) : Ran :=
  let name := if bracketed then "[" else "test"
  if bracketed && args.getLast? != some "]" then st.complain (st.here ++ "[: missing ]\n") 2
  else
    let xs := if bracketed then args.dropLast else args
    match testStatus st.tree st.cwd (xs.length + 2) 1 xs with
    | .ok n => { state := st, out := [], status := n }
    | .error e => st.complain (st.here ++ name ++ ": " ++ e ++ "\n") 2

def isReadSeparator (seps : List Char) (x : Char × Bool) : Bool := !x.2 && seps.contains x.1

def isReadSpace (seps : List Char) (x : Char × Bool) : Bool :=
  isReadSeparator seps x && (x.1 = ' ' || x.1 = '\t' || x.1 = '\n')

/-- The first field of a line and the rest after the separators that end it: a run of white
space with at most one other separator in it, or another separator with the white space
after it. -/
def takeReadField (seps : List Char) (cs : List (Char × Bool)) : List (Char × Bool) × List (Char × Bool) :=
  let field := cs.takeWhile (!isReadSeparator seps ·)
  let rest := match cs.drop field.length with
    | [] => []
    | d :: more =>
      if isReadSpace seps d then
        match more.dropWhile (isReadSpace seps) with
        | e :: more' => if isReadSeparator seps e then more'.dropWhile (isReadSpace seps) else e :: more'
        | [] => []
      else more.dropWhile (isReadSpace seps)
  (field, rest)

def readValues (seps : List Char) : List String → List (Char × Bool) → List (String × String)
  | [], _ => []
  | [n], cs =>
    let (first, after) := takeReadField seps cs
    let whole := (cs.reverse.dropWhile (isReadSpace seps)).reverse
    [(n, String.ofList ((if after.isEmpty then first else whole).map (·.1)))]
  | n :: more, cs =>
    let (field, after) := takeReadField seps cs
    (n, String.ofList (field.map (·.1))) :: readValues seps more after

def readBuiltin (st : State) (args : List String) : Ran :=
  match builtinArguments ['r'] ['p'] args with
  | .error m => st.complain (st.here ++ "read: " ++ m ++ "\n") 2
  | .ok (_, []) => st.complain (st.here ++ "read: arg count\n") 2
  | .ok (options, names) =>
    let raw := options.any (·.1 == 'r')
    let cs := (textOf st.stdin).toList
    let rec scan : Nat → List Char → List (Char × Bool) × List Char × Bool
      | 0, rest => ([], rest, false)
      | _ + 1, [] => ([], [], false)
      | _ + 1, '\n' :: rest => ([], rest, true)
      | _ + 1, ['\\'] => (if raw then [('\\', false)] else [], [], false)
      | fuel + 1, '\\' :: c :: rest =>
        if raw then
          let (line, after, ended) := scan fuel (c :: rest)
          (('\\', false) :: line, after, ended)
        else if c = '\n' then scan fuel rest
        else
          let (line, after, ended) := scan fuel rest
          ((c, true) :: line, after, ended)
      | fuel + 1, c :: rest =>
        let (line, after, ended) := scan fuel rest
        (if c.toNat = 0 then line else (c, false) :: line, after, ended)
    let (line, rest, ended) := scan (cs.length + 1) cs
    let seps := st.separators
    let values := readValues seps names (line.dropWhile (isReadSpace seps))
    -- the names are set in order, up to the first that cannot be
    let (vars, failure) := values.foldl (fun (v, failure) (n, x) =>
      match failure with
      | some _ => (v, failure)
      | none =>
        if !isName n then (v, some (n ++ ": bad variable name"))
        else if v.readonly.contains n then (v, some (n ++ ": is read only"))
        else (v.set n x, none)) (st.vars, none)
    let st' := { st with stdin := bytes (String.ofList rest), vars := vars }
    match failure with
    | some m => st'.complain (st.here ++ "read: " ++ m ++ "\n") 2
    | none => { state := st', out := [], status := if ended then 0 else 1 }

def trapBuiltin (st : State) (args : List String) : Ran :=
  match args with
  | [] =>
    let listed := (st.traps.mergeSort fun a b => decide (a.1 ≤ b.1)).map fun (n, action) =>
      let quoted := singleQuoted action
      let name := (Signal.name? n).getD "EXIT"
      s!"trap -- {quoted} {name}\n"
    st.reply (String.join listed) 0
  | first :: rest =>
    let (action, conditions) :=
      if rest.isEmpty || (!first.isEmpty && first.all Char.isDigit) then (none, args)
      else if first = "-" then (none, rest)
      else (some first, rest)
    let rec apply : List String → List (Nat × String) → Except String (List (Nat × String))
      | [], traps => .ok traps
      | c :: cs, traps =>
        match Signal.ofText? c true with
        | none => .error c
        | some n =>
          let kept := traps.filter (·.1 != n)
          apply cs (match action with
            | some a => kept ++ [(n, a)]
            | none => kept)
    match apply conditions st.traps with
    | .ok traps => { state := { st with traps := traps }, out := [], status := 0 }
    | .error c =>
      let before := (apply (conditions.takeWhile (· != c)) st.traps).toOption.getD st.traps
      { state := { st with traps := before }, out := [(2, bytes s!"trap: {c}: bad trap\n")], status := 1 }

/-- `kill`: sends a signal (`TERM` unless `-N`, `-NAME` or `-s NAME` says otherwise) to the
processes named. The shell itself, `$$`, is the only process there is; a signal sent to it is
acted on once the command is done. -/
def killBuiltin (st : State) (args : List String) : Ran :=
  let usage := st.complain (st.here ++ "kill: Usage: kill [-s sigspec | -signum | -sigspec] [pid | job]... or\n" ++
    "kill -l [exitstatus]\n") 2
  let parsed : Except Ran (Option Nat × Bool × List String) :=
    match args with
    | [] => .error usage
    | a :: more =>
      if a.startsWith "-" && a.length > 1 then
        match Signal.ofText? (String.ofList (a.toList.drop 1)) false with
        | some n => .ok (some n, false, more)
        | none =>
          match a, more with
          | "-l", rest => .ok (none, true, rest)
          | "-s", name :: rest =>
            match Signal.ofText? name false with
            | some n => .ok (some n, false, rest)
            | none => .error (st.complain (st.here ++ "kill: invalid signal number or name: " ++ name ++ "\n") 2)
          | _, _ =>
            let letter := (a.toList.drop 1).headD '-'
            .error (st.complain (st.here ++ "kill: Illegal option -" ++ letter.toString ++ "\n") 2)
      else .ok (none, false, args)
  match parsed with
  | .error r => r
  | .ok (given, list, pids) =>
    if list then
      match pids with
      | [] => st.reply (String.join ("0\n" :: Signal.names.map (· ++ "\n"))) 0
      | p :: _ =>
        let n := p.toNat?.map fun k => if k > 128 then k - 128 else k
        match n.bind Signal.name? with
        | some name => st.reply (name ++ "\n") 0
        | none => st.complain (st.here ++ "kill: invalid signal number or exit status: " ++ p ++ "\n") 2
    else if pids.isEmpty then usage
    else
      let signal := given.getD 15
      let rec send : List String → Ran
        | [] => st.reply "" 0
        | p :: ps =>
          match p.toNat? with
          | none => st.complain (st.here ++ "kill: Illegal number: " ++ p ++ "\n") 2
          | some pid =>
            if pid = 0 ∨ pid = 1 then
              if signal = 0 then send ps else { state := st, out := [], status := 0, flow := .signal signal }
            else
              let r := send ps
              { r with out := [(2, bytes (st.here ++ "kill: No such process\n\n"))] ++ r.out, status := 1 }
      send pids

def getoptsLetter : List Char → Char → Option Bool
  | [], _ => none
  | [q], c => if q = c then some false else none
  | q :: ':' :: more, c => if q = c then some true else getoptsLetter more c
  | q :: r :: more, c => if q = c then some false else getoptsLetter (r :: more) c

def getoptsBuiltin (st : State) (args : List String) : Ran :=
  match args with
  | optstr :: var :: given =>
    let words := if given.isEmpty then st.vars.params else given
    let (ind0, off0, seen) := st.getopts
    let current := (st.vars.get? "OPTIND").getD ""
    let (ind, off) : Nat × Option Nat :=
      if current != seen then (((current.toNat?).filter (· ≠ 0)).getD 1, none) else (ind0, off0)
    let (ind, off) := if ind > words.length + 1 then (1, none) else (ind, off)
    let silent := optstr.startsWith ":"
    -- the letters left in the argument before the next one, if the last call stopped inside it
    let inside : Option (List Char × String) :=
      if ind ≤ 1 then none
      else
        match off, words[ind - 2]? with
        | some o, some w => if w.length < o then none else some (w.toList.drop o, w)
        | _, _ => none
    let finish (next : Nat) (c : String) (rest : Option (List Char × String)) (done : Bool)
        (optarg : Option (Option String)) (complaint : String) : Ran :=
      let vars := (st.vars.set "OPTIND" (toString (next + 1))).set var c
      let vars := match optarg with
        | some (some v) => vars.set "OPTARG" v
        | some none => vars.unset "OPTARG"
        | none => vars
      let off := rest.map fun (r, w) => w.length - r.length
      { state := { st with vars := vars, getopts := (next + 1, off, toString (next + 1)) }
        out := if complaint.isEmpty then [] else [(2, bytes complaint)]
        status := if done then 1 else 0 }
    let start : Option (List Char × String × Nat) :=
      match inside with
      | some (c :: cs, w) => some (c :: cs, w, ind - 1)
      | _ =>
        match words[ind - 1]? with
        | some w =>
          match w.toList with
          | '-' :: c :: cs => if w == "--" then none else some (c :: cs, w, ind)
          | _ => none
        | none => none
    match start with
    | none =>
      let next := match inside, words[ind - 1]? with
        | some ([], _), some "--" => ind
        | none, some "--" => ind
        | _, _ => ind - 1
      finish next "?" none true none ""
    | some ([], _, next) => finish next "?" none true none ""
    | some (c :: rest, w, next) =>
      match getoptsLetter optstr.toList c with
      | none =>
        if silent then finish next "?" (some (rest, w)) false (some (some c.toString)) ""
        else finish next "?" (some (rest, w)) false (some none) ("Illegal option -" ++ c.toString ++ "\n")
      | some false => finish next c.toString (some (rest, w)) false (some (some "")) ""
      | some true =>
        if !rest.isEmpty then finish next c.toString none false (some (some (String.ofList rest))) ""
        else
          match words[next]? with
          | some v => finish (next + 1) c.toString none false (some (some v)) ""
          | none =>
            if silent then finish next ":" none false (some (some c.toString)) ""
            else finish next "?" none false (some none) ("No arg for -" ++ c.toString ++ " option\n")
  | _ => st.complain (st.here ++ "getopts: Usage: getopts optstring var [arg]\n") 2

/-- The order `alias` lists aliases in: by the bucket of the shell's alias table a name falls
in, then in the order they were defined. -/
def aliasBucket (name : String) : Nat :=
  let codes := (Text.Bytewise.encode name).map (·.toNat)
  ((codes.headD 0) * 16 + codes.foldl (· + ·) 0) % 39

def aliasBuiltin (st : State) (args : List String) : Ran :=
  let shown (n v : String) : String := n ++ "=" ++ singleQuoted v ++ "\n"
  if args.isEmpty then
    let ordered := st.aliases.zipIdx.mergeSort fun ((a, _), i) ((b, _), j) =>
      aliasBucket a < aliasBucket b || (aliasBucket a == aliasBucket b && i ≤ j)
    st.reply (String.join (ordered.map fun ((n, v), _) => shown n v)) 0
  else
    let step (acc : List (String × String) × Output × Nat) (a : String) : List (String × String) × Output × Nat :=
      let (al, out, status) := acc
      let cs := a.toList
      match (cs.drop 1).idxOf? '=' with
      | some i =>
        let name := String.ofList (cs.take (i + 1))
        let value := String.ofList (cs.drop (i + 2))
        let al := if al.any (·.1 == name) then al.map fun (n, v) => (n, if n == name then value else v)
          else al ++ [(name, value)]
        (al, out, status)
      | none =>
        match al.find? (·.1 == a) with
        | some (n, v) => (al, out ++ [(1, bytes (shown n v))], status)
        | none => (al, out ++ [(2, bytes ("alias: " ++ a ++ " not found\n"))], 1)
    let (al, out, status) := args.foldl step (st.aliases, [], 0)
    { state := { st with aliases := al }, out := out, status := status }

def unaliasBuiltin (st : State) (args : List String) : Ran :=
  match builtinArguments ['a'] [] args with
  | .error m => st.complain (st.here ++ "unalias: " ++ m ++ "\n") 2
  | .ok (options, names) =>
    if !options.isEmpty then { state := { st with aliases := [] }, out := [], status := 0 }
    else
      let step (acc : List (String × String) × Output × Nat) (n : String) : List (String × String) × Output × Nat :=
        let (al, out, status) := acc
        if al.any (·.1 == n) then (al.filter (·.1 != n), out, status)
        else (al, out ++ [(2, bytes ("unalias: " ++ n ++ " not found\n"))], 1)
      let (al, out, status) := names.foldl step (st.aliases, [], 0)
      { state := { st with aliases := al }, out := out, status := status }

def umaskBuiltin (st : State) (args : List String) : Ran :=
  match builtinArguments ['S'] [] args with
  | .error m => st.complain (st.here ++ "umask: " ++ m ++ "\n") 2
  | .ok (options, operands) =>
    match operands with
    | [] =>
      if options.isEmpty then
        let ds := Nat.toDigits 8 st.mask
        st.reply (String.ofList (List.replicate (4 - ds.length) '0' ++ ds) ++ "\n") 0
      else
        let allowed := 511 - st.mask
        let part (who : String) (shift : Nat) : String :=
          let bits := (allowed / 2 ^ shift) % 8
          who ++ "=" ++ (if bits / 4 % 2 = 1 then "r" else "") ++ (if bits / 2 % 2 = 1 then "w" else "") ++
            (if bits % 2 = 1 then "x" else "")
        st.reply (part "u" 6 ++ "," ++ part "g" 3 ++ "," ++ part "o" 0 ++ "\n") 0
    | m :: _ =>
      if !m.isEmpty && m.all fun c => '0' ≤ c && c ≤ '7' then
        let v := m.foldl (fun acc c => acc * 8 + (c.toNat - 48)) 0
        { state := { st with mask := v % 512 }, out := [], status := 0 }
      else st.complain (st.here ++ "umask: Illegal number: " ++ m ++ "\n") 2

/-- `wait`: with no operand it waits for every job and succeeds. Otherwise it gives the status
of the last job found among those named, by process number or as `%n` (the n-th started) or
`%%` (the latest), and 127 when none was found; all jobs are over by the time it runs. -/
def waitBuiltin (st : State) (args : List String) : Ran :=
  match builtinArguments [] [] args with
  | .error m => st.complain (st.here ++ "wait: " ++ m ++ "\n") 2
  | .ok (_, []) => st.reply "" 0
  | .ok (_, operands) =>
    let noJob (a : String) : Ran := st.complain (st.here ++ "wait: No such job: " ++ a ++ "\n") 2
    let rec go : List String → Nat → Ran
      | [], status => st.reply "" status
      | a :: rest, status =>
        match a.toList with
        | '%' :: spec =>
          let found := match spec with
            | [] | ['%'] | ['+'] => st.jobs.head?
            | ['-'] => st.jobs[1]?
            | ds =>
              match (String.ofList ds).toNat? with
              | some (k + 1) => st.jobs.reverse[k]?
              | _ => none
          match found with
          | some j => go rest j.2
          | none => noJob a
        | _ =>
          match a.toNat? with
          | some pid => go rest (((st.jobs.find? (·.1 == pid)).map (·.2)).getD status)
          | none => st.complain (st.here ++ "wait: Illegal number: " ++ a ++ "\n") 2
    go operands 127

def builtin? (name : String) : Option (State → List String → Ran) :=
  match name with
  | ":" | "true" => some fun st _ => st.reply "" 0
  | "false" => some fun st _ => st.reply "" 1
  | "echo" => some fun st args => { state := st, out := [(1, echoBytes args)], status := 0 }
  | "printf" => some printfBuiltin
  | "exit" => some exitBuiltin
  | "cd" => some cdBuiltin
  | "pwd" => some fun st args =>
    match builtinArguments ['L', 'P'] [] args with
    | .error m => st.complain (st.here ++ "pwd: " ++ m ++ "\n") 2
    | .ok _ => st.reply (st.cwdPath ++ "\n") 0
  | "export" => some (markBuiltin true)
  | "readonly" => some (markBuiltin false)
  | "unset" => some unsetBuiltin
  | "set" => some setBuiltin
  | "shift" => some shiftBuiltin
  | "test" => some (testBuiltin false)
  | "[" => some (testBuiltin true)
  | "read" => some readBuiltin
  | "return" => some returnBuiltin
  | "break" => some (loopBuiltin true)
  | "continue" => some (loopBuiltin false)
  | "local" => some localBuiltin
  | "getopts" => some getoptsBuiltin
  | "alias" => some aliasBuiltin
  | "unalias" => some unaliasBuiltin
  | "trap" => some trapBuiltin
  | "kill" => some killBuiltin
  | "hash" => some fun st args =>
    { state := if args.contains "-r" then { st with vars := { st.vars with hashed := [] } } else st
      out := [], status := 0 }
  | "umask" => some umaskBuiltin
  | "ulimit" => some fun st args => if args.isEmpty || args == ["-f"] then st.reply "unlimited\n" 0 else st.reply "" 0
  | "wait" => some waitBuiltin
  | "jobs" => some fun st _ => st.reply "" 0
  | _ => none

def mayRun (tree : FileTree) (cwd : Location) (path : String) : Bool :=
  match tree.resolve cwd path with
  | .ok l => tree.isExecutable l
  | .error _ => false

def pathCandidates (env : List (String × String)) (name : String) : List String :=
  let dirs := (((env.find? (·.1 == "PATH")).map (·.2)).getD "").splitOn ":"
  dirs.filterMap fun d =>
    if d.startsWith "/" then some (if d.endsWith "/" then d ++ name else d ++ "/" ++ name) else none

def searchPath (tree : FileTree) (env : List (String × String)) (name : String) :
    Option (String × List UInt8) :=
  (pathCandidates env name).findSome? fun path =>
    match tree.entryAt? [] path with
    | some (.file content) => if mayRun tree [] path then some (path, content) else none
    | _ => none

def blockedOnPath (tree : FileTree) (env : List (String × String)) (name : String) : Bool :=
  (pathCandidates env name).any fun path =>
    match tree.entryAt? [] path with
    | some (.file _) => true
    | _ => false

def reservedWords : List String :=
  ["!", "case", "do", "done", "elif", "else", "esac", "fi", "for", "if", "in", "then", "until",
    "while", "\x7b", "\x7d"]

def builtinNames : List String :=
  [".", ":", "[", "alias", "bg", "break", "cd", "chdir", "command", "continue", "echo", "eval",
    "exec", "exit", "export", "false", "fg", "getopts", "hash", "jobs", "kill", "local", "printf",
    "pwd", "read", "readonly", "return", "set", "shift", "test", "times", "trap", "true", "type",
    "ulimit", "umask", "unalias", "unset", "wait"]

def isSystemProgram (name : String) : Bool :=
  name = "git" || name = "sh" || name = "dash" || name = "env" || (utility? name).isSome

def systemProgram? (path : String) : Option String :=
  let pieces := path.splitOn "/"
  match pieces with
  | ["", "bin", p] | ["", "usr", "bin", p] => if isSystemProgram p then some p else none
  | _ => none

def readEnvCall (args : List String) (env : List (String × String)) :
    Except (String × Nat) (List (String × String) × List String) :=
  let rec go : List String → List (String × String) → Except (String × Nat) (List (String × String) × List String)
    | [], e => .ok (e, [])
    | a :: rest, e =>
      if a = "-i" || a = "-" || a = "--ignore-environment" then go rest []
      else if a = "--" then assigns rest e
      else if a = "-u" then
        match rest with
        | n :: more => go more (e.filter (·.1 != n))
        | [] => .error ("option requires an argument -- 'u'\nTry 'env --help' for more information.\n", 125)
      else if a.startsWith "-u" then go rest (e.filter (·.1 != (a.drop 2).toString))
      else if a.startsWith "--unset=" then go rest (e.filter (·.1 != (a.drop 8).toString))
      else if a.startsWith "-" && a.length > 1 then
        .error ("invalid option -- '" ++ (String.ofList ((a.toList.drop 1).take 1)) ++ "'\nTry 'env --help' for more information.\n", 125)
      else assigns (a :: rest) e
  go args env
where
  assigns : List String → List (String × String) → Except (String × Nat) (List (String × String) × List String)
    | [], e => .ok (e, [])
    | a :: rest, e =>
      match a.splitOn "=" with
      | n :: v :: more =>
        if n.isEmpty then .ok (e, a :: rest)
        else assigns rest ((e.filter (·.1 != n)) ++ [(n, "=".intercalate (v :: more))])
      | _ => .ok (e, a :: rest)

def canRun (tree : FileTree) (cwd : Location) (env : List (String × String)) (cmd : String) : Bool :=
  if cmd.contains '/' then (tree.entryAt? cwd cmd).isSome || (systemProgram? cmd).isSome
  else (searchPath tree env cmd).isSome || isSystemProgram cmd

def systemPath? (name : String) : Option String :=
  if isSystemProgram name then some ("/usr/bin/" ++ name)
  else none

/-- Where a search path finds a name: the first regular file of that name in its directories,
or else the program of the system. -/
def programPath? (tree : FileTree) (path : String) (name : String) : Option String :=
  let found := (pathCandidates [("PATH", path)] name).find? fun p =>
    match tree.entryAt? [] p with
    | some (.file _) => true
    | _ => false
  match found with
  | some p => some p
  | none => systemPath? name

def describeCommand (st : State) (path : Option String) (verbose : Bool) (name : String) :
    String × Nat × Option (String × String) :=
  let say (what plain : String) : String := (if verbose then name ++ what else plain) ++ "\n"
  let missing : String × Nat × Option (String × String) :=
    (if verbose then name ++ ": not found\n" else "", 127, none)
  if reservedWords.contains name then (say " is a shell keyword" name, 0, none)
  else if let some (_, value) := st.aliases.find? (·.1 == name) then
    (say (" is an alias for " ++ value) ("alias " ++ name ++ "=" ++ singleQuoted value), 0, none)
  else if name.contains '/' then
    if (st.tree.entryAt? st.cwd name).isSome then (say (" is " ++ name) name, 0, none) else missing
  else if st.funcs.any (·.1 == name) then (say " is a shell function" name, 0, none)
  else
    match (if path.isNone then st.vars.hashed.find? (·.1 == name) else none) with
    | some (_, p) => (say (" is a tracked alias for " ++ p) p, 0, none)
    | none =>
      if builtinNames.contains name then
        let kind := if specialBuiltins.contains name then " is a special shell builtin" else " is a shell builtin"
        (say kind name, 0, none)
      else
        match programPath? st.tree (path.getD ((st.vars.get? "PATH").getD "")) name with
        | some p => (say (" is " ++ p) p, 0, if path.isNone then some (name, p) else none)
        | none => missing

def State.remember (st : State) (found : Option (String × String)) : State :=
  match found with
  | some entry => { st with vars := { st.vars with hashed := st.vars.hashed ++ [entry] } }
  | none => st

def typeBuiltin (st : State) (args : List String) : Ran :=
  let step (acc : State × String × Nat) (name : String) : State × String × Nat :=
    let (text, status, found) := describeCommand acc.1 none true name
    (acc.1.remember found, acc.2.1 ++ text, if status = 0 then acc.2.2 else status)
  let (st', text, status) := args.foldl step (st, "", 0)
  { state := st', out := if text.isEmpty then [] else [(1, bytes text)], status := status }

def standardPath : String := "/usr/local/sbin:/usr/local/bin:/usr/sbin:/usr/bin:/sbin:/bin"

def commandBuiltin (st : State) (args : List String) : Ran :=
  match builtinOptions ['p', 'v', 'V'] args with
  | .error c => st.complain (st.here ++ "command: Illegal option -" ++ c.toString ++ "\n") 2
  | .ok (flags, names) =>
    match names with
    | name :: _ =>
      if flags.contains 'v' || flags.contains 'V' then
        let path := if flags.contains 'p' then some standardPath else none
        let (text, status, found) := describeCommand st path (flags.contains 'V') name
        { state := st.remember found, out := if text.isEmpty then [] else [(1, bytes text)], status := status }
      else st.reply "" 0
    | [] => st.reply "" 0

/-- The words of the command that `command` runs: those after its `-p` options, `--` ending
them; none when another option makes it describe commands instead. -/
def commandToRun : List String → Option (List String)
  | [] => none
  | a :: rest =>
    match a.toList with
    | ['-', '-'] => if rest.isEmpty then none else some rest
    | '-' :: c :: cs => if (c :: cs).all (· == 'p') then commandToRun rest else none
    | _ => some (a :: rest)

def readLine (al : List (String × String)) : Nat → List Command → List Tok → Reading (List Command)
  | 0, acc, ts => .ok (acc, ts)
  | fuel + 1, acc, ts =>
    match readAndOr al (4 * ts.length + 4) ts with
    | .error e => .error e
    | .ok (c, rest) =>
      match rest with
      | [] => .ok (acc ++ [c], [])
      | t :: after =>
        if isOp t "\n" then .ok (acc ++ [c], after)
        else if isOp t ";" || isOp t "&" then
          let c := if isOp t "&" then .background c else c
          match after with
          | [] => .ok (acc ++ [c], [])
          | u :: more => if isOp u "\n" then .ok (acc ++ [c], more) else readLine al fuel (acc ++ [c]) after
        else .error (unexpected rest none)

/-- The options a shell is started with: whether it stops at failures, whether its script
is the next argument, and the arguments after the options. -/
def shellOptions : List String → Bool × Bool × List String
  | a :: rest =>
    if a.startsWith "-" && a.length > 1 && a.toList.all (fun c => c = '-' || c.isAlpha) && a != "--" then
      let (e, c, more) := shellOptions rest
      (e || a.toList.contains 'e', c || a.toList.contains 'c', more)
    else if a = "--" then (false, false, rest)
    else (false, false, a :: rest)
  | [] => (false, false, [])

inductive LoopStep where
  | finish (r : Ran)
  | proceed (r : Ran)

/-- What a loop does with a run of its body: a `break` or `continue` aimed at it is spent
here, one aimed further out comes one level closer. -/
def Ran.loopStep (r : Ran) : LoopStep :=
  match r.flow with
  | .next => .proceed r
  | .breakLoops n => .finish { r with flow := if n ≤ 1 then .next else .breakLoops (n - 1) }
  | .continueLoop n =>
    if n ≤ 1 then .proceed { r with flow := .next }
    else .finish { r with flow := .continueLoop (n - 1) }
  | .exit | .leave | .signal _ | .killed _ => .finish r

def homeOf? (name : String) : Option String :=
  [("root", "/root"), ("daemon", "/usr/sbin"), ("bin", "/bin"), ("sys", "/dev"), ("sync", "/bin"),
    ("games", "/usr/games"), ("man", "/var/cache/man"), ("lp", "/var/spool/lpd"), ("mail", "/var/mail"),
    ("news", "/var/spool/news"), ("uucp", "/var/spool/uucp"), ("proxy", "/bin"),
    ("www-data", "/var/www"), ("backup", "/var/backups"), ("list", "/var/list"), ("irc", "/run/ircd"),
    ("_apt", "/nonexistent"), ("nobody", "/nonexistent")].lookup name

/-- Tilde prefixes expanded in the unquoted text of a word: a `~` at the start of the word,
or in an assignment after a `:`, with the name after it up to a `/` (or a `:` in an
assignment), stands for that user's home directory, and `~` alone for `HOME`. The directory is
quoted text; a prefix that runs into another part of the word, or names no one, stays. -/
def State.tildeWord (st : State) (assignment : Bool) (w : Word) : Word :=
  let home (name : String) : Option String := if name.isEmpty then st.vars.get? "HOME" else homeOf? name
  let plain (acc : List Char) : List Piece := if acc.isEmpty then [] else [.text (String.ofList acc) false]
  let rec inText : Nat → List Char → Bool → Bool → List Char → List Piece
    | 0, cs, _, _, acc => plain (acc ++ cs)
    | _ + 1, [], _, _, acc => plain acc
    | fuel + 1, c :: rest, eligible, last, acc =>
      if c = '~' && eligible then
        let name := rest.takeWhile fun d => d ≠ '/' && !(assignment && d = ':')
        let after := rest.drop name.length
        let found := if after.isEmpty && !last then none else home (String.ofList name)
        match found with
        | some h => plain acc ++ .text h true :: inText fuel after false last []
        | none => inText fuel rest false last (acc ++ [c])
      else inText fuel rest (assignment && c = ':') last (acc ++ [c])
  let rec go : Bool → List Piece → List Piece
    | _, [] => []
    | first, .text s false :: more => inText (s.length + 1) s.toList first more.isEmpty [] ++ go false more
    | _, p :: more => p :: go false more
  go true w

def Ran.retest (r : Ran) (st : State) : Ran := { r with state := { r.state with tested := st.tested } }

def Ran.outOfLoop (r : Ran) (st : State) : Ran := { r with state := { r.state with loops := st.loops } }

mutual

/-- Adds the fields of a word's pieces to the fields being built; the values of unquoted
expansions are split at the field separators when `split` is set. -/
def expandPieces : Nat → Bool → State → Fields → List Piece → Expanded Fields
  | 0, _, st, _, _ => .error (st.tooDeep, [])
  | _ + 1, _, st, f, [] => .ok (f, st, [])
  | fuel + 1, split, st, f, p :: ps =>
    let rest (r : Expanded Fields) : Expanded Fields :=
      match r with
      | .error e => .error e
      | .ok (f', st', o) => Expanded.after o (expandPieces fuel split st' f' ps)
    match p with
    | .text s q => expandPieces fuel split st (if q then f.addQuoted s else f.addPlain s) ps
    | .param name op word q =>
      rest (expandParam fuel split st (if q && name != "@" then f.addQuoted "" else f) name op word q)
    | .command source line q =>
      let r := runSource fuel st.forSubshell source line
      let r := match r.flow with
        | .killed _ => r
        | _ => atExit fuel r
      let v := dropTrailingBreaks (textOf ((onDescriptor 1 r.out).filter (· != 0)))
      let st' := { st with tree := r.state.tree, substStatus := r.status }
      rest (.ok (f.addValue st' split q v, st', offDescriptor 1 r.out))
    | .arith body q =>
      match expandText fuel st body with
      | .error e => .error e
      | .ok (text, st', o) =>
        match arithEval st'.param? text with
        | .ok (v, assigned) =>
          match st'.vars.lockedAmong (assigned.map (·.1)) with
          | some n => .error (⟨st'.here ++ n ++ ": is read only\n", 2⟩, o)
          | none =>
          let st'' := { st' with vars := assigned.foldl (fun vs (n, x) => vs.set n (toString x)) st'.vars }
          Expanded.after o (rest (.ok (f.addValue st'' split q (toString v), st'', [])))
        | .error e => .error (st'.arithFailure text e, o)

def expandParam : Nat → Bool → State → Fields → String → ParamOp → Word → Bool → Expanded Fields
  | 0, _, st, _, _, _, _, _ => .error (st.tooDeep, [])
  | fuel + 1, split, st, f, name, op, word, q =>
    let value := st.param? name
    let unset : Expanded Fields := .error (⟨st.here ++ name ++ ": parameter not set\n", 2⟩, [])
    let guarded := value.isNone && st.vars.has .nounset
    let missing (null : Bool) : Bool := value.isNone || (null && value == some "")
    let params := st.vars.params
    let plain : Expanded Fields :=
      if name = "@" && q && split then
        let f' := match params with
          | [] => f
          | a :: more => more.foldl (fun acc x => acc.cut.addQuoted x) (f.addQuoted a)
        .ok (f', st, [])
      else if (name = "@" || name = "*") && !q && split then
        if st.joiner.isEmpty then
          .ok (params.foldl (fun acc x => (acc.addSplit st.separators x).cut) f, st, [])
        else .ok (f.addSplit st.separators (st.joiner.intercalate params), st, [])
      else if name = "@" || name = "*" then .ok (f.addValue st split q (st.joiner.intercalate params), st, [])
      else .ok (f.addValue st split q (value.getD ""), st, [])
    match op with
    | .value => if guarded then unset else plain
    | .length => if guarded then unset else .ok (f.addValue st split q (toString (value.getD "").length), st, [])
    | .orDefault null => if missing null then expandPieces fuel split st f word else plain
    | .assign null =>
      if missing null then
        match expandText fuel st word with
        | .ok (v, st', o) =>
          if st'.vars.readonly.contains name then .error (⟨st'.here ++ name ++ ": is read only\n", 2⟩, o)
          else .ok (f.addValue st' split q v, { st' with vars := st'.vars.set name v }, o)
        | .error e => .error e
      else plain
    | .orError null =>
      if missing null then
        match expandText fuel st word with
        | .ok (v, st', o) =>
          let why := if !v.isEmpty then v else if null then "parameter not set or null" else "parameter not set"
          .error (⟨st'.here ++ name ++ ": " ++ why ++ "\n", 2⟩, o)
        | .error e => .error e
      else plain
    | .alternative null => if missing null then .ok (f, st, []) else expandPieces fuel split st f word
    | .trimPrefix _ | .trimSuffix _ =>
      if guarded then unset
      else
        match expandPattern fuel st word with
        | .ok (pat, st', o) => .ok (f.addValue st' split q (removeMatch op (value.getD "") pat), st', o)
        | .error e => .error e
    | .bad => .error (⟨st.here ++ "Bad substitution\n", 2⟩, [])

/-- A word expanded to one text: not split, and not matched against file names. -/
def expandText : Nat → State → Word → Expanded String
  | 0, st, _ => .error (st.tooDeep, [])
  | fuel + 1, st, w =>
    match expandPieces fuel false st {} w with
    | .ok (f, st', o) => .ok (" ".intercalate (f.finish.map fieldText), st', o)
    | .error e => .error e

def expandPattern : Nat → State → Word → Expanded (List (Char × Bool))
  | 0, st, _ => .error (st.tooDeep, [])
  | fuel + 1, st, w =>
    match expandPieces fuel false st {} w with
    | .ok (f, st', o) => .ok (List.intercalate [(' ', true)] f.finish, st', o)
    | .error e => .error e

def expandWords : Nat → State → List Word → Expanded (List String)
  | 0, st, _ => .error (st.tooDeep, [])
  | _ + 1, st, [] => .ok ([], st, [])
  | fuel + 1, st, w :: ws =>
    match expandPieces fuel true st {} (st.tildeWord false w) with
    | .error e => .error e
    | .ok (f, st', o) =>
      let fields := if st'.vars.has .noglob then f.finish.map fieldText
        else f.finish.flatMap (globField st'.tree st'.cwd)
      match expandWords fuel st' ws with
      | .error (a, o') => .error (a, o ++ o')
      | .ok (rest, st'', o') => .ok (fields ++ rest, st'', o ++ o')

def expandAssigns : Nat → State → List (String × Word) → Expanded (List (String × String))
  | 0, st, _ => .error (st.tooDeep, [])
  | _ + 1, st, [] => .ok ([], st, [])
  | fuel + 1, st, (name, w) :: rest =>
    match expandText fuel st (st.tildeWord true w) with
    | .error e => .error e
    | .ok (v, st', o) =>
      match expandAssigns fuel st' rest with
      | .error (a, o') => .error (a, o ++ o')
      | .ok (more, st'', o') => .ok ((name, v) :: more, st'', o ++ o')

def expandRedirects : Nat → State → List Redirect → Expanded (List Opened)
  | 0, st, _ => .error (st.tooDeep, [])
  | _ + 1, st, [] => .ok ([], st, [])
  | fuel + 1, st, r :: rest =>
    let target := match r with
      | .toFile _ w _ | .fromFile _ w | .copy _ w => st.tildeWord false w
      | .here _ w => w
    match expandText fuel st target with
    | .error e => .error e
    | .ok (v, st', o) =>
      let opened := match r with
        | .toFile fd _ append => Opened.toFile fd v append
        | .fromFile fd _ => .fromFile fd v
        | .copy fd _ => .copy fd v
        | .here fd _ => .here fd v
      match expandRedirects fuel st' rest with
      | .error (a, o') => .error (a, o ++ o')
      | .ok (more, st'', o') => .ok (opened :: more, st'', o ++ o')

def runCommand : Nat → State → Command → Ran
  | 0, st, _ => st.abort st.tooDeep []
  | fuel + 1, st, c =>
    -- with `set -n` commands are read and not run, and the status stays
    if st.vars.has .noexec then { state := st, out := [], status := st.vars.status } else
    match c with
    | .simple line assigns words redirects => runSimple fuel { st with line := line } assigns words redirects
    | .pipeline negated stages =>
      let inner := if negated then { st with tested := true } else st
      let r := match stages with
        | [one] => runCommand fuel inner one
        | _ => runStages fuel inner stages none []
      if negated then { r.retest st with status := if r.status = 0 then 1 else 0, lenient := true } else r
    | .both first second =>
      let r := ((runCommand fuel { st with tested := true } first).retest st).settle
      if r.stops then r
      else if r.status ≠ 0 then { r with lenient := true }
      else r.andThen (runCommand fuel r.state second)
    | .either first second =>
      let r := ((runCommand fuel { st with tested := true } first).retest st).settle
      if r.stops then r
      else if r.status = 0 then { r with lenient := false }
      else r.andThen (runCommand fuel r.state second)
    | .sequence cs => runSeq fuel [] st cs
    | .cond test thenPart elsePart =>
      let t := ((runCommand fuel { st with tested := true } test).retest st).settle
      if t.stops then t
      else
        match (if t.status = 0 then some thenPart else elsePart) with
        | some body => t.andThen (runCommand fuel t.state body)
        | none => { t with status := 0, lenient := false }
    | .forEach var items body =>
      let listed : Expanded (List String) := match items with
        | some ws => expandWords fuel st ws
        | none => .ok (st.vars.params, st, [])
      match listed with
      | .error (a, o) => st.abort a o
      | .ok (values, st', o) =>
        Ran.after o ((runFor fuel { st' with loops := st'.loops + 1 } var values body 0).outOfLoop st')
    | .loop test body untilMode =>
      (runLoop fuel { st with loops := st.loops + 1 } test body untilMode 0).outOfLoop st
    | .define name body =>
      { state := { st with funcs := (name, body) :: st.funcs.filter (·.1 != name) }, out := [], status := 0 }
    | .caseOf subject arms =>
      match expandText fuel st (st.tildeWord false subject) with
      | .error (a, o) => st.abort a o
      | .ok (s, st', o) => Ran.after o (runArms fuel st' s arms)
    | .group body rs =>
      match expandRedirects fuel st rs with
      | .error (a, o) => st.abort a o
      | .ok (opened, st', o) => Ran.after o (redirected false st' opened [] fun s => runCommand fuel s body)
    | .background body =>
      -- the job reads the null device unless it says otherwise, and is over before the shell
      -- goes on: its output comes at once, and `wait` finds its status
      let r := runCommand fuel { st.forSubshell with stdin := [] } body
      let r := match r.flow with
        | .killed _ => r
        | _ => atExit fuel r
      let ended := match r.flow with
        | .killed n => 128 + n
        | _ => r.status % 256
      { state := { st with tree := r.state.tree, jobs := (1000 + st.jobs.length, ended) :: st.jobs }
        out := r.out, status := 0
        flow := match r.flow with
          | .killed n => .killed n
          | _ => .next }
    | .subshell body rs =>
      match expandRedirects fuel st rs with
      | .error (a, o) => st.abort a o
      | .ok (opened, st', o) =>
        let r := redirected false st' opened [] fun s =>
          let r := runCommand fuel s.forSubshell body
          match r.flow with
          | .killed _ => r
          | _ => atExit fuel r
        { state := { st' with tree := r.state.tree }, out := o ++ r.out, status := r.status
          flow := match r.flow with
            | .killed n => .killed n
            | _ => .next }

/-- Runs commands one after the other, stopping when the shell leaves; each one writes through
the descriptors moved for good before it (`active`) as it runs. -/
def runSeq : Nat → List FdMap → State → List Command → Ran
  | 0, _, st, _ => st.abort st.tooDeep []
  | _ + 1, active, st, [] => { state := st, out := [], status := 0, reroute := active }
  | fuel + 1, active, st, c :: cs =>
    let r := (runCommand fuel st c).settle.through active
    if r.stops then r
    else if r.state.vars.has .errexit && r.status ≠ 0 && !r.lenient && !st.tested then { r with flow := .exit }
    else if cs.isEmpty then r
    else (runSeq fuel r.reroute r.state cs).after r.out

def runStages : Nat → State → List Command → Option (List UInt8) → Output → Ran
  | 0, st, _, _, _ => st.abort st.tooDeep []
  | _ + 1, st, [], _, errs => { state := st, out := errs, status := 0 }
  | fuel + 1, st, c :: cs, input, errs =>
    let r := runCommand fuel { st.forSubshell with stdin := input.getD st.stdin } c
    let r := match r.flow with
      | .killed _ => r
      | _ => atExit fuel r
    let st' := { st with tree := r.state.tree }
    if cs.isEmpty then { state := st', out := errs ++ r.out, status := r.status }
    else runStages fuel st' cs (some (onDescriptor 1 r.out)) (errs ++ offDescriptor 1 r.out)

def runFor : Nat → State → String → List String → Command → Nat → Ran
  | 0, st, _, _, _, _ => st.abort st.tooDeep []
  | _ + 1, st, _, [], _, last => { state := st, out := [], status := last }
  | fuel + 1, st, var, v :: vs, body, _ =>
    if st.vars.readonly.contains var then { st.complain (st.here ++ var ++ ": is read only\n") 2 with flow := .exit }
    else
    let r := (runCommand fuel { st with vars := st.vars.set var v } body).settle
    match r.loopStep with
    | .finish r => r
    | .proceed r => r.andThen (runFor fuel r.state var vs body r.status)

def runLoop : Nat → State → Command → Command → Bool → Nat → Ran
  | 0, st, _, _, _, _ => st.abort st.tooDeep []
  | fuel + 1, st, test, body, untilMode, last =>
    let t := ((runCommand fuel { st with tested := true } test).retest st).settle
    match t.flow, t.loopStep with
    | .next, _ =>
      if (t.status = 0) == untilMode then { t with status := last, lenient := false }
      else
        let r := t.andThen (runCommand fuel t.state body).settle
        match r.loopStep with
        | .finish r => r
        | .proceed r => r.andThen (runLoop fuel r.state test body untilMode r.status)
    | _, .finish t => t
    | _, .proceed t => t.andThen (runLoop fuel t.state test body untilMode last)

def runArms : Nat → State → String → List (List Word × Command) → Ran
  | 0, st, _, _ => st.abort st.tooDeep []
  | _ + 1, st, _, [] => { state := st, out := [], status := 0 }
  | fuel + 1, st, s, (pats, body) :: rest =>
    match matchAny fuel st s pats with
    | .error (a, o) => st.abort a o
    | .ok (true, st', o) => Ran.after o (runCommand fuel st' body)
    | .ok (false, st', o) => Ran.after o (runArms fuel st' s rest)

def matchAny : Nat → State → String → List Word → Expanded Bool
  | 0, st, _, _ => .error (st.tooDeep, [])
  | _ + 1, st, _, [] => .ok (false, st, [])
  | fuel + 1, st, s, w :: ws =>
    match expandPattern fuel st w with
    | .error e => .error e
    | .ok (p, st', o) =>
      if globMatches p s then .ok (true, st', o) else Expanded.after o (matchAny fuel st' s ws)

def runSimple : Nat → State → List (String × Word) → List Word → List Redirect → Ran
  | 0, st, _, _, _ => st.abort st.tooDeep []
  | fuel + 1, st0, assigns, words, redirects =>
    let st := { st0 with substStatus := 0 }
    match expandWords fuel st words with
    | .error (a, o) => st.abort a o
    | .ok (fields, st1, o1) =>
      match expandRedirects fuel st1 redirects with
      | .error (a, o) => st1.abort a (o1 ++ o)
      | .ok (opened, st2, o2) =>
        match expandAssigns fuel st2 assigns with
        | .error (a, o) => st2.abort a (o1 ++ o2 ++ o)
        | .ok (pairs, st3, o3) =>
          let trace : Output :=
            if st3.vars.has .xtrace then
              let words := pairs.map (fun (n, x) => n ++ "=" ++ x) ++ fields
              [(2, bytes ((st3.vars.get? "PS4").getD "+ " ++ " ".intercalate words ++ "\n"))]
            else []
          Ran.after (o1 ++ o2 ++ o3) <|
            match fields with
            | [] =>
              redirected false st3 opened trace fun s =>
                match s.vars.lockedAmong (pairs.map (·.1)) with
                | some n => { s.complain (s.here ++ n ++ ": is read only\n") 2 with flow := .exit }
                | none =>
                  { state := { s with vars := pairs.foldl (fun v (n, x) => v.set n x) s.vars }
                    out := [], status := st3.substStatus }
            | ["exec"] =>
              let st4 := { st3 with vars := pairs.foldl (fun v (n, x) => v.set n x) st3.vars }
              match openAll st4 st4.line opened [] none st4.tree with
              | .error message => { state := st4, out := [(2, bytes message)], status := 2, flow := .exit }
              | .ok (m, input, t) =>
                let closed := (m.filter (·.2 == .closed)).map (·.1)
                let opened := ((m.filter (·.2 != .closed)).map (·.1)).filter (· > 2)
                { state := { st4 with tree := t, stdin := input.getD st4.stdin
                                      fds := opened ++ st4.fds.filter (!closed.contains ·) }
                  out := trace, status := 0
                  reroute := if m.isEmpty then [] else [m] }
            | name :: args =>
              redirected (specialBuiltins.contains name) st3 opened trace fun s => invoke fuel s name args pairs true

/-- Runs a command by name: a builtin, a function unless `functions` is off, or a program with
the assignments written before it added to its environment. Before a special builtin those
assignments stay; before anything else they hold for the command only. -/
def invoke : Nat → State → String → List String → List (String × String) → Bool → Ran
  | 0, st, _, _, _, _ => st.abort st.tooDeep []
  | fuel + 1, st, name, args, temp, functions =>
    let special := specialBuiltins.contains name
    let assigned := temp.foldl (fun v (n, x) => v.set n x) st.vars
    let outside (r : Ran) : Ran := { r with state := { r.state with within := st.within } }
    match st.vars.lockedAmong (temp.map (·.1)) with
    | some n => { st.complain (st.here ++ n ++ ": is read only\n") 2 with flow := .exit }
    | none =>
    match name with
    | "eval" => outside (runSource fuel { st with vars := assigned, within := some "eval" } (" ".intercalate args) 1)
    | "." =>
      let inner := { st with vars := assigned, within := some "." }
      match args with
      | [] => st.reply "" 0
      | file :: _ =>
        let found := if file.contains '/' then (st.tree.readAt st.cwd file).toOption
          else (pathCandidates st.vars.environment file).findSome? fun path =>
            match st.tree.entryAt? [] path with
            | some (.file content) => some content
            | _ => none
        match found with
        | some content => outside (runSource fuel inner (textOf content) 1)
        | none =>
          let message := if file.contains '/' then "cannot open " ++ file ++ ": No such file" else file ++ ": not found"
          outside { inner.complain (inner.here ++ message ++ "\n") 2 with flow := .exit }
    | "exec" =>
      match args with
      | [] => { state := { st with vars := assigned }, out := [], status := 0 }
      | n :: rest => { outside (invoke fuel { st with within := some "exec" } n rest temp true) with flow := .exit }
    | "command" =>
      match commandToRun args with
      | some (n :: rest) => invoke fuel st n rest temp false
      | _ => commandBuiltin st args
    | "type" => typeBuiltin st args
    | _ =>
      let body := if special || !functions then none else (st.funcs.find? (·.1 == name)).map (·.2)
      match body with
      | some body =>
        let r := runCommand fuel
          { st with vars := { assigned with params := args }, loops := 0, locals := some [] } body
        let unlocal (v : Vars) (saved : String × Option String) : Vars :=
          match saved.2 with
          | some old => v.set saved.1 old
          | none => v.unset saved.1
        let restore (v : Vars) (n : String) : Vars := unlocal v (n, st.vars.get? n)
        let vars' := (temp.map (·.1)).foldl restore ((r.state.locals.getD []).foldl unlocal r.state.vars)
        { r with
          state := { r.state with
            vars := { vars' with params := st.vars.params }, loops := st.loops, locals := st.locals }
          flow := match r.flow with
            | .exit => .exit
            | .killed n => .killed n
            | _ => .next }
      | none =>
      match builtin? name with
      | some b =>
        let r := outside (b { st with vars := assigned, within := none } args)
        let restore (v : Vars) (n : String) : Vars :=
          match st.vars.get? n with
          | some old => v.set n old
          | none => v.unset n
        let r := if temp.isEmpty || special then r
          else { r with state := { r.state with vars := (temp.map (·.1)).foldl restore r.state.vars } }
        deliver fuel r
      | none =>
        let env := temp.foldl (fun e (n, x) => (n, x) :: e.filter (·.1 != n)) st.vars.environment
        let r := launch fuel st name args env
        let known := name.contains '/' || temp.any (·.1 == "PATH") || st.vars.hashed.any (·.1 == name)
        if known then r
        else
          let found := (programPath? st.tree ((st.vars.get? "PATH").getD "") name).map fun p => (name, p)
          { r with state := r.state.remember found }

/-- Acts on a signal a command sent to the shell itself: runs the command set for it, ignores
it when that command is empty or the signal does nothing by default, and otherwise ends the
shell. The status stays that of the command that sent it. -/
def deliver : Nat → Ran → Ran
  | 0, r => r
  | fuel + 1, r =>
    match r.flow with
    | .signal n =>
      match r.state.traps.find? (·.1 == n) with
      | some (_, action) =>
        if action.isEmpty || n = 9 then { r with flow := if n = 9 then .killed 9 else .next }
        else
          let t := runSource fuel { r.state with vars := { r.state.vars with status := r.status } } action 1
          let after := { r with flow := .next }.andThen t
          if t.stops then after else { after with status := r.status }
      | none => { r with flow := if Signal.ends n then .killed n else .next }
    | _ => r

def launch : Nat → State → String → List String → List (String × String) → Ran
  | 0, st, _, _, _ => st.abort st.tooDeep []
  | fuel + 1, st, name, args, env =>
    if name.contains '/' then
      match st.tree.entryAt? st.cwd name with
      | some (.file content) =>
        if mayRun st.tree st.cwd name then runFresh fuel st false name args env (textOf content)
        else st.complain (st.here ++ name ++ ": Permission denied\n") 126
      | some .dir => st.complain (st.here ++ name ++ ": Permission denied\n") 126
      | _ =>
        match systemProgram? name with
        | some program => runSystem fuel st program name args env
        | none => st.complain (st.here ++ name ++ ": not found\n") 127
    else
      match searchPath st.tree env name with
      | some (path, content) => runFresh fuel st false path args env (textOf content)
      | none =>
        if isSystemProgram name then runSystem fuel st name name args env
        else if blockedOnPath st.tree env name then st.complain (st.here ++ name ++ ": Permission denied\n") 126
        else st.complain (st.here ++ name ++ ": not found\n") 127

def runSystem : Nat → State → String → String → List String → List (String × String) → Ran
  | 0, st, _, _, _, _ => st.abort st.tooDeep []
  | fuel + 1, st, program, shown, args, env =>
    if program = "git" then
      let o := Git.run st.repo (st.tree.mapNames Text.Bytewise.toText)
        (st.cwd.map Text.Bytewise.toText) (args.map Text.Bytewise.toText)
      { state := st, out := [(1, o.stdout), (2, o.stderr)].filter (!·.2.isEmpty), status := o.status }
    else if program = "sh" || program = "dash" then
      let (errexit, command, rest) := shellOptions args
      let started (r : Ran) : Ran :=
        { state := { st with tree := r.state.tree }, out := r.out, status := r.status }
      if command then
        match rest with
        | script :: more =>
          let (n0, params) := match more with
            | n :: ps => (n, ps)
            | [] => (shown, [])
          started (runFresh fuel st errexit n0 params env script)
        | [] => st.complain (shown ++ ": 0: -c requires an argument\n") 2
      else
        match rest with
        | file :: params =>
          match st.tree.readAt st.cwd file with
          | .ok content => started (runFresh fuel st errexit file params env (textOf content))
          | .error _ => st.complain (shown ++ ": 0: cannot open " ++ file ++ ": No such file\n") 2
        | [] => started (runFresh fuel { st with stdin := [] } errexit shown [] env (textOf st.stdin))
    else if program = "env" then
      match readEnvCall args env with
      | .error (msg, status) => st.complain (shown ++ ": " ++ msg) status
      | .ok (env', []) =>
        { state := st, out := [(1, Text.Bytewise.encode (String.join (env'.map fun (k, v) => k ++ "=" ++ v ++ "\n")))].filter (!·.2.isEmpty), status := 0 }
      | .ok (env', cmd :: more) =>
        if canRun st.tree st.cwd env' cmd then launch fuel st cmd more env'
        else st.complain (shown ++ ": " ++ quoteAlways cmd ++ ": No such file or directory\n") 127
    else
      match utility? program with
      | some u =>
        let d := u { args := args, stdin := st.stdin, cwd := st.cwd, tree := st.tree, env := env, name := shown }
        { state := { st with tree := d.tree }
          out := d.output
          status := d.status }
      | none => st.complain (st.here ++ shown ++ ": not found\n") 127

def runFresh : Nat → State → Bool → String → List String → List (String × String) → String → Ran
  | 0, st, _, _, _, _, _ => st.abort st.tooDeep []
  | fuel + 1, st, errexit, scriptName, params, env, source =>
    let vars : Vars :=
      { values := env, exported := env.map (·.1), params := params, scriptName := scriptName,
        options := if errexit then [.errexit] else [] }
    let vars := ["PS1", "PS2", "PS4"].zip ["$ ", "> ", "+ "] |>.foldl
      (fun v (n, x) => if env.any (·.1 == n) then v else v.set n x) vars
    let vars := ((vars.set "IFS" " \t\n").set "OPTIND" "1").set "PWD" st.cwdPath
    let vars := if env.any (·.1 == "PWD") then vars.markExported "PWD" else vars
    let r := runSource fuel
      { st with vars := vars, line := 0, substStatus := 0, funcs := [], loops := 0, locals := none, traps := [] }
      source 1
    let r := match r.flow with
      | .killed _ => r
      | _ => atExit fuel r
    match r.flow with
    | .killed n => { state := { st with tree := r.state.tree }, out := r.out, status := 128 + n, flow := .killed n }
    | _ => { state := { st with tree := r.state.tree }, out := r.out, status := r.status % 256 }

/-- Runs the command set for the end of the shell, if any, after the shell's last command:
the shell ends with the status it had, unless that command leaves with `exit`. -/
def atExit : Nat → Ran → Ran
  | 0, r => r
  | fuel + 1, r =>
    match r.state.traps.find? (·.1 == 0) with
    | some (_, action) =>
      if action.isEmpty then r
      else
        let st := { r.state with traps := r.state.traps.filter (·.1 != 0)
                                 vars := { r.state.vars with status := r.status } }
        let t := runSource fuel st action 1
        let after := { r with flow := .next }.andThen t
        match t.flow with
        | .exit | .killed _ => after
        | _ => { after with status := r.status, flow := .exit }
    | none => r

def runSource : Nat → State → String → Nat → Ran
  | 0, st, _, _ => st.abort st.tooDeep []
  | fuel + 1, st, source, line =>
    runTokens fuel [] st (tokensFrom source line) (line + source.toList.count '\n') 0

def runTokens : Nat → List FdMap → State → List Tok → Nat → Nat → Ran
  | 0, _, st, _, _, _ => st.abort st.tooDeep []
  | fuel + 1, active, st, ts, lastLine, last =>
    match skipBreaks ts with
    | [] => { state := st, out := [], status := last, reroute := active }
    | ts =>
      match readLine st.aliases (ts.length + 1) [] ts with
      | .error e =>
        let line := if e.line = 0 then lastLine else e.line
        Ran.through active
          { state := st, out := [(2, bytes (st.blame line ++ "Syntax error: " ++ e.message ++ "\n"))],
            status := 2, flow := .exit }
      | .ok (cs, rest) =>
        let r := runSeq fuel active st cs
        if r.stops then r else (runTokens fuel r.reroute r.state rest lastLine r.status).after r.out

end

/-- What a program started by the coverage tools did: its status, its two streams and the
file tree after it; a program that cannot be started is not found. The shell sees names,
arguments and the environment as byte texts, and git, which it starts, sees them as UTF-8
again. -/
def spawn (tree : FileTree) (repo : Option Git.Repository) (cwd : Location)
    (env : List (String × String)) (program : String) (args : List String) :
    Except OsError (Outcome × FileTree) :=
  let raw := Text.Bytewise.ofText
  let tree := tree.mapNames raw
  let cwd := cwd.map raw
  let env := env.map fun (n, v) => (raw n, raw v)
  let program := raw program
  let args := args.map raw
  let st : State :=
    { vars := { values := env, exported := env.map (·.1) }
      cwd := cwd
      tree := tree
      repo := repo
      stdin := [] }
  let finish (r : Ran) : Except OsError (Outcome × FileTree) :=
    let signal := match r.flow with
      | .killed n => some n
      | _ => none
    .ok (⟨r.status, onDescriptor 1 r.out, onDescriptor 2 r.out, signal⟩,
      r.state.tree.mapNames Text.Bytewise.toText)
  let fuel := 100000
  if program.contains '/' then
    match tree.entryAt? cwd program with
    | some (.file content) =>
      if mayRun tree cwd program then finish (runFresh fuel st false program args env (textOf content))
      else .error (.other "Permission denied (os error 13)")
    | some .dir => .error (.other "Permission denied (os error 13)")
    | _ =>
      if (systemProgram? program).isSome then finish (launch fuel st program args env)
      else .error .notFound
  else
    match searchPath tree env program with
    | some (path, content) => finish (runFresh fuel st false path args env (textOf content))
    | none =>
      if isSystemProgram program then
        finish (launch fuel st program args env)
      else if blockedOnPath tree env program then .error (.other "Permission denied (os error 13)")
      else .error .notFound

end LineCoverage.Shell
