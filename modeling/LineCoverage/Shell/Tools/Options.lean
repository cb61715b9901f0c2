import LineCoverage.Shell.Tools.Call
/-! How the utilities read their command lines, the way the GNU option reader does.

An argument `--name` or `--name=value` is a long option; its name may be shortened to any
prefix that names one option only. An argument `-abc` holds short options: the letters after
one that takes an argument are that argument, and when none are left the next argument is.
`--` ends the options and `-` alone is an operand. Options and operands may be mixed, unless
the utility stops reading options at its first operand. The first thing that cannot be read
is reported, worded as the reader words it, and the utility then points to its `--help`.
-/

set_option autoImplicit false

-- Powers are the core's `Nat.pow` and `Int.pow`, also where Mathlib's monoid powers are in scope.
attribute [local instance (high)] instPowNat

namespace LineCoverage.Shell

inductive Takes where
  | nothing
  | argument
  | optional
  deriving DecidableEq

structure OptionSpec where
  key : String
  letter : Option Char
  long : Option String
  takes : Takes

def OptionSpec.flag (c : Char) : OptionSpec := ⟨c.toString, some c, none, .nothing⟩

def OptionSpec.withArg (c : Char) : OptionSpec := ⟨c.toString, some c, none, .argument⟩

def OptionSpec.alias (name : String) (c : Char) (takes : Takes) : OptionSpec :=
  ⟨c.toString, none, some name, takes⟩

def OptionSpec.longOnly (name : String) (takes : Takes) : OptionSpec := ⟨name, none, some name, takes⟩

inductive OptionError where
  | invalid (c : Char)
  | missing (c : Char)
  | unrecognized (arg : String)
  | ambiguous (arg : String) (names : List String)
  | longMissing (name : String)
  | longExtra (name : String)

def OptionError.message (tool : String) : OptionError → String
  | .invalid c => tool ++ ": invalid option -- '" ++ c.toString ++ "'\n"
  | .missing c => tool ++ ": option requires an argument -- '" ++ c.toString ++ "'\n"
  | .unrecognized a => tool ++ ": unrecognized option '" ++ a ++ "'\n"
  | .ambiguous a names =>
    tool ++ ": option '" ++ a ++ "' is ambiguous; possibilities:" ++
      String.join (names.map fun n => " '--" ++ n ++ "'") ++ "\n"
  | .longMissing n => tool ++ ": option '--" ++ n ++ "' requires an argument\n"
  | .longExtra n => tool ++ ": option '--" ++ n ++ "' doesn't allow an argument\n"

/-- The line a GNU utility ends a complaint about its usage with. -/
def tryHelp (tool : String) : String := "Try '" ++ tool ++ " --help' for more information.\n"

structure CommandLine where
  options : List (String × Option String)
  operands : List String

def CommandLine.has (cl : CommandLine) (key : String) : Bool := cl.options.any (·.1 == key)

def CommandLine.last? (cl : CommandLine) (key : String) : Option String :=
  (cl.options.filter (·.1 == key)).getLast?.bind (·.2)

def CommandLine.all (cl : CommandLine) (key : String) : List String :=
  (cl.options.filter (·.1 == key)).filterMap (·.2)

def readLetters (specs : List OptionSpec) : List Char → List String →
    Except OptionError (List (String × Option String) × List String)
  | [], rest => .ok ([], rest)
  | c :: cs, rest =>
    match specs.find? (·.letter == some c) with
    | none => .error (.invalid c)
    | some o =>
      match o.takes with
      | .nothing => (readLetters specs cs rest).map fun (os, r) => ((o.key, none) :: os, r)
      | .optional => .ok ([(o.key, if cs.isEmpty then none else some (String.ofList cs))], rest)
      | .argument =>
        if !cs.isEmpty then .ok ([(o.key, some (String.ofList cs))], rest)
        else
          match rest with
          | v :: r => .ok ([(o.key, some v)], r)
          | [] => .error (.missing c)

/-- Reads a long option from what follows its `--`, given the arguments after it. A name that
is not exact picks the one option it starts, and is ambiguous when it starts several. -/
def readLongOption (specs : List OptionSpec) (body : String) (rest : List String) :
    Except OptionError ((String × Option String) × List String) :=
  let (name, value) := match body.splitOn "=" with
    | n :: v :: more => (n, some ("=".intercalate (v :: more)))
    | _ => (body, none)
  let named := specs.filter fun o => (o.long.map (·.startsWith name)).getD false
  let chosen : Except OptionError OptionSpec :=
    match specs.find? (·.long == some name), named with
    | some o, _ => .ok o
    | none, [o] => .ok o
    | none, [] => .error (.unrecognized ("--" ++ body))
    | none, o :: more =>
      if more.all fun m => m.key == o.key && m.takes == o.takes then .ok o
      else .error (.ambiguous ("--" ++ body) (named.filterMap (·.long)))
  match chosen with
  | .error e => .error e
  | .ok o =>
    let full := o.long.getD name
    match o.takes, value with
    | .nothing, some _ => .error (.longExtra full)
    | .nothing, none => .ok ((o.key, none), rest)
    | .optional, v => .ok ((o.key, v), rest)
    | .argument, some v => .ok ((o.key, some v), rest)
    | .argument, none =>
      match rest with
      | v :: r => .ok ((o.key, some v), r)
      | [] => .error (.longMissing full)

/-- The multiplier a count's suffix stands for: `b` 512, a power of 1024 for `K` (or `k`), `M`,
`G` and so on, and of 1000 when `B` follows the letter; `iB` keeps 1024. -/
def countMultiplier (suffix : List Char) : Option Nat :=
  let power (c : Char) : Option Nat :=
    match c with
    | 'k' | 'K' => some 1 | 'm' | 'M' => some 2 | 'G' => some 3 | 'T' => some 4 | 'P' => some 5
    | 'E' => some 6 | 'Z' => some 7 | 'Y' => some 8 | 'R' => some 9 | 'Q' => some 10
    | _ => none
  match suffix with
  | [] => some 1
  | ['b'] => some 512
  | [c] => (power c).map (1024 ^ ·)
  | [c, 'B'] => (power c).map (1000 ^ ·)
  | [c, 'i', 'B'] => (power c).map (1024 ^ ·)
  | _ => none

def readCount (s : String) : Option Nat :=
  let cs := s.toList.dropWhile fun c => c = ' ' || c = '\t'
  let cs := match cs with
    | '+' :: r => r
    | r => r
  let ds := cs.takeWhile Char.isDigit
  if ds.isEmpty then none
  else (countMultiplier (cs.drop ds.length)).map (Numeral.digitsValue ds * ·)

/-- A byte offset as `od` reads it: a number in decimal, in hexadecimal after `0x` or in octal
after a leading `0`, then a multiplier. -/
def readOffset (s : String) : Option Nat :=
  let cs := s.toList.dropWhile fun c => c = ' ' || c = '\t'
  let (base, cs) : Nat × List Char := match cs with
    | '0' :: x :: r => if x = 'x' || x = 'X' then (16, r) else (8, '0' :: x :: r)
    | r => (10, r)
  let digit (c : Char) : Option Nat :=
    if c.isDigit then some (c.toNat - 48)
    else if 'a' ≤ c && c ≤ 'f' then some (c.toNat - 87)
    else if 'A' ≤ c && c ≤ 'F' then some (c.toNat - 55)
    else none
  let ds := cs.takeWhile fun c => (digit c).any (· < base)
  if ds.isEmpty then none
  else
    let v := ds.foldl (fun acc c => acc * base + (digit c).getD 0) 0
    (countMultiplier (cs.drop ds.length)).map (v * ·)

def chooseArgument {α : Type} [BEq α] (tool option arg : String) (choices : List (String × α)) :
    Except String α :=
  let started := choices.filter (·.1.startsWith arg)
  let exact := choices.find? (·.1 == arg)
  let complain (ambiguous : Bool) : Except String α :=
    let listed := choices.foldl (fun (acc : String × Option α) (name, v) =>
      match acc.2 with
      | some w => if w == v then (acc.1 ++ ", '" ++ name ++ "'", some v) else (acc.1 ++ "\n  - '" ++ name ++ "'", some v)
      | none => (acc.1 ++ "\n  - '" ++ name ++ "'", some v)) ("", none)
    .error (tool ++ ": " ++ (if ambiguous then "ambiguous" else "invalid") ++ " argument '" ++ arg ++
      "' for '" ++ option ++ "'\nValid arguments are:" ++ listed.1 ++ "\n" ++ tryHelp tool)
  match exact, started with
  | some (_, v), _ => .ok v
  | none, [] => complain false
  | none, (_, v) :: more => if more.all (·.2 == v) then .ok v else complain true

/-- Reads a command line. With `permute` options may follow operands; otherwise the first
operand ends them. -/
def readCommandLine (specs : List OptionSpec) (permute : Bool) (args : List String) :
    Except OptionError CommandLine :=
  let rec go : Nat → List String → Except OptionError CommandLine
    | 0, rest => .ok ⟨[], rest⟩
    | _ + 1, [] => .ok ⟨[], []⟩
    | fuel + 1, a :: rest =>
      let more (os : List (String × Option String)) (r : List String) : Except OptionError CommandLine :=
        (go fuel r).map fun cl => { cl with options := os ++ cl.options }
      if a = "--" then .ok ⟨[], rest⟩
      else if a.startsWith "--" then
        match readLongOption specs (String.ofList (a.toList.drop 2)) rest with
        | .ok (o, r) => more [o] r
        | .error e => .error e
      else if a.startsWith "-" && a.length > 1 then
        match readLetters specs (a.toList.drop 1) rest with
        | .ok (os, r) => more os r
        | .error e => .error e
      else if permute then (go fuel rest).map fun cl => { cl with operands := a :: cl.operands }
      else .ok ⟨[], a :: rest⟩
  go (args.length + 1) args

example : ((readCommandLine [.withArg 'n', .flag 'q'] true ["f", "-qn3", "g"]).toOption.map
    fun cl => (cl.last? "n", cl.has "q", cl.operands)) = some (some "3", true, ["f", "g"]) := by
  decide +kernel

end LineCoverage.Shell
