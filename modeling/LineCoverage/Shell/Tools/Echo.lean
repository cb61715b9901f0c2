import LineCoverage.Shell.Tools.Options
/-! The small utilities: `echo` as a program, `true`, `false`, `sleep`, `env` and `printenv`.

The program `echo` reads options only from its first arguments, and only those made of the
letters `n`, `e` and `E`: `-n` drops the final line break and `-e` turns on backslash escapes,
which `\c` cuts short. Any other argument is printed as it is.
-/

set_option autoImplicit false

namespace LineCoverage.Shell

def echoProgramEscapes : List Char → List Char × Bool
  | [] => ([], false)
  | '\\' :: c :: rest =>
    let simple (x : Char) : List Char × Bool :=
      let (more, stop) := echoProgramEscapes rest
      (x :: more, stop)
    match c with
    | 'a' => simple (Char.ofNat 7)
    | 'b' => simple (Char.ofNat 8)
    | 'c' => ([], true)
    | 'e' => simple (Char.ofNat 27)
    | 'f' => simple (Char.ofNat 12)
    | 'n' => simple '\n'
    | 'r' => simple '\r'
    | 't' => simple '\t'
    | 'v' => simple (Char.ofNat 11)
    | '\\' => simple '\\'
    | '0' =>
      let ds := (rest.takeWhile fun d => '0' ≤ d && d ≤ '7').take 3
      let v := ds.foldl (fun acc d => acc * 8 + (d.toNat - 48)) 0
      let (more, stop) := echoProgramEscapes (rest.drop ds.length)
      (Char.ofNat (v % 256) :: more, stop)
    | 'x' =>
      let hexValue (d : Char) : Option Nat :=
        if d.isDigit then some (d.toNat - 48)
        else if 'a' ≤ d && d ≤ 'f' then some (d.toNat - 87)
        else if 'A' ≤ d && d ≤ 'F' then some (d.toNat - 55)
        else none
      let ds := (rest.takeWhile fun d => (hexValue d).isSome).take 2
      if ds.isEmpty then
        let (more, stop) := echoProgramEscapes (c :: rest)
        ('\\' :: more, stop)
      else
        let v := ds.foldl (fun acc d => acc * 16 + (hexValue d).getD 0) 0
        let (more, stop) := echoProgramEscapes (rest.drop ds.length)
        (Char.ofNat v :: more, stop)
    | _ =>
      if '1' ≤ c && c ≤ '7' then
        let ds := (rest.takeWhile fun d => '0' ≤ d && d ≤ '7').take 2
        let v := ds.foldl (fun acc d => acc * 8 + (d.toNat - 48)) (c.toNat - 48)
        let (more, stop) := echoProgramEscapes (rest.drop ds.length)
        (Char.ofNat (v % 256) :: more, stop)
      else
        let (more, stop) := echoProgramEscapes (c :: rest)
        ('\\' :: more, stop)
  | c :: rest =>
    let (more, stop) := echoProgramEscapes rest
    (c :: more, stop)
termination_by cs => cs.length

def echoProgram (c : Call) : Done :=
  let isOption (a : String) : Bool :=
    a.length > 1 && a.startsWith "-" && (a.toList.drop 1).all fun x => x = 'n' || x = 'e' || x = 'E'
  let opts := c.args.takeWhile isOption
  let words := c.args.drop opts.length
  let letters := opts.flatMap fun o => o.toList.drop 1
  let newline := !letters.contains 'n'
  let escapes := letters.foldl (fun on x => if x = 'e' then true else if x = 'E' then false else on) false
  if !escapes then
    c.answer 0 (" ".intercalate words ++ (if newline then "\n" else "")) ""
  else
    let rec emit : List String → Bool → String × Bool
      | [], _ => ("", false)
      | w :: ws, first =>
        let (text, stop) := echoProgramEscapes w.toList
        let here := (if first then "" else " ") ++ String.ofList text
        if stop then (here, true)
        else
          let (more, stopped) := emit ws false
          (here ++ more, stopped)
    let (text, stopped) := emit words true
    c.answer 0 (text ++ (if newline && !stopped then "\n" else "")) ""

def printenv (c : Call) : Done :=
  match c.args with
  | [] => c.answer 0 (String.join (c.env.map fun (k, v) => k ++ "=" ++ v ++ "\n")) ""
  | names =>
    let found := names.filterMap fun n => (c.env.find? (·.1 == n)).map (·.2)
    c.answer (if found.length = names.length then 0 else 1) (String.join (found.map (· ++ "\n"))) ""

/-- `sleep`: waits for no time at all, but wants a duration. -/
def sleep (c : Call) : Done :=
  let tool := c.tool "sleep"
  let valid (a : String) : Bool :=
    let body := match a.toList.getLast? with
      | some 's' | some 'm' | some 'h' | some 'd' => a.toList.dropLast
      | _ => a.toList
    !body.isEmpty && body.all (fun x => x.isDigit || x = '.') && body.any Char.isDigit &&
      body.count '.' ≤ 1
  match c.args with
  | [] => c.answer 1 "" (tool ++ ": missing operand\n" ++ tryHelp tool)
  | args =>
    match args.find? (!valid ·) with
    | some a => c.answer 1 "" (tool ++ ": invalid time interval " ++ quoteAlways a ++ "\n" ++ tryHelp tool)
    | none => c.answer 0 "" ""

example : (echoProgramEscapes "a\\tb\\c".toList) = (['a', '\t', 'b'], true) := by decide +kernel

end LineCoverage.Shell
