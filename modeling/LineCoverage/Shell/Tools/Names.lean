import LineCoverage.Shell.Tools.Options
/-! `basename` and `dirname`: the last component of a file name, and the directory part.

Trailing slashes do not count: the last component of `a/b/` is `b`, and a name of slashes
only is the root `/`. A suffix is taken off a last component only when something of it is
left. The directory part of a name without a slash is `.`.
-/

set_option autoImplicit false

namespace LineCoverage.Shell

/-- The last component of a name, its trailing slashes dropped; the root for a name of
slashes, and the empty name for the empty name. -/
def lastComponent (name : String) : String :=
  let cs := name.toList
  let trimmed := (cs.reverse.dropWhile (· = '/')).reverse
  if trimmed.isEmpty then (if cs.isEmpty then "" else "/")
  else String.ofList ((trimmed.reverse.takeWhile (· ≠ '/')).reverse)

/-- A last component without a suffix, when the suffix ends it and is not all of it; the root
keeps any suffix. -/
def dropSuffix (base suffix : String) : String :=
  if !suffix.isEmpty && base.endsWith suffix && base.length > suffix.length && !base.startsWith "/" then
    String.ofList (base.toList.take (base.length - suffix.length))
  else base

def directoryPart (name : String) : String :=
  let cs := (name.toList.reverse.dropWhile (· = '/')).reverse
  if cs.isEmpty then (if name.isEmpty then "." else "/")
  else
    let parent := (cs.reverse.dropWhile (· ≠ '/')).reverse
    let parent := (parent.reverse.dropWhile (· = '/')).reverse
    if parent.isEmpty then (if cs.head? = some '/' then "/" else ".") else String.ofList parent

def basename (c : Call) : Done :=
  let tool := c.tool "basename"
  let specs : List OptionSpec :=
    [.flag 'a', .withArg 's', .flag 'z', .alias "multiple" 'a' .nothing, .alias "suffix" 's' .argument,
      .alias "zero" 'z' .nothing]
  match readCommandLine specs false c.args with
  | .error e => c.answer 1 "" (e.message tool ++ tryHelp tool)
  | .ok cl =>
    let ending := if cl.has "z" then "\x00" else "\n"
    let suffix := cl.last? "s"
    let many := cl.has "a" || suffix.isSome
    let shown (name : String) (sfx : Option String) : String :=
      dropSuffix (lastComponent name) (sfx.getD "") ++ ending
    match cl.operands, many with
    | [], _ => c.answer 1 "" (tool ++ ": missing operand\n" ++ tryHelp tool)
    | names, true => c.answer 0 (String.join (names.map (shown · suffix))) ""
    | [name], false => c.answer 0 (shown name none) ""
    | [name, sfx], false => c.answer 0 (shown name (some sfx)) ""
    | _ :: _ :: extra :: _, false =>
      c.answer 1 "" (tool ++ ": extra operand " ++ quoteAlways extra ++ "\n" ++ tryHelp tool)

def dirname (c : Call) : Done :=
  let tool := c.tool "dirname"
  let specs : List OptionSpec := [.flag 'z', .alias "zero" 'z' .nothing]
  match readCommandLine specs true c.args with
  | .error e => c.answer 1 "" (e.message tool ++ tryHelp tool)
  | .ok cl =>
    let ending := if cl.has "z" then "\x00" else "\n"
    match cl.operands with
    | [] => c.answer 1 "" (tool ++ ": missing operand\n" ++ tryHelp tool)
    | names => c.answer 0 (String.join (names.map fun n => directoryPart n ++ ending)) ""

example : lastComponent "/a/b/" = "b" := by decide +kernel
example : dropSuffix "a.c" "a.c" = "a.c" := by decide +kernel
example : directoryPart "a" = "." := by decide +kernel

end LineCoverage.Shell
