import LineCoverage.Shell.Tools.Options
import LineCoverage.Path
/-! The utilities that list and change the file tree: `ls`, `mkdir`, `touch`, `rm`, `cp`, `mv`,
`ln` and `tee`.

Names are listed sorted by their bytes. A failure on one name is reported, worded as the GNU
tools word it, and the others are still acted on; the status then says that something failed.
A directory moved or copied takes everything below it along.
-/

set_option autoImplicit false

namespace LineCoverage.Shell

/-- The tree with everything at and below one location also at another, below the same names;
`keep` says whether the first stays. -/
def relocate (t : FileTree) (src dst : Location) (keep : Bool) : FileTree :=
  let moved := (t.entries.filter fun (l, _) => src.isPrefixOf l).map fun (l, e) => (dst ++ l.drop src.length, e)
  let runnable := (t.executable.filter src.isPrefixOf).map fun l => dst ++ l.drop src.length
  let base := if keep then t else t.erase src
  let base := base.erase dst
  let placed := moved.foldl (fun acc (l, e) => acc.put l e) (base.withParents dst)
  { placed with executable := placed.executable ++ runnable }

def ls (c : Call) : Done :=
  let tool := c.tool "ls"
  let specs : List OptionSpec :=
    "aAd1rFpUflR".toList.map OptionSpec.flag ++
    [.alias "all" 'a' .nothing, .alias "almost-all" 'A' .nothing, .alias "directory" 'd' .nothing,
      .alias "reverse" 'r' .nothing, .alias "classify" 'F' .optional, .alias "recursive" 'R' .nothing]
  match readCommandLine specs true c.args with
  | .error e => c.answer 2 "" (e.message tool ++ tryHelp tool)
  | .ok cl =>
    let all := cl.has "a" || cl.has "f"
    let almost := cl.has "A"
    let dirOnly := cl.has "d"
    let reverse := cl.has "r"
    let classify := cl.has "F"
    let slash := cl.has "p" || classify
    let names := if cl.operands.isEmpty then ["."] else cl.operands
    let shown (n : String) : Bool := all || almost || !n.startsWith "."
    let found := names.map fun n =>
      (n, if FileTree.isNullDevice n then some (.file []) else c.tree.entryAt? c.cwd n)
    let missing := found.filter (·.2.isNone)
    let err := String.join (missing.map fun (n, _) =>
      tool ++ ": cannot access " ++ quoteAlways n ++ ": No such file or directory\n")
    let sortNames (xs : List String) : List String :=
      let sorted := xs.mergeSort fun a b => decide (a ≤ b)
      if reverse then sorted.reverse else sorted
    let mark (e : Entry) (name : String) (path : String) : String :=
      match e with
      | .dir => if slash then name ++ "/" else name
      | .link _ => if classify then name ++ "@" else name
      | .file _ =>
        if classify && (match c.tree.resolve c.cwd path with
          | .ok l => c.tree.isExecutable l
          | .error _ => false) then name ++ "*" else name
    let files := sortNames (found.filterMap fun (n, e) => match e with
      | some .dir => if dirOnly then some n else none
      | some _ => some n
      | none => none)
    let dirs := sortNames (found.filterMap fun (n, e) => match e with
      | some .dir => if dirOnly then none else some n
      | _ => none)
    let shownName (n : String) : String :=
      match c.tree.entryAt? c.cwd n with
      | some e => mark e n n
      | none => n
    let recursive := cl.has "R" && !dirOnly
    let listed (d : String) : List (String × Entry) :=
      let entries : List (String × Entry) := match c.tree.listAt c.cwd d with
        | .ok es => es
        | .error _ => []
      (if all then [(".", Entry.dir), ("..", Entry.dir)] else []) ++ entries.filter (shown ·.1)
    let listing (d : String) : String :=
      let entries := listed d
      let sorted := sortNames (entries.map (·.1))
      String.join (sorted.map fun n =>
        let e := ((entries.find? (·.1 == n)).map (·.2)).getD .dir
        mark e n (Path.join d n) ++ "\n")
    let below (d n : String) : String := if d.endsWith "/" then d ++ n else d ++ "/" ++ n
    -- every directory of a listing, and with `-R` those below it, the ones below in order after it
    let rec blocks : Nat → String → List String
      | 0, d => [d]
      | fuel + 1, d =>
        if !recursive then [d]
        else
          let subdirs := sortNames ((listed d).filterMap fun (n, e) =>
            match e with
            | .dir => if n == "." || n == ".." then none else some n
            | _ => none)
          d :: subdirs.flatMap fun n => blocks fuel (below d n)
    let many := found.length > 1
    let fileText := String.join (files.map fun n => shownName n ++ "\n")
    let depth := c.tree.entries.length + 1
    let dirTexts := dirs.flatMap fun d => (blocks depth d).map fun b =>
      if many || !missing.isEmpty || recursive then b ++ ":\n" ++ listing b else listing b
    let out := "\n".intercalate ((if fileText.isEmpty then [] else [fileText]) ++ dirTexts)
    Done.buffered (if missing.isEmpty then 0 else 2) (bytes out) (bytes err) c.tree

def mkdir (c : Call) : Done :=
  let tool := c.tool "mkdir"
  let specs : List OptionSpec :=
    [.flag 'p', .flag 'v', .withArg 'm', .alias "parents" 'p' .nothing, .alias "verbose" 'v' .nothing,
      .alias "mode" 'm' .argument]
  match readCommandLine specs true c.args with
  | .error e => c.answer 1 "" (e.message tool ++ tryHelp tool)
  | .ok cl =>
    let parents := cl.has "p"
    if cl.operands.isEmpty then c.answer 1 "" (tool ++ ": missing operand\n" ++ tryHelp tool)
    else
      let (t, out, err) := cl.operands.foldl (fun (t, out, err) d =>
        let existed := t.entryAt? c.cwd d |>.isSome
        let r := if parents then t.createDirAll c.cwd d else t.makeDirAt c.cwd d
        match r with
        | .ok t' =>
          let said := if cl.has "v" && !existed then tool ++ ": created directory " ++ quoteAlways d ++ "\n" else ""
          (t', out ++ said, err)
        | .error e => (t, out, err ++ tool ++ ": cannot create directory " ++ quoteAlways d ++ ": " ++ osText e ++ "\n"))
        (c.tree, "", "")
      Done.buffered (if err.isEmpty then 0 else 1) (bytes out) (bytes err) t

def touch (c : Call) : Done :=
  let tool := c.tool "touch"
  let specs : List OptionSpec :=
    [.flag 'a', .flag 'c', .flag 'm', .flag 'f', .flag 'h', .withArg 'd', .withArg 'r', .withArg 't',
      .alias "no-create" 'c' .nothing, .alias "date" 'd' .argument, .alias "reference" 'r' .argument,
      .alias "no-dereference" 'h' .nothing, .longOnly "time" .argument]
  match readCommandLine specs true c.args with
  | .error e => c.answer 1 "" (e.message tool ++ tryHelp tool)
  | .ok cl =>
    if cl.operands.isEmpty then c.answer 1 "" (tool ++ ": missing file operand\n" ++ tryHelp tool)
    else
      let (t, err) := cl.operands.foldl (fun (t, err) f =>
        match t.entryAt? c.cwd f with
        | some _ => (t, err)
        | none =>
          if cl.has "c" then (t, err)
          else
            match t.writeAt c.cwd f [] false with
            | .ok t' => (t', err)
            | .error e => (t, err ++ tool ++ ": cannot touch " ++ quoteAlways f ++ ": " ++ osText e ++ "\n"))
        (c.tree, "")
      Done.buffered (if err.isEmpty then 0 else 1) ([]) (bytes err) t

def rm (c : Call) : Done :=
  let tool := c.tool "rm"
  let specs : List OptionSpec :=
    [.flag 'f', .flag 'r', .flag 'R', .flag 'd', .flag 'v', .flag 'i', .flag 'I',
      .alias "force" 'f' .nothing, .alias "recursive" 'r' .nothing, .alias "dir" 'd' .nothing,
      .alias "verbose" 'v' .nothing]
  match readCommandLine specs true c.args with
  | .error e => c.answer 1 "" (e.message tool ++ tryHelp tool)
  | .ok cl =>
    let force := cl.has "f"
    let recursive := cl.has "r" || cl.has "R"
    let verbose := cl.has "v"
    if cl.operands.isEmpty then
      if force then c.answer 0 "" "" else c.answer 1 "" (tool ++ ": missing operand\n" ++ tryHelp tool)
    else
      let step (acc : FileTree × String × String) (f : String) : FileTree × String × String :=
        let (t, out, err) := acc
        let last := lastName f
        if last = "." || last = ".." then
          (t, out, err ++ tool ++ ": refusing to remove '.' or '..' directory: skipping " ++ quoteAlways f ++ "\n")
        else
        match t.linkAt? c.cwd f, t.removeFileAt c.cwd f with
        | some _, .ok t' => (t', out ++ (if verbose then "removed " ++ quoteAlways f ++ "\n" else ""), err)
        | _, _ =>
          match t.entryAt? c.cwd f, t.resolve c.cwd f with
          | some .dir, .ok l =>
            if recursive then
              let said := if verbose then
                String.join ((removedBelow t (t.entries.length + 1) l f).map (· ++ "\n")) ++
                  "removed directory " ++ quoteAlways f ++ "\n"
                else ""
              (t.erase l, out ++ said, err)
            else if cl.has "d" then
              if (t.children l).isEmpty then (t.erase l, out ++ (if verbose then "removed directory " ++ quoteAlways f ++ "\n" else ""), err)
              else (t, out, err ++ tool ++ ": cannot remove " ++ quoteAlways f ++ ": Directory not empty\n")
            else (t, out, err ++ tool ++ ": cannot remove " ++ quoteAlways f ++ ": Is a directory\n")
          | some _, .ok l => (t.erase l, out ++ (if verbose then "removed " ++ quoteAlways f ++ "\n" else ""), err)
          | _, _ =>
            if force then (t, out, err)
            else (t, out, err ++ tool ++ ": cannot remove " ++ quoteAlways f ++ ": No such file or directory\n")
      let (t, out, err) := cl.operands.foldl step (c.tree, "", "")
      Done.buffered (if err.isEmpty then 0 else 1) (bytes out) (bytes err) t
where
  lastName (p : String) : String :=
    let cs := (p.toList.reverse.dropWhile (· = '/'))
    String.ofList (cs.takeWhile (· ≠ '/')).reverse
  /-- What `rm -rv` says of everything below a directory it removes, each directory after
  what it holds. -/
  removedBelow (t : FileTree) : Nat → Location → String → List String
    | 0, _, _ => []
    | fuel + 1, l, path =>
      let joined (n : String) : String := if path.endsWith "/" then path ++ n else path ++ "/" ++ n
      (t.children l).flatMap fun (n, e) =>
        match e with
        | .dir => removedBelow t fuel (l ++ [n]) (joined n) ++ ["removed directory " ++ quoteAlways (joined n)]
        | _ => ["removed " ++ quoteAlways (joined n)]

def rmdir (c : Call) : Done :=
  let tool := c.tool "rmdir"
  let specs : List OptionSpec :=
    [.flag 'p', .flag 'v', .alias "parents" 'p' .nothing, .alias "verbose" 'v' .nothing,
      .longOnly "ignore-fail-on-non-empty" .nothing]
  match readCommandLine specs true c.args with
  | .error e => c.answer 1 "" (e.message tool ++ tryHelp tool)
  | .ok cl =>
    if cl.operands.isEmpty then c.answer 1 "" (tool ++ ": missing operand\n" ++ tryHelp tool)
    else
      let verbose := cl.has "v"
      let ignoreFull := cl.has "ignore-fail-on-non-empty"
      -- removes one directory: the tree after, or the failure and whether it is that the
      -- directory is not empty
      let removeOne (t : FileTree) (d : String) : Except (String × Bool) FileTree :=
        let last := (d.toList.reverse.dropWhile (· = '/')).reverse
        if last.reverse.takeWhile (· ≠ '/') == ['.'] then .error ("Invalid argument", false)
        else
          match t.linkAt? c.cwd (String.ofList last), t.entryAt? c.cwd d, t.resolve c.cwd d with
          | some _, _, _ => .error ("Not a directory", false)
          | none, some .dir, .ok l =>
            if (t.children l).isEmpty then .ok (t.erase l) else .error ("Directory not empty", true)
          | none, some _, _ => .error ("Not a directory", false)
          | none, none, .error e => .error (osText e, false)
          | none, none, .ok _ => .error ("No such file or directory", false)
      let parentsOf (d : String) : List String :=
        let rec up : Nat → List Char → List String
          | 0, _ => []
          | fuel + 1, cs =>
            let cs := (cs.reverse.dropWhile (· = '/')).reverse
            if !cs.contains '/' then []
            else
              let above := (cs.reverse.dropWhile (· ≠ '/')).reverse
              let above := (above.reverse.dropWhile (· = '/')).reverse
              let above := if above.isEmpty then ['/'] else above
              if above == ['/'] then [] else String.ofList above :: up fuel above
        up (d.length + 1) d.toList
      let step (acc : FileTree × String × String) (d : String) : FileTree × String × String :=
        let (t, out, err) := acc
        let out := if verbose then out ++ tool ++ ": removing directory, " ++ quoteAlways d ++ "\n" else out
        match removeOne t d with
        | .error (why, full) =>
          if full && ignoreFull then (t, out, err)
          else (t, out, err ++ tool ++ ": failed to remove " ++ quoteAlways d ++ ": " ++ why ++ "\n")
        | .ok t =>
          if !cl.has "p" then (t, out, err)
          else
            let climb (acc : FileTree × String × String × Bool) (p : String) : FileTree × String × String × Bool :=
              let (t, out, err, going) := acc
              if !going then acc
              else
                let out := if verbose then out ++ tool ++ ": removing directory, " ++ quoteAlways p ++ "\n" else out
                match removeOne t p with
                | .ok t => (t, out, err, true)
                | .error (why, full) =>
                  if full && ignoreFull then (t, out, err, false)
                  else
                    let what := if why == "Not a directory" then "failed to remove " else "failed to remove directory "
                    (t, out, err ++ tool ++ ": " ++ what ++ quoteAlways p ++ ": " ++ why ++ "\n", false)
            let (t, out, err, _) := (parentsOf d).foldl climb (t, out, err, true)
            (t, out, err)
      let (t, out, err) := cl.operands.foldl step (c.tree, "", "")
      Done.buffered (if err.isEmpty then 0 else 1) (bytes out) (bytes err) t

def baseOf (name : String) : String :=
  let cs := name.toList
  let trimmed := (cs.reverse.dropWhile (· = '/')).reverse
  if trimmed.isEmpty then (if cs.isEmpty then "" else "/")
  else String.ofList ((trimmed.reverse.takeWhile (· ≠ '/')).reverse)

/-- `cp` (`moving` off) and `mv` (`moving` on): each source to the target, or into it when it
is a directory (which it must be for several sources). `cp` copies a directory only with
`-r`; `mv` moves it with all below it. -/
def copyOrMove (moving : Bool) (c : Call) : Done :=
  let tool := c.tool (if moving then "mv" else "cp")
  let specs : List OptionSpec :=
    [.flag 'f', .flag 'i', .flag 'n', .flag 'v', .flag 'T', .withArg 't'] ++
    (if moving then [.alias "force" 'f' .nothing, .alias "no-clobber" 'n' .nothing, .alias "verbose" 'v' .nothing]
     else [.flag 'r', .flag 'R', .flag 'a', .flag 'p', .flag 'P', .flag 'L', .flag 'd',
       .alias "recursive" 'r' .nothing, .alias "archive" 'a' .nothing, .alias "force" 'f' .nothing,
       .alias "no-clobber" 'n' .nothing, .alias "verbose" 'v' .nothing, .longOnly "preserve" .optional])
  match readCommandLine specs true c.args with
  | .error e => c.answer 1 "" (e.message tool ++ tryHelp tool)
  | .ok cl =>
    let recursive := moving || cl.has "r" || cl.has "R" || cl.has "a"
    let (sources, target) : List String × Option String :=
      match cl.last? "t" with
      | some t => (cl.operands, some t)
      | none => (cl.operands.dropLast, cl.operands.getLast?)
    match cl.operands, target with
    | [], none => c.answer 1 "" (tool ++ ": missing file operand\n" ++ tryHelp tool)
    | [only], _ =>
      if cl.has "t" then
        c.answer 0 "" ""
      else c.answer 1 "" (tool ++ ": missing destination file operand after " ++ quoteAlways only ++ "\n" ++ tryHelp tool)
    | _, none => c.answer 1 "" (tool ++ ": missing file operand\n" ++ tryHelp tool)
    | _, some dst =>
      let intoDir := c.tree.isDirAt c.cwd dst && !cl.has "T"
      if sources.length > 1 && !intoDir then
        c.answer 1 "" (tool ++ ": target " ++ quoteAlways dst ++ " is not a directory\n")
      else
        let step (acc : FileTree × String × String) (src : String) : FileTree × String × String :=
          let (t, out, err) := acc
          let dest := if intoDir then Path.join dst (baseOf src) else dst
          match t.resolve c.cwd src, t.entryAt? c.cwd src with
          | .ok origin, some e =>
            match e with
            | .dir =>
              if !recursive then
                (t, out, err ++ tool ++ ": -r not specified; omitting directory " ++ quoteAlways src ++ "\n")
              else
                match t.resolveWith c.cwd dest false with
                | .error e => (t, out, err ++ tool ++ ": cannot create directory " ++ quoteAlways dest ++ ": " ++ osText e ++ "\n")
                | .ok place =>
                  if origin = place then
                    (t, out, err ++ tool ++ ": " ++ quoteAlways src ++ " and " ++ quoteAlways dest ++ " are the same file\n")
                  else if origin.isPrefixOf place then
                    let why := if moving then "cannot move " ++ quoteAlways src ++ " to a subdirectory of itself, " ++ quoteAlways dest
                      else "cannot copy a directory, " ++ quoteAlways src ++ ", into itself, " ++ quoteAlways dest
                    (t, out, err ++ tool ++ ": " ++ why ++ "\n")
                  else if (t.get? place).isSome && !t.isDir place then
                    (t, out, err ++ tool ++ ": cannot overwrite non-directory " ++ quoteAlways dest ++ " with directory " ++ quoteAlways src ++ "\n")
                  else
                    let said := if cl.has "v" then (if moving then "renamed " else "") ++ quoteAlways src ++ " -> " ++ quoteAlways dest ++ "\n" else ""
                    (relocate t origin place !moving, out ++ said, err)
            | _ =>
              match t.readAt c.cwd src with
              | .error e => (t, out, err ++ tool ++ ": cannot stat " ++ quoteAlways src ++ ": " ++ osText e ++ "\n")
              | .ok bs =>
                match t.resolve c.cwd dest with
                | .ok place =>
                  if origin = place then
                    (t, out, err ++ tool ++ ": " ++ quoteAlways src ++ " and " ++ quoteAlways dest ++ " are the same file\n")
                  else if cl.has "n" && (t.get? place).isSome then (t, out, err)
                  else
                    match t.writeAt c.cwd dest bs false with
                    | .error e => (t, out, err ++ tool ++ ": cannot create regular file " ++ quoteAlways dest ++ ": " ++ osText e ++ "\n")
                    | .ok t' =>
                      let runnable := t.isExecutable origin
                      let t' := t'.setExecutable place runnable
                      let t' := if moving then t'.erase origin else t'
                      let said := if cl.has "v" then (if moving then "renamed " else "") ++ quoteAlways src ++ " -> " ++ quoteAlways dest ++ "\n" else ""
                      (t', out ++ said, err)
                | .error _ =>
                  match t.writeAt c.cwd dest bs false with
                  | .error e => (t, out, err ++ tool ++ ": cannot create regular file " ++ quoteAlways dest ++ ": " ++ osText e ++ "\n")
                  | .ok t' =>
                    let t' := if moving then t'.erase origin else t'
                    (t', out, err)
          | _, _ => (t, out, err ++ tool ++ ": cannot stat " ++ quoteAlways src ++ ": No such file or directory\n")
        let (t, out, err) := sources.foldl step (c.tree, "", "")
        Done.buffered (if err.isEmpty then 0 else 1) (bytes out) (bytes err) t

def linkOne (c : Call) (t : FileTree) (hard force : Bool) (target name : String) :
    Except String FileTree :=
  let kind := if hard then "hard link" else "symbolic link"
  let made : Except OsError FileTree :=
    if hard then
      match t.readAt c.cwd target with
      | .ok bs =>
        match t.entryAt? c.cwd name, t.linkAt? c.cwd name with
        | none, none => t.writeAt c.cwd name bs false
        | _, _ => .error .alreadyExists
      | .error e => .error e
    else t.linkAt c.cwd name target
  let made := match made with
    | .error .alreadyExists =>
      if force then
        match t.removeFileAt c.cwd name with
        | .ok t' => if hard then (t'.readAt c.cwd target).bind fun bs => t'.writeAt c.cwd name bs false
          else t'.linkAt c.cwd name target
        | .error e => .error e
      else .error .alreadyExists
    | r => r
  match made, hard && !(t.entryAt? c.cwd target).isSome with
  | _, true => .error ("ln: failed to access " ++ quoteAlways target ++ ": No such file or directory\n")
  | .ok t', _ => .ok t'
  | .error .isDirectory, _ =>
    if hard then .error ("ln: " ++ quoteAlways target ++ ": hard link not allowed for directory\n")
    else .error ("ln: failed to create " ++ kind ++ " " ++ quoteAlways name ++ ": File exists\n")
  | .error e, _ => .error ("ln: failed to create " ++ kind ++ " " ++ quoteAlways name ++ ": " ++ osText e ++ "\n")

def ln (c : Call) : Done :=
  let tool := c.tool "ln"
  let specs : List OptionSpec :=
    [.flag 's', .flag 'f', .flag 'n', .flag 'v', .flag 'T', .flag 'r', .flag 'L', .flag 'P', .flag 'i',
      .alias "symbolic" 's' .nothing, .alias "force" 'f' .nothing, .alias "no-dereference" 'n' .nothing,
      .alias "verbose" 'v' .nothing, .alias "relative" 'r' .nothing]
  match readCommandLine specs true c.args with
  | .error e => c.answer 1 "" (e.message tool ++ tryHelp tool)
  | .ok cl =>
    let hard := !cl.has "s"
    let force := cl.has "f"
    let noDeref := cl.has "n"
    let ops := cl.operands
    let intoDir (d : String) : Bool := c.tree.isDirAt c.cwd d && !(noDeref && (c.tree.linkAt? c.cwd d).isSome)
    let pairs : Except String (List (String × String)) := match ops with
      | [] => .error (tool ++ ": missing file operand\n" ++ tryHelp tool)
      | [target] => .ok [(target, baseOf target)]
      | [target, name] => .ok [(target, if intoDir name then Path.join name (baseOf target) else name)]
      | _ =>
        let dir := ops.getLast?.getD ""
        if intoDir dir then .ok (ops.dropLast.map fun x => (x, Path.join dir (baseOf x)))
        else .error (tool ++ ": target " ++ quoteAlways dir ++ " is not a directory\n")
    match pairs with
    | .error e => c.answer 1 "" e
    | .ok ps =>
      let (t, err) := ps.foldl (fun (t, err) (target, name) =>
        match linkOne c t hard force target name with
        | .ok t' => (t', err)
        | .error e => (t, err ++ e)) (c.tree, "")
      Done.buffered (if err.isEmpty then 0 else 1) ([]) (bytes err) t

def tee (c : Call) : Done :=
  let tool := c.tool "tee"
  let specs : List OptionSpec :=
    [.flag 'a', .flag 'i', .flag 'p', .alias "append" 'a' .nothing, .alias "ignore-interrupts" 'i' .nothing]
  match readCommandLine specs true c.args with
  | .error e => c.answer 1 "" (e.message tool ++ tryHelp tool)
  | .ok cl =>
    let keep := cl.has "a"
    let (t, err) := cl.operands.foldl (fun (t, err) f =>
      match t.writeAt c.cwd f c.stdin keep with
      | .ok t' => (t', err)
      | .error e => (t, err ++ tool ++ ": " ++ quoteIfNeeded f ++ ": " ++ osText e ++ "\n")) (c.tree, "")
    Done.buffered (if err.isEmpty then 0 else 1) (c.stdin) (bytes err) t

end LineCoverage.Shell
