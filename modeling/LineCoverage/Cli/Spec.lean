import LineCoverage.Text.Pad
/-! The command line of the program: its subcommands and their options, and the help and
usage texts made from them.

Every option is long-only and takes one value, except the flags, which take none. A command's
help shows its description, its usage, and a table of its options: each row is the option
with its value name, padded to the widest, then its help, with the default when there is
one. Every command has `-h, --help`; the program itself also has `-V, --version` and the
`help` subcommand.
-/

set_option autoImplicit false

namespace LineCoverage.Cli

/-- An option: its long name, the name of its value (none for a flag), its help, whether it
must be given, and its default. -/
structure Opt where
  long : String
  valueName : Option String := none
  help : String
  required : Bool := false
  default : Option String := none
  deriving DecidableEq, Repr

/-- How an option is written in usages and messages: `--in <INPUT>`, or `--dirty`. -/
def Opt.display (o : Opt) : String :=
  match o.valueName with
  | some v => "--" ++ o.long ++ " <" ++ v ++ ">"
  | none => "--" ++ o.long

structure Sub where
  name : String
  about : String
  opts : List Opt

def programName : String := "gcovrs"

def programVersion : String := "0.1.0"

def programAbout : String :=
  "Aggregate gcov coverage into a Coveralls-style snapshot and render text/HTML reports"

def collectSub : Sub :=
  { name := "collect"
    about := "Run gcov over a build tree and write a Coveralls JSON snapshot"
    opts :=
      [ { long := "git", valueName := some "GIT", help := "Path to the git binary", default := some "git" },
        { long := "gcov", valueName := some "GCOV", help := "Path to the gcov program", required := true },
        { long := "src-dir", valueName := some "SRC_DIR", help := "Directory for source files", required := true },
        { long := "bin-dir", valueName := some "BIN_DIR", help := "Directory for generated files", required := true },
        { long := "int-dir", valueName := some "INT_DIR", help := "Directory for temporary gcov files",
          required := true },
        { long := "dirs", valueName := some "DIRS", help := "Relevant source directories, separated with ':'",
          required := true },
        { long := "out", valueName := some "OUT", help := "Output JSON file", required := true } ] }

def reportSub : Sub :=
  { name := "report"
    about := "Print a coverage report, optionally diffed and rendered as HTML"
    opts :=
      [ { long := "in", valueName := some "INPUT", help := "Coverage JSON file", required := true },
        { long := "prev", valueName := some "PREV", help := "Coverage JSON file of the previous build" },
        { long := "out", valueName := some "OUT", help := "Output directory for the HTML report" },
        { long := "dirty", help := "Read listings from the working tree instead of the recorded commit" },
        { long := "git", valueName := some "GIT", help := "Path to the git binary", default := some "git" } ] }

def subs : List Sub := [collectSub, reportSub]

def helpAbout : String := "Print this message or the help of the given subcommand(s)"

def table (rows : List (String × String)) : String :=
  let width := rows.foldl (fun w r => max w r.1.length) 0
  String.join (rows.map fun (l, r) => "  " ++ Text.padRight (width + 2) l ++ r ++ "\n")

def Opt.helpText (o : Opt) : String :=
  match o.default with
  | some d => o.help ++ " [default: " ++ d ++ "]"
  | none => o.help

def Sub.display (s : Sub) (long : String) : String :=
  match s.opts.find? (·.long == long) with
  | some o => o.display
  | none => "--" ++ long

/-- The usage of a subcommand naming every required option, then the other options used, in
the order they were used. -/
def Sub.smartUsage (s : Sub) (used : List String) : String :=
  let required := s.opts.filter (·.required)
  let extra := (used.filter fun u => !required.any (·.long == u)).eraseDups
  " ".intercalate ([programName, s.name] ++ required.map Opt.display ++ extra.map s.display)

def Sub.usage (s : Sub) : String :=
  let optional := s.opts.any fun o => !o.required
  " ".intercalate ([programName, s.name] ++ (if optional then ["[OPTIONS]"] else []) ++
    (s.opts.filter (·.required)).map Opt.display)

def Sub.help (s : Sub) : String :=
  s.about ++ "\n\nUsage: " ++ s.usage ++ "\n\nOptions:\n" ++
    table ((s.opts.map fun o => ("    " ++ o.display, o.helpText)) ++ [("-h, --help", "Print help")])

def rootUsage : String := programName ++ " <COMMAND>"

def rootHelp : String :=
  programAbout ++ "\n\nUsage: " ++ rootUsage ++ "\n\nCommands:\n" ++
    table ((subs.map fun s => (s.name, s.about)) ++ [("help", helpAbout)]) ++
    "\nOptions:\n" ++ table [("-h, --help", "Print help"), ("-V, --version", "Print version")]

def helpHelp : String :=
  helpAbout ++ "\n\nUsage: " ++ programName ++ " help [COMMAND]...\n\nArguments:\n" ++
    table [("[COMMAND]...", "Print help for the subcommand(s)")]

def versionText : String := programName ++ " " ++ programVersion ++ "\n"

end LineCoverage.Cli
