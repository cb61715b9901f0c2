import LineCoverage.Report.Basic
import LineCoverage.Stats.Format
import LineCoverage.Text.Blank
import LineCoverage.Text.Lines
/-! The plain-text report: a commit header, then one line of five columns for the total, each
directory and each file under it.

A column holds the current value right-aligned, a two-wide change sign, and the size of the
change left-aligned in the same width as the value; sign and change are blank when nothing
changed.
-/

set_option autoImplicit false

namespace LineCoverage.Report

def columnTitles : String :=
  "COVERAGE             TOTAL           RELEVANT            COVERED            HITS/LINE             NAME"

def column {α : Type} (d : Delta α) (conv : α → String) (width : Nat) : String :=
  let sign := d.trend.sign
  let magnitude := if sign.isEmpty then "" else conv d.magnitude
  Text.padLeft width (conv d.current) ++ Text.padLeft 2 sign ++ Text.padRight width magnitude

def statsColumns (d : StatsDelta) : String :=
  " ".intercalate
    [ column d.coverage formatPercent 7
    , column d.total toString 8
    , column d.relevant toString 8
    , column d.covered toString 8
    , column d.average formatAverage 10 ]

/-- Branch, commit and people, then the message with trailing blanks dropped, indented by
four spaces. The committer is named only when it differs from the author. -/
def gitHeader (git : GitInfo) : String :=
  let head := git.head
  let people :=
    s!"author: {head.author}\n" ++
      (if head.author = head.committer then "" else s!"committer: {head.committer}\n")
  let message := (Text.lines (Text.trimEnd head.message)).map (fun line => s!"    {line}\n")
  s!"branch: {git.branch}\ncommit: {head.id}\n" ++ people ++ "\n" ++ String.join message ++ "\n"

/-- The lines of one directory: its own, one per file under it, and a blank line. -/
def directoryLines (r : Rollup) (d : DirectoryReport) : String :=
  let files := (r.filesIn d).map fun f => s!" {statsColumns f.delta}     {baseName f.name}\n"
  s!" {statsColumns d.delta} {dirLabel d.name}\n" ++ String.join files ++ "\n"

def text (report : CoverageReport) : String :=
  let r := report.rollup
  gitHeader report.git ++ columnTitles ++ "\n" ++ s!" {statsColumns r.delta} TOTAL\n" ++ "\n" ++
    String.join (r.dirs.toList.map fun (_, d) => directoryLines r d)

end LineCoverage.Report
