import LineCoverage.Report.Basic
import LineCoverage.Stats.Format
import LineCoverage.Text.Blank
import LineCoverage.Text.Lines
import LineCoverage.Text.Lowercase
import LineCoverage.Digest.Md5
/-! The HTML report: an index page with the commit and a table of statistics per directory
and file, and one annotated listing page per covered file, named after the file's digest.

Every text taken from a snapshot or a source file is escaped before it is placed in a page,
so no such text can open or close an element or an attribute.
-/

set_option autoImplicit false

namespace LineCoverage.Report

/-- The entity of each of the four characters that are markup in element bodies and attribute
values; any other character stands for itself. -/
def escapeChar : Char → List Char
  | '&' => "&amp;".toList
  | '<' => "&lt;".toList
  | '>' => "&gt;".toList
  | '"' => "&quot;".toList
  | c => [c]

def replaceAll (s : String) (c : Char) (r : String) : String :=
  String.ofList (s.toList.flatMap fun x => if x = c then r.toList else [x])

/-- Text made safe for element bodies and attribute values: four replacements over the whole
text, the ampersand first. -/
def escape (s : String) : String :=
  replaceAll (replaceAll (replaceAll (replaceAll s '&' "&amp;") '<' "&lt;") '>' "&gt;") '"' "&quot;"

example : escape "a<b>&\"c\"" = "a&lt;b&gt;&amp;&quot;c&quot;" := by decide +kernel

def listingFileName (digest : String) : String := digest ++ ".html"

/-- The avatar image of an address: the digest of its lowercase form, falling back to a
generic figure. -/
def gravatarUrl (email : String) : String :=
  let digest := Digest.hex (Digest.md5 (Text.toLower email).toUTF8.toList)
  s!"https://www.gravatar.com/avatar/{digest}?s=96&amp;d=mp"

def stylesheet : String := "\n".intercalate [
  "*, td, th \x7b box-sizing: border-box; \x7d",
  "body, td, th \x7b font-family: \"Segoe UI\", Candara, \"DejaVu Sans\", Verdana, sans-serif; \x7d",
  "div.content \x7b max-width: 1000px; margin: 0 auto; \x7d",
  "",
  "table.listing \x7b width: 100%; padding: 1em; border-collapse: separate; border-spacing: 0; \x7d",
  "table.listing tr td \x7b color: #555; font-family: monospace; padding: 0 1em; background: rgba(192,192,192,0.1); \x7d",
  "table.listing tr.success td \x7b background: rgba(208,233,153,0.2); \x7d",
  "table.listing tr.error td \x7b background: rgba(216,134,123,0.2); \x7d",
  "table.listing a \x7b color: inherit; text-decoration: none; \x7d",
  "table.listing td:nth-child(odd) \x7b text-align: right; \x7d",
  "table.listing td:nth-child(1) \x7b border-right: solid 1px #ddd; \x7d",
  "table.listing td:nth-child(2) \x7b border-left: solid 1px #fff; \x7d",
  "table.listing td:nth-child(3) \x7b font-size: smaller; \x7d",
  "table.listing pre \x7b margin: 0; word-wrap: break-word; \x7d",
  "",
  "table.stats \x7b border-collapse: collapse; font-size: .9em; width: 100% \x7d",
  "table.stats th \x7b font-size: 1.1em \x7d",
  "table.stats th, table.stats td \x7b padding: 0.2em \x7d",
  "table.stats th, td.value \x7b text-align: right; padding-left: .5em \x7d",
  "table.stats th:first-child \x7b text-align: left; padding-left: .2em \x7d",
  "table.stats th, tr.total td.name \x7b font-variant: small-caps \x7d",
  "",
  "td.same, td.up, td.down \x7b padding-right: .83333em; padding-left: .33333em; font-size: .7em \x7d",
  ".ind \x7b color: gray; font-size: 2em; font-family: monospace; margin-right: .3em \x7d",
  ".ind-up:before \x7b content: \"\\25b2\" \x7d",
  ".ind-down:before \x7b content: \"\\25bc\" \x7d",
  "td.same .ind \x7b display: none \x7d",
  "td.up \x7b color: green \x7d",
  "td.down \x7b color: red \x7d",
  "td.up .ind-up \x7b color: #4a4 \x7d",
  "td.down .ind-down \x7b color: red \x7d",
  "td.up .ind-down, td.down .ind-up \x7b display: none \x7d",
  "",
  "tr.total td.name \x7b font-style: italic \x7d",
  "tr.filler td \x7b padding-top: .5em; padding-bottom: .5em; \x7d",
  "tr.file td.name a, tr.file td.name del \x7b padding-left: 2.2em; display: inline-block; min-width: 100% \x7d",
  "tr.file td.name a \x7b color: inherit; text-decoration: none; \x7d",
  "tr.file td.name a:hover \x7b text-decoration: underline; \x7d",
  "tr.file td.name del \x7b color: #555; \x7d",
  "tr.total td, tr.dir td \x7b font-weight: bolder \x7d",
  "",
  "thead tr \x7b background: #111; color: #f5f5f5 \x7d",
  "tr.dir, tr.total \x7b background: #eee \x7d",
  "tr.file:nth-child(odd) \x7b background: #f5f5f5 \x7d",
  "tr.file:nth-child(even) \x7b background: #fcfcfc \x7d",
  "",
  "tr td.cov-bad \x7b background: rgba(255, 0, 0, .1) \x7d",
  "tr td.cov-ok \x7b background: rgba(255, 255, 0, .1) \x7d",
  "tr td.cov-good \x7b background: rgba(0, 255, 0, .1) \x7d",
  "tr td.value.cov-bad \x7b color: #c44 \x7d",
  "tr td.value.cov-ok \x7b color: #883 \x7d",
  "tr td.value.cov-good \x7b color: #080 \x7d",
  "tr td.value.missed-lines \x7b font-style: italic \x7d",
  "",
  "table#commit \x7b border-collapse: collapse; width: 100%; margin-bottom: 2em; \x7d",
  "table#commit td.label \x7b color: silver; text-align: right; padding-right: 1em; font-size: .8em; font-weight: bold; \x7d",
  "table#commit h4 \x7b padding-top: 1em; \x7d"]

def indicator : String :=
  "<span class=\"ind\"><span class=\"ind-up\"></span><span class=\"ind-down\"></span></span>"

def deltaCells {α : Type} (d : Delta α) (conv : α → String) (extra : Option String) : String :=
  let cls := (extra.map (" " ++ ·)).getD ""
  let sign := d.trend.sign
  let diff := if sign.isEmpty then "" else s!"<span class=\"diff\">{sign}{conv d.magnitude}</span>"
  s!"<td class=\"value{cls}\">{conv d.current}</td><td class=\"{d.trend.name}{cls}\">{indicator}{diff}</td>"

def statsCells (s : Stats) (d : StatsDelta) : String :=
  let covClass := "cov cov-" ++ s.severity.name
  let missedClass := if s.missedLines = 0 then "missed missed-nothing" else "missed missed-lines"
  String.join
    [ deltaCells d.coverage formatPercent (some covClass)
    , deltaCells d.total toString none
    , deltaCells d.relevant toString none
    , deltaCells d.covered toString none
    , deltaCells d.missed toString (some missedClass)
    , deltaCells d.average formatAverage none ]

def personRow (label ident name email : String) : String :=
  s!"<tr><td class=\"label\">{label}</td><td id=\"{ident}\" title=\"{escape email}\">" ++
    s!"<img src=\"{gravatarUrl email}\" width=\"16px\" height=\"16px\"/> {escape name}</td></tr>\n"

def commitTable (git : GitInfo) : String :=
  let head := git.head
  let (subject, body) := head.subjectAndBody
  let committer :=
    if head.author = head.committer then ""
    else personRow "Committed&nbsp;by" "committer" head.committerName head.committerEmail
  let bodyText :=
    if (Text.trim body).isEmpty then "" else s!"\n<pre>{escape (Text.trimEnd body)}</pre>"
  "<table id=\"commit\">\n" ++ personRow "Author" "author" head.authorName head.authorEmail ++
    committer ++
    s!"<tr><td class=\"label\">Commit</td><td>{escape head.id}</td></tr>\n" ++
    s!"<tr><td class=\"label\">Branch</td><td>{escape git.branch}</td></tr>\n" ++
    s!"<tr><td class=\"label\">&nbsp;</td><td><h4>{escape subject}</h4>" ++ bodyText ++
    "</td></tr>\n</table>\n\n"

/-- A file's row: a link to its listing at its first relevant line, or struck out when the
file is gone from the current snapshot. -/
def fileRow (f : FileReport) : String :=
  let cells := statsCells f.stats f.delta
  let name := escape (baseName f.name)
  match f.digest with
  | none => s!"<tr class=\"file\"><td class=\"name\"><del>{name}</del></td>{cells}</tr>"
  | some digest =>
    s!"<tr class=\"file\"><td class=\"name\"><a href=\"{escape (listingFileName digest)}#L{f.anchorLine}\">" ++
      s!"{name}</a></td>{cells}</tr>"

def statsTitles : List String := ["Coverage", "Total", "Relevant", "Covered", "Missed", "Hits/Line"]

/-- The rows of one directory, labelled by the name it is filed under: a filler row, its own
row, and one per file under it. -/
def directoryRows (r : Rollup) (name : String) (d : DirectoryReport) : String :=
  s!"<tr class=\"filler\"><td colspan=\"13\">&nbsp;</td></tr>\n<tr class=\"dir\"><td class=\"name\">" ++
    s!"{escape (dirLabel name)}</td>{statsCells d.stats d.delta}</tr>\n" ++
    String.join ((r.filesIn d).map fun f => fileRow f ++ "\n")

def pageHead (title : String) : String :=
  s!"<html>\n<head>\n<title>{title}</title>\n<style type=\"text/css\">\n{stylesheet}\n</style>\n</head>\n<body>\n"

def index (report : CoverageReport) : String :=
  let r := report.rollup
  pageHead "Coverage" ++ "<div class=\"content\">\n<h1>Coverage</h1>\n\n" ++ commitTable report.git ++
    "<table class=\"stats\">\n<thead><tr><th>Name</th>" ++
    String.join (statsTitles.map fun t => s!"<th>{t}</th><th>&nbsp;</th>") ++ "</tr></thead>\n" ++
    s!"<tr class=\"total\"><td class=\"name\">(Total)</td>{statsCells r.total r.delta}</tr>\n" ++
    String.join (r.dirs.toList.map fun (name, d) => directoryRows r name d) ++
    "</table>\n</div>\n</body>\n</html>\n"

/-- One listing row: number, code, and the hits of a relevant line; covered lines are marked
as a success and relevant uncovered ones as an error. -/
def listingRow (coverage : List (Option Nat)) (idx : Nat) (code : String) : String :=
  let lineno := idx + 1
  let (cls, hits) : String × String :=
    match coverage[idx]?.getD none with
    | none => ("", "")
    | some 0 => (" class=\"error\"", "")
    | some n => (" class=\"success\"", s!"<a href=\"#L{lineno}\">{n}&times;</a>")
  s!"<tr{cls}><td><a name=\"L{lineno}\"></a><a href=\"#L{lineno}\">{lineno}</a></td>" ++
    s!"<td><a href=\"#L{lineno}\"><pre>{escape code}</pre></a></td><td>{hits}</td></tr>\n"

def listing (f : FileReport) (content : String) : String :=
  let name := escape f.name
  let rows := (Text.lines content).zipIdx.map fun (code, idx) => listingRow f.coverage idx code
  pageHead s!"{name} &mdash; Coverage" ++ s!"<h1>{name}</h1>\n<div class=\"content\">\n<table class=\"listing\">\n" ++
    String.join rows ++ "</table>\n</div>\n</body>\n</html>\n"

end LineCoverage.Report
