import LineCoverage.Collect.Pipeline
import LineCoverage.Report.Pages
import LineCoverage.Report.Text
/-! The two commands of the program.

`collect` gathers coverage from a build tree and writes the snapshot file; the CI service is
read from `TRAVIS_JOB_ID` and `COVERALLS_REPO_TOKEN`. `report` prints the text report of a
snapshot, compared with an earlier one when it is named, and with an output directory also
writes the HTML tree; its listings come from the commit the snapshot names, or with
`dirty` from the working tree, both found from the top of the repository holding the working
directory.
-/

set_option autoImplicit false

namespace LineCoverage

def collectCommand (m : Machine) (opts : CollectOptions) (out : String) : Worked String :=
  let service := ServiceInfo.ofJob (m.var? "TRAVIS_JOB_ID") (m.var? "COVERALLS_REPO_TOKEN")
  let w := collect m opts service
  match w.result with
  | .error f => ⟨w.tree, .error f⟩
  | .ok snap =>
    match w.tree.saveSnapshot m.cwd out snap with
    | .error e => ⟨w.tree, .error (.context ("Failed to write " ++ out) (.ofError e))⟩
    | .ok t =>
      ⟨t, .ok ("Wrote coverage of " ++ toString snap.sourceFiles.length ++ " files to " ++ out ++ "\n")⟩

structure ReportOptions where
  input : String
  previous : Option String := none
  out : Option String := none
  dirty : Bool := false
  git : String := "git"

def committedSource (m : Machine) (git root commit : String) : Report.ListingSource := fun t name =>
  (Git.Query.mk git root).show { m with tree := t } commit name

def reportCommand (m : Machine) (opts : ReportOptions) : Worked String :=
  match m.tree.loadSnapshot m.cwd opts.input with
  | .error e => ⟨m.tree, .error (.context ("Failed to read " ++ opts.input) (.ofError e))⟩
  | .ok current =>
    let previous := opts.previous.map (m.tree.loadPrevious m.cwd)
    let report := CoverageReport.build current previous
    let text := Report.text report
    match opts.out with
    | none => ⟨m.tree, .ok text⟩
    | some outDir =>
      match (Git.Query.mk opts.git m.cwdPath).toplevel m with
      | .error f => ⟨m.tree, .error f⟩
      | .ok root =>
        let source := if opts.dirty then Report.workingTreeSource m.cwd root
          else committedSource m opts.git root current.git.head.id
        let w := Report.writeReport m.tree m.cwd outDir report source
        match w.outcome with
        | .error f => ⟨w.tree, .error f⟩
        | .ok () => ⟨w.tree, .ok text⟩

end LineCoverage
