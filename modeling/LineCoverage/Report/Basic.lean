import LineCoverage.Rollup
import LineCoverage.Text.Pad
/-! A coverage report: the commit a snapshot was taken at, beside the snapshot's statistics
rolled up by file and directory, with those of a previous snapshot. Both output formats
(plain text and the HTML pages) read this one value.
-/

set_option autoImplicit false

namespace LineCoverage

structure CoverageReport where
  git : GitInfo
  rollup : Rollup

def CoverageReport.build (current : Snapshot) (previous : Option Snapshot) : CoverageReport :=
  ⟨current.git, Rollup.build current previous⟩

def dirLabel (name : String) : String := if name.isEmpty then "." else name

end LineCoverage
