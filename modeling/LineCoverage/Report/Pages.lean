import LineCoverage.Report.Html
import LineCoverage.FileTree.System
import LineCoverage.Failure
import LineCoverage.Text.Utf8
/-! Writing the HTML report into a directory of a file tree: the index page first, then the
listing of every file still present in the current snapshot, in order of file name. A file
gone from the current snapshot has no digest and gets no listing.

Writing stops at the first failure; the pages written before it stay.
-/

set_option autoImplicit false

namespace LineCoverage.Report

/-- Where a listing takes the text of a file from, by the file's name in the snapshot, as
the tree stands when the listing is written. -/
abbrev ListingSource := FileTree → String → Except Failure String

structure Written where
  tree : FileTree
  outcome : Except Failure Unit

def workingTreeSource (cwd : Location) (root : String) : ListingSource := fun t name =>
  let path := Path.join root name
  match t.readAt cwd path with
  | .ok bytes => .ok (Text.Utf8.decodeLossy bytes)
  | .error e => .error (.context s!"Failed to read {path}" (.ofOs e))

def writePage (t : FileTree) (cwd : Location) (path page : String) : Except Failure FileTree :=
  match t.writeAt cwd path page.toUTF8.toList false with
  | .ok t' => .ok t'
  | .error e => .error (.context s!"Failed to write {path}" (.ofOs e))

def writeListings (cwd : Location) (outDir : String) (source : ListingSource) :
    FileTree → List FileReport → Written
  | t, [] => ⟨t, .ok ()⟩
  | t, f :: rest =>
    match f.digest with
    | none => writeListings cwd outDir source t rest
    | some digest =>
      match source t f.name with
      | .error e => ⟨t, .error (.context s!"Failed to load source of {f.name}" e)⟩
      | .ok content =>
        match writePage t cwd (Path.join outDir (listingFileName digest)) (listing f content) with
        | .error e => ⟨t, .error e⟩
        | .ok t' => writeListings cwd outDir source t' rest

/-- Writes the index and every listing into `outDir`, made first with its parents. -/
def writeReport (t : FileTree) (cwd : Location) (outDir : String) (report : CoverageReport)
    (source : ListingSource) : Written :=
  match t.createDirAll cwd outDir with
  | .error e => ⟨t, .error (.context s!"Failed to create {outDir}" (.ofOs e))⟩
  | .ok t₁ =>
    match writePage t₁ cwd (Path.join outDir "index.html") (index report) with
    | .error e => ⟨t₁, .error e⟩
    | .ok t₂ => writeListings cwd outDir source t₂ (report.rollup.files.toList.map (·.2))

end LineCoverage.Report
