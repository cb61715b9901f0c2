import LineCoverage.Digest.Sha256
/-! Source files: what is known of a file's content, and its coverage.

A file's line count is the number of line feeds, plus one when the content does not end with
a line feed. Coverage has an entry for each line up to the line count or the highest
instrumented line, whichever is further: the hit count of an instrumented line, or nothing.
-/

set_option autoImplicit false

namespace LineCoverage

structure SourceInfo where
  digest : String
  lineCount : Nat
  deriving Repr, DecidableEq

def lineCountOf (content : List UInt8) : Nat :=
  let feeds := content.countP (· = 10)
  match content.getLast? with
  | some 10 | none => feeds
  | some _ => feeds + 1

def SourceInfo.ofContent (content : List UInt8) : SourceInfo :=
  ⟨Digest.hex (Digest.sha256 content), lineCountOf content⟩

/-- Coverage of one file: a name relative to the source root, the digest of its content, and
an entry per line, running past the content's last line when a higher line was instrumented. -/
structure SourceFile where
  name : String
  digest : String
  coverage : List (Option Nat)
  deriving Repr, DecidableEq, Inhabited

example : lineCountOf [] = 0 ∧ lineCountOf [97, 10, 98] = 2 ∧ lineCountOf [10, 10, 10] = 3 := by
  decide

end LineCoverage
