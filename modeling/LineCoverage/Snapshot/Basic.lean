import LineCoverage.Coverage.Source
import LineCoverage.Json.Value
import LineCoverage.Service
/-! Snapshots: one build's coverage across all translation units, with the repository's
state and the CI service of the run. -/

set_option autoImplicit false

namespace LineCoverage

structure GitHead where
  id : String := ""
  authorName : String := ""
  authorEmail : String := ""
  committerName : String := ""
  committerEmail : String := ""
  message : String := ""
  deriving Repr, DecidableEq, Inhabited

def GitHead.author (h : GitHead) : String := h.authorName ++ " <" ++ h.authorEmail ++ ">"

def GitHead.committer (h : GitHead) : String := h.committerName ++ " <" ++ h.committerEmail ++ ">"

def cutAtBlankLine : List Char → Option (List Char × List Char)
  | '\n' :: '\n' :: rest => some ([], rest)
  | c :: rest => (cutAtBlankLine rest).map fun (a, b) => (c :: a, b)
  | [] => none

/-- The message's subject, up to the first blank line, and the body after it (possibly
empty). -/
def GitHead.subjectAndBody (h : GitHead) : String × String :=
  match cutAtBlankLine h.message.toList with
  | some (s, b) => (String.ofList s, String.ofList b)
  | none => (h.message, "")

structure GitInfo where
  branch : String := ""
  head : GitHead := {}
  remotes : List Json.Value := []
  deriving Inhabited

structure Snapshot where
  service : ServiceInfo := {}
  git : GitInfo := {}
  sourceFiles : List SourceFile := []
  deriving Inhabited

end LineCoverage
