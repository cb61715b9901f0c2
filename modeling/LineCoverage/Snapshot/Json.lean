import LineCoverage.Snapshot.Basic
import LineCoverage.Json.Reader.Document
import LineCoverage.Error
/-! Snapshots as JSON.

The written form is compact, with the fields of each record in their fixed order. Reading
accepts every field of a snapshot, its git information and head to be missing (each takes
its empty value) while a source file needs all three fields; `null` stands for nothing but a
line without hits; unknown fields are ignored, and a record may be written as an array of its
fields in order.
-/

set_option autoImplicit false

namespace LineCoverage.Snapshot

open Json

def headShape : Shape :=
  .record "GitHead" [("id", false, .text), ("author_name", false, .text),
    ("author_email", false, .text), ("committer_name", false, .text),
    ("committer_email", false, .text), ("message", false, .text)]

def gitShape : Shape :=
  .record "GitInfo" [("branch", false, .text), ("head", false, headShape),
    ("remotes", false, .list .any)]

def sourceFileShape : Shape :=
  .record "SourceFile" [("name", true, .text), ("source_digest", true, .text),
    ("coverage", true, .list (.optional .count))]

def shape : Shape :=
  .record "Snapshot" [("service_name", false, .text), ("service_job_id", false, .text),
    ("repo_token", false, .text), ("git", false, gitShape),
    ("source_files", false, .list sourceFileShape)]

def textAt (v : Value) (k : String) : String :=
  match v.field? k with
  | some (.string s) => s
  | _ => ""

def itemsAt (v : Value) (k : String) : List Value :=
  match v.field? k with
  | some (.array xs) => xs
  | _ => []

def headOf (v : Value) : GitHead :=
  ⟨textAt v "id", textAt v "author_name", textAt v "author_email", textAt v "committer_name",
    textAt v "committer_email", textAt v "message"⟩

def gitOf (v : Value) : GitInfo :=
  ⟨textAt v "branch", headOf ((v.field? "head").getD .null), itemsAt v "remotes"⟩

def sourceFileOf (v : Value) : SourceFile :=
  ⟨textAt v "name", textAt v "source_digest",
    (itemsAt v "coverage").map fun x => match x with | .number (.nat n) => some n | _ => none⟩

def ofValue (v : Value) : Snapshot :=
  { service := ⟨textAt v "service_name", textAt v "service_job_id", textAt v "repo_token"⟩
    git := gitOf ((v.field? "git").getD .null)
    sourceFiles := (itemsAt v "source_files").map sourceFileOf }

def check (v : Value) : Except Problem Snapshot := (shape.check v).map ofValue

def parse (bs : List UInt8) : Except ReadError Snapshot := (readDocument shape bs).map ofValue

def load (file : Option (List UInt8)) : Except Error Snapshot :=
  match file with
  | none => .error (.io .notFound)
  | some bs =>
    match parse bs with
    | .ok s => .ok s
    | .error e => .error (.json e)

/-- The snapshot of an earlier run: one that cannot be loaded counts as empty. -/
def loadPrevious (file : Option (List UInt8)) : Snapshot :=
  match load file with
  | .ok s => s
  | .error _ => {}

def fieldsText (fs : List (String × String)) : String :=
  "\x7b" ++ ",".intercalate (fs.map fun (k, v) => quote k ++ ":" ++ v) ++ "\x7d"

def headText (h : GitHead) : String :=
  fieldsText [("id", quote h.id), ("author_name", quote h.authorName),
    ("author_email", quote h.authorEmail), ("committer_name", quote h.committerName),
    ("committer_email", quote h.committerEmail), ("message", quote h.message)]

def coverageText (c : List (Option Nat)) : String :=
  "[" ++ ",".intercalate (c.map fun h => match h with | some n => toString n | none => "null") ++ "]"

def sourceFileText (f : SourceFile) : String :=
  fieldsText [("name", quote f.name), ("source_digest", quote f.digest),
    ("coverage", coverageText f.coverage)]

def render (s : Snapshot) : String :=
  fieldsText [("service_name", quote s.service.serviceName),
    ("service_job_id", quote s.service.jobId), ("repo_token", quote s.service.repoToken),
    ("git", fieldsText [("branch", quote s.git.branch), ("head", headText s.git.head),
      ("remotes", (Value.array s.git.remotes).render)]),
    ("source_files", "[" ++ ",".intercalate (s.sourceFiles.map sourceFileText) ++ "]")]

end LineCoverage.Snapshot
