import LineCoverage.Proofs.Json.Values
import LineCoverage.Snapshot.Json
/-! A written snapshot is read back as itself.

A snapshot is written as the compact text of one value: its records become objects with their
fields in order, a line without hits becomes `null`, and the remotes are written as they are.
That value is one the snapshot's shape describes, so the reader takes it back, and the
snapshot built from it is the one written. The one bound is on nesting: the reader opens at
most 127 arrays and objects at once, and the snapshot, its git information and the list of
remotes take three of them, so a remote value may nest at most 124.
-/

set_option autoImplicit false

namespace LineCoverage.Snapshot

open Json

/-! ## The value a snapshot is written as -/

def hitsValue : Option Nat → Value
  | some n => .number (.nat n)
  | none => .null

def headValue (h : GitHead) : Value :=
  .object [("id", .string h.id), ("author_name", .string h.authorName),
    ("author_email", .string h.authorEmail), ("committer_name", .string h.committerName),
    ("committer_email", .string h.committerEmail), ("message", .string h.message)]

def gitValue (g : GitInfo) : Value :=
  .object [("branch", .string g.branch), ("head", headValue g.head),
    ("remotes", .array g.remotes)]

def sourceFileValue (f : SourceFile) : Value :=
  .object [("name", .string f.name), ("source_digest", .string f.digest),
    ("coverage", .array (f.coverage.map hitsValue))]

/-- A snapshot as a value, its records as objects with their fields in order. -/
def toValue (s : Snapshot) : Value :=
  .object [("service_name", .string s.service.serviceName),
    ("service_job_id", .string s.service.jobId), ("repo_token", .string s.service.repoToken),
    ("git", gitValue s.git), ("source_files", .array (s.sourceFiles.map sourceFileValue))]

theorem fieldsText_eq (fields : List (String × Value)) :
    fieldsText (fields.map fun e => (e.1, e.2.render)) = (Value.object fields).render := by
  rw [fieldsText, Value.render, renderFields_eq, List.map_map]
  rfl

theorem headText_eq (h : GitHead) : headText h = (headValue h).render := by
  rw [headValue, ← fieldsText_eq]
  rfl

theorem arrayText_eq {α : Type} (xs : List α) (text : α → String) (value : α → Value)
    (same : ∀ x, text x = (value x).render) :
    "[" ++ ",".intercalate (xs.map text) ++ "]" = (Value.array (xs.map value)).render := by
  rw [Value.render, renderItems_eq, List.map_map]
  exact congrArg (fun l => "[" ++ ",".intercalate l ++ "]")
    (List.map_congr_left fun x _ => same x)

theorem coverageText_eq (c : List (Option Nat)) :
    coverageText c = (Value.array (c.map hitsValue)).render :=
  arrayText_eq c _ hitsValue fun h => by cases h <;> rfl

theorem sourceFileText_eq (f : SourceFile) : sourceFileText f = (sourceFileValue f).render := by
  rw [sourceFileValue, ← fieldsText_eq, sourceFileText, coverageText_eq]
  rfl

theorem gitText_eq (g : GitInfo) :
    fieldsText [("branch", quote g.branch), ("head", headText g.head),
      ("remotes", (Value.array g.remotes).render)] = (gitValue g).render := by
  rw [gitValue, ← fieldsText_eq, headText_eq]
  rfl

theorem render_eq (s : Snapshot) : render s = (toValue s).render := by
  rw [render, gitText_eq, arrayText_eq s.sourceFiles _ sourceFileValue sourceFileText_eq, toValue,
    ← fieldsText_eq]
  rfl

/-! ## A snapshot from its value -/

theorem headOf_headValue (h : GitHead) : headOf (headValue h) = h := by
  simp [headOf, headValue, textAt, Value.field?]

theorem gitOf_gitValue (g : GitInfo) : gitOf (gitValue g) = g := by
  simp [gitOf, gitValue, textAt, itemsAt, Value.field?, headOf_headValue]

theorem sourceFileOf_sourceFileValue (f : SourceFile) :
    sourceFileOf (sourceFileValue f) = f := by
  obtain ⟨name, digest, coverage⟩ := f
  simp only [sourceFileOf, sourceFileValue, textAt, itemsAt, Value.field?]
  simp only [List.find?, String.reduceBEq, Option.map_some, List.map_map]
  -- a count is read back as itself and `null` as a line without hits
  congr 1
  conv_rhs => rw [← List.map_id coverage]
  exact List.map_congr_left fun h _ => by cases h <;> rfl

theorem ofValue_toValue (s : Snapshot) : ofValue (toValue s) = s := by
  obtain ⟨service, git, files⟩ := s
  simp [ofValue, toValue, textAt, itemsAt, Value.field?, gitOf_gitValue, Function.comp_def,
    sourceFileOf_sourceFileValue]

/-! ## The value fits the snapshot's shape -/

section Admits

variable {depth : Nat}

theorem headValue_admits (h : GitHead) : headShape.Admits (depth + 1) (headValue h) := by
  unfold headShape headValue
  refine .record_of_forall₂ ?_ (by decide)
  exact .cons ⟨rfl, .text _⟩ <| .cons ⟨rfl, .text _⟩ <| .cons ⟨rfl, .text _⟩ <|
    .cons ⟨rfl, .text _⟩ <| .cons ⟨rfl, .text _⟩ <| .cons ⟨rfl, .text _⟩ .nil

theorem gitValue_admits {g : GitInfo} (remotes : ∀ v ∈ g.remotes, v.Fits depth) :
    gitShape.Admits (depth + 2) (gitValue g) := by
  unfold gitShape gitValue
  refine .record_of_forall₂ ?_ (by decide)
  exact .cons ⟨rfl, .text _⟩ <| .cons ⟨rfl, headValue_admits g.head⟩ <|
    .cons ⟨rfl, .list fun v mem => .any (remotes v mem)⟩ .nil

theorem hitsValue_admits {h : Option Nat} (small : ∀ n, h = some n → n < 2 ^ 64) :
    (Shape.optional .count).Admits depth (hitsValue h) := by
  cases h with
  | none => exact .none
  | some n => exact .some (.count (small n rfl)) (by simp [hitsValue])

theorem sourceFileValue_admits {f : SourceFile}
    (counts : ∀ n, some n ∈ f.coverage → n < 2 ^ 64) :
    sourceFileShape.Admits (depth + 2) (sourceFileValue f) := by
  unfold sourceFileShape sourceFileValue
  refine .record_of_forall₂ (.cons ⟨rfl, .text _⟩ <| .cons ⟨rfl, .text _⟩ <|
    .cons ⟨rfl, .list fun v mem => ?_⟩ .nil) (by decide)
  obtain ⟨h, listed, rfl⟩ := List.mem_map.mp mem
  exact hitsValue_admits fun n hits => counts n (hits ▸ listed)

/-- The value of a snapshot whose remotes nest at most `depth + 1` arrays and objects fits the
snapshot's shape with three levels more: the snapshot, its git information and the remotes. -/
theorem toValue_admits {s : Snapshot} (remotes : ∀ v ∈ s.git.remotes, v.Fits (depth + 1))
    (counts : ∀ f ∈ s.sourceFiles, ∀ n, some n ∈ f.coverage → n < 2 ^ 64) :
    shape.Admits (depth + 4) (toValue s) := by
  unfold shape toValue
  refine .record_of_forall₂ (.cons ⟨rfl, .text _⟩ <| .cons ⟨rfl, .text _⟩ <|
    .cons ⟨rfl, .text _⟩ <| .cons ⟨rfl, gitValue_admits remotes⟩ <|
    .cons ⟨rfl, .list fun v mem => ?_⟩ .nil) (by decide)
  obtain ⟨f, listed, rfl⟩ := List.mem_map.mp mem
  exact sourceFileValue_admits (counts f listed)

end Admits

/-! ## Reading back a written snapshot -/

/-- A written snapshot is read back as itself when its counts are below 2^64 and its remotes are
values of the wire format nesting at most 124 arrays and objects: the reader opens at most 127
at once, and three of them are the snapshot, its git information and the list of remotes. -/
theorem render_reads_back {s : Snapshot}
    (counts : ∀ f ∈ s.sourceFiles, ∀ n, some n ∈ f.coverage → n < 2 ^ 64)
    (remotes : ∀ v ∈ s.git.remotes, v.Fits 124) :
    load (some s.render.toUTF8.toList) = .ok s := by
  have admits : shape.Admits (123 + 4) (toValue s) := toValue_admits remotes counts
  -- the snapshot's shape is five reads deep, far below what the reader's fuel allows
  have read : readDocument shape (toValue s).render.toUTF8.toList = .ok (toValue s) :=
    readDocument_render admits (by decide)
  rw [load, parse, render_eq, read]
  simp only [Except.map, ofValue_toValue]

/-- A snapshot of one run: a file with a line without hits and a line run 2^64 - 1 times, a
commit message with a quote and a line feed, and one remote. -/
def ciSnapshot : Snapshot :=
  { service := { serviceName := "travis-ci", jobId := "42" }
    git :=
      { branch := "main"
        head := { id := "9fceb02", message := "Say \"hi\"\n\nBody" }
        remotes := [.object [("name", .string "origin"), ("url", .string "git@host:repo.git")]] }
    sourceFiles :=
      [{ name := "a.c", digest := "x", coverage := [none, some 2, some 18446744073709551615] }] }

theorem ci_snapshot_reads_back :
    (∀ f ∈ ciSnapshot.sourceFiles, ∀ n, some n ∈ f.coverage → n < 2 ^ 64) ∧
      (∀ v ∈ ciSnapshot.git.remotes, v.Fits 124) ∧
      load (some ciSnapshot.render.toUTF8.toList) = .ok ciSnapshot := by
  have counts : ∀ f ∈ ciSnapshot.sourceFiles, ∀ n, some n ∈ f.coverage → n < 2 ^ 64 := by
    intro f listed n hits
    simp only [ciSnapshot, List.mem_singleton] at listed
    subst listed
    simp only [List.mem_cons, List.not_mem_nil, or_false, reduceCtorEq, false_or,
      Option.some.injEq] at hits
    omega
  have remotes : ∀ v ∈ ciSnapshot.git.remotes, v.Fits 124 := by
    intro v listed
    simp only [ciSnapshot, List.mem_singleton] at listed
    subst listed
    refine .object (by decide) fun e entry => ?_
    simp only [List.mem_cons, List.not_mem_nil, or_false] at entry
    rcases entry with rfl | rfl <;> exact .string _
  exact ⟨counts, remotes, render_reads_back counts remotes⟩

def nestedArrays : Nat → Value
  | 0 => .array []
  | n + 1 => .array [nestedArrays n]

theorem nestedArrays_fits (n : Nat) : (nestedArrays n).Fits (n + 1) := by
  induction n with
  | zero => exact .array fun v mem => by cases mem
  | succ n ih =>
    refine .array fun v mem => ?_
    rw [List.mem_singleton.mp mem]
    exact ih

/-- A remote value of 125 nested arrays is a value of the wire format, but the written snapshot
holds it inside three more containers, and the reader refuses to open the 128th. -/
theorem deep_remote_not_read_back :
    (nestedArrays 124).Fits 125 ∧
      load (some ({ git := { remotes := [nestedArrays 124] } } : Snapshot).render.toUTF8.toList) ≠
        .ok { git := { remotes := [nestedArrays 124] } } := by
  refine ⟨nestedArrays_fits 124, fun read => ?_⟩
  -- the reader run on the written text stops at the 128th opening bracket
  have refused := congrArg Except.isOk read
  revert refused
  decide +kernel

end LineCoverage.Snapshot
