import LineCoverage.Coverage.Accumulator
/-! Line statistics of a file, a directory or a whole snapshot.

Stats count lines (the entries of coverage vectors, so past the end of a file when a higher
line was instrumented), relevant (instrumented) lines, covered lines (hit at least once)
and the sum of all hits, which saturates at 2^64 - 1 like every hit count. Stats add column
by column. The percentage covered and the hits per relevant line are derived, never stored.
-/

set_option autoImplicit false

-- Powers are the core's `Nat.pow` and `Int.pow`, also where Mathlib's monoid powers are in scope.
attribute [local instance (high)] instPowNat

namespace LineCoverage

structure Stats where
  totalLines : Nat := 0
  relevantLines : Nat := 0
  coveredLines : Nat := 0
  totalHits : Nat := 0
  deriving Repr, DecidableEq, Inhabited

def Stats.count (s : Stats) : Option Nat → Stats
  | none => s
  | some h =>
    { s with
      relevantLines := s.relevantLines + 1
      coveredLines := if h > 0 then s.coveredLines + 1 else s.coveredLines
      totalHits := addHits s.totalHits h }

def Stats.ofCoverage (coverage : List (Option Nat)) : Stats :=
  coverage.foldl Stats.count { totalLines := coverage.length }

instance : Add Stats :=
  ⟨fun a b => ⟨a.totalLines + b.totalLines, a.relevantLines + b.relevantLines,
    a.coveredLines + b.coveredLines, addHits a.totalHits b.totalHits⟩⟩

def Stats.sum (xs : List Stats) : Stats := xs.foldl (· + ·) {}

/-- The percentage of relevant lines covered, in doubles: `100 * covered / relevant`, and 0
when nothing is relevant. -/
def Stats.coveragePercent (s : Stats) : Float :=
  if s.relevantLines = 0 then 0.0
  else 100.0 * Float.ofNat s.coveredLines / Float.ofNat s.relevantLines

/-- Hits per relevant line, scaled by 100 and truncated, at most 2^64 - 1; 0 when nothing
is relevant. -/
def Stats.averageHits (s : Stats) : Nat :=
  if s.relevantLines = 0 then 0 else min (100 * s.totalHits / s.relevantLines) countLimit

def Stats.missedLines (s : Stats) : Nat := s.relevantLines - s.coveredLines

inductive Panic where
  | subtractOverflow
  | addOverflow
  | multiplyOverflow
  deriving Repr, DecidableEq

def Panic.message : Panic → String
  | .subtractOverflow => "attempt to subtract with overflow"
  | .addOverflow => "attempt to add with overflow"
  | .multiplyOverflow => "attempt to multiply with overflow"

def Stats.missedChecked (s : Stats) : Except Panic Nat :=
  if s.coveredLines ≤ s.relevantLines then .ok s.missedLines else .error .subtractOverflow

def Stats.addChecked (a b : Stats) : Except Panic Stats :=
  if a.totalLines + b.totalLines ≤ countLimit ∧ a.relevantLines + b.relevantLines ≤ countLimit ∧
      a.coveredLines + b.coveredLines ≤ countLimit then .ok (a + b)
  else .error .addOverflow

/-- `Stats.averageHits` as a build with overflow checks computes it, in 128-bit words: the
hits are widened before they are multiplied by 100, a product past 2^128 - 1 is refused, and a
quotient that does not convert back to 64 bits becomes 2^64 - 1. -/
def Stats.averageChecked (s : Stats) : Except Panic Nat :=
  if s.relevantLines = 0 then .ok 0
  else if 100 * s.totalHits ≤ 2 ^ (128 : Nat) - 1 then
    let scaled := 100 * s.totalHits / s.relevantLines
    .ok (if scaled ≤ countLimit then scaled else countLimit)
  else .error .multiplyOverflow

inductive Severity where
  | good
  | ok
  | bad
  deriving Repr, DecidableEq

/-- At least 90 percent is good, at least 75 is ok, anything less is bad. -/
def Severity.classify (percent : Float) : Severity :=
  if percent >= 90.0 then .good else if percent >= 75.0 then .ok else .bad

def Severity.name : Severity → String
  | .good => "good"
  | .ok => "ok"
  | .bad => "bad"

def Stats.severity (s : Stats) : Severity := Severity.classify s.coveragePercent

end LineCoverage
