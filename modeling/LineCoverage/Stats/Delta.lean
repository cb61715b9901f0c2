import LineCoverage.Stats.Basic
import LineCoverage.Decimal.Binary
/-! How a value moved since the previous run.

Without a previous value, or with an equal one, nothing moved. Otherwise the trend is up or
down, and the magnitude is the larger value minus the smaller.
-/

set_option autoImplicit false

namespace LineCoverage

inductive Trend where
  | same
  | up
  | down
  deriving Repr, DecidableEq

def Trend.name : Trend → String
  | .same => "same"
  | .up => "up"
  | .down => "down"

def Trend.sign : Trend → String
  | .same => ""
  | .up => "+"
  | .down => "-"

structure Delta (α : Type) where
  current : α
  trend : Trend
  magnitude : α

/-- How far `current` moved from `previous`, for any type of values with a strict order, a
difference and a zero: up or down by the larger minus the smaller, else nothing. -/
def Delta.between {α : Type} (lt : α → α → Bool) (sub : α → α → α) (zero : α) (current : α) :
    Option α → Delta α
  | some p => if lt p current then ⟨current, .up, sub current p⟩
    else if lt current p then ⟨current, .down, sub p current⟩
    else ⟨current, .same, zero⟩
  | none => ⟨current, .same, zero⟩

def Delta.ofCounts (current : Nat) : Option Nat → Delta Nat :=
  Delta.between (fun a b => decide (a < b)) (· - ·) 0 current

/-- Percentages compare as doubles do, so a NaN is neither above nor below anything. -/
def Delta.ofPercents (current : Float) : Option Float → Delta Float :=
  Delta.between Decimal.doubleLt (· - ·) 0.0 current

structure StatsDelta where
  coverage : Delta Float
  total : Delta Nat
  relevant : Delta Nat
  covered : Delta Nat
  missed : Delta Nat
  average : Delta Nat

def StatsDelta.between (current : Stats) (previous : Option Stats) : StatsDelta :=
  { coverage := Delta.ofPercents current.coveragePercent (previous.map Stats.coveragePercent)
    total := Delta.ofCounts current.totalLines (previous.map Stats.totalLines)
    relevant := Delta.ofCounts current.relevantLines (previous.map Stats.relevantLines)
    covered := Delta.ofCounts current.coveredLines (previous.map Stats.coveredLines)
    missed := Delta.ofCounts current.missedLines (previous.map Stats.missedLines)
    average := Delta.ofCounts current.averageHits (previous.map Stats.averageHits) }

def StatsDelta.betweenChecked (current : Stats) (previous : Option Stats) : Except Panic StatsDelta := do
  let _ ← current.missedChecked
  match previous with
  | some p => let _ ← p.missedChecked
  | none => pure ()
  pure (StatsDelta.between current previous)

end LineCoverage
