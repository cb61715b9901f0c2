import LineCoverage.Stats.Delta
/-! Deltas in both directions.

A delta compares a current value with a previous one through a strict order. When that order
is asymmetric, exchanging the two values exchanges up and down and keeps the magnitude, which
both directions compute as the larger minus the smaller (`Delta.between_mirrors`); when it is
irreflexive, a value compared with itself has not moved. Counts are ordered as naturals and
percentages as doubles are, by the signed rank of their bits, an order on integers. So every
column of a stats delta mirrors, and a count's magnitude is the distance between the counts,
never a subtraction below zero.
-/

set_option autoImplicit false

namespace LineCoverage

def Trend.reverse : Trend → Trend
  | .same => .same
  | .up => .down
  | .down => .up

structure Delta.Mirrors {α : Type} (d e : Delta α) : Prop where
  trend : e.trend = d.trend.reverse
  magnitude : e.magnitude = d.magnitude

structure Delta.Unmoved {α : Type} (d : Delta α) (zero : α) : Prop where
  trend : d.trend = .same
  magnitude : d.magnitude = zero

section Between
variable {α : Type} {lt : α → α → Bool} (sub : α → α → α) (zero : α)

theorem Delta.between_mirrors (asymm : ∀ a b, lt a b = true → lt b a = false) (x y : α) :
    (Delta.between lt sub zero x (some y)).Mirrors (Delta.between lt sub zero y (some x)) := by
  cases below : lt y x with
  | true =>
    -- `x` above `y`: up one way, and down the other since `y` is not above `x`
    have notAbove := asymm y x below
    exact ⟨by simp [Delta.between, below, notAbove, Trend.reverse],
      by simp [Delta.between, below, notAbove]⟩
  | false =>
    cases above : lt x y with
    | true => exact ⟨by simp [Delta.between, below, above, Trend.reverse],
        by simp [Delta.between, below, above]⟩
    | false => exact ⟨by simp [Delta.between, below, above, Trend.reverse],
        by simp [Delta.between, below, above]⟩

theorem Delta.between_self (irrefl : ∀ a, lt a a = false) (x : α) :
    (Delta.between lt sub zero x (some x)).Unmoved zero :=
  ⟨by simp [Delta.between, irrefl], by simp [Delta.between, irrefl]⟩

end Between

/-! ## The order of doubles -/

theorem Decimal.doubleLt_asymm (x y : Float) (below : Decimal.doubleLt x y = true) :
    Decimal.doubleLt y x = false := by
  -- a NaN is below nothing, so both doubles have ranks, and ranks are integers
  cases rx : Decimal.orderRank x.toBits with
  | none => simp [Decimal.doubleLt, rx] at below
  | some a =>
    cases ry : Decimal.orderRank y.toBits with
    | none => simp [Decimal.doubleLt, ry]
    | some b =>
      simp only [Decimal.doubleLt, rx, ry, decide_eq_true_eq, decide_eq_false_iff_not] at below ⊢
      omega

theorem Decimal.doubleLt_irrefl (x : Float) : Decimal.doubleLt x x = false := by
  unfold Decimal.doubleLt
  cases Decimal.orderRank x.toBits <;> simp

/-! ## The columns of a stats delta -/

theorem Delta.ofCounts_mirrors (x y : Nat) :
    (Delta.ofCounts x (some y)).Mirrors (Delta.ofCounts y (some x)) :=
  Delta.between_mirrors _ _ (fun a b below => by simp_all; omega) x y

theorem Delta.ofPercents_mirrors (x y : Float) :
    (Delta.ofPercents x (some y)).Mirrors (Delta.ofPercents y (some x)) :=
  Delta.between_mirrors _ _ Decimal.doubleLt_asymm x y

/-- A count's magnitude is the distance between the two counts: the smaller is always the one
subtracted. -/
theorem Delta.ofCounts_magnitude (x y : Nat) :
    (Delta.ofCounts x (some y)).magnitude = ((x : Int) - y).natAbs := by
  by_cases above : y < x
  · simp [Delta.ofCounts, Delta.between, above]
    omega
  · by_cases below : x < y
    · simp [Delta.ofCounts, Delta.between, above, below]
      omega
    · simp [Delta.ofCounts, Delta.between, above, below]
      omega

structure StatsDelta.Mirrors (d e : StatsDelta) : Prop where
  coverage : d.coverage.Mirrors e.coverage
  total : d.total.Mirrors e.total
  relevant : d.relevant.Mirrors e.relevant
  covered : d.covered.Mirrors e.covered
  missed : d.missed.Mirrors e.missed
  average : d.average.Mirrors e.average

structure StatsDelta.Unmoved (d : StatsDelta) : Prop where
  coverage : d.coverage.Unmoved 0.0
  total : d.total.Unmoved 0
  relevant : d.relevant.Unmoved 0
  covered : d.covered.Unmoved 0
  missed : d.missed.Unmoved 0
  average : d.average.Unmoved 0

theorem StatsDelta.between_mirrors (s t : Stats) :
    (StatsDelta.between s (some t)).Mirrors (StatsDelta.between t (some s)) :=
  ⟨Delta.ofPercents_mirrors _ _, Delta.ofCounts_mirrors _ _, Delta.ofCounts_mirrors _ _,
    Delta.ofCounts_mirrors _ _, Delta.ofCounts_mirrors _ _, Delta.ofCounts_mirrors _ _⟩

theorem StatsDelta.between_self (s : Stats) : (StatsDelta.between s (some s)).Unmoved :=
  have counts (x : Nat) : (Delta.ofCounts x (some x)).Unmoved 0 :=
    Delta.between_self _ _ (fun a => by simp) x
  ⟨Delta.between_self _ _ Decimal.doubleLt_irrefl _, counts _, counts _, counts _, counts _,
    counts _⟩

end LineCoverage
