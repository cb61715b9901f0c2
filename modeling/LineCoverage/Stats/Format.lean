import LineCoverage.Stats.Delta
import LineCoverage.Decimal.Fixed
/-! The texts of percentages and averages.

A percentage has two decimals, rounded from the exact double with ties to even, and a
percent sign. An average is kept scaled by 100, so it is written as its hundreds, a point,
and the two last digits, truncated and never rounded.
-/

set_option autoImplicit false

namespace LineCoverage

def formatPercent (x : Float) : String := Decimal.fixedText 2 x ++ "%"

def formatAverage (v : Nat) : String :=
  toString (v / 100) ++ "." ++ String.ofList (Decimal.padDigits 2 (v % 100))

example : formatAverage 5 = "0.05" ∧ formatAverage 250 = "2.50" ∧ formatAverage 12345 = "123.45" := by
  decide

end LineCoverage
