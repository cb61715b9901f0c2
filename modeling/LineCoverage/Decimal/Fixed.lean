import LineCoverage.Decimal.Binary
/-! Doubles written with a fixed number of decimal places.

The exact binary value is rounded to the last place, a half going to the even neighbour.
A negative value keeps its sign even when it rounds to zero, so `-0.001` is `-0.00` with
two places.
-/

set_option autoImplicit false

-- Powers are the core's `Nat.pow` and `Int.pow`, also where Mathlib's monoid powers are in scope.
attribute [local instance (high)] instPowNat

namespace LineCoverage.Decimal

def padDigits (width n : Nat) : List Char :=
  let ds := digitChars n
  List.replicate (width - ds.length) '0' ++ ds

def pointAt (places n : Nat) : String :=
  let ds := padDigits (places + 1) n
  let whole := ds.take (ds.length - places)
  let frac := ds.drop (ds.length - places)
  if places = 0 then String.ofList whole else String.ofList whole ++ "." ++ String.ofList frac

/-- A finite double rounded to `places` decimals, ties to even, with its sign. -/
def fixedText (places : Nat) (x : Float) : String :=
  let b := x.toBits
  let v := Binary.ofBits b
  let sign := if negativeBits b then "-" else ""
  if nanBits b then "NaN"
  else if nonFiniteBits b then sign ++ "inf"
  else sign ++ pointAt places (roundDiv (v.num * 10 ^ places) v.den .toEven)

end LineCoverage.Decimal
