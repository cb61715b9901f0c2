import LineCoverage.Decimal.Binary
/-! Extended-precision binary values, as `seq` counts with.

An extended value has a 64-bit significand: a magnitude `m * 2^q` with `m` below `2^64`, and
a sign of its own, so that negative zero exists. Every operation computes the exact result as
a fraction whose denominator is a power of two (or of ten, for a decimal being read) and rounds
it once to the nearest value with a 64-bit significand, a tie going to the even significand.
The exponent range is that of the format, far beyond what counting reaches, so it is not
bounded here.
-/

set_option autoImplicit false

-- Powers are the core's `Nat.pow` and `Int.pow`, also where Mathlib's monoid powers are in scope.
attribute [local instance (high)] instPowNat

namespace LineCoverage.Decimal

/-- The magnitude nearest to `num / den` with a significand of at most 64 bits, ties to even;
zero for a zero numerator. -/
def roundSignificand (num den : Nat) : Binary :=
  if num = 0 then ⟨0, 0, false⟩
  else
    let e0 : Int := (num.log2 : Int) - den.log2
    let atLeast (e : Int) : Bool := num * 2 ^ (-e).toNat ≥ den * 2 ^ e.toNat
    let e := if atLeast e0 then e0 else e0 - 1
    let q := e - 63
    let m := roundDiv (num * 2 ^ (-q).toNat) (den * 2 ^ q.toNat) .toEven
    if m = 2 ^ (64 : Nat) then ⟨2 ^ (63 : Nat), q + 1, false⟩ else ⟨m, q, false⟩

structure Extended where
  negative : Bool
  magnitude : Binary
  deriving Repr, DecidableEq

def Extended.ofRatio (negative : Bool) (num den : Nat) : Extended :=
  ⟨negative, roundSignificand num den⟩

def Extended.ratio (x : Extended) : Int × Nat :=
  let n : Int := x.magnitude.num
  (if x.negative then -n else n, x.magnitude.den)

def Extended.isZero (x : Extended) : Bool := x.magnitude.m = 0

/-- The rounded sum; an exact zero is negative only when both terms are. -/
def Extended.add (x y : Extended) : Extended :=
  let (nx, dx) := x.ratio
  let (ny, dy) := y.ratio
  let d := max dx dy
  let n := nx * (d / dx : Nat) + ny * (d / dy : Nat)
  if n = 0 then ⟨x.negative && y.negative, ⟨0, 0, false⟩⟩
  else Extended.ofRatio (n < 0) n.natAbs d

def Extended.scale (x : Extended) (k : Nat) : Extended :=
  Extended.ofRatio x.negative (x.magnitude.num * k) x.magnitude.den

/-- Compares two values exactly; the zeros of both signs are equal. -/
def Extended.compare (x y : Extended) : Ordering :=
  let (nx, dx) := x.ratio
  let (ny, dy) := y.ratio
  Ord.compare (nx * dy) (ny * dx)

/-- The magnitude in the hexadecimal form of the C library for this format: the leading
hexadecimal digit holds the top four bits of the significand, the other fifteen digits follow
the point without the zeros that end them, and the power of two is written in decimal. -/
def Extended.hexText (x : Extended) (upper : Bool) : String :=
  let b := x.magnitude
  if b.m = 0 then (if upper then "0X0P+0" else "0x0p+0")
  else
    let digits := Nat.toDigits 16 b.m
    let digits := List.replicate (16 - digits.length) '0' ++ digits
    let digits := if upper then digits.map Char.toUpper else digits
    let rest := (digits.drop 1).reverse.dropWhile (· = '0') |>.reverse
    let power := b.q + 60
    let powerText := (if power < 0 then "-" else "+") ++ toString power.natAbs
    (if upper then "0X" else "0x") ++ String.ofList (digits.take 1) ++
      (if rest.isEmpty then "" else "." ++ String.ofList rest) ++ (if upper then "P" else "p") ++ powerText

example : (Extended.ofRatio false 1 1).hexText false = "0x8p-3" := by decide +kernel

example : (Extended.ofRatio false 1 10).add (Extended.ofRatio false 2 10) =
    Extended.ofRatio false 3 10 := by decide +kernel

end LineCoverage.Decimal
