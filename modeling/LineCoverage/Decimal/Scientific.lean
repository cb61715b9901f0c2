import LineCoverage.Decimal.Fixed
import LineCoverage.Decimal.Shortest
/-! Doubles written with a given number of digits in the forms of `printf`.

Every form rounds the exact binary value once, to the last digit it keeps, a half going to
the even neighbour. The exponent form keeps one digit before the point and `p` after it, and
writes the power of ten with a sign and at least two digits. The general form keeps `p`
significant digits (one when `p` is zero): when the rounded value's power of ten is below
`-4` or at least `p` it takes the exponent form, and otherwise the fixed form with as many
places as the digits need; trailing zeros of the fraction, and a point left bare, are dropped
unless kept on request. The hexadecimal form writes the binary significand in hexadecimal,
its leading digit `1` (`0` for subnormal values and zero), and the power of two in decimal.

The forms here write magnitudes: the sign is the caller's.
-/

set_option autoImplicit false

-- Powers are the core's `Nat.pow` and `Int.pow`, also where Mathlib's monoid powers are in scope.
attribute [local instance (high)] instPowNat

namespace LineCoverage.Decimal

/-- `n / 10^places` written with exactly `places` decimals; with `point` the point stays even
when no decimal follows it. -/
def pointText (places : Nat) (point : Bool) (n : Nat) : String :=
  if places = 0 && point then pointAt 0 n ++ "." else pointAt places n

def Binary.fixed (x : Binary) (places : Nat) (point : Bool) : String :=
  pointText places point (roundDiv (x.num * 10 ^ places) x.den .toEven)

/-- The value rounded to `p + 1` significant digits: the digits as a number below
`10^(p+1)`, and the power of ten of the first of them. Zero has no digits and power zero. -/
def Binary.significant (x : Binary) (p : Nat) : Nat × Int :=
  if x.m = 0 then (0, 0)
  else
    let e := leadExponent x.num x.den
    let s : Int := (p : Int) - e
    let d := roundDiv (x.num * 10 ^ s.toNat) (x.den * 10 ^ (-s).toNat) .toEven
    if d = 10 ^ (p + 1) then (10 ^ p, e + 1) else (d, e)

def exponentText (upper : Bool) (e : Int) : String :=
  (if upper then "E" else "e") ++ (if e < 0 then "-" else "+") ++ String.ofList (padDigits 2 e.natAbs)

def Binary.scientific (x : Binary) (p : Nat) (point upper : Bool) : String :=
  let (d, e) := x.significant p
  pointText p point d ++ exponentText upper e

/-- A number without the zeros that end its fraction, and without its point when nothing is
left after it; a number without a point stays as it is. -/
def trimFraction (s : String) : String :=
  if s.toList.contains '.' then
    let cs := s.toList.reverse.dropWhile (· = '0')
    String.ofList (if cs.head? = some '.' then cs.tail else cs).reverse
  else s

def Binary.general (x : Binary) (p : Nat) (keep upper : Bool) : String :=
  let p := if p = 0 then 1 else p
  let (d, e) := x.significant (p - 1)
  let tidy (s : String) : String := if keep then s else trimFraction s
  if e < -4 || e ≥ (p : Int) then tidy (pointText (p - 1) keep d) ++ exponentText upper e
  else tidy (x.fixed ((p : Int) - 1 - e).toNat keep)

def hexDigits (upper : Bool) (width n : Nat) : List Char :=
  let ds := (Nat.toDigits 16 n).map fun c => if upper then c.toUpper else c
  List.replicate (width - ds.length) '0' ++ ds

/-- The hexadecimal form of a finite double given by its bits; with a precision the thirteen
hexadecimal digits of the fraction are rounded to that many, and without one trailing zeros
are dropped. -/
def hexText (bits : UInt64) (precision : Option Nat) (point upper : Bool) : String :=
  let e := ((bits >>> 52) &&& 0x7FF).toNat
  let frac := (bits &&& 0xFFFFFFFFFFFFF).toNat
  let lead := if e = 0 then 0 else 1
  let power : Int := if e = 0 then (if frac = 0 then 0 else -1022) else (e : Int) - 1023
  let (lead, digits) := match precision with
    | none =>
      let ds := (hexDigits upper 13 frac).reverse.dropWhile (· = '0')
      (lead, ds.reverse)
    | some p =>
      if p ≥ 13 then (lead, hexDigits upper 13 frac ++ List.replicate (p - 13) '0')
      else
        let v := roundDiv (lead * 16 ^ (13 : Nat) + frac) (16 ^ (13 - p)) .toEven
        (v / 16 ^ p, if p = 0 then [] else hexDigits upper p (v % 16 ^ p))
  let body := (if upper then "0X" else "0x") ++ toString lead ++
    (if digits.isEmpty && !point then "" else ".") ++ String.ofList digits
  body ++ (if upper then "P" else "p") ++ (if power < 0 then "-" else "+") ++ toString power.natAbs

example : (⟨9, -2, false⟩ : Binary).fixed 1 false = "2.2" := by decide +kernel
example : (⟨9, -2, false⟩ : Binary).scientific 3 false false = "2.250e+00" := by decide +kernel
example : (⟨1, -20, false⟩ : Binary).general 6 false false = "9.53674e-07" := by decide +kernel
example : (⟨3, 0, false⟩ : Binary).general 0 false false = "3" := by decide +kernel

end LineCoverage.Decimal
