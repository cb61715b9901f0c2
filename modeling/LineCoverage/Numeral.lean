/-! Unsigned decimal numerals.

A numeral is an optional plus sign and one or more ASCII digits; its value must lie below a
bound, such as 2^32 or 2^64. There is no minus sign, no underscore and no blank.
-/

set_option autoImplicit false

-- Powers are the core's `Nat.pow` and `Int.pow`, also where Mathlib's monoid powers are in scope.
attribute [local instance (high)] instPowNat

namespace LineCoverage.Numeral

def isAsciiDigit (c : Char) : Bool := '0' ≤ c && c ≤ '9'

def digitsValue (cs : List Char) : Nat := cs.foldl (fun acc c => acc * 10 + (c.toNat - 48)) 0

def leadingValue (s : String) : Nat := digitsValue (s.toList.takeWhile isAsciiDigit)

def read? (bound : Nat) (cs : List Char) : Option Nat :=
  let digits := match cs with
    | '+' :: rest => rest
    | _ => cs
  if digits ≠ [] ∧ digits.all isAsciiDigit ∧ digitsValue digits < bound then
    some (digitsValue digits)
  else none

def bound32 : Nat := 2 ^ (32 : Nat)

def bound64 : Nat := 2 ^ (64 : Nat)

example : read? bound32 "+12".toList = some 12 := by decide
example : read? bound32 "4294967296".toList = none := by decide
example : read? bound64 "-0".toList = none ∧ read? bound64 "+".toList = none := by decide
example : read? bound64 "1_0".toList = none := by decide

end LineCoverage.Numeral
