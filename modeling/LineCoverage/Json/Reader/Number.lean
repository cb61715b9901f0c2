import LineCoverage.Json.Cursor
/-! Reading a JSON number.

An integer that fits stays exact: a natural number below 2^64, or a negative integer down to
-2^63. Every other number becomes a double: the significand is gathered while it fits in 64
bits (later digits only count towards the exponent), converted, and then multiplied or
divided by one power of ten; beyond 10^308 the division goes in steps of 10^308. This is
not always the double nearest to the text, and the tests require exactly these values.
-/

set_option autoImplicit false

-- Powers are the core's `Nat.pow` and `Int.pow`, also where Mathlib's monoid powers are in scope.
attribute [local instance (high)] instPowNat

namespace LineCoverage.Json

def u64Limit : Nat := 2 ^ (64 : Nat) - 1

def i32Limit : Nat := 2 ^ (31 : Nat) - 1

def passes (acc d limit : Nat) : Bool :=
  acc ≥ limit / 10 && (acc > limit / 10 || d > limit % 10)

def clampExponent (e : Int) : Int := max (-(2 ^ (31 : Nat))) (min (2 ^ (31 : Nat) - 1) e)

def powerOfTen (k : Nat) : Float := Float.ofScientific 1 false k

/-- `f * 10^e` by the stepwise rule; `none` when the result leaves the finite doubles
upwards. The fuel counts the steps of `10^308`. -/
def scaleByTen (f : Float) (e : Int) : Nat → Option Float
  | 0 => some f
  | fuel + 1 =>
    if e.natAbs ≤ 308 then
      if 0 ≤ e then
        let g := f * powerOfTen e.natAbs
        if g.isInf then none else some g
      else some (f / powerOfTen e.natAbs)
    else if f == 0.0 then some f
    else if 0 ≤ e then none
    else scaleByTen (f / powerOfTen 308) (e + 308) fuel

def fromParts (positive : Bool) (significand : Nat) (e : Int) (c : Cursor) : Step Number :=
  match scaleByTen (Float.ofScientific significand false 0) e (e.natAbs / 308 + 2) with
  | none => failHere .numberOutOfRange c
  | some f => .ok (.float (if positive then f else -f), c)

/-- An exponent too large for 32 bits: an error unless the number is zero or the exponent
negative, when the number is a zero of its sign. -/
def exponentOverflow (positive zeroSignificand positiveExp : Bool) (c : Cursor) : Step Number :=
  if !zeroSignificand && positiveExp then failHere .numberOutOfRange c
  else .ok (.float (if positive then 0.0 else -0.0), c.skipDigits)

def exponentDigits (positive : Bool) (significand : Nat) (start : Int) (positiveExp : Bool)
    (acc : Nat) (c : Cursor) : Step Number :=
  match _h : c.rest with
  | b :: _ =>
    if isDigitByte b then
      let d := b.toNat - 48
      if passes acc d i32Limit then exponentOverflow positive (significand = 0) positiveExp c.advance
      else exponentDigits positive significand start positiveExp (acc * 10 + d) c.advance
    else
      fromParts positive significand
        (clampExponent (if positiveExp then start + acc else start - acc)) c
  | [] =>
    fromParts positive significand (clampExponent (if positiveExp then start + acc else start - acc)) c
termination_by c.rest.length
decreasing_by rw [Cursor.advance_rest, _h]; simp

def readExponent (positive : Bool) (significand : Nat) (start : Int) (c : Cursor) :
    Step Number :=
  let c := c.advance
  let (positiveExp, c) :=
    match c.rest with
    | 43 :: _ => (true, c.advance)
    | 45 :: _ => (false, c.advance)
    | _ => (true, c)
  match c.rest with
  | [] => failHere .eofInValue c
  | b :: _ =>
    if isDigitByte b then exponentDigits positive significand start positiveExp (b.toNat - 48) c.advance
    else failHere .invalidNumber c.advance

/-- After the fraction digits ran past 64 bits: the rest of them are dropped. -/
def fractionOverflow (positive : Bool) (significand : Nat) (e : Int) (c : Cursor) : Step Number :=
  let c := c.skipDigits
  match c.rest with
  | 101 :: _ | 69 :: _ => readExponent positive significand e c
  | _ => fromParts positive significand e c

def fractionDigits (positive : Bool) (significand : Nat) (before after : Int) (c : Cursor) :
    Step Number :=
  match _h : c.rest with
  | b :: _ =>
    if isDigitByte b then
      let d := b.toNat - 48
      if passes significand d u64Limit then fractionOverflow positive significand (before + after) c
      else fractionDigits positive (significand * 10 + d) before (after - 1) c.advance
    else if after = 0 then failAhead .invalidNumber c
    else if b = 101 || b = 69 then readExponent positive significand (before + after) c
    else fromParts positive significand (before + after) c
  | [] =>
    if after = 0 then failAhead .eofInValue c
    else fromParts positive significand (before + after) c
termination_by c.rest.length
decreasing_by rw [Cursor.advance_rest, _h]; simp

def readFraction (positive : Bool) (significand : Nat) (before : Int) (c : Cursor) : Step Number :=
  fractionDigits positive significand before 0 c.advance

/-- Integer digits past 64 bits: they only count towards the exponent. -/
def longInteger (positive : Bool) (significand : Nat) (e : Int) (c : Cursor) : Step Number :=
  match h : c.rest with
  | b :: _ =>
    if isDigitByte b then longInteger positive significand (e + 1) c.advance
    else if b = 46 then readFraction positive significand e c
    else if b = 101 || b = 69 then readExponent positive significand e c
    else fromParts positive significand e c
  | [] => fromParts positive significand e c
termination_by c.rest.length
decreasing_by rw [Cursor.advance_rest, h]; simp

def integerEnd (positive : Bool) (significand : Nat) (c : Cursor) : Step Number :=
  match c.rest with
  | 46 :: _ => readFraction positive significand 0 c
  | 101 :: _ | 69 :: _ => readExponent positive significand 0 c
  | _ =>
    if positive then .ok (.nat significand, c)
    else if significand = 0 ∨ significand > 2 ^ (63 : Nat) then
      .ok (.float (-(Float.ofScientific significand false 0)), c)
    else .ok (.int (-(significand : Int)), c)

def integerDigits (positive : Bool) (significand : Nat) (c : Cursor) : Step Number :=
  match h : c.rest with
  | b :: _ =>
    if isDigitByte b then
      let d := b.toNat - 48
      if passes significand d u64Limit then longInteger positive significand 0 c
      else integerDigits positive (significand * 10 + d) c.advance
    else integerEnd positive significand c
  | [] => integerEnd positive significand c
termination_by c.rest.length
decreasing_by rw [Cursor.advance_rest, h]; simp

/-- A number after its sign: a single zero or digits not starting with zero, then an
optional fraction and exponent. -/
def readNumber (positive : Bool) (c : Cursor) : Step Number :=
  match c.rest with
  | [] => failHere .eofInValue c
  | b :: _ =>
    if b = 48 then
      if isDigitByte c.advance.peekOrNull then failAhead .invalidNumber c.advance
      else integerEnd positive 0 c.advance
    else if isDigitByte b then integerDigits positive (b.toNat - 48) c.advance
    else failHere .invalidNumber c.advance

def Number.found : Number → Found
  | .nat n => .unsigned n
  | .int i => .signed i
  | .float x => .float x

end LineCoverage.Json
