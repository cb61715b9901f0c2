/-! Binary64 values as exact numbers.

A finite double is `m * 2^q` for naturals `m` and an integer `q`. The reals that round to
it form an interval around it: halfway to the neighbour below and halfway to the neighbour
above, the ends included exactly when `m` is even. Just above a power of two the neighbour
below is half as far away as the neighbour above.
-/

set_option autoImplicit false

-- Powers are the core's `Nat.pow` and `Int.pow`, also where Mathlib's monoid powers are in scope.
attribute [local instance (high)] instPowNat

namespace LineCoverage.Decimal

/-- A finite non-negative double, `m * 2^q`. -/
structure Binary where
  m : Nat
  q : Int
  /-- The gap to the value below is half the gap to the value above. -/
  narrowBelow : Bool
  deriving Repr, DecidableEq

/-- The magnitude of a finite double given by its bits (the sign bit is ignored). -/
def Binary.ofBits (b : UInt64) : Binary :=
  let e := ((b >>> 52) &&& 0x7FF).toNat
  let f := (b &&& 0xFFFFFFFFFFFFF).toNat
  if e = 0 then ⟨f, -1074, false⟩ else ⟨2 ^ (52 : Nat) + f, (e : Int) - 1075, f = 0 && e > 1⟩

def negativeBits (b : UInt64) : Bool := b >>> 63 = 1

def nonFiniteBits (b : UInt64) : Bool := (b >>> 52) &&& 0x7FF = 0x7FF

def nanBits (b : UInt64) : Bool := nonFiniteBits b && (b &&& 0xFFFFFFFFFFFFF) != 0

/-- The place of a double among the values, from its bits. Below the sign bit the bits count
up with the magnitude, infinity last, so with the sign they give a signed rank; the two zeros
share rank 0 and a NaN has none. -/
def orderRank (b : UInt64) : Option Int :=
  if nanBits b then none
  else
    let magnitude : Int := (b &&& 0x7FFFFFFFFFFFFFFF).toNat
    some (if negativeBits b then -magnitude else magnitude)

/-- `x < y` between doubles: by value, and false whenever one of them is a NaN. -/
def doubleLt (x y : Float) : Bool :=
  match orderRank x.toBits, orderRank y.toBits with
  | some a, some b => decide (a < b)
  | _, _ => false

structure Dec where
  digits : Nat
  exp : Int
  deriving Repr, DecidableEq

def cmpScaled (a : Nat) (i : Int) (n : Nat) (j : Int) : Ordering :=
  compare (a * 10 ^ i.toNat * 2 ^ (-j).toNat) (n * 2 ^ j.toNat * 10 ^ (-i).toNat)

/-- The decimal `d` lies among the reals that round to `x` under round-to-nearest, ties to
even. -/
def Binary.readsBack (x : Binary) (d : Dec) : Bool :=
  let lo := if x.narrowBelow then 4 * x.m - 1 else 4 * x.m - 2
  let hi := 4 * x.m + 2
  let incl := x.m % 2 = 0
  let cl := cmpScaled d.digits d.exp lo (x.q - 2)
  let ch := cmpScaled d.digits d.exp hi (x.q - 2)
  (cl == .gt || (incl && cl == .eq)) && (ch == .lt || (incl && ch == .eq))

def Binary.num (x : Binary) : Nat := x.m * 2 ^ x.q.toNat

def Binary.den (x : Binary) : Nat := 2 ^ (-x.q).toNat

inductive Tie where
  | toEven
  | awayFromZero
  deriving Repr, DecidableEq

def roundDiv (num den : Nat) (t : Tie) : Nat :=
  let q := num / den
  let r := num % den
  match compare (2 * r) den, t with
  | .lt, _ => q
  | .gt, _ => q + 1
  | .eq, .awayFromZero => q + 1
  | .eq, .toEven => if q % 2 = 0 then q else q + 1

theorem roundDiv_near (num den : Nat) (t : Tie) (h : 0 < den) :
    2 * (roundDiv num den t * den) ≤ 2 * num + den ∧
      2 * num ≤ 2 * (roundDiv num den t * den) + den := by
  have e : den * (num / den) + num % den = num := Nat.div_add_mod num den
  have l : num % den < den := Nat.mod_lt _ h
  simp only [roundDiv]
  generalize num / den = q at *
  generalize num % den = r at *
  have hq : (q + 1) * den = den * q + den := by rw [Nat.add_mul, Nat.mul_comm]; simp
  have hq0 : q * den = den * q := Nat.mul_comm ..
  generalize den * q = p at *
  split
  · rename_i hc; rw [Nat.compare_eq_lt] at hc; omega
  · rename_i hc; rw [Nat.compare_eq_gt] at hc; omega
  · rename_i hc; rw [Nat.compare_eq_eq] at hc; omega
  · rename_i hc; rw [Nat.compare_eq_eq] at hc; split <;> omega

theorem roundDiv_tie_even (num den : Nat) (h : 2 * (num % den) = den) :
    roundDiv num den .toEven % 2 = 0 := by
  have hc : compare (2 * (num % den)) den = .eq := by rw [Nat.compare_eq_eq]; exact h
  simp only [roundDiv, hc]
  split
  · rename_i hq; simpa using hq
  · rename_i hq
    omega

/-- The decimal digits of a natural number, most significant first; zero has one digit. -/
def digitChars (n : Nat) : List Char := (Nat.toDigits 10 n)

def digitCount (n : Nat) : Nat := (digitChars n).length

end LineCoverage.Decimal
