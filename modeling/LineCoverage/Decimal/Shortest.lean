import LineCoverage.Decimal.Binary
/-! The shortest decimal that reads back as a given double.

For one, two, ... digits the search takes the decimal grid of that many significant digits
and tests the value's two neighbours on it: the first grid with a neighbour that reads back
wins, of two such neighbours the nearer, and an exact tie goes by the tie rule. Seventeen
digits always suffice; the exact value stands behind the search only to keep it total.
-/

set_option autoImplicit false

-- Powers are the core's `Nat.pow` and `Int.pow`, also where Mathlib's monoid powers are in scope.
attribute [local instance (high)] instPowNat

namespace LineCoverage.Decimal

def leadExponent (num den : Nat) : Int :=
  if den ≤ num then (digitCount (num / den) : Int) - 1
  else
    let k := digitCount den - digitCount num
    if den ≤ num * 10 ^ k then -(k : Int) else -((k + 1 : Nat) : Int)

def gridFloor (x : Binary) (s : Int) : Nat :=
  (x.num * 10 ^ (-s).toNat) / (x.den * 10 ^ s.toNat)

/-- Of the value's two neighbours on the grid `10^s`, the one that reads back, the nearer
if both do. -/
def onGrid (x : Binary) (s : Int) (t : Tie) : Option Dec :=
  let lo := gridFloor x s
  let below : Dec := ⟨lo, s⟩
  let above : Dec := ⟨lo + 1, s⟩
  match x.readsBack below, x.readsBack above with
  | true, true =>
    match compare (2 * (x.num * 10 ^ (-s).toNat)) ((2 * lo + 1) * (x.den * 10 ^ s.toNat)), t with
    | .lt, _ => some below
    | .gt, _ => some above
    | .eq, .awayFromZero => some above
    | .eq, .toEven => if lo % 2 = 0 then some below else some above
  | true, false => some below
  | false, true => some above
  | false, false => none

def Binary.exact (x : Binary) : Dec :=
  if 0 ≤ x.q then ⟨x.m * 2 ^ x.q.toNat, 0⟩ else ⟨x.m * 5 ^ (-x.q).toNat, x.q⟩

def Dec.strip (d : Dec) : Dec :=
  if h : d.digits ≠ 0 ∧ d.digits % 10 = 0 then
    Dec.strip ⟨d.digits / 10, d.exp + 1⟩
  else d
termination_by d.digits
decreasing_by exact Nat.div_lt_self (Nat.pos_of_ne_zero h.1) (by decide)

/-- The shortest decimal that reads back as `x`, without trailing zeros. -/
def Binary.shortest (x : Binary) (t : Tie) : Dec :=
  if x.m = 0 then ⟨0, 0⟩
  else
    let e := leadExponent x.num x.den
    let found := (List.range 17).findSome? fun (i : Nat) => onGrid x (e - (i : Int)) t
    (found.getD x.exact).strip

/-- Where a printed double puts its decimal point. With `point` the position of the point
after the first digit's place (`0.d₁d₂… × 10^point`), the digits are written plainly when
`plainFrom ≤ point ≤ plainUpTo`, and otherwise as one digit, a point, the rest and an
exponent. -/
structure Layout where
  plainFrom : Int
  plainUpTo : Int
  expPlus : Bool
  tie : Tie

def zeros (n : Nat) : String := String.ofList (List.replicate n '0')

def Dec.render (l : Layout) (d : Dec) : String :=
  let ds := digitChars d.digits
  let len : Int := ds.length
  let point := len + d.exp
  if 0 ≤ d.exp ∧ point ≤ l.plainUpTo then
    String.ofList ds ++ zeros d.exp.toNat ++ ".0"
  else if 0 < point ∧ point ≤ l.plainUpTo then
    String.ofList (ds.take point.toNat) ++ "." ++ String.ofList (ds.drop point.toNat)
  else if l.plainFrom ≤ point ∧ point ≤ 0 then
    "0." ++ zeros (-point).toNat ++ String.ofList ds
  else
    let e := point - 1
    let mantissa := match ds with
      | [c] => String.singleton c
      | c :: rest => String.singleton c ++ "." ++ String.ofList rest
      | [] => "0"
    let sign := if e < 0 then "-" else if l.expPlus then "+" else ""
    mantissa ++ "e" ++ sign ++ String.ofList (digitChars e.natAbs)

/-- The text of a finite double: a sign for negative values (zero included), then the
shortest digits laid out by `l`; zero is `0.0`. -/
def floatText (l : Layout) (x : Float) : String :=
  let b := x.toBits
  let sign := if negativeBits b then "-" else ""
  let v := Binary.ofBits b
  if v.m = 0 then sign ++ "0.0" else sign ++ (v.shortest l.tie).render l

end LineCoverage.Decimal
