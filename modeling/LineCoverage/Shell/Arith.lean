/-! Arithmetic expansion: integer expressions with the operators and precedence of C, on
signed 64-bit words.

A number is read as the C library reads one in base zero (decimal, `0x` hexadecimal or `0`
octal), as far as it goes, and one too large stands for the largest word; what follows it is
the next token, so `08` is two numbers. A name stands for its variable, read the same way but
as a whole (blanks around it allowed, an empty or unset variable being zero); a value that is
not wholly a number is an error. Sums, products and shifts wrap around; a shift counts modulo
64; division truncates toward zero, division by zero is an error, and dividing the smallest
word by `-1` traps. `&&`, `||` and `?:` do not evaluate the side they skip. `=` and the
compound assignments `*= /= %= += -= <<= >>= &= ^= |=` set variables, from right to left.
-/

set_option autoImplicit false

-- Powers are the core's `Nat.pow` and `Int.pow`, also where Mathlib's monoid powers are in scope.
attribute [local instance (high)] instPowNat

namespace LineCoverage.Shell

inductive BinOp where
  | mul | div | rem | add | sub | shl | shr | lt | le | gt | ge | eq | ne | band | bxor | bor
  deriving DecidableEq, Repr

/-- How tightly an operator binds: lower binds tighter. -/
def BinOp.prec : BinOp → Nat
  | .mul | .div | .rem => 0
  | .add | .sub => 1
  | .shl | .shr => 2
  | .lt | .le | .gt | .ge => 3
  | .eq | .ne => 4
  | .band => 5
  | .bxor => 6
  | .bor => 7

def loosest : Nat := 8

inductive ArithToken where
  | num (v : Int)
  | var (name : String)
  | bin (op : BinOp)
  | assign (op : Option BinOp)
  | and | or | not | bnot | lparen | rparen | qmark | colon
  | bad
  deriving DecidableEq, Repr

inductive ArithError where
  | malformed (message : String)
  | divisionByZero
  | badNumber (value : String)
  /-- The processor traps: the smallest word divided by `-1`. -/
  | trap
  deriving DecidableEq, Repr

def wordMax : Int := 2 ^ (63 : Nat) - 1

def wordMin : Int := -(2 ^ (63 : Nat))

def wrapWord (x : Int) : Int := x.bmod (2 ^ (64 : Nat))

def digitOf (c : Char) : Nat :=
  if '0' ≤ c && c ≤ '9' then c.toNat - 48
  else if 'a' ≤ c && c ≤ 'z' then c.toNat - 87
  else if 'A' ≤ c && c ≤ 'Z' then c.toNat - 55
  else 36

def digitsIn (base : Nat) (cs : List Char) : List Char := cs.takeWhile (digitOf · < base)

def valueIn (base : Nat) (ds : List Char) : Nat := ds.foldl (fun acc d => acc * base + digitOf d) 0

/-- A number without sign at the front of a text, in C notation with base zero: `0x` and
hexadecimal digits, `0` and octal digits, or decimal digits. Its magnitude and how many
characters it takes; none when the text starts with no digit. -/
def unsignedPrefix (cs : List Char) : Option (Nat × Nat) :=
  match cs with
  | '0' :: x :: r =>
    let hex := digitsIn 16 r
    if (x = 'x' || x = 'X') && !hex.isEmpty then some (valueIn 16 hex, 2 + hex.length)
    else
      let ds := digitsIn 8 cs
      some (valueIn 8 ds, ds.length)
  | _ =>
    let ds := digitsIn 10 cs
    if ds.isEmpty then none else some (valueIn 10 ds, ds.length)

def isNumberBlank (c : Char) : Bool :=
  c = ' ' || c = '\t' || c = '\n' || c = '\r' || c.toNat = 11 || c.toNat = 12

/-- A variable's value read as a word: blanks, a sign, a number in C notation and blanks, the
whole text; empty text is zero. None when it is not such a number or does not fit. -/
def wordOfText (s : String) : Option Int :=
  let cs := s.toList.dropWhile isNumberBlank
  let (neg, body) := match cs with
    | '-' :: r => (true, r)
    | '+' :: r => (false, r)
    | r => (false, r)
  match unsignedPrefix body with
  | none => if cs.isEmpty then some 0 else none
  | some (mag, taken) =>
    if !(body.drop taken).all isNumberBlank then none
    else
      let v : Int := if neg then -(mag : Int) else mag
      if v < wordMin || v > wordMax then none else some v

def isArithNameStart (c : Char) : Bool :=
  ('a' ≤ c && c ≤ 'z') || ('A' ≤ c && c ≤ 'Z') || c = '_'

def isArithNameChar (c : Char) : Bool := isArithNameStart c || ('0' ≤ c && c ≤ '9')

def withAssign (op : BinOp) (rest : List Char) : ArithToken × List Char :=
  match rest with
  | '=' :: r => (.assign (some op), r)
  | _ => (.bin op, rest)

/-- The tokens of an expression, up to its end or the first character that starts none.
Every round takes a character, so `fuel` above their number is enough. -/
def arithTokens : Nat → List Char → List ArithToken
  | 0, _ => []
  | _ + 1, [] => []
  | fuel + 1, c :: rest =>
    let go (t : ArithToken) (r : List Char) : List ArithToken := t :: arithTokens fuel r
    if c = ' ' || c = '\t' || c = '\n' then arithTokens fuel rest
    else if '0' ≤ c && c ≤ '9' then
      match unsignedPrefix (c :: rest) with
      | some (v, taken) => go (.num (min v wordMax)) ((c :: rest).drop taken)
      | none => [.bad]
    else if isArithNameStart c then
      let name := c :: rest.takeWhile isArithNameChar
      go (.var (String.ofList name)) (rest.drop (name.length - 1))
    else
      match c, rest with
      | '=', '=' :: r => go (.bin .eq) r
      | '=', r => go (.assign none) r
      | '>', '=' :: r => go (.bin .ge) r
      | '>', '>' :: r => let (t, r') := withAssign .shr r; go t r'
      | '>', r => go (.bin .gt) r
      | '<', '=' :: r => go (.bin .le) r
      | '<', '<' :: r => let (t, r') := withAssign .shl r; go t r'
      | '<', r => go (.bin .lt) r
      | '|', '|' :: r => go .or r
      | '|', r => let (t, r') := withAssign .bor r; go t r'
      | '&', '&' :: r => go .and r
      | '&', r => let (t, r') := withAssign .band r; go t r'
      | '!', '=' :: r => go (.bin .ne) r
      | '!', r => go .not r
      | '(', r => go .lparen r
      | ')', r => go .rparen r
      | '*', r => let (t, r') := withAssign .mul r; go t r'
      | '/', r => let (t, r') := withAssign .div r; go t r'
      | '%', r => let (t, r') := withAssign .rem r; go t r'
      | '+', r => let (t, r') := withAssign .add r; go t r'
      | '-', r => let (t, r') := withAssign .sub r; go t r'
      | '~', r => go .bnot r
      | '^', r => let (t, r') := withAssign .bxor r; go t r'
      | '?', r => go .qmark r
      | ':', r => go .colon r
      | _, _ => [.bad]

def shiftCount (b : Int) : Nat := (b % 64).toNat

def BinOp.apply (op : BinOp) (a b : Int) : Except ArithError Int :=
  let truth (p : Bool) : Int := if p then 1 else 0
  match op with
  | .mul => .ok (wrapWord (a * b))
  | .div =>
    if b = 0 then .error .divisionByZero
    else if a = wordMin && b = -1 then .error .trap
    else .ok (a.tdiv b)
  | .rem =>
    if b = 0 then .error .divisionByZero
    else if a = wordMin && b = -1 then .error .trap
    else .ok (a.tmod b)
  | .add => .ok (wrapWord (a + b))
  | .sub => .ok (wrapWord (a - b))
  | .shl => .ok (wrapWord (a * 2 ^ shiftCount b))
  | .shr => .ok (a / 2 ^ shiftCount b)
  | .lt => .ok (truth (decide (a < b)))
  | .le => .ok (truth (decide (a ≤ b)))
  | .gt => .ok (truth (decide (a > b)))
  | .ge => .ok (truth (decide (a ≥ b)))
  | .eq => .ok (truth (a == b))
  | .ne => .ok (truth (a != b))
  | .band => .ok (Int64.ofInt a &&& Int64.ofInt b).toInt
  | .bxor => .ok (Int64.ofInt a ^^^ Int64.ofInt b).toInt
  | .bor => .ok (Int64.ofInt a ||| Int64.ofInt b).toInt

/-- The variables an expression reads and sets: the values they had before, and the
assignments it has made, the latest first. -/
structure ArithVars where
  lookup : String → Option String
  assigned : List (String × Int) := []

def ArithVars.valueOf (env : ArithVars) (name : String) : Except ArithError Int :=
  match env.assigned.find? (·.1 == name) with
  | some (_, v) => .ok v
  | none =>
    match env.lookup name with
    | none => .ok 0
    | some s =>
      match wordOfText s with
      | some v => .ok v
      | none => .error (.badNumber s)

abbrev ArithStep := Except ArithError (Int × List ArithToken × ArithVars)

mutual

def assignExpr : Nat → Bool → List ArithToken → ArithVars → ArithStep
  | 0, _, _, _ => .error (.malformed "expression too deep")
  | fuel + 1, skip, ts, env =>
    match ts with
    | .var name :: .assign op :: rest =>
      match assignExpr fuel skip rest env with
      | .error e => .error e
      | .ok (v, r, env) =>
        if skip then .ok (v, r, env)
        else
          let result : Except ArithError Int := match op with
            | none => .ok v
            | some o => (env.valueOf name).bind fun cur => o.apply cur v
          result.map fun x => (x, r, { env with assigned := (name, x) :: env.assigned })
    | _ => condExpr fuel skip ts env

def condExpr : Nat → Bool → List ArithToken → ArithVars → ArithStep
  | 0, _, _, _ => .error (.malformed "expression too deep")
  | fuel + 1, skip, ts, env =>
    match orExpr fuel skip ts env with
    | .error e => .error e
    | .ok (a, .qmark :: r, env) =>
      match assignExpr fuel (skip || a == 0) r env with
      | .error e => .error e
      | .ok (b, .colon :: r', env) =>
        (condExpr fuel (skip || a != 0) r' env).map fun (c, r'', env) => (if a != 0 then b else c, r'', env)
      | .ok _ => .error (.malformed "expecting ':'")
    | .ok res => .ok res

def orExpr : Nat → Bool → List ArithToken → ArithVars → ArithStep
  | 0, _, _, _ => .error (.malformed "expression too deep")
  | fuel + 1, skip, ts, env =>
    match andExpr fuel skip ts env with
    | .error e => .error e
    | .ok (a, .or :: r, env) =>
      (orExpr fuel (skip || a != 0) r env).map fun (b, r', env) =>
        (if a != 0 || b != 0 then 1 else 0, r', env)
    | .ok res => .ok res

def andExpr : Nat → Bool → List ArithToken → ArithVars → ArithStep
  | 0, _, _, _ => .error (.malformed "expression too deep")
  | fuel + 1, skip, ts, env =>
    match binaryExpr fuel skip ts env with
    | .error e => .error e
    | .ok (a, .and :: r, env) =>
      (andExpr fuel (skip || a == 0) r env).map fun (b, r', env) =>
        (if a != 0 && b != 0 then 1 else 0, r', env)
    | .ok res => .ok res

def binaryExpr : Nat → Bool → List ArithToken → ArithVars → ArithStep
  | 0, _, _, _ => .error (.malformed "expression too deep")
  | fuel + 1, skip, ts, env =>
    match primaryExpr fuel skip ts env with
    | .error e => .error e
    | .ok (a, .bin op :: r, env) => operandsAfter fuel skip a op loosest r env
    | .ok res => .ok res

/-- The operands after `a op`, taken while the operators bind tighter than `limit`: an
operator that binds tighter than the one before it takes the operand first. -/
def operandsAfter : Nat → Bool → Int → BinOp → Nat → List ArithToken → ArithVars → ArithStep
  | 0, _, _, _, _, _, _ => .error (.malformed "expression too deep")
  | fuel + 1, skip, a, op, limit, ts, env =>
    match primaryExpr fuel skip ts env with
    | .error e => .error e
    | .ok (b, r, env) =>
      let tighter : ArithStep := match r with
        | .bin op2 :: r' =>
          if op2.prec < op.prec then operandsAfter fuel skip b op2 op.prec r' env else .ok (b, r, env)
        | _ => .ok (b, r, env)
      match tighter with
      | .error e => .error e
      | .ok (b, r, env) =>
        let value : Except ArithError Int := if skip then .ok b else op.apply a b
        match value with
        | .error e => .error e
        | .ok a =>
          match r with
          | .bin op2 :: r' =>
            if op2.prec ≥ limit then .ok (a, r, env) else operandsAfter fuel skip a op2 limit r' env
          | _ => .ok (a, r, env)

def primaryExpr : Nat → Bool → List ArithToken → ArithVars → ArithStep
  | 0, _, _, _ => .error (.malformed "expression too deep")
  | fuel + 1, skip, ts, env =>
    match ts with
    | .lparen :: r =>
      match assignExpr fuel skip r env with
      | .error e => .error e
      | .ok (v, .rparen :: r', env) => .ok (v, r', env)
      | .ok _ => .error (.malformed "expecting ')'")
    | .num v :: r => .ok (v, r, env)
    | .var name :: r =>
      if skip then .ok (0, r, env) else (env.valueOf name).map fun v => (v, r, env)
    | .bin .add :: r => primaryExpr fuel skip r env
    | .bin .sub :: r => (primaryExpr fuel skip r env).map fun (v, r', env) => (wrapWord (-v), r', env)
    | .not :: r => (primaryExpr fuel skip r env).map fun (v, r', env) => (if v == 0 then 1 else 0, r', env)
    | .bnot :: r => (primaryExpr fuel skip r env).map fun (v, r', env) => (-v - 1, r', env)
    | _ => .error (.malformed "expecting primary")

end

def arithEval (lookup : String → Option String) (source : String) :
    Except ArithError (Int × List (String × Int)) :=
  let ts := arithTokens (source.length + 1) source.toList
  match assignExpr (4 * ts.length + 8) false ts { lookup } with
  | .error e => .error e
  | .ok (v, [], env) => .ok (v, env.assigned.reverse)
  | .ok _ => .error (.malformed "expecting EOF")

example : (arithEval (fun _ => none) "1 << 64").toOption = some (1, []) := by decide +kernel
example : (arithEval (fun _ => none) "2 + 3 * 4").toOption = some (14, []) := by decide +kernel
example : (arithEval (fun _ => some "  5") "x + 1").toOption = some (6, []) := by decide +kernel
example : (arithEval (fun _ => none) "a = b = 4").toOption = some (4, [("b", 4), ("a", 4)]) := by
  decide +kernel

end LineCoverage.Shell
