import LineCoverage.Shell.Arith
import LineCoverage.FileTree.System
import LineCoverage.Text.Pad
/-! The truth of the shell's own command `test`.

Arguments are read as the shell reads them. With three arguments and a binary operator in the
middle, that comparison is made; with three or four arguments, parentheses around the rest
are dropped and a leading `!` negates the rest. Otherwise the arguments are an expression in
which `-o` binds looser than `-a`, `!` negates, parentheses group, a unary operator applies to
the argument after it, and a word followed by a binary operator is compared with the word after
that; any other word is true when it is not empty. A unary operator with nothing after it, or
followed by a single word and then more, is a plain word. Words left over after the expression
are an error naming the last word read.

Numbers are decimal, with blanks around them and a sign allowed, and must fit in a signed
64-bit word. Files are tested by what stands at their path, links followed except by `-h` and
`-L`; a file is executable when it is marked so and a directory always is. Times of files are
not kept, so no file is newer or older than another.
-/

set_option autoImplicit false

-- Powers are the core's `Nat.pow` and `Int.pow`, also where Mathlib's monoid powers are in scope.
attribute [local instance (high)] instPowNat

namespace LineCoverage.Shell

/-! ### test -/

inductive TestOp where
  | unary (name : String)
  | binary (name : String)
  | not
  | and
  | or
  | lparen
  | rparen
  deriving DecidableEq

def testOp? (s : String) : Option TestOp :=
  if ["-r", "-w", "-x", "-e", "-f", "-d", "-c", "-b", "-p", "-u", "-g", "-k", "-s", "-t", "-z",
      "-n", "-h", "-O", "-G", "-L", "-S"].contains s then some (.unary s)
  else if ["=", "!=", "<", ">", "-eq", "-ne", "-ge", "-gt", "-le", "-lt", "-nt", "-ot",
      "-ef"].contains s then some (.binary s)
  else
    match s with
    | "!" => some .not
    | "-a" => some .and
    | "-o" => some .or
    | "(" => some .lparen
    | ")" => some .rparen
    | _ => none

def TestOp.isBinary : TestOp → Bool
  | .binary _ => true
  | _ => false

/-- How the argument at the head of the rest reads: the end, a plain word, or an operator. A
unary operator reads as a word when nothing follows it, or when a word and then a binary
operator follow it; a lone `(` at the end reads as a word. -/
def testLex : List String → Option (Option TestOp)
  | [] => none
  | s :: rest =>
    match testOp? s with
    | none => some none
    | some o =>
      let asWord := match o with
        | .unary _ =>
          match rest with
          | [] => true
          | [_] => false
          | s1 :: _ => ((testOp? s1).map TestOp.isBinary).getD false
        | .lparen => rest.isEmpty
        | _ => false
      if asWord then some none else some (some o)

def decimalWord (s : String) : Option Int :=
  let space (c : Char) : Bool := c = ' ' || c = '\t' || c = '\n' || c = '\r' || c.toNat = 11 || c.toNat = 12
  let cs := s.toList.dropWhile space
  let (neg, body) := match cs with
    | '-' :: r => (true, r)
    | '+' :: r => (false, r)
    | r => (false, r)
  let digits := body.takeWhile Char.isDigit
  let mag : Int := digits.foldl (fun acc d => acc * 10 + (d.toNat - 48 : Nat)) 0
  let v := if neg then -mag else mag
  if digits.isEmpty || !(body.drop digits.length).all space then none
  else if v < -(2 ^ (63 : Nat)) || v > 2 ^ (63 : Nat) - 1 then none
  else some v

def testNumber (a : String) : Except String Int :=
  match decimalWord a with
  | some v => .ok v
  | none => .error s!"Illegal number: {a}"

def unaryTest (tree : FileTree) (cwd : Location) (op arg : String) : Except String Bool :=
  let entry := tree.entryAt? cwd arg
  let isFile := match entry with
    | some (.file _) => true
    | _ => false
  match op with
  | "-n" => .ok !arg.isEmpty
  | "-z" => .ok arg.isEmpty
  | "-e" | "-r" | "-w" => .ok (entry.isSome || FileTree.isNullDevice arg)
  | "-c" => .ok (FileTree.isNullDevice arg)
  | "-O" | "-G" => .ok entry.isSome
  | "-f" => .ok isFile
  | "-d" => .ok (entry == some .dir)
  | "-s" => .ok (match entry with
    | some (.file c) => !c.isEmpty
    | some .dir => true
    | _ => false)
  | "-x" => .ok (entry == some .dir ||
      (isFile && match tree.resolve cwd arg with
        | .ok l => tree.isExecutable l
        | .error _ => false))
  | "-L" | "-h" => .ok (tree.linkAt? cwd arg).isSome
  | "-t" => (testNumber arg).map fun _ => false
  | _ => .ok false

def binaryTest (tree : FileTree) (cwd : Location) (a op b : String) : Except String Bool :=
  let num (f : Int → Int → Bool) : Except String Bool := do
    let x ← testNumber a
    let y ← testNumber b
    pure (f x y)
  match op with
  | "=" => .ok (a == b)
  | "!=" => .ok (a != b)
  | "<" => .ok (decide (a < b))
  | ">" => .ok (decide (b < a))
  | "-eq" => num fun x y => x == y
  | "-ne" => num fun x y => x != y
  | "-lt" => num fun x y => decide (x < y)
  | "-le" => num fun x y => decide (x ≤ y)
  | "-gt" => num fun x y => decide (x > y)
  | "-ge" => num fun x y => decide (x ≥ y)
  | "-ef" =>
    .ok (match tree.resolve cwd a, tree.resolve cwd b with
      | .ok l, .ok m => l == m && (tree.get? l).isSome
      | _, _ => false)
  | _ => .ok false

abbrev TestStep := Except String (Bool × List String)

mutual

def testOr (tree : FileTree) (cwd : Location) : Nat → Option (Option TestOp) → List String → TestStep
  | 0, _, _ => .error "expression too deep"
  | fuel + 1, n, args =>
    match testAnd tree cwd fuel n args with
    | .error e => .error e
    | .ok (l, at_) =>
      match testLex (at_.drop 1) with
      | some (some .or) =>
        let next := at_.drop 2
        (testOr tree cwd fuel (testLex next) next).map fun (r, rest) => (l || r, rest)
      | _ => .ok (l, at_)

def testAnd (tree : FileTree) (cwd : Location) : Nat → Option (Option TestOp) → List String → TestStep
  | 0, _, _ => .error "expression too deep"
  | fuel + 1, n, args =>
    match testNot tree cwd fuel n args with
    | .error e => .error e
    | .ok (l, at_) =>
      match testLex (at_.drop 1) with
      | some (some .and) =>
        let next := at_.drop 2
        (testAnd tree cwd fuel (testLex next) next).map fun (r, rest) => (l && r, rest)
      | _ => .ok (l, at_)

def testNot (tree : FileTree) (cwd : Location) : Nat → Option (Option TestOp) → List String → TestStep
  | 0, _, _ => .error "expression too deep"
  | fuel + 1, n, args =>
    match n with
    | some (some .not) =>
      let next := args.drop 1
      (testNot tree cwd fuel (testLex next) next).map fun (v, rest) => (!v, rest)
    | _ => testPrimary tree cwd fuel n args

def testPrimary (tree : FileTree) (cwd : Location) : Nat → Option (Option TestOp) → List String → TestStep
  | 0, _, _ => .error "expression too deep"
  | fuel + 1, n, args =>
    match n, args with
    | none, _ => .ok (false, [])
    | _, [] => .ok (false, [])
    | some (some .lparen), _ :: rest =>
      match testOr tree cwd fuel (testLex rest) rest with
      | .error e => .error e
      | .ok (v, at_) =>
        let after := at_.drop 1
        if testLex after == some (some .rparen) then .ok (v, after)
        else .error "closing paren expected"
    | some (some (.unary op)), _ :: rest =>
      match rest with
      | [] => .error s!"{op}: argument expected"
      | arg :: _ => (unaryTest tree cwd op arg).map fun v => (v, rest)
    | _, a :: rest =>
      match testLex rest, rest with
      | some (some (.binary op)), _ :: more =>
        match more with
        | [] => .error s!"{op}: argument expected"
        | b :: _ => (binaryTest tree cwd a op b).map fun v => (v, more)
      | _, _ => .ok (!a.isEmpty, args)

end

/-- The status of `test` with its arguments, 0 for true and 1 for false (the other way round
when `res` is 0, after a leading `!`), or the message of its error. -/
def testStatus (tree : FileTree) (cwd : Location) : Nat → Nat → List String → Except String Nat
  | 0, _, _ => .error "expression too deep"
  | fuel + 1, res, args =>
    let eval (xs : List String) (n : Option (Option TestOp)) : Except String Nat :=
      match testOr tree cwd (4 * xs.length + 4) n xs with
      | .error e => .error e
      | .ok (v, at_) =>
        match at_ with
        | a :: _ :: _ => .error s!"{a}: unexpected operator"
        | _ => .ok (if v then 1 - res else res)
    let middleBinary := ((testOp? (args.getD 1 "")).map TestOp.isBinary).getD false
    let short := args.length = 3 || args.length = 4
    if args.isEmpty then .ok res
    else if args.length = 3 && middleBinary then eval args (some none)
    else if short && args.head? == some "(" && args.getLast? == some ")" then
      let inner := (args.drop 1).dropLast
      eval inner (testLex inner)
    else if short && args.head? == some "!" then testStatus tree cwd fuel 0 (args.drop 1)
    else eval args (testLex args)

end LineCoverage.Shell
