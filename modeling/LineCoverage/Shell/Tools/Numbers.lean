import LineCoverage.Shell.Tools.Options
import LineCoverage.Shell.Format
import LineCoverage.Decimal.Extended
import LineCoverage.Regex.Match
/-! `seq` and `expr`: counting and arithmetic on the command line.

`seq` counts from a first number by a step up to a last one. Numbers are decimals, held
exactly as a whole number over a power of ten; each is printed with as many digits after
the point as the first number or the step has, and `-w` pads them with zeros to one width.

`expr` evaluates an expression whose tokens are its arguments: `|` and `&` on values that may
be null (empty or zero), comparisons that are numeric when both sides are whole numbers and
otherwise compare bytes, whole-number arithmetic of any size, and `:` matching a basic regular
expression at the start of a text. Its status says whether the result is null.
-/

set_option autoImplicit false

-- Powers are the core's `Nat.pow` and `Int.pow`, also where Mathlib's monoid powers are in scope.
attribute [local instance (high)] instPowNat

namespace LineCoverage.Shell

/-- A decimal number as `seq` reads it: a whole number over a power of ten, with the digits
after the point it was written with and the width it takes when printed so. -/
structure Decimal where
  mantissa : Int
  scale : Nat
  precision : Nat
  width : Nat

def tenTo (n : Nat) : Int := (10 : Int) ^ n

def Decimal.scaled (d : Decimal) (scale : Nat) : Int := d.mantissa * tenTo (scale - d.scale)

def Decimal.read? (arg : String) : Option Decimal :=
  let cs := arg.toList.dropWhile (fun c => c = ' ' || c = '\t' || c = '\n')
  let (negative, body) := match cs with
    | '-' :: r => (true, r)
    | '+' :: r => (false, r)
    | _ => (false, cs)
  let whole := body.takeWhile Char.isDigit
  let afterWhole := body.drop whole.length
  let (hasPoint, fraction, afterFraction) := match afterWhole with
    | '.' :: r => (true, r.takeWhile Char.isDigit, r.drop (r.takeWhile Char.isDigit).length)
    | r => (false, [], r)
  let exponent : Option Int := match afterFraction with
    | [] => some 0
    | e :: r =>
      if e = 'e' || e = 'E' then
        let (eneg, ds) := match r with
          | '-' :: d => (true, d)
          | '+' :: d => (false, d)
          | d => (false, d)
        if !ds.isEmpty && ds.all Char.isDigit then
          let v : Int := Numeral.digitsValue ds
          some (if eneg then -v else v)
        else none
      else none
  if whole.isEmpty && fraction.isEmpty then none
  else
    match exponent with
    | none => none
    | some ex =>
      let digits : Int := Numeral.digitsValue (whole ++ fraction)
      let signed := if negative then -digits else digits
      let (mantissa, scale) : Int × Nat :=
        if ex ≥ 0 then
          let up := ex.toNat
          if up ≥ fraction.length then (signed * tenTo (up - fraction.length), 0)
          else (signed, fraction.length - up)
        else (signed, fraction.length + (-ex).toNat)
      let shown := (arg.toList.dropWhile (fun c => c = ' ' || c = '\t' || c = '\n' || c = '+'))
      let baseWidth : Int := shown.length
      let fractionLen := fraction.length
      let precision0 : Int := fractionLen
      let width0 : Int :=
        if hasPoint then
          baseWidth + (if fractionLen = 0 then -1 else if whole.isEmpty then 1 else 0)
        else baseWidth
      let hasExp := afterFraction.length > 0
      let (precision, width) : Int × Int :=
        if !hasExp then (precision0, width0)
        else
          let precision := precision0 + (if ex < 0 then -ex else -(min precision0 ex))
          let width := width0 - afterFraction.length
          if ex < 0 then
            let width := if hasPoint then (if fractionLen = 0 then width + 1 else width) else width + 1
            (precision, width + (-ex))
          else
            let width := if hasPoint && precision = 0 && fractionLen > 0 then width - 1 else width
            (precision, width - (min precision0 ex))
      some ⟨mantissa, scale, precision.toNat, width.toNat⟩

def fixedText (value : Int) (prec : Nat) (width : Nat) : String :=
  let digits := toString value.natAbs
  let digits := String.ofList (List.replicate (prec + 1 - digits.length) '0') ++ digits
  let intPart := String.ofList (digits.toList.take (digits.length - prec))
  let fracPart := String.ofList (digits.toList.drop (digits.length - prec))
  let body := if prec = 0 then intPart else intPart ++ "." ++ fracPart
  let sign := if value < 0 then "-" else ""
  let pad := String.ofList (List.replicate (width - (sign.length + body.length)) '0')
  sign ++ pad ++ body

def countFrom (first step last : Int) : List Int :=
  if step = 0 then []
  else
    let count := if step > 0 then (last - first) / step + 1 else (first - last) / (-step) + 1
    (List.range count.toNat).map fun (i : Nat) => first + step * (Int.ofNat i)

def seqArguments (specs : List OptionSpec) : Nat → List String →
    Except OptionError (List (String × Option String) × List String)
  | 0, rest => .ok ([], rest)
  | _ + 1, [] => .ok ([], [])
  | fuel + 1, a :: rest =>
    let cs := a.toList
    let negative := match cs with
      | '-' :: d :: _ => d.isDigit || d = '.'
      | _ => false
    if negative then .ok ([], a :: rest)
    else if a = "--" then .ok ([], rest)
    else if a.startsWith "--" then
      match readLongOption specs (String.ofList (cs.drop 2)) rest with
      | .ok (o, r) => (seqArguments specs fuel r).map fun (os, ops) => (o :: os, ops)
      | .error e => .error e
    else if a.startsWith "-" && a.length > 1 then
      match readLetters specs (cs.drop 1) rest with
      | .ok (os, r) => (seqArguments specs fuel r).map fun (os', ops) => (os ++ os', ops)
      | .error e => .error e
    else .ok ([], a :: rest)

structure SeqFormat where
  before : String
  directive : Directive
  after : String

def seqFormatHead : List Char → String → Option (String × List Char)
  | [], _ => none
  | '%' :: '%' :: r, acc => seqFormatHead r (acc.push '%')
  | '%' :: r, acc => some (acc, r)
  | c :: r, acc => seqFormatHead r (acc.push c)

def seqFormatTail : List Char → String → Option String
  | [], acc => some acc
  | '%' :: '%' :: r, acc => seqFormatTail r (acc.push '%')
  | '%' :: _, _ => none
  | c :: r, acc => seqFormatTail r (acc.push c)

def readSeqFormat (fmt : String) : Except String SeqFormat :=
  let quoted := quoteAlways fmt
  match seqFormatHead fmt.toList "" with
  | none => .error ("format " ++ quoted ++ " has no % directive")
  | some (before, r) =>
    let flags := r.takeWhile fun c => "-+#0 '".toList.contains c
    let r := r.drop flags.length
    let widthDigits := r.takeWhile Char.isDigit
    let r := r.drop widthDigits.length
    let (precision, r) : Option Nat × List Char := match r with
      | '.' :: more =>
        let ds := more.takeWhile Char.isDigit
        (some (Numeral.digitsValue ds), more.drop ds.length)
      | _ => (none, r)
    let r := match r with
      | 'L' :: more => more
      | _ => r
    match r with
    | [] => .error ("format " ++ quoted ++ " ends in %")
    | letter :: rest =>
      if !"efgaEFGA".toList.contains letter then
        .error ("format " ++ quoted ++ " has unknown %" ++ letter.toString ++ " directive")
      else
        match seqFormatTail rest "" with
        | none => .error ("format " ++ quoted ++ " has too many % directives")
        | some after =>
          let d : Directive :=
            { flags := flags.map (·.toNat.toUInt8), width := Numeral.digitsValue widthDigits,
              left := flags.contains '-', precision, letter := letter.toNat.toUInt8 }
          .ok ⟨before, d, after⟩

def SeqFormat.render (f : SeqFormat) (x : Decimal.Extended) : String :=
  let upper := f.directive.letter == 65
  f.before ++ textOf (f.directive.real x.negative x.magnitude (x.hexText upper)) ++ f.after

structure SeqOperand where
  value : Decimal.Extended
  decimal : Option Decimal

def SeqOperand.read? (arg : String) : Option SeqOperand :=
  match Decimal.read? arg with
  | some d => some ⟨Decimal.Extended.ofRatio (d.mantissa < 0) d.mantissa.natAbs (tenTo d.scale).toNat, some d⟩
  | none =>
    let (neg, lead, rest) := signPart arg.toList
    match rest with
    | '0' :: x :: r =>
      if x = 'x' || x = 'X' then
        let (whole, frac, len) := pointedDigits 16 r
        let (exp, expLen) := exponentPart (fun c => c = 'p' || c = 'P') (r.drop len)
        if (whole.isEmpty && frac.isEmpty) || lead + 2 + len + expLen ≠ arg.length then none
        else
          let m := digitsNumber 16 (whole ++ frac)
          let e := exp - 4 * frac.length
          let value := if e ≥ 0 then Decimal.Extended.ofRatio neg (m * 2 ^ e.toNat) 1
            else Decimal.Extended.ofRatio neg m (2 ^ (-e).toNat)
          some ⟨value, none⟩
      else none
    | _ => none

/-- Whether an operand is digits only, which `seq` counts with exactly. -/
def allDigits (s : String) : Bool := !s.isEmpty && s.all Char.isDigit

/-- The numbers `seq` writes with a format, each computed as `first + i * step` in extended
precision while it has not passed `last`. A value just past `last` is written too when it
reads back as `last` and is written differently from the one before it, so that rounding does
not lose the last number. The fuel bounds the numbers. -/
def seqValues (f : SeqFormat) (first step last : Decimal.Extended) : Nat → Nat → Decimal.Extended →
    List String
  | 0, _, _ => []
  | fuel + 1, i, previous =>
    let x := first.add (step.scale i)
    let past := if step.negative then x.compare last == .lt else last.compare x == .lt
    let text := f.render x
    if !past then text :: seqValues f first step last fuel (i + 1) x
    else
      let middle := String.ofList ((text.toList.drop f.before.length).take
        (text.length - f.before.length - f.after.length))
      let readsAsLast := match Decimal.read? middle with
        | some d =>
          (Decimal.Extended.ofRatio (d.mantissa < 0) d.mantissa.natAbs (tenTo d.scale).toNat).compare last == .eq
        | none => false
      if readsAsLast && f.render previous != text then [text] else []

def seq (c : Call) : Done :=
  let tool := c.tool "seq"
  let specs : List OptionSpec :=
    [.withArg 'f', .withArg 's', .flag 'w', .alias "format" 'f' .argument,
      .alias "separator" 's' .argument, .alias "equal-width" 'w' .nothing]
  let usage (m : String) : Done := c.answer 1 "" (tool ++ ": " ++ m ++ "\n" ++ tryHelp tool)
  match seqArguments specs (c.args.length + 1) c.args with
  | .error e => c.answer 1 "" (e.message tool ++ tryHelp tool)
  | .ok (options, operands) =>
    let cl : CommandLine := ⟨options, operands⟩
    let sep := (cl.last? "s").getD "\n"
    let equal := cl.has "w"
    match operands with
    | [] => usage "missing operand"
    | _ :: _ :: _ :: extra :: _ => usage ("extra operand " ++ quoteAlways extra)
    | _ =>
    let format : Except String (Option SeqFormat) := match cl.last? "f" with
      | some f => (readSeqFormat f).map some
      | none => .ok none
    match format with
    | .error m => c.answer 1 "" (tool ++ ": " ++ m ++ "\n")
    | .ok format =>
    if equal && format.isSome then usage "format string may not be specified when printing equal width strings"
    else
    let stepSmall : Bool := match operands with
      | [_, s, _] => ((Decimal.read? s).map fun d => d.scale = 0 && 0 < d.mantissa && d.mantissa ≤ 200).getD false
      | _ => true
    if operands.all allDigits && stepSmall && !equal && format.isNone && sep.length = 1 then
      let ds := operands.filterMap Decimal.read?
      let (first, step, last) : Int × Int × Int := match ds with
        | [l] => (1, 1, l.mantissa)
        | [f, l] => (f.mantissa, 1, l.mantissa)
        | [f, s, l] => (f.mantissa, s.mantissa, l.mantissa)
        | _ => (1, 1, 1)
      let shown := (countFrom first step last).map toString
      if shown.isEmpty then c.answer 0 "" ""
      else c.answer 0 (sep.intercalate shown ++ "\n") ""
    else
    let scan (a : String) : Except String SeqOperand :=
      match SeqOperand.read? a with
      | some o => .ok o
      | none => .error ("invalid floating point argument: " ++ quoteAlways a)
    let one : SeqOperand := ⟨Decimal.Extended.ofRatio false 1 1, some ⟨1, 0, 0, 1⟩⟩
    let scanned : Except String (SeqOperand × SeqOperand × SeqOperand) :=
      match operands with
      | [l] => (scan l).map fun l => (one, one, l)
      | [f, l] => do
        let f ← scan f
        let l ← scan l
        pure (f, one, l)
      | [f, s, l] => do
        let f ← scan f
        let st ← scan s
        if st.value.isZero then throw ("invalid Zero increment value: " ++ quoteAlways s)
        let l ← scan l
        pure (f, st, l)
      | _ => .ok (one, one, one)
    match scanned with
    | .error m => usage m
    | .ok (first, step, last) =>
      let fmt : SeqFormat := match format with
        | some f => f
        | none =>
          let general : Directive := { flags := [], width := 0, left := false, precision := none, letter := 103 }
          let general : SeqFormat := ⟨"", general, ""⟩
          match first.decimal, step.decimal, last.decimal with
          | some f, some s, some l =>
            let prec := max f.precision s.precision
            let width :=
              if equal then
                let firstWidth := f.width + (prec - f.precision) + (if f.precision = 0 && prec > 0 then 1 else 0)
                let lastWidth := l.width + (prec - l.precision)
                let lastWidth := if l.precision > 0 && prec = 0 then lastWidth - 1
                  else if l.precision = 0 && prec > 0 then lastWidth + 1 else lastWidth
                max firstWidth lastWidth
              else 0
            let fixed : Directive :=
              { flags := if equal then [48] else [], width, left := false, precision := some prec, letter := 102 }
            ⟨"", fixed, ""⟩
          | _, _, _ => general
      let (f0, s0, l0) := (first.value, step.value, last.value)
      let before := if s0.negative then f0.compare l0 == .lt else l0.compare f0 == .lt
      if before then c.answer 0 "" ""
      else
        let (nf, df) := f0.ratio
        let (ns, ds) := s0.ratio
        let (nl, dl) := l0.ratio
        let span : Nat := ((nl * df - nf * dl).natAbs * ds) / (ns.natAbs * dl * df)
        let shown := fmt.render f0 :: seqValues fmt f0 s0 l0 (span + 2) 1 f0
        c.answer 0 (sep.intercalate shown ++ "\n") ""

/-! ### expr -/

inductive ExprValue where
  | int (n : Int)
  | str (s : String)

def looksLikeInteger (s : String) : Bool :=
  let cs := match s.toList with
    | '-' :: r => r
    | r => r
  !cs.isEmpty && cs.all Char.isDigit

def integerOf (s : String) : Int :=
  match s.toList with
  | '-' :: r => -(Numeral.digitsValue r : Int)
  | r => Numeral.digitsValue r

def ExprValue.text : ExprValue → String
  | .int n => toString n
  | .str s => s

def ExprValue.number? : ExprValue → Option Int
  | .int n => some n
  | .str s => if looksLikeInteger s then some (integerOf s) else none

/-- Whether a value is null: zero, or a text that is empty or only zeros after an optional
`-`. -/
def ExprValue.null : ExprValue → Bool
  | .int n => n = 0
  | .str s =>
    let cs := match s.toList with
      | '-' :: r => r
      | r => r
    s.isEmpty || (!cs.isEmpty && cs.all (· = '0'))

inductive ExprError where
  | missingAfter (token : String)
  | unexpected (token : String)
  | expectingAfter (token : String)
  | expectingInstead (token : String)
  | unexpectedClose
  | nonInteger
  | divisionByZero
  | badPattern (message : String)

def ExprError.message : ExprError → String
  | .missingAfter t => "syntax error: missing argument after " ++ quoteAlways t
  | .unexpected t => "syntax error: unexpected argument " ++ quoteAlways t
  | .expectingAfter t => "syntax error: expecting ')' after " ++ quoteAlways t
  | .expectingInstead t => "syntax error: expecting ')' instead of " ++ quoteAlways t
  | .unexpectedClose => "syntax error: unexpected ')'"
  | .nonInteger => "non-integer argument"
  | .divisionByZero => "division by zero"
  | .badPattern m => m

structure ExprTokens where
  rest : List String
  last : String

def ExprTokens.take? (t : ExprTokens) (word : String) : Option ExprTokens :=
  match t.rest with
  | w :: more => if w = word then some ⟨more, w⟩ else none
  | [] => none

/-- `:`: matches a basic regular expression at the start of a text. With a group, the text the
first group matched (empty when none); otherwise the length of the match (zero when none). -/
def exprMatch (s pattern : String) : Except ExprError ExprValue :=
  match Regex.compile .grepBasic pattern false with
  | .error p => .error (.badPattern p.message)
  | .ok r =>
    let input := s.toList.toArray
    match (r.endsFrom input 0).head? with
    | some e =>
      if r.groups > 0 then
        match (r.capturesBetween input 0 e).bind (·.get? 1) with
        | some (a, b) => .ok (.str (String.ofList ((input.extract a b).toList)))
        | none => .ok (.str "")
      else .ok (.int e)
    | none => .ok (if r.groups > 0 then .str "" else .int 0)

abbrev ExprStep := Except ExprError (ExprValue × ExprTokens)

mutual

/-- `a | b`: the left value unless it is null, then the right one unless that is null too. -/
def exprOr : Nat → Bool → ExprTokens → ExprStep
  | 0, _, t => .error (.missingAfter t.last)
  | fuel + 1, ev, t =>
    match exprAnd fuel ev t with
    | .error e => .error e
    | .ok (l, t') => exprOrMore fuel ev l t'

def exprOrMore : Nat → Bool → ExprValue → ExprTokens → ExprStep
  | 0, _, l, t => .ok (l, t)
  | fuel + 1, ev, l, t =>
    match t.take? "|" with
    | none => .ok (l, t)
    | some t' =>
      match exprAnd fuel (ev && l.null) t' with
      | .error e => .error e
      | .ok (r, t'') =>
        let v := if l.null then (if r.null then .int 0 else r) else l
        exprOrMore fuel ev v t''

def exprAnd : Nat → Bool → ExprTokens → ExprStep
  | 0, _, t => .error (.missingAfter t.last)
  | fuel + 1, ev, t =>
    match exprCompare fuel ev t with
    | .error e => .error e
    | .ok (l, t') => exprAndMore fuel ev l t'

def exprAndMore : Nat → Bool → ExprValue → ExprTokens → ExprStep
  | 0, _, l, t => .ok (l, t)
  | fuel + 1, ev, l, t =>
    match t.take? "&" with
    | none => .ok (l, t)
    | some t' =>
      match exprCompare fuel (ev && !l.null) t' with
      | .error e => .error e
      | .ok (r, t'') => exprAndMore fuel ev (if l.null || r.null then .int 0 else l) t''

/-- Comparisons: numeric when both sides are whole numbers, bytewise otherwise. -/
def exprCompare : Nat → Bool → ExprTokens → ExprStep
  | 0, _, t => .error (.missingAfter t.last)
  | fuel + 1, ev, t =>
    match exprSum fuel ev t with
    | .error e => .error e
    | .ok (l, t') => exprCompareMore fuel ev l t'

def exprCompareMore : Nat → Bool → ExprValue → ExprTokens → ExprStep
  | 0, _, l, t => .ok (l, t)
  | fuel + 1, ev, l, t =>
    let ops : List String := ["<", "<=", "=", "==", "!=", ">=", ">"]
    match t.rest with
    | op :: more =>
      if ops.contains op then
        match exprSum fuel ev ⟨more, op⟩ with
        | .error e => .error e
        | .ok (r, t'') =>
          let a := l.text
          let b := r.text
          let order : Ordering :=
            if looksLikeInteger a && looksLikeInteger b then compare (integerOf a) (integerOf b)
            else compare a b
          let holds : Bool := match op with
            | "<" => order == .lt
            | "<=" => order != .gt
            | "=" | "==" => order == .eq
            | "!=" => order != .eq
            | ">=" => order != .lt
            | _ => order == .gt
          exprCompareMore fuel ev (.int (if holds then 1 else 0)) t''
      else .ok (l, t)
    | [] => .ok (l, t)

def exprSum : Nat → Bool → ExprTokens → ExprStep
  | 0, _, t => .error (.missingAfter t.last)
  | fuel + 1, ev, t =>
    match exprProduct fuel ev t with
    | .error e => .error e
    | .ok (l, t') => exprSumMore fuel ev l t'

def exprSumMore : Nat → Bool → ExprValue → ExprTokens → ExprStep
  | 0, _, l, t => .ok (l, t)
  | fuel + 1, ev, l, t =>
    match t.rest with
    | op :: more =>
      if op = "+" || op = "-" then
        match exprProduct fuel ev ⟨more, op⟩ with
        | .error e => .error e
        | .ok (r, t'') =>
          if !ev then exprSumMore fuel ev l t''
          else
            match l.number?, r.number? with
            | some x, some y => exprSumMore fuel ev (.int (if op = "+" then x + y else x - y)) t''
            | _, _ => .error .nonInteger
      else .ok (l, t)
    | [] => .ok (l, t)

/-- `*`, `/` and `%` on whole numbers, the quotient rounded toward zero. -/
def exprProduct : Nat → Bool → ExprTokens → ExprStep
  | 0, _, t => .error (.missingAfter t.last)
  | fuel + 1, ev, t =>
    match exprColon fuel ev t with
    | .error e => .error e
    | .ok (l, t') => exprProductMore fuel ev l t'

def exprProductMore : Nat → Bool → ExprValue → ExprTokens → ExprStep
  | 0, _, l, t => .ok (l, t)
  | fuel + 1, ev, l, t =>
    match t.rest with
    | op :: more =>
      if op = "*" || op = "/" || op = "%" then
        match exprColon fuel ev ⟨more, op⟩ with
        | .error e => .error e
        | .ok (r, t'') =>
          if !ev then exprProductMore fuel ev l t''
          else
            match l.number?, r.number? with
            | some x, some y =>
              if op != "*" && y = 0 then .error .divisionByZero
              else
                let v := if op = "*" then x * y else if op = "/" then x.tdiv y else x.tmod y
                exprProductMore fuel ev (.int v) t''
            | _, _ => .error .nonInteger
      else .ok (l, t)
    | [] => .ok (l, t)

def exprColon : Nat → Bool → ExprTokens → ExprStep
  | 0, _, t => .error (.missingAfter t.last)
  | fuel + 1, ev, t =>
    match exprUnary fuel ev t with
    | .error e => .error e
    | .ok (l, t') => exprColonMore fuel ev l t'

def exprColonMore : Nat → Bool → ExprValue → ExprTokens → ExprStep
  | 0, _, l, t => .ok (l, t)
  | fuel + 1, ev, l, t =>
    match t.take? ":" with
    | none => .ok (l, t)
    | some t' =>
      match exprUnary fuel ev t' with
      | .error e => .error e
      | .ok (r, t'') =>
        if !ev then exprColonMore fuel ev l t''
        else
          match exprMatch l.text r.text with
          | .ok v => exprColonMore fuel ev v t''
          | .error e => .error e

def exprUnary : Nat → Bool → ExprTokens → ExprStep
  | 0, _, t => .error (.missingAfter t.last)
  | fuel + 1, ev, t =>
    match t.rest with
    | "+" :: more =>
      match more with
      | w :: after => .ok (.str w, ⟨after, w⟩)
      | [] => .error (.missingAfter "+")
    | "length" :: more =>
      match exprUnary fuel ev ⟨more, "length"⟩ with
      | .ok (v, t') => .ok (.int v.text.length, t')
      | .error e => .error e
    | "match" :: more =>
      match exprUnary fuel ev ⟨more, "match"⟩ with
      | .error e => .error e
      | .ok (l, t') =>
        match exprUnary fuel ev t' with
        | .error e => .error e
        | .ok (r, t'') =>
          if !ev then .ok (l, t'')
          else (exprMatch l.text r.text).map fun v => (v, t'')
    | "index" :: more =>
      match exprUnary fuel ev ⟨more, "index"⟩ with
      | .error e => .error e
      | .ok (l, t') =>
        match exprUnary fuel ev t' with
        | .error e => .error e
        | .ok (r, t'') =>
          let chars := r.text.toList
          let pos := match (l.text.toList.findIdx? chars.contains) with
            | some i => i + 1
            | none => 0
          .ok (.int pos, t'')
    | "substr" :: more =>
      match exprUnary fuel ev ⟨more, "substr"⟩ with
      | .error e => .error e
      | .ok (s, t1) =>
        match exprUnary fuel ev t1 with
        | .error e => .error e
        | .ok (p, t2) =>
          match exprUnary fuel ev t2 with
          | .error e => .error e
          | .ok (n, t3) =>
            let text := s.text.toList
            let piece := match p.number?, n.number? with
              | some pos, some len =>
                if pos ≤ 0 || len ≤ 0 || pos.toNat > text.length then ""
                else String.ofList ((text.drop (pos.toNat - 1)).take len.toNat)
              | _, _ => ""
            .ok (.str piece, t3)
    | _ => exprPrimary fuel ev t

def exprPrimary : Nat → Bool → ExprTokens → ExprStep
  | 0, _, t => .error (.missingAfter t.last)
  | fuel + 1, ev, t =>
    match t.rest with
    | [] => .error (.missingAfter t.last)
    | "(" :: more =>
      match exprOr fuel ev ⟨more, "("⟩ with
      | .error e => .error e
      | .ok (v, t') =>
        match t'.rest with
        | [] => .error (.expectingAfter t'.last)
        | ")" :: after => .ok (v, ⟨after, ")"⟩)
        | w :: _ => .error (.expectingInstead w)
    | ")" :: _ => .error .unexpectedClose
    | w :: more => .ok (.str w, ⟨more, w⟩)

end

/-- `expr`: evaluates its arguments and prints the result; the status is 1 when the result is
null and 2 when the expression is wrong. -/
def expr (c : Call) : Done :=
  let tool := c.tool "expr"
  let args := match c.args with
    | "--" :: rest => rest
    | rest => rest
  match args with
  | [] => c.answer 2 "" (tool ++ ": missing operand\n" ++ tryHelp tool)
  | _ =>
    match exprOr (4 * args.length + 8) true ⟨args, ""⟩ with
    | .error e => c.answer 2 "" (tool ++ ": " ++ e.message ++ "\n")
    | .ok (v, t) =>
      match t.rest with
      | w :: _ => c.answer 2 "" (tool ++ ": " ++ (ExprError.unexpected w).message ++ "\n")
      | [] => c.answer (if v.null then 1 else 0) (v.text ++ "\n") ""

end LineCoverage.Shell
