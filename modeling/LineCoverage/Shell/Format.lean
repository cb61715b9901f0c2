import LineCoverage.Decimal.Scientific
import LineCoverage.Text.Bytewise
/-! The bytes the shell's own commands `echo` and `printf` write.

Both read backslash escapes: one to three octal digits give a byte (its low eight bits), and
`\\ \a \b \f \n \r \t \v` give their characters; any other backslash stands for itself. In
`echo` and in the arguments of `printf`'s `%b` an octal escape may also start with a `0`
followed by up to three digits, and `\c` ends all output.

`echo` joins its arguments by spaces and ends the line unless its first argument is `-n`.
`printf` writes its format, filling each directive `%[flags][width][.precision]letter` from
the next argument, and uses the format again while arguments remain and the last pass took
one; a missing argument is empty or zero. The letters are `s b c` for text, `d i` for signed
and `o u x X` for unsigned whole numbers, and `e E f F g G a A` for doubles. Numbers are read
as the C library reads them: a leading quote gives the value of the byte after it, and an
argument that is not wholly a number, or out of range, gives a warning and makes the status
one. A directive without a letter, or with a letter not listed, ends `printf` with an error.
-/

set_option autoImplicit false

-- Powers are the core's `Nat.pow` and `Int.pow`, also where Mathlib's monoid powers are in scope.
attribute [local instance (high)] instPowNat

namespace LineCoverage.Shell

open Decimal

/-! ### Escapes -/

def isOctalByte (b : UInt8) : Bool := 48 ≤ b && b ≤ 55

/-- The byte of an octal escape's digits; a value past 255 keeps its low eight bits. -/
def octalByte (ds : List UInt8) : UInt8 :=
  (ds.foldl (fun (acc : Nat) (d : UInt8) => acc * 8 + (d.toNat - 48)) 0 % 256).toUInt8

def escapedByte : UInt8 → Option UInt8
  | 92 => some 92
  | 97 => some 7
  | 98 => some 8
  | 102 => some 12
  | 110 => some 10
  | 114 => some 13
  | 116 => some 9
  | 118 => some 11
  | _ => none

/-- One escape read after its backslash, and what follows it: one to three octal digits, or a
letter of `escapedByte`. Anything else stands for the backslash itself, and the reading goes
on at the byte after the backslash. -/
def escapeAt (bs : List UInt8) : UInt8 × List UInt8 :=
  match bs with
  | [] => (92, [])
  | b :: rest =>
    if isOctalByte b then
      let ds := (bs.takeWhile isOctalByte).take 3
      (octalByte ds, bs.drop ds.length)
    else
      match escapedByte b with
      | some x => (x, rest)
      | none => (92, bs)

/-- The escapes of `echo` and of `%b` read in a text: the bytes, and whether `\c` ended all
output. Every round takes a byte, so `fuel` above the number of bytes is enough. -/
def echoEscapesFuel : Nat → List UInt8 → List UInt8 × Bool
  | 0, _ => ([], false)
  | _ + 1, [] => ([], false)
  | fuel + 1, 92 :: rest =>
    if rest.head? == some 99 then ([], true)
    else
      let digits := match rest with
        | 48 :: d :: more => if isOctalByte d then d :: more else rest
        | _ => rest
      let (b, after) := escapeAt digits
      let (more, stop) := echoEscapesFuel fuel after
      (b :: more, stop)
  | fuel + 1, b :: rest =>
    let (more, stop) := echoEscapesFuel fuel rest
    (b :: more, stop)

def echoEscapes (bs : List UInt8) : List UInt8 × Bool := echoEscapesFuel (bs.length + 1) bs

def echoBytes (args : List String) : List UInt8 :=
  let (newline, args) := match args with
    | "-n" :: rest => (false, rest)
    | _ => (true, args)
  let rec go : List String → List UInt8
    | [] => if newline then [10] else []
    | [a] =>
      let (text, stop) := echoEscapes (Text.Bytewise.encode a)
      if stop then text else text ++ (if newline then [10] else [])
    | a :: rest =>
      let (text, stop) := echoEscapes (Text.Bytewise.encode a)
      if stop then text else text ++ [32] ++ go rest
  go args

/-! ### Number arguments -/

def isNumberSpace (c : Char) : Bool :=
  c = ' ' || c = '\t' || c = '\n' || c = '\r' || c.toNat = 11 || c.toNat = 12

def digitValue (c : Char) : Nat :=
  if '0' ≤ c && c ≤ '9' then c.toNat - 48
  else if 'a' ≤ c && c ≤ 'z' then c.toNat - 87
  else if 'A' ≤ c && c ≤ 'Z' then c.toNat - 55
  else 36

def leadingDigits (base : Nat) (cs : List Char) : List Nat :=
  (cs.takeWhile (digitValue · < base)).map digitValue

def digitsNumber (base : Nat) (ds : List Nat) : Nat := ds.foldl (fun acc d => acc * base + d) 0

def signPart (cs : List Char) : Bool × Nat × List Char :=
  let blanks := (cs.takeWhile isNumberSpace).length
  match cs.drop blanks with
  | '-' :: r => (true, blanks + 1, r)
  | '+' :: r => (false, blanks + 1, r)
  | r => (false, blanks, r)

/-- A whole number at the front of a text, read in C notation: white space, a sign, and then
`0x` with hexadecimal digits, `0` with octal digits, or decimal digits. Whether it is
negative, its magnitude, and how many characters it takes; none when it has no digit. -/
def scanWhole (cs : List Char) : Option (Bool × Nat × Nat) :=
  let (neg, lead, rest) := signPart cs
  match rest with
  | '0' :: x :: r =>
    let hex := leadingDigits 16 r
    if (x = 'x' || x = 'X') && !hex.isEmpty then some (neg, digitsNumber 16 hex, lead + 2 + hex.length)
    else
      let ds := leadingDigits 8 rest
      some (neg, digitsNumber 8 ds, lead + ds.length)
  | _ =>
    let ds := leadingDigits 10 rest
    if ds.isEmpty then none else some (neg, digitsNumber 10 ds, lead + ds.length)

def conversionWarning (a : String) (taken : Nat) (outOfRange : Bool) : Option String :=
  if taken < a.length then
    some (a ++ (if taken = 0 then ": expected numeric value" else ": not completely converted"))
  else if outOfRange then some (a ++ ": Numerical result out of range")
  else none

def quotedByte (a : String) : Option Nat :=
  match (Text.Bytewise.encode a) with
  | 39 :: rest | 34 :: rest => some (rest.head?.getD 0).toNat
  | _ => none

def signedArg (a : String) : Int × Option String :=
  match quotedByte a with
  | some v => (v, none)
  | none =>
    match scanWhole a.toList with
    | none => (0, conversionWarning a 0 false)
    | some (neg, mag, taken) =>
      let (v, beyond) : Int × Bool :=
        if neg then (if mag > 2 ^ (63 : Nat) then (-(2 ^ (63 : Nat)), true) else (-(mag : Int), false))
        else if mag ≥ 2 ^ (63 : Nat) then (2 ^ (63 : Nat) - 1, true) else (mag, false)
      (v, conversionWarning a taken beyond)

def unsignedArg (a : String) : Nat × Option String :=
  match quotedByte a with
  | some v => (v, none)
  | none =>
    match scanWhole a.toList with
    | none => (0, conversionWarning a 0 false)
    | some (neg, mag, taken) =>
      if mag ≥ 2 ^ (64 : Nat) then (2 ^ (64 : Nat) - 1, conversionWarning a taken true)
      else ((if neg then (2 ^ (64 : Nat) - mag) % 2 ^ (64 : Nat) else mag), conversionWarning a taken false)

/-- The bits of the double nearest to `num / den`, ties to even, and whether the value lies
out of range: too large (the result is an infinity), or too small to be held exactly (the
result is zero or subnormal, and not equal to the value). The magnitude only; `num` must not
be zero. -/
def nearestBits (num den : Nat) : UInt64 × Bool :=
  let e0 : Int := (num.log2 : Int) - den.log2
  let atLeast (e : Int) : Bool := num * 2 ^ (-e).toNat ≥ den * 2 ^ e.toNat
  let e := if atLeast e0 then e0 else e0 - 1
  let q : Int := if e < -1022 then -1074 else e - 52
  let m := roundDiv (num * 2 ^ (-q).toNat) (den * 2 ^ q.toNat) .toEven
  if e < -1022 then (m.toUInt64, m < 2 ^ (52 : Nat) && (num * 2 ^ (1074 : Nat)) % den != 0)
  else
    let (m, e) := if m = 2 ^ (53 : Nat) then (2 ^ (52 : Nat), e + 1) else (m, e)
    if e > 1023 then (0x7FF0000000000000, true)
    else ((((e + 1023).toNat * 2 ^ (52 : Nat)) + (m - 2 ^ (52 : Nat))).toUInt64, false)

def scaledBits (mantissa base : Nat) (exp : Int) : UInt64 × Bool :=
  if mantissa = 0 then (0, false)
  else
    let size : Int := if base = 2 then mantissa.log2 + 1 + exp else (toString mantissa).length + exp
    let limit : Int := if base = 2 then 1100 else 330
    if size > limit then (0x7FF0000000000000, true)
    else if size < -limit then (0, true)
    else if exp ≥ 0 then nearestBits (mantissa * base ^ exp.toNat) 1
    else nearestBits mantissa (base ^ (-exp).toNat)

def exponentPart (isMarker : Char → Bool) (cs : List Char) : Int × Nat :=
  match cs with
  | c :: rest =>
    if !isMarker c then (0, 0)
    else
      let (neg, signLen, r) := match rest with
        | '-' :: r => (true, 1, r)
        | '+' :: r => (false, 1, r)
        | r => (false, 0, r)
      let ds := leadingDigits 10 r
      if ds.isEmpty then (0, 0)
      else
        let v : Int := digitsNumber 10 ds
        (if neg then -v else v, 1 + signLen + ds.length)
  | [] => (0, 0)

def pointedDigits (base : Nat) (cs : List Char) : List Nat × List Nat × Nat :=
  let whole := leadingDigits base cs
  match cs.drop whole.length with
  | '.' :: r =>
    let frac := leadingDigits base r
    (whole, frac, whole.length + 1 + frac.length)
  | _ => (whole, [], whole.length)

/-- A double at the front of a text as the C library reads it: white space, a sign, and then
an infinity, a NaN (with an optional parenthesised tag), a hexadecimal number after `0x` with a
binary exponent after `p`, or a decimal number with an exponent after `e`. Its bits, how many
characters it takes, and whether it lies out of range; none when nothing is read. -/
def scanDouble (cs : List Char) : Option (UInt64 × Nat × Bool) :=
  let (neg, lead, rest) := signPart cs
  let signBit : UInt64 := if neg then 0x8000000000000000 else 0
  let lower := rest.map Char.toLower
  let hexPart : Option (List Nat × List Nat × Nat) := match rest with
    | '0' :: x :: r =>
      if x = 'x' || x = 'X' then
        let p := pointedDigits 16 r
        if p.1.isEmpty && p.2.1.isEmpty then none else some p
      else none
    | _ => none
  if "infinity".toList.isPrefixOf lower then some (signBit ||| 0x7FF0000000000000, lead + 8, false)
  else if "inf".toList.isPrefixOf lower then some (signBit ||| 0x7FF0000000000000, lead + 3, false)
  else if "nan".toList.isPrefixOf lower then
    let after := rest.drop 3
    let tag := after.drop 1 |>.takeWhile fun c => c.isAlphanum || c = '_'
    let tagged := after.head? = some '(' && (after.drop (1 + tag.length)).head? = some ')'
    some (signBit ||| 0x7FF8000000000000, lead + 3 + (if tagged then tag.length + 2 else 0), false)
  else
    match hexPart with
    | some (whole, frac, len) =>
      let (exp, expLen) := exponentPart (fun c => c = 'p' || c = 'P') (rest.drop (2 + len))
      let (bits, beyond) := scaledBits (digitsNumber 16 (whole ++ frac)) 2 (exp - 4 * frac.length)
      some (signBit ||| bits, lead + 2 + len + expLen, beyond)
    | none =>
      let (whole, frac, len) := pointedDigits 10 rest
      if whole.isEmpty && frac.isEmpty then none
      else
        let (exp, expLen) := exponentPart (fun c => c = 'e' || c = 'E') (rest.drop len)
        let (bits, beyond) := scaledBits (digitsNumber 10 (whole ++ frac)) 10 (exp - frac.length)
        some (signBit ||| bits, lead + len + expLen, beyond)

def doubleArg (a : String) : UInt64 × Option String :=
  match quotedByte a with
  | some v => ((Float.ofNat v).toBits, none)
  | none =>
    match scanDouble a.toList with
    | none => (0, conversionWarning a 0 false)
    | some (bits, taken, beyond) => (bits, conversionWarning a taken beyond)

/-! ### Directives -/

structure Directive where
  flags : List UInt8
  width : Nat
  left : Bool
  precision : Option Nat
  letter : UInt8

def Directive.has (d : Directive) (flag : Char) : Bool := d.flags.contains flag.toNat.toUInt8

/-- A converted value in its width: spaces in front, spaces behind when filled on the left, or
zeros between the lead (sign and base prefix) and the digits when `zeros`. -/
def Directive.place (d : Directive) (zeros : Bool) (lead body : List UInt8) : List UInt8 :=
  let len := lead.length + body.length
  if len ≥ d.width then lead ++ body
  else if d.left then lead ++ body ++ List.replicate (d.width - len) 32
  else if zeros then lead ++ List.replicate (d.width - len) 48 ++ body
  else List.replicate (d.width - len) 32 ++ lead ++ body

def asBytes (s : String) : List UInt8 := (Text.Bytewise.encode s)

def Directive.sign (d : Directive) (neg : Bool) : String :=
  if neg then "-" else if d.has '+' then "+" else if d.has ' ' then " " else ""

def Directive.whole (d : Directive) (neg : Bool) (mag : Nat) : List UInt8 :=
  let l := Char.ofNat d.letter.toNat
  let base := if l = 'o' then 8 else if l = 'x' || l = 'X' then 16 else 10
  let ds := (Nat.toDigits base mag).map fun c => if l = 'X' then c.toUpper else c
  let ds := match d.precision with
    | some p => if p = 0 && mag = 0 then [] else List.replicate (p - ds.length) '0' ++ ds
    | none => ds
  let ds := if l = 'o' && d.has '#' && ds.head? != some '0' then '0' :: ds else ds
  let prefixText := if d.has '#' && mag ≠ 0 && (l = 'x' || l = 'X') then "0" ++ l.toString else ""
  let signed := l = 'd' || l = 'i'
  let lead := (if signed then d.sign neg else "") ++ prefixText
  d.place (d.has '0' && d.precision.isNone) (asBytes lead) (asBytes (String.ofList ds))

def Directive.real (d : Directive) (neg : Bool) (x : Binary) (hex : String) : List UInt8 :=
  let l := Char.ofNat d.letter.toNat
  let upper := l.isUpper
  let sign := d.sign neg
  let alt := d.has '#'
  let p := d.precision.getD 6
  let text :=
    if l = 'f' || l = 'F' then x.fixed p alt
    else if l = 'e' || l = 'E' then x.scientific p alt upper
    else if l = 'g' || l = 'G' then x.general p alt upper
    else hex
  let isHex := l = 'a' || l = 'A'
  let lead := sign ++ (if isHex then String.ofList (text.toList.take 2) else "")
  let body := if isHex then String.ofList (text.toList.drop 2) else text
  d.place (d.has '0') (asBytes lead) (asBytes body)

def Directive.double (d : Directive) (bits : UInt64) : List UInt8 :=
  let l := Char.ofNat d.letter.toNat
  let upper := l.isUpper
  let sign := d.sign (negativeBits bits)
  if nanBits bits then d.place false (asBytes sign) (asBytes (if upper then "NAN" else "nan"))
  else if nonFiniteBits bits then d.place false (asBytes sign) (asBytes (if upper then "INF" else "inf"))
  else
    let hex := if l = 'a' || l = 'A' then hexText bits d.precision (d.has '#') upper else ""
    d.real (negativeBits bits) (Binary.ofBits bits) hex

inductive PassEnd where
  | finished
  | stopped
  | failed (message : String)
  deriving DecidableEq, Repr

structure Pass where
  out : List UInt8 := []
  args : List String
  used : Bool := false
  warnings : List String := []

def Pass.next (p : Pass) : String × Pass :=
  match p.args with
  | a :: more => (a, { p with args := more, used := true })
  | [] => ("", p)

def Pass.warn (p : Pass) (w : Option String) : Pass := { p with warnings := p.warnings ++ w.toList }

def Pass.count (p : Pass) : Int × Pass :=
  let (a, p) := p.next
  let (v, w) := signedArg a
  let v := (v % 2 ^ (32 : Nat) + 2 ^ (32 : Nat)) % 2 ^ (32 : Nat)
  (if v ≥ 2 ^ (31 : Nat) then v - 2 ^ (32 : Nat) else v, p.warn w)

def isDecimalByte (b : UInt8) : Bool := 48 ≤ b && b ≤ 57

def bytesNumber (ds : List UInt8) : Nat := ds.foldl (fun acc d => acc * 10 + (d.toNat - 48)) 0

def directive (spec : List UInt8) (p : Pass) : List UInt8 × List UInt8 × Pass × Option PassEnd :=
  let flags := spec.takeWhile fun b => b == 35 || b == 45 || b == 43 || b == 32 || b == 48
  let r := spec.drop flags.length
  let (width, left, r, p) : Nat × Bool × List UInt8 × Pass := match r with
    | 42 :: more =>
      let (w, p) := p.count
      (w.natAbs, w < 0, more, p)
    | _ =>
      let ds := r.takeWhile isDecimalByte
      (bytesNumber ds, false, r.drop ds.length, p)
  let (precision, r, p) : Option Nat × List UInt8 × Pass := match r with
    | 46 :: 42 :: more =>
      let (v, p) := p.count
      (if v < 0 then none else some v.toNat, more, p)
    | 46 :: more =>
      let ds := more.takeWhile isDecimalByte
      (some (bytesNumber ds), more.drop ds.length, p)
    | _ => (none, r, p)
  match r with
  | [] => ([], [], p, some (.failed "missing format character"))
  | letter :: after =>
    let d : Directive := { flags, width, left := left || flags.contains 45, precision, letter }
    let l := Char.ofNat letter.toNat
    if l = 's' then
      let (a, p) := p.next
      let text := (Text.Bytewise.encode a)
      (d.place false [] (match precision with | some k => text.take k | none => text), after, p, none)
    else if l = 'b' then
      let (a, p) := p.next
      let (text, stop) := echoEscapes (Text.Bytewise.encode a)
      let text := match precision with | some k => text.take k | none => text
      (d.place false [] text, after, p, if stop then some .stopped else none)
    else if l = 'c' then
      let (a, p) := p.next
      (d.place false [] [(Text.Bytewise.encode a).head?.getD 0], after, p, none)
    else if l = 'd' || l = 'i' then
      let (a, p) := p.next
      let (v, w) := signedArg a
      (d.whole (v < 0) v.natAbs, after, p.warn w, none)
    else if l = 'o' || l = 'u' || l = 'x' || l = 'X' then
      let (a, p) := p.next
      let (v, w) := unsignedArg a
      (d.whole false v, after, p.warn w, none)
    else if "eEfFgGaA".toList.contains l then
      let (a, p) := p.next
      let (bits, w) := doubleArg a
      (d.double bits, after, p.warn w, none)
    else
      let text := Text.Bytewise.decode (37 :: spec.take (spec.length - after.length))
      ([], after, p, some (.failed (text ++ ": invalid directive")))

/-- One pass over a format. Every round takes at least a byte, so `fuel` above the number of
bytes is enough. -/
def formatPass : Nat → List UInt8 → Pass → Pass × PassEnd
  | 0, _, p => (p, .finished)
  | _ + 1, [], p => (p, .finished)
  | fuel + 1, 92 :: rest, p =>
    let (b, after) := escapeAt rest
    formatPass fuel after { p with out := p.out ++ [b] }
  | fuel + 1, 37 :: 37 :: rest, p => formatPass fuel rest { p with out := p.out ++ [37] }
  | fuel + 1, 37 :: rest, p =>
    let (text, after, p, ending) := directive rest p
    let p := { p with out := p.out ++ text }
    match ending with
    | some e => (p, e)
    | none => formatPass fuel after p
  | fuel + 1, b :: rest, p => formatPass fuel rest { p with out := p.out ++ [b] }

/-- What `printf` does with a format and its arguments: the bytes it writes, its warnings,
and the error that ended it, if one did. The format is used again while arguments remain and
the last pass took one. -/
def printfRun (format : String) (args : List String) : List UInt8 × List String × Option String :=
  let bs := (Text.Bytewise.encode format)
  let rec passes : Nat → List String → List UInt8 × List String × Option String
    | 0, _ => ([], [], none)
    | n + 1, args =>
      let (p, ending) := formatPass (bs.length + 1) bs { args }
      match ending with
      | .failed m => (p.out, p.warnings, some m)
      | .stopped => (p.out, p.warnings, none)
      | .finished =>
        if p.args.isEmpty || !p.used then (p.out, p.warnings, none)
        else
          let (more, w, e) := passes n p.args
          (p.out ++ more, p.warnings ++ w, e)
  passes (args.length + 1) args

example : echoBytes ["a\\101\\0102", "\\c", "z"] = [97, 65, 66, 32] := by decide +kernel
example : ((formatPass 8 [101, 92, 51, 55, 55, 92, 110] { args := [] }).1.out) = [101, 255, 10] := by
  decide +kernel

end LineCoverage.Shell
