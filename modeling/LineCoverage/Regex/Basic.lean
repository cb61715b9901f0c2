import LineCoverage.Numeral
/-! Regular expressions as the GNU C library reads them: the POSIX basic and extended forms,
with the GNU operators `\w`, `\W`, `\s`, `\S`, `\b`, `\B`, `\<`, `\>`, `` \` `` and `\'`.

An expression is read into alternatives of terms, each an atom with a least and a greatest
number of repeats. How the operators are read depends on a few switches (`Flavor`), which the
tools set differently: `sed` refuses a repeat with nothing before it, `grep` takes it as an
ordinary character or skips it. A failure is reported with the library's own wording.

In the basic form `^` is an anchor only at the start of the expression, of a group or of an
alternative, or after another anchor, and `$` only at the end of the expression, of a group
or of an alternative; elsewhere both are ordinary characters. In the extended form they are
always anchors.
-/

set_option autoImplicit false

namespace LineCoverage.Regex

/-- Whether a character lies in a named class such as `alpha` or `digit`, in the C locale. -/
def inClass (name : String) (c : Char) : Bool :=
  match name with
  | "alpha" => c.isAlpha
  | "digit" => c.isDigit
  | "alnum" => c.isAlphanum
  | "upper" => c.isUpper
  | "lower" => c.isLower
  | "space" => c = ' ' || c = '\t' || c = '\n' || c = '\r' || c.toNat = 11 || c.toNat = 12
  | "blank" => c = ' ' || c = '\t'
  | "punct" => c.toNat > 32 && c.toNat < 127 && !c.isAlphanum
  | "xdigit" => c.isDigit || ('a' ≤ c && c ≤ 'f') || ('A' ≤ c && c ≤ 'F')
  | "cntrl" => c.toNat < 32 || c.toNat = 127
  | "print" => c.toNat ≥ 32 && c.toNat < 127
  | "graph" => c.toNat > 32 && c.toNat < 127
  | _ => false

def classNames : List String :=
  ["alpha", "digit", "alnum", "upper", "lower", "space", "blank", "punct", "xdigit", "cntrl",
    "print", "graph"]

def isWordChar (c : Char) : Bool := c.isAlphanum || c = '_'

def otherCase (c : Char) : Char := if c.isUpper then c.toLower else if c.isLower then c.toUpper else c

inductive Member where
  | range (lo hi : Char)
  | named (name : String)
  deriving Repr, Inhabited

def Member.admits (c : Char) : Member → Bool
  | .range lo hi => lo ≤ c && c ≤ hi
  | .named n => inClass n c

mutual

inductive Atom where
  | char (c : Char)
  | any
  | set (negated : Bool) (members : List Member)
  | lineStart
  | lineEnd
  | textStart
  | textEnd
  | boundary
  | inside
  | wordStart
  | wordEnd
  | word (negated : Bool)
  | space (negated : Bool)
  | group (index : Nat) (alternatives : List (List Term))
  | nest (alternatives : List (List Term))
  | backref (index : Nat)

inductive Term where
  | mk (atom : Atom) (least : Nat) (most : Option Nat)

end

structure Flavor where
  /-- The extended form: `(`, `)`, `{`, `}`, `|`, `+` and `?` are operators without a backslash. -/
  extended : Bool
  /-- A bound, or in the basic form a `*` or bound right after another repeat, is an error where
  it has nothing to repeat. -/
  invalidDup : Bool
  /-- A repeat with nothing before it is an error. -/
  invalidOps : Bool
  /-- A repeat with nothing before it is skipped (unless it is an error). -/
  skipOps : Bool
  /-- A brace that does not start a valid bound is an ordinary character. -/
  intervalOrd : Bool

def Flavor.posixBasic : Flavor := ⟨false, true, false, false, false⟩

def Flavor.posixExtended : Flavor := ⟨true, false, true, true, false⟩

def Flavor.grepBasic : Flavor := ⟨false, false, false, false, false⟩

def Flavor.grepExtended : Flavor := ⟨true, false, false, true, true⟩

structure Expr where
  alternatives : List (List Term)
  groups : Nat
  backrefs : Bool
  ignoreCase : Bool := false
  multiline : Bool := false

inductive Token where
  | char (c : Char)
  | any
  | openBracket
  | anchor (a : Atom)
  | star
  | plus
  | question
  | openBound
  | closeBound
  | openGroup
  | closeGroup
  | alt
  | backref (n : Nat)
  | classAtom (a : Atom)
  | trailingBackslash
  | finish

def gnuOperator (c : Char) : Option Token :=
  match c with
  | '<' => some (.anchor .wordStart)
  | '>' => some (.anchor .wordEnd)
  | 'b' => some (.anchor .boundary)
  | 'B' => some (.anchor .inside)
  | '`' => some (.anchor .textStart)
  | '\'' => some (.anchor .textEnd)
  | 'w' => some (.classAtom (.word false))
  | 'W' => some (.classAtom (.word true))
  | 's' => some (.classAtom (.space false))
  | 'S' => some (.classAtom (.space true))
  | _ => none

def rawToken (f : Flavor) : List Char → Token × List Char
  | [] => (.finish, [])
  | ['\\'] => (.trailingBackslash, [])
  | '\\' :: c :: rest =>
    let plain : Token := match gnuOperator c with
      | some t => t
      | none => if '1' ≤ c && c ≤ '9' then .backref (c.toNat - 48) else .char c
    if f.extended then (plain, rest)
    else
      let t := match c with
        | '(' => Token.openGroup
        | ')' => .closeGroup
        | '{' => .openBound
        | '}' => .closeBound
        | '|' => .alt
        | '+' => .plus
        | '?' => .question
        | _ => plain
      (t, rest)
  | c :: rest =>
    let t := match c with
      | '.' => Token.any
      | '[' => .openBracket
      | '*' => .star
      | '^' => .anchor .lineStart
      | '$' => .anchor .lineEnd
      | _ => .char c
    if !f.extended then (t, rest)
    else
      let t := match c with
        | '(' => Token.openGroup
        | ')' => .closeGroup
        | '{' => .openBound
        | '}' => .closeBound
        | '|' => .alt
        | '+' => .plus
        | '?' => .question
        | _ => t
      (t, rest)

def nextToken (f : Flavor) (caretHere : Bool) (cs : List Char) : Token × List Char :=
  match rawToken f cs with
  | (.anchor .lineStart, rest) =>
    if f.extended || caretHere then (.anchor .lineStart, rest) else (.char '^', rest)
  | (.anchor .lineEnd, rest) =>
    if f.extended || rest.isEmpty then (.anchor .lineEnd, rest)
    else
      match (rawToken f rest).1 with
      | .alt | .closeGroup => (.anchor .lineEnd, rest)
      | _ => (.char '$', rest)
  | t => t

inductive Problem where
  | badClass
  | badCollation
  | trailingBackslash
  | badBackref
  | unmatchedBracket
  | unmatchedParen
  | unmatchedBrace
  | badBound
  | badRange
  | badRepeat
  | prematureEnd
  | tooBig
  | unmatchedCloseParen
  deriving DecidableEq, Repr

def Problem.message : Problem → String
  | .badClass => "Invalid character class name"
  | .badCollation => "Invalid collation character"
  | .trailingBackslash => "Trailing backslash"
  | .badBackref => "Invalid back reference"
  | .unmatchedBracket => "Unmatched [, [^, [:, [., or [="
  | .unmatchedParen => "Unmatched ( or \\("
  | .unmatchedBrace => "Unmatched \\\x7b"
  | .badBound => "Invalid content of \\\x7b\\\x7d"
  | .badRange => "Invalid range end"
  | .badRepeat => "Invalid preceding regular expression"
  | .prematureEnd => "Premature end of regular expression"
  | .tooBig => "Regular expression too big"
  | .unmatchedCloseParen => "Unmatched ) or \\)"

def dupMax : Nat := 32767

/-- One element of a bracket expression after its `[`, and what follows: a character, a
collating element `[.c.]`, an equivalence class `[=c=]` (both one character here) or a
class `[:name:]`. -/
def bracketElement (cs : List Char) : Except Problem (Member × Bool × List Char) :=
  let symbol (delim : Char) (rest : List Char) : Except Problem (String × List Char) :=
    let rec scan : List Char → List Char → Except Problem (String × List Char)
      | acc, c :: ']' :: more => if c = delim then .ok (String.ofList acc.reverse, more) else scan (']' :: c :: acc) more
      | acc, c :: more => scan (c :: acc) more
      | _, [] => .error .unmatchedBracket
    scan [] rest
  match cs with
  | '[' :: ':' :: rest@(_ :: _) =>
    match symbol ':' rest with
    | .ok (name, more) => if classNames.contains name then .ok (.named name, true, more) else .error .badClass
    | .error e => .error e
  | '[' :: d :: rest@(_ :: _) =>
    if d = '.' || d = '=' then
      match symbol d rest with
      | .ok (name, more) =>
        match name.toList with
        | [c] => .ok (.range c c, false, more)
        | _ => .error .badCollation
      | .error e => .error e
    else .ok (.range '[' '[', false, d :: rest)
  | c :: rest => .ok (.range c c, false, rest)
  | [] => .error .unmatchedBracket

def bracketMembers : Nat → Bool → List Member → List Char → Except Problem (List Member × List Char)
  | 0, _, _, _ => .error .unmatchedBracket
  | _ + 1, _, _, [] => .error .unmatchedBracket
  | fuel + 1, first, acc, cs =>
    match cs with
    | ']' :: rest => if first then bracketMembers fuel false (acc ++ [.range ']' ']']) rest else .ok (acc, rest)
    | _ =>
      match bracketElement cs with
      | .error e => .error e
      | .ok (m, isClass, rest) =>
        match rest with
        | '-' :: ']' :: _ => bracketMembers fuel false (acc ++ [m]) rest
        | '-' :: more@(_ :: _) =>
          match bracketElement more with
          | .error e => .error e
          | .ok (hi, hiClass, after) =>
            match m, hi with
            | .range lo _, .range _ top =>
              if isClass || hiClass then .error .badRange
              else if top < lo then .error .badRange
              else bracketMembers fuel false (acc ++ [.range lo top]) after
            | _, _ => .error .badRange
        | _ => bracketMembers fuel false (acc ++ [m]) rest

def readBracket (cs : List Char) : Except Problem (Bool × List Member × List Char) :=
  let (negated, rest) := match cs with
    | '^' :: r => (true, r)
    | _ => (false, cs)
  (bracketMembers (rest.length + 1) true [] rest).map fun (ms, after) => (negated, ms, after)

def boundNumber (f : Flavor) (cs : List Char) : Option (Option Nat) × Token × List Char :=
  let rec go : Nat → Option (Option Nat) → List Char → Option (Option Nat) × Token × List Char
    | 0, n, rest => (n, .finish, rest)
    | fuel + 1, n, rest =>
      match rawToken f rest with
      | (.finish, r) => (some none, .finish, r)
      | (.closeBound, r) => (n, .closeBound, r)
      | (.char ',', r) => (n, .char ',', r)
      | (.char c, r) =>
        if c.isDigit then
          let n' := match n with
            | none => some (some (c.toNat - 48))
            | some (some k) => some (some (min (dupMax + 1) (10 * k + (c.toNat - 48))))
            | some none => some none
          go fuel n' r
        else go fuel (some none) r
      | (_, r) => go fuel (some none) r
  go (cs.length + 1) none cs

/-- A bound after its opening brace: its least and greatest count and what follows. With
`intervalOrd` a brace that starts no valid bound is an ordinary character (`none`). -/
def readBound (f : Flavor) (cs : List Char) : Except Problem (Option (Nat × Option Nat × List Char)) :=
  let bad (t : Token) : Except Problem (Option (Nat × Option Nat × List Char)) :=
    if f.intervalOrd then .ok none else .error (match t with | .finish => .unmatchedBrace | _ => .badBound)
  match boundNumber f cs with
  | (none, .char ',', rest) =>
    match boundNumber f rest with
    | (some none, t, _) => bad t
    | (hi, .closeBound, after) => .ok (some (0, hi.bind id, after))
    | (_, t, _) => bad t
  | (none, _, _) => .error .badBound
  | (some none, t, _) => bad t
  | (some (some lo), .closeBound, after) =>
    if lo > dupMax then .error .tooBig else .ok (some (lo, some lo, after))
  | (some (some lo), .char ',', rest) =>
    match boundNumber f rest with
    | (some none, t, _) => bad t
    | (hi, .closeBound, after) =>
      match hi with
      | some (some h) =>
        if h < lo then (if f.intervalOrd then .ok none else .error .badBound)
        else if h > dupMax then .error .tooBig
        else .ok (some (lo, some h, after))
      | _ => if lo > dupMax then .error .tooBig else .ok (some (lo, none, after))
    | (_, t, _) => bad t
  | (some (some _), t, _) => bad t

structure Groups where
  opened : Nat := 0
  closed : List Nat := []
  backrefs : Bool := false

mutual

def readAlternatives (f : Flavor) : Nat → Bool → Groups → Token → List Char →
    Except Problem (List (List Term) × Groups × Token × List Char)
  | 0, _, _, _, _ => .error .tooBig
  | fuel + 1, nested, g, t, cs =>
    match readBranch f fuel nested g t cs with
    | .error e => .error e
    | .ok (terms, g', .alt, rest) =>
      let (t', rest') := nextToken f true rest
      match readAlternatives f fuel nested g' t' rest' with
      | .ok (more, g'', t'', rest'') => .ok (terms :: more, g'', t'', rest'')
      | .error e => .error e
    | .ok (terms, g', t', rest) => .ok ([terms], g', t', rest)

def readBranch (f : Flavor) : Nat → Bool → Groups → Token → List Char →
    Except Problem (List Term × Groups × Token × List Char)
  | 0, _, _, _, _ => .error .tooBig
  | fuel + 1, nested, g, t, cs =>
    match t with
    | .alt | .finish => .ok ([], g, t, cs)
    | .closeGroup => if nested then .ok ([], g, t, cs) else continueBranch f fuel nested g t cs
    | _ => continueBranch f fuel nested g t cs

def continueBranch (f : Flavor) : Nat → Bool → Groups → Token → List Char →
    Except Problem (List Term × Groups × Token × List Char)
  | 0, _, _, _, _ => .error .tooBig
  | fuel + 1, nested, g, t, cs =>
    match readExpression f fuel nested g t cs with
    | .error e => .error e
    | .ok (term, g', t', rest) =>
      match readBranch f fuel nested g' t' rest with
      | .error e => .error e
      | .ok (terms, g'', t'', rest') => .ok (term.toList ++ terms, g'', t'', rest')

/-- Reads one atom from its token, with the repeats after it; an anchor takes no repeat. Gives
the term (none when a repeat with nothing before it was skipped and nothing followed), the
groups, and the next token with what follows it. -/
def readExpression (f : Flavor) : Nat → Bool → Groups → Token → List Char →
    Except Problem (Option Term × Groups × Token × List Char)
  | 0, _, _, _, _ => .error .tooBig
  | fuel + 1, nested, g, t, cs =>
    let repeated (a : Atom) (g : Groups) (rest : List Char) :
        Except Problem (Option Term × Groups × Token × List Char) :=
      let (t', rest') := nextToken f false rest
      match readRepeats f fuel (.mk a 1 (some 1)) false t' rest' with
      | .ok (term, t'', rest'') => .ok (some term, g, t'', rest'')
      | .error e => .error e
    let ordinary (c : Char) := repeated (.char c) g cs
    match t with
    | .char c => ordinary c
    | .any => repeated .any g cs
    | .openBracket =>
      match readBracket cs with
      | .ok (negated, members, rest) => repeated (.set negated members) g rest
      | .error e => .error e
    | .classAtom a => repeated a g cs
    | .anchor a =>
      let (t', rest) := nextToken f true cs
      .ok (some (.mk a 1 (some 1)), g, t', rest)
    | .backref n =>
      if g.closed.contains n then repeated (.backref n) { g with backrefs := true } cs
      else .error .badBackref
    | .openGroup =>
      let index := g.opened + 1
      let (t', rest) := nextToken f true cs
      match t' with
      | .closeGroup =>
        repeated (.group index [[]]) { g with opened := index, closed := index :: g.closed } rest
      | _ =>
        match readAlternatives f fuel true { g with opened := index } t' rest with
        | .error e => .error e
        | .ok (alts, g', .closeGroup, after) =>
          repeated (.group index alts) { g' with closed := index :: g'.closed } after
        | .ok _ => .error .unmatchedParen
    | .closeGroup => if f.extended then ordinary ')' else .error .unmatchedCloseParen
    | .closeBound => ordinary '}'
    | .openBound =>
      if f.invalidDup then .error .badRepeat
      else if f.invalidOps then .error .badRepeat
      else if f.skipOps then
        let (t', rest) := nextToken f false cs
        readExpression f fuel nested g t' rest
      else ordinary '{'
    | .star | .plus | .question =>
      if f.invalidOps && !f.invalidDup then .error .badRepeat
      else if f.skipOps then
        let (t', rest) := nextToken f false cs
        readExpression f fuel nested g t' rest
      else ordinary (match t with | .star => '*' | .plus => '+' | _ => '?')
    | .trailingBackslash => .error .trailingBackslash
    | .alt | .finish => .ok (none, g, t, cs)

def readRepeats (f : Flavor) : Nat → Term → Bool → Token → List Char →
    Except Problem (Term × Token × List Char)
  | 0, _, _, _, _ => .error .tooBig
  | fuel + 1, term, after, t, cs =>
    let wrap (least : Nat) (most : Option Nat) (rest : List Char) : Except Problem (Term × Token × List Char) :=
      let inner : Term := match term, after with
        | .mk a 1 (some 1), false => .mk a least most
        | _, _ => .mk (.nest [[term]]) least most
      let (t', rest') := nextToken f false rest
      if f.invalidDup && (match t' with | .star | .openBound => true | _ => false) then .error .badRepeat
      else readRepeats f fuel inner true t' rest'
    match t with
    | .star => wrap 0 none cs
    | .plus => wrap 1 none cs
    | .question => wrap 0 (some 1) cs
    | .openBound =>
      match readBound f cs with
      | .error e => .error e
      | .ok (some (lo, hi, rest)) => wrap lo hi rest
      | .ok none => .ok (term, .char '{', cs)
    | _ => .ok (term, t, cs)

end

def compile (f : Flavor) (text : String) (ignoreCase : Bool) : Except Problem Expr :=
  let (t, rest) := nextToken f true text.toList
  match readAlternatives f (4 * text.length + 8) false {} t rest with
  | .error e => .error e
  | .ok (alts, g, .finish, _) => .ok ⟨alts, g.opened, g.backrefs, ignoreCase, false⟩
  | .ok (_, _, .closeGroup, _) => .error .unmatchedCloseParen
  | .ok _ => .error .prematureEnd

end LineCoverage.Regex
