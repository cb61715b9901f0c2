import LineCoverage.Numeral
/-! The shell's file-name patterns.

A file-name pattern has `*` for any text, `?` for any one character and `[...]` for one of a
set of characters; quoted characters stand for themselves.
-/

set_option autoImplicit false

namespace LineCoverage.Shell

def inClass (name : String) (c : Char) : Bool :=
  match name with
  | "alpha" => c.isAlpha
  | "digit" => c.isDigit
  | "alnum" => c.isAlphanum
  | "upper" => c.isUpper
  | "lower" => c.isLower
  | "space" => c = ' ' || c = '\t' || c = '\n' || c = '\r' || c.toNat = 11 || c.toNat = 12
  | "blank" => c = ' ' || c = '\t'
  | "punct" => c.toNat > 32 && c.toNat < 127 && !c.isAlphanum
  | "xdigit" => c.isDigit || ('a' ≤ c && c ≤ 'f') || ('A' ≤ c && c ≤ 'F')
  | "cntrl" => c.toNat < 32 || c.toNat = 127
  | "print" => c.toNat ≥ 32 && c.toNat ≠ 127
  | "graph" => c.toNat > 32 && c.toNat ≠ 127
  | _ => false

inductive SetItem where
  | range (lo hi : Char)
  | named (name : String)
  deriving Repr, Inhabited

def SetItem.admits (c : Char) : SetItem → Bool
  | .range lo hi => lo ≤ c && c ≤ hi
  | .named n => inClass n c

/-- The members of a bracket set after its `[` and optional negation, up to its `]`: the
members and what follows. A `]` first is a member. -/
def readSet : Nat → Bool → List SetItem → List Char → Option (List SetItem × List Char)
  | 0, _, _, _ => none
  | _ + 1, _, _, [] => none
  | fuel + 1, first, acc, c :: rest =>
    if c = ']' && !first then some (acc, rest)
    else if c = '[' && rest.head? = some ':' then
      let name := (rest.drop 1).takeWhile (· ≠ ':')
      let after := (rest.drop 1).drop name.length
      match after with
      | ':' :: ']' :: more => readSet fuel false (acc ++ [.named (String.ofList name)]) more
      | _ => readSet fuel false (acc ++ [.range c c]) rest
    else
      match rest with
      | '-' :: hi :: more =>
        if hi = ']' then readSet fuel false (acc ++ [.range c c]) rest
        else readSet fuel false (acc ++ [.range c hi]) more
      | _ => readSet fuel false (acc ++ [.range c c]) rest

def bracket (cs : List Char) : Option (Bool × List SetItem × List Char) :=
  let (negated, rest) := match cs with
    | '!' :: r => (true, r)
    | '^' :: r => (true, r)
    | _ => (false, cs)
  (readSet (rest.length + 1) true [] rest).map fun (items, after) => (negated, items, after)

/-- Whether a text matches a file-name pattern whose characters are marked quoted or not. -/
def globMatch : Nat → List (Char × Bool) → List Char → Bool
  | 0, _, _ => false
  | _ + 1, [], s => s.isEmpty
  | fuel + 1, ('*', false) :: p, s =>
    globMatch fuel p s || (match s with
      | _ :: s' => globMatch fuel (('*', false) :: p) s'
      | [] => false)
  | fuel + 1, ('?', false) :: p, s =>
    match s with
    | _ :: s' => globMatch fuel p s'
    | [] => false
  | fuel + 1, ('[', false) :: p, s =>
    match bracket (p.map (·.1)), s with
    | some (negated, items, after), c :: s' =>
      let taken := p.length - after.length
      (items.any (·.admits c) != negated) && globMatch fuel (p.drop taken) s'
    | none, c :: s' => c = '[' && globMatch fuel p s'
    | _, [] => false
  | fuel + 1, (c, _) :: p, s =>
    match s with
    | d :: s' => c = d && globMatch fuel p s'
    | [] => false

def globMatches (pattern : List (Char × Bool)) (s : String) : Bool :=
  globMatch (pattern.length * (s.length + 1) + s.length + 2) pattern s.toList

def isGlob (pattern : List (Char × Bool)) : Bool :=
  pattern.any fun (c, q) => !q && (c = '*' || c = '?' || c = '[')

end LineCoverage.Shell
