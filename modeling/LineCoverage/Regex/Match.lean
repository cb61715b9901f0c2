import LineCoverage.Regex.Basic
/-! Matching a compiled expression against a text, as POSIX asks: of the matches that start
first, the longest.

The positions where a match from a given start may end are found as a set, one term at a
time, the way a subset construction follows every path of an automaton at once; a repeat adds
the positions its atom reaches until no new one appears. That needs no backtracking and finds
the longest end directly. The spans of the groups are then found by trying the ways of
matching up to that end, greedy repeats and earlier alternatives first, which is also how an
expression that refers back to a group is matched at all.
-/

set_option autoImplicit false

namespace LineCoverage.Regex

structure Subject where
  input : Array Char
  ignoreCase : Bool
  multiline : Bool

def sameChar (ignoreCase : Bool) (a b : Char) : Bool := a = b || (ignoreCase && a.toLower = b.toLower)

def Atom.readsOne : Atom → Bool
  | .char _ | .any | .set _ _ | .word _ | .space _ => true
  | _ => false

def Subject.admits (s : Subject) (a : Atom) (c : Char) : Bool :=
  match a with
  | .char d => sameChar s.ignoreCase c d
  | .any => true
  | .set negated ms =>
    (ms.any (·.admits c) || (s.ignoreCase && ms.any (·.admits (otherCase c)))) != negated
  | .word negated => isWordChar c != negated
  | .space negated => inClass "space" c != negated
  | _ => false

def Subject.holds (s : Subject) (a : Atom) (pos : Nat) : Bool :=
  let before := if pos = 0 then none else s.input[pos - 1]?
  let after := s.input[pos]?
  let wordBefore := (before.map isWordChar).getD false
  let wordAfter := (after.map isWordChar).getD false
  match a with
  | .lineStart => pos = 0 || (s.multiline && before == some '\n')
  | .lineEnd => pos = s.input.size || (s.multiline && after == some '\n')
  | .textStart => pos = 0
  | .textEnd => pos = s.input.size
  | .boundary => wordBefore != wordAfter
  | .inside => wordBefore == wordAfter
  | .wordStart => !wordBefore && wordAfter
  | .wordEnd => wordBefore && !wordAfter
  | _ => false

/-- The positions reached from some by taking steps, at most `levels` of them: each level adds
the positions first reached from the ones the level before added. -/
def reach (step : List Nat → List Nat) : Nat → List Nat → List Nat → List Nat
  | 0, seen, _ => seen
  | levels + 1, seen, frontier =>
    let next := (step frontier).filter (!seen.contains ·)
    if next.isEmpty then seen else reach step levels (seen ++ next) next

mutual

def altsEnds (s : Subject) : Nat → List (List Term) → Nat → List Nat
  | 0, _, _ => []
  | fuel + 1, alts, pos => (alts.flatMap fun ts => termsEnds s fuel ts [pos]).eraseDups

def termsEnds (s : Subject) : Nat → List Term → List Nat → List Nat
  | 0, _, _ => []
  | _ + 1, [], ps => ps
  | fuel + 1, t :: ts, ps => if ps.isEmpty then [] else termsEnds s fuel ts (termEnds s fuel t ps)

def termEnds (s : Subject) : Nat → Term → List Nat → List Nat
  | 0, _, _ => []
  | fuel + 1, .mk a least most, ps =>
    let step (qs : List Nat) : List Nat := (qs.flatMap (atomEnds s fuel a)).eraseDups
    let mandatory := (List.range least).foldl (fun qs _ => if qs.isEmpty then qs else step qs) ps
    let extra := match most with
      | some m => min (m - least) (s.input.size + 2)
      | none => s.input.size + 2
    reach step extra mandatory mandatory

def atomEnds (s : Subject) : Nat → Atom → Nat → List Nat
  | 0, _, _ => []
  | fuel + 1, a, pos =>
    match a with
    | .group _ alts => altsEnds s fuel alts pos
    | .nest alts => altsEnds s fuel alts pos
    | .backref _ => []
    | _ =>
      if a.readsOne then
        match s.input[pos]? with
        | some c => if s.admits a c then [pos + 1] else []
        | none => []
      else if s.holds a pos then [pos] else []

end

abbrev Captures := List (Nat × Nat × Nat)

def Captures.get? (caps : Captures) (i : Nat) : Option (Nat × Nat) :=
  (caps.find? (·.1 == i)).map fun (_, a, b) => (a, b)

def Captures.record (caps : Captures) (i : Nat) (a b : Nat) : Captures :=
  if i = 0 then caps else (i, a, b) :: caps.filter (·.1 != i)

abbrev Continue := Nat → Captures → Option Captures

mutual

def tryAlts (s : Subject) : Nat → List (List Term) → Nat → Captures → Continue → Option Captures
  | 0, _, _, _, _ => none
  | _ + 1, [], _, _, _ => none
  | fuel + 1, terms :: rest, pos, caps, k =>
    match tryTerms s fuel terms pos caps k with
    | some r => some r
    | none => tryAlts s fuel rest pos caps k

def tryTerms (s : Subject) : Nat → List Term → Nat → Captures → Continue → Option Captures
  | 0, _, _, _, _ => none
  | _ + 1, [], pos, caps, k => k pos caps
  | fuel + 1, .mk a least most :: rest, pos, caps, k =>
    tryRepeat s fuel a least most 0 pos caps fun p c => tryTerms s fuel rest p c k

/-- Matches an atom as many times as allowed, the most first, and at least `least` times; a
repeat that reads nothing is not taken again. -/
def tryRepeat (s : Subject) : Nat → Atom → Nat → Option Nat → Nat → Nat → Captures → Continue →
    Option Captures
  | 0, _, _, _, _, _, _, _ => none
  | fuel + 1, a, least, most, count, pos, caps, k =>
    let more : Bool := match most with
      | some m => decide (count < m)
      | none => true
    let again :=
      if more then
        tryAtom s fuel a pos caps fun p c =>
          if p = pos && count ≥ least then none
          else tryRepeat s fuel a least most (count + 1) p c k
      else none
    match again with
    | some r => some r
    | none => if count ≥ least then k pos caps else none

def tryAtom (s : Subject) : Nat → Atom → Nat → Captures → Continue → Option Captures
  | 0, _, _, _, _ => none
  | fuel + 1, a, pos, caps, k =>
    match a with
    | .group i alts => tryAlts s fuel alts pos caps fun p c => k p (c.record i pos p)
    | .nest alts => tryAlts s fuel alts pos caps k
    | .backref i =>
      match caps.get? i with
      | some (b, e) =>
        let n := e - b
        let same := (List.range n).all fun j =>
          match s.input[b + j]?, s.input[pos + j]? with
          | some x, some y => sameChar s.ignoreCase x y
          | _, _ => false
        if same then k (pos + n) caps else none
      | none => none
    | _ =>
      if a.readsOne then
        match s.input[pos]? with
        | some c => if s.admits a c then k (pos + 1) caps else none
        | none => none
      else if s.holds a pos then k pos caps else none

end

def Expr.subject (r : Expr) (input : Array Char) : Subject := ⟨input, r.ignoreCase, r.multiline⟩

def Expr.fuel (input : Array Char) : Nat := 4 * (input.size + 2) * (input.size + 2) + 64

def Expr.capturesBetween (r : Expr) (input : Array Char) (start stop : Nat) : Option Captures :=
  tryAlts (r.subject input) (Expr.fuel input) r.alternatives start [] fun p c =>
    if p = stop then some c else none

def Expr.endsFrom (r : Expr) (input : Array Char) (pos : Nat) : List Nat :=
  if r.backrefs then
    ((List.range (input.size + 1 - pos)).map (input.size - ·)).filter fun e =>
      (r.capturesBetween input pos e).isSome
  else
    let ends := altsEnds (r.subject input) (Expr.fuel input) r.alternatives pos
    ((List.range (input.size + 1)).map (input.size - ·)).filter ends.contains

def Expr.searchWhere (r : Expr) (input : Array Char) (start : Nat) (ok : Nat → Nat → Bool) :
    Option (Nat × Nat × Captures) :=
  let rec go : Nat → Nat → Option (Nat × Nat × Captures)
    | 0, _ => none
    | n + 1, pos =>
      let found := ((r.endsFrom input pos).filter (ok pos)).findSome? fun e =>
        (r.capturesBetween input pos e).map fun c => (pos, e, c)
      match found with
      | some m => some m
      | none => if pos ≥ input.size then none else go n (pos + 1)
  go (input.size + 2) start

/-- The leftmost-longest match at or after a position: its start, end and groups. -/
def Expr.search (r : Expr) (input : Array Char) (start : Nat) : Option (Nat × Nat × Captures) :=
  r.searchWhere input start fun _ _ => true

def Expr.found (r : Expr) (text : String) : Bool :=
  let input := text.toList.toArray
  if r.backrefs then (r.search input 0).isSome
  else (List.range (input.size + 1)).any fun pos => !(r.endsFrom input pos).isEmpty

def matchesText (f : Flavor) (pattern text : String) : Option Bool :=
  (compile f pattern false).toOption.map (·.found text)

example : matchesText .posixBasic "a\\(b\\)*c" "xabbc" = some true := by decide +kernel
example : matchesText .posixBasic "^b" "ab" = some false := by decide +kernel
example : matchesText .posixExtended "x|ab+" "cabbb" = some true := by decide +kernel

end LineCoverage.Regex
