import LineCoverage.FileTree.Basic
import LineCoverage.Text.Utf8
/-! Path patterns of ignore and attribute files.

A pattern is matched byte by byte against a path relative to the directory of the file that
holds it. `?` stands for one byte and `*` for any run of bytes, neither of them a slash; a
bracket lists bytes, ranges and named classes, and never takes a slash; a backslash makes the
next byte plain. Two or more stars between slashes (or at an end of the pattern) cross slashes:
`**/` takes no directory or any number of them, and a final `**` takes all that is left.

A pattern without a slash, apart from one at its end, is matched against the last name of a
path, at any depth; any other pattern against the whole path below the file's directory, a
leading slash dropped. A final slash restricts a pattern to directories, and a leading `!`
makes it a negation. A pattern with a bracket that is never closed, or a class that does not
exist, matches nothing.
-/

set_option autoImplicit false

namespace LineCoverage.Git

def classHas (name : String) (b : UInt8) : Option Bool :=
  let n := b.toNat
  let upper := 65 ≤ n ∧ n ≤ 90
  let lower := 97 ≤ n ∧ n ≤ 122
  let digit := 48 ≤ n ∧ n ≤ 57
  let print := 32 ≤ n ∧ n ≤ 126
  let space := n = 32 ∨ n = 9 ∨ n = 10 ∨ n = 13
  match name with
  | "alnum" => some (decide (upper ∨ lower ∨ digit))
  | "alpha" => some (decide (upper ∨ lower))
  | "blank" => some (decide (n = 32 ∨ n = 9))
  | "cntrl" => some (decide (n < 32 ∨ n = 127))
  | "digit" => some (decide digit)
  | "graph" => some (decide (33 ≤ n ∧ n ≤ 126))
  | "lower" => some (decide lower)
  | "print" => some (decide print)
  | "punct" => some (decide (print ∧ ¬ (upper ∨ lower ∨ digit ∨ n = 32)))
  | "space" => some (decide space)
  | "upper" => some (decide upper)
  | "xdigit" => some (decide (digit ∨ (65 ≤ n ∧ n ≤ 70) ∨ (97 ≤ n ∧ n ≤ 102)))
  | _ => none

inductive SetItem where
  | byte (b : UInt8)
  | range (lo hi : UInt8)
  | named (name : String)
  deriving DecidableEq, Repr

def SetItem.has (b : UInt8) : SetItem → Bool
  | .byte c => b == c
  | .range lo hi => lo ≤ b && b ≤ hi
  | .named name => (classHas name b).getD false

inductive Glob where
  | byte (b : UInt8)
  | one
  | star
  | anyPath
  /-- No directory, or any run of bytes that ends in a slash. -/
  | dirs
  | set (negated : Bool) (items : List SetItem)
  deriving DecidableEq, Repr

def untilBracket : List UInt8 → Option (List UInt8 × List UInt8)
  | [] => none
  | 93 :: rest => some ([], rest)
  | b :: rest => (untilBracket rest).map fun (name, after) => (b :: name, after)

/-- The items of a bracket after its opening byte (and negation), with what follows the
closing bracket; none when the bracket is never closed or names a class that does not exist.
The first item is taken even if it is a closing bracket; `prev` is the last single byte
taken, which a dash after it turns into the low end of a range. Every round takes a byte, so
`fuel` above the number of bytes is enough. -/
def setItems (prev : Option UInt8) (first : Bool) (acc : List SetItem) :
    Nat → List UInt8 → Option (List SetItem × List UInt8)
  | 0, _ => none
  | _, [] => none
  | fuel + 1, b :: rest =>
    if !first && b == 93 then some (acc.reverse, rest)
    else if b == 92 then
      match rest with
      | [] => none
      | c :: more => setItems (some c) false (.byte c :: acc) fuel more
    else if b == 45 && prev.isSome && (match rest with | [] => false | c :: _ => c != 93) then
      match rest with
      | 92 :: c :: more => setItems none false (.range (prev.getD 0) c :: acc) fuel more
      | c :: more => if c == 92 then none else setItems none false (.range (prev.getD 0) c :: acc) fuel more
      | [] => none
    else if b == 91 && rest.head? == some 58 then
      match untilBracket rest.tail with
      | none => none
      | some (name, after) =>
        if name.isEmpty || name.getLast? != some 58 then
          setItems (some 91) false (.byte 91 :: acc) fuel rest
        else
          let n := Text.Utf8.decodeLossy name.dropLast
          match classHas n 0 with
          | none => none
          | some _ => setItems none false (.named n :: acc) fuel after
    else setItems (some b) false (.byte b :: acc) fuel rest

/-- Whether two or more stars are a crossing run: the byte before them is a slash or the
start, and after them comes the end, a slash or an escaped slash. -/
def crossing (prev : Option UInt8) (after : List UInt8) : Bool :=
  (prev.isNone || prev == some 47) &&
    (match after with
     | [] => true
     | 47 :: _ => true
     | 92 :: 47 :: _ => true
     | _ => false)

def globsFrom (prev : Option UInt8) : Nat → List UInt8 → Option (List Glob)
  | _, [] => some []
  | 0, _ :: _ => none
  | fuel + 1, b :: rest =>
    if b == 92 then
      match rest with
      | [] => none
      | c :: more => (globsFrom (some c) fuel more).map (.byte c :: ·)
    else if b == 63 then (globsFrom (some 63) fuel rest).map (.one :: ·)
    else if b == 91 then
      let (negated, inner) := match rest with
        | 33 :: r => (true, r)
        | 94 :: r => (true, r)
        | r => (false, r)
      match setItems none true [] (inner.length + 1) inner with
      | none => none
      | some (items, after) => (globsFrom (some 93) fuel after).map (.set negated items :: ·)
    else if b == 42 then
      let after := rest.dropWhile (· == 42)
      if after.length < rest.length && crossing prev after then
        match after with
        | 47 :: more => (globsFrom (some 47) fuel more).map (.dirs :: ·)
        | _ => (globsFrom (some 42) fuel after).map (.anyPath :: ·)
      else (globsFrom (some 42) fuel after).map (.star :: ·)
    else (globsFrom (some b) fuel rest).map (.byte b :: ·)

def Glob.parse (bs : List UInt8) : Option (List Glob) := globsFrom none (bs.length + 1) bs

def segmentTails : List UInt8 → List (List UInt8)
  | [] => [[]]
  | b :: rest => (b :: rest) :: (if b == 47 then [] else segmentTails rest)

def slashTails : List UInt8 → List (List UInt8)
  | [] => []
  | b :: rest => (if b == 47 then [rest] else []) ++ slashTails rest

def allTails : List UInt8 → List (List UInt8)
  | [] => [[]]
  | b :: rest => (b :: rest) :: allTails rest

def matchGlobs : List Glob → List UInt8 → Bool
  | [], t => t.isEmpty
  | .byte b :: ps, t => match t with
    | c :: more => c == b && matchGlobs ps more
    | [] => false
  | .one :: ps, t => match t with
    | c :: more => c != 47 && matchGlobs ps more
    | [] => false
  | .set negated items :: ps, t => match t with
    | c :: more => (items.any (·.has c)) != negated && c != 47 && matchGlobs ps more
    | [] => false
  | .star :: ps, t => (segmentTails t).any (matchGlobs ps)
  | .anyPath :: ps, t => (allTails t).any (matchGlobs ps)
  | .dirs :: ps, t => matchGlobs ps t || (slashTails t).any (matchGlobs ps)

/-- Whether a pattern matches the whole of a text: the plain bytes before its first special
byte are compared as they are, and the rest is read as a pattern from its start. -/
def matchPattern (pattern text : List UInt8) : Bool :=
  let special (b : UInt8) : Bool := b == 42 || b == 63 || b == 91 || b == 92
  let plain := pattern.takeWhile (!special ·)
  plain.isPrefixOf text &&
    match Glob.parse (pattern.drop plain.length) with
    | some gs => matchGlobs gs (text.drop plain.length)
    | none => false

structure PathPattern where
  body : List UInt8
  negative : Bool := false
  onlyDirs : Bool := false
  byName : Bool := false
  base : Location := []
  deriving DecidableEq, Repr

def PathPattern.read (base : Location) (bs : List UInt8) : PathPattern :=
  let (negative, bs) := match bs with
    | 33 :: rest => (true, rest)
    | _ => (false, bs)
  let (onlyDirs, bs) := if bs.getLast? == some 47 then (true, bs.dropLast) else (false, bs)
  let byName := !bs.contains 47
  let body := if !byName && bs.head? == some 47 then bs.tail else bs
  { body, negative, onlyDirs, byName, base }

def PathPattern.matches (p : PathPattern) (path : Location) (isDir : Bool) : Bool :=
  if p.onlyDirs && !isDir then false
  else if p.byName then
    match path.getLast? with
    | some name => matchPattern p.body name.toUTF8.toList
    | none => false
  else
    p.base.isPrefixOf path && path.length > p.base.length &&
      matchPattern p.body ("/".intercalate (path.drop p.base.length)).toUTF8.toList

example : matchPattern "*.o".toUTF8.toList "b.o".toUTF8.toList = true := by decide +kernel
example : matchPattern "a/**/b".toUTF8.toList "a/b".toUTF8.toList = true := by decide +kernel
example : matchPattern "a/**/b".toUTF8.toList "a/x/y/b".toUTF8.toList = true := by decide +kernel
example : matchPattern "a/*".toUTF8.toList "a/x/y".toUTF8.toList = false := by decide +kernel
example : matchPattern "[!a-c]x".toUTF8.toList "dx".toUTF8.toList = true := by decide +kernel

end LineCoverage.Git
