/-! Similar names, for the suggestions of the command line.

Two names are compared by their Jaro similarity: the characters that match (equal, and at
most half the longer length less one apart), the matches out of order, and the lengths. A
name is suggested when its similarity is above 0.7, and suggestions come in order of rising
similarity, so the last is the best.
-/

set_option autoImplicit false

namespace LineCoverage.Cli

def markMatch (c : Char) (b : List Char) (lo hi : Nat) (taken : List Bool) : Option (List Bool) :=
  let hit := (List.range (min hi b.length)).find? fun j =>
    lo ≤ j && b.getD j ' ' == c && !taken.getD j false
  hit.map fun j => taken.set j true

def matchFlags (a b : List Char) : List Bool × List Bool :=
  let range := max a.length b.length / 2 - 1
  let step (acc : List Bool × List Bool) (ic : Nat × Char) : List Bool × List Bool :=
    let (i, c) := ic
    match markMatch c b (i - range) (i + range + 1) acc.2 with
    | some taken => (acc.1 ++ [true], taken)
    | none => (acc.1 ++ [false], acc.2)
  (a.zipIdx.map (fun (c, i) => (i, c))).foldl step ([], List.replicate b.length false)

def jaro (x y : String) : Float :=
  let a := x.toList
  let b := y.toList
  if a.isEmpty && b.isEmpty then 1.0
  else if a.isEmpty || b.isEmpty then 0.0
  else
    let (fa, fb) := matchFlags a b
    let ma := (a.zip fa).filterMap fun (c, f) => if f then some c else none
    let mb := (b.zip fb).filterMap fun (c, f) => if f then some c else none
    let m := ma.length
    let t := ((ma.zip mb).filter fun (c, d) => c != d).length / 2
    if m = 0 then 0.0
    else
      (Float.ofNat m / Float.ofNat a.length + Float.ofNat m / Float.ofNat b.length +
        Float.ofNat (m - t) / Float.ofNat m) / 3.0

/-- The names similar enough to one given, least similar first. -/
def didYouMean (given : String) (names : List String) : List String :=
  let scored := names.filterMap fun n =>
    let s := jaro given n
    if s > 0.7 then some (s, n) else none
  (scored.mergeSort fun p q => p.1 ≤ q.1).map (·.2)

end LineCoverage.Cli
