/-! Lines of a text, and cutting text at a separator.

A line ends at a line feed, which is not part of it, and one carriage return just before
that line feed is dropped too. Text after the last line feed is a last line of its own,
kept whole, so a carriage return that ends the text stays. Empty text has no lines, and a
final line feed opens no new line.
-/

set_option autoImplicit false

namespace LineCoverage.Text

def dropReturn (cs : List Char) : List Char :=
  match cs.getLast? with
  | some '\r' => cs.dropLast
  | _ => cs

def feedPieces : List Char → List (List Char × Bool)
  | [] => []
  | c :: rest =>
    match feedPieces rest with
    | [] => if c = '\n' then [([], true)] else [([c], false)]
    | (p, ended) :: more =>
      if c = '\n' then ([], true) :: (p, ended) :: more else (c :: p, ended) :: more

def lineChars (cs : List Char) : List (List Char) :=
  (feedPieces cs).map fun (p, ended) => if ended then dropReturn p else p

def lines (s : String) : List String := (lineChars s.toList).map String.ofList

example : lines "a\r\nb\n\nc\r" = ["a", "b", "", "c\r"] := by decide
example : lines "" = [] ∧ lines "\n" = [""] ∧ lines "a\r\r\n" = ["a\r"] := by decide

def splitFirst (sep : Char) : List Char → Option (List Char × List Char)
  | [] => none
  | c :: rest =>
    if c = sep then some ([], rest)
    else (splitFirst sep rest).map fun (a, b) => (c :: a, b)

/-- Cuts at every occurrence of `sep`; there is one piece more than occurrences. -/
def splitAll (sep : Char) : List Char → List (List Char)
  | [] => [[]]
  | c :: rest =>
    match splitAll sep rest with
    | [] => [[c]]
    | p :: more => if c = sep then [] :: p :: more else (c :: p) :: more

/-- Cuts at the first `n - 1` occurrences of `sep`, so that there are at most `n` pieces
and the last keeps any further separators. -/
def splitAtMost (sep : Char) : Nat → List Char → List (List Char)
  | 0, _ => []
  | 1, cs => [cs]
  | n + 2, cs =>
    match splitFirst sep cs with
    | none => [cs]
    | some (a, b) => a :: splitAtMost sep (n + 1) b

example : splitAtMost ',' 4 "1,2,3,a,b".toList = ["1".toList, "2".toList, "3".toList, "a,b".toList] := by
  decide
example : splitAll ',' "".toList = [[]] ∧ splitAll ',' ",".toList = [[], []] := by decide

end LineCoverage.Text
