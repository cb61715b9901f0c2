import LineCoverage.Git.Pattern
/-! Ignore files, and which files of a working tree adding every change takes.

An ignore file holds one pattern a line; blank lines and lines starting with `#` say nothing,
a carriage return before the line feed is dropped, and so are trailing spaces unless a
backslash keeps them. A file's patterns apply to the paths below its directory. For a path,
the deepest ignore file with a matching pattern decides, by its last matching pattern: the path
is left out unless that pattern is a negation.

A directory that is left out is not entered, so nothing below it can be taken back in; the
repository's own `.git` directory is never entered.
-/

set_option autoImplicit false

namespace LineCoverage.Git

def fileLines (content : List UInt8) : List (List UInt8) :=
  let bs := match content with
    | 0xEF :: 0xBB :: 0xBF :: rest => rest
    | _ => content
  ((bs ++ [10]).splitOn 10).dropLast

/-- Where the trailing spaces of a line start, if it has any; a backslash keeps the byte after
it, and a line ending in a lone backslash keeps all its spaces. -/
def trailingSpaces : List UInt8 → Nat → Option Nat → Option Nat
  | [], _, start => start
  | 32 :: rest, i, start => trailingSpaces rest (i + 1) (start.orElse fun _ => some i)
  | 92 :: [], _, _ => none
  | 92 :: _ :: rest, i, _ => trailingSpaces rest (i + 2) none
  | _ :: rest, i, _ => trailingSpaces rest (i + 1) none

def trimSpaces (line : List UInt8) : List UInt8 :=
  match trailingSpaces line 0 none with
  | some k => line.take k
  | none => line

def readIgnore (base : Location) (content : List UInt8) : List PathPattern :=
  (fileLines content).filterMap fun line =>
    if line.isEmpty || line.head? == some 35 then none
    else
      let line := if line.getLast? == some 13 then line.dropLast else line
      some (PathPattern.read base (trimSpaces line))

def isIgnored (stack : List (List PathPattern)) (path : Location) (isDir : Bool) : Bool :=
  match stack.findSome? (fun ps => ps.reverse.find? (·.matches path isDir)) with
  | some p => !p.negative
  | none => false

def takenFiles (tree : FileTree) (top : Location) : Nat → Location → List (List PathPattern) →
    List Location
  | 0, _, _ => []
  | fuel + 1, dir, stack =>
    let kids := tree.children (top ++ dir)
    let stack := match kids.find? (·.1 == ".gitignore") with
      | some (_, .file c) => readIgnore dir c :: stack
      | _ => stack
    kids.flatMap fun (name, e) =>
      if name == ".git" then []
      else
        let path := dir ++ [name]
        match e with
        | .dir => if isIgnored stack path true then [] else takenFiles tree top fuel path stack
        | _ => if isIgnored stack path false then [] else [path]

def takenBelow (tree : FileTree) (top : Location) : List Location :=
  takenFiles tree top (tree.entries.foldl (fun m e => max m e.1.length) 0 + 1) [] []

example : readIgnore [] "# c\n*.o  \n!keep.o\\ \nbuild/\n".toUTF8.toList =
    [PathPattern.read [] "*.o".toUTF8.toList, PathPattern.read [] "!keep.o\\ ".toUTF8.toList,
      PathPattern.read [] "build/".toUTF8.toList] := by decide +kernel

end LineCoverage.Git
