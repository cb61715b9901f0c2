import LineCoverage.Git.Pattern
import LineCoverage.Git.Object
/-! The patch that shows what a commit adds, and the path patterns that pick its files.

A repository here has one commit, so every file of it is new: its patch says so, names the
blob by the first seven hex digits of its id, and adds every line in one hunk. An empty file
has no hunk, and a file with a zero byte among its first 8000 is binary and has only a line
saying that it differs. A last line without a line break is followed by a remark. A path with
a double quote, a backslash, a control byte or a byte above 126 is written in double quotes
with C escapes, each byte above 126 in octal.

A path pattern given on the command line picks files by their path from the top of the
working tree. It is taken from the directory the command runs in, unless it starts with the
magic `:/`; `:!` or `:^` makes it exclude what it matches, and a list of only exclusions starts
from every file. A pattern picks a file it names, or every file below a directory it names;
with `*`, `?` or `[` it also picks every file whose whole path it matches, a slash being an
ordinary byte there.
-/

set_option autoImplicit false

namespace LineCoverage.Git

def matchLoose : List Glob → List UInt8 → Bool
  | [], t => t.isEmpty
  | .byte b :: ps, t => match t with
    | c :: more => c == b && matchLoose ps more
    | [] => false
  | .one :: ps, t => match t with
    | _ :: more => matchLoose ps more
    | [] => false
  | .set negated items :: ps, t => match t with
    | c :: more => (items.any (·.has c)) != negated && matchLoose ps more
    | [] => false
  | .star :: ps, t => (allTails t).any (matchLoose ps)
  | .anyPath :: ps, t => (allTails t).any (matchLoose ps)
  | .dirs :: ps, t => (allTails t).any fun r => match r with
    | 47 :: more => matchLoose ps more
    | _ => false

structure Pathspec where
  exclude : Bool
  body : List UInt8

/-- Reads a path pattern given in the directory `dir` (below the top, ending in a slash unless
empty): its short magic after a leading colon, up to a second colon or the first byte that
is not magic. -/
def Pathspec.read (dir : String) (spec : String) : Pathspec :=
  let magic (top exclude : Bool) (rest : List Char) : Pathspec :=
    ⟨exclude, ((if top then "" else dir) ++ String.ofList rest).toUTF8.toList⟩
  let rec scan : List Char → Bool → Bool → Pathspec
    | '/' :: rest, _, exclude => scan rest true exclude
    | '!' :: rest, top, _ => scan rest top true
    | '^' :: rest, top, _ => scan rest top true
    | ':' :: rest, top, exclude => magic top exclude rest
    | rest, top, exclude => magic top exclude rest
  match spec.toList with
  | ':' :: rest => scan rest false false
  | cs => magic false false cs

def Pathspec.picks (p : Pathspec) (path : List UInt8) : Bool :=
  let special (b : UInt8) : Bool := b == 42 || b == 63 || b == 91
  let named := p.body.isEmpty || p.body == path ||
    (p.body.isPrefixOf path && (p.body.getLast? == some 47 || path[p.body.length]? == some 47))
  named || (p.body.any special &&
    match Glob.parse p.body with
    | some gs => matchLoose gs path
    | none => false)

def picksFile (specs : List Pathspec) (path : List UInt8) : Bool :=
  let includes := specs.filter (!·.exclude)
  (includes.isEmpty || includes.any (·.picks path)) && !(specs.filter (·.exclude)).any (·.picks path)

def quotedByte (b : UInt8) : List Char :=
  match b with
  | 7 => ['\\', 'a']
  | 8 => ['\\', 'b']
  | 9 => ['\\', 't']
  | 10 => ['\\', 'n']
  | 11 => ['\\', 'v']
  | 12 => ['\\', 'f']
  | 13 => ['\\', 'r']
  | 34 => ['\\', '"']
  | 92 => ['\\', '\\']
  | _ =>
    if b < 32 || b > 126 then
      ['\\', Char.ofNat (48 + b.toNat / 64), Char.ofNat (48 + b.toNat / 8 % 8), Char.ofNat (48 + b.toNat % 8)]
    else [Char.ofNat b.toNat]

def quotedPath (side : String) (path : List UInt8) : String :=
  let bytes := side.toUTF8.toList ++ path
  if bytes.any fun b => b < 32 || b > 126 || b == 34 || b == 92 then
    "\"" ++ String.ofList (bytes.flatMap quotedByte) ++ "\""
  else String.ofList (bytes.map fun b => Char.ofNat b.toNat)

def addedHunk (content : List UInt8) : List UInt8 :=
  let lines := (content.splitOn 10)
  let lines := if content.getLast? == some 10 then lines.dropLast else lines
  let count := lines.length
  let header := "@@ -0,0 +1" ++ (if count = 1 then "" else "," ++ toString count) ++ " @@\n"
  let body := lines.flatMap fun l => 43 :: l ++ [10]
  let remark := if content.getLast? == some 10 then [] else "\\ No newline at end of file\n".toUTF8.toList
  header.toUTF8.toList ++ body ++ remark

def addedPatch (path : List UInt8) (content : List UInt8) : List UInt8 :=
  let a := quotedPath "a/" path
  let b := quotedPath "b/" path
  let short := String.ofList ((Digest.hex (objectId "blob" content)).toList.take 7)
  let head := s!"diff --git {a} {b}\nnew file mode 100644\nindex 0000000..{short}\n"
  let rest :=
    if content.isEmpty then []
    else if (content.take 8000).contains 0 then s!"Binary files /dev/null and {b} differ\n".toUTF8.toList
    else s!"--- /dev/null\n+++ {b}\n".toUTF8.toList ++ addedHunk content
  head.toUTF8.toList ++ rest

def addedPatches (specs : List Pathspec) (files : FileSet) : List UInt8 :=
  let paths := files.map fun (l, c) => ("/".intercalate l, c)
  let sorted := paths.mergeSort fun a b => decide (a.1 ≤ b.1)
  sorted.flatMap fun (p, c) =>
    if picksFile specs p.toUTF8.toList then addedPatch p.toUTF8.toList c else []

example : (Pathspec.read "" "src/*.c").picks "src/a/b.c".toUTF8.toList = true := by decide +kernel
example : (Pathspec.read "" "HEAD:src/*.c").picks "src/a.c".toUTF8.toList = false := by decide +kernel
example : (Pathspec.read "src/" "a.c").picks "src/a.c".toUTF8.toList = true := by decide +kernel
example : quotedPath "b/" "a\"c".toUTF8.toList = "\"b/a\\\"c\"" := by decide +kernel

end LineCoverage.Git
