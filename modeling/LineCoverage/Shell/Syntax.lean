import LineCoverage.Numeral
/-! The syntax of the shell language the dump tool scripts are written in: a subset of the
POSIX shell.

A word is a sequence of pieces: literal text, parameter references, command substitutions
and arithmetic expansions, each either quoted (kept whole) or not (split into fields at
blanks and matched against file names). The word of a parameter operator and the inside of
an arithmetic expansion are read with the word, in its quoting; a command substitution keeps
its source text and the line it starts on, and is read when it is expanded.

Commands are simple commands with assignments and redirections, pipelines, `&&` and `||`
lists, sequences, `if`, `for`, `while` and `until`, `case`, brace groups, subshells and
function definitions.
-/

set_option autoImplicit false

namespace LineCoverage.Shell

/-- The operator of a parameter expansion `${name OP word}`; `null` (a colon before the
operator) makes an empty value count as unset. -/
inductive ParamOp where
  | value
  | length
  | orDefault (null : Bool)
  | assign (null : Bool)
  | orError (null : Bool)
  | alternative (null : Bool)
  | trimPrefix (longest : Bool)
  | trimSuffix (longest : Bool)
  | bad
  deriving Repr, Inhabited, DecidableEq

inductive Piece where
  | text (s : String) (quoted : Bool)
  | param (name : String) (op : ParamOp) (word : List Piece) (quoted : Bool)
  | command (source : String) (line : Nat) (quoted : Bool)
  | arith (body : List Piece) (quoted : Bool)
  deriving Repr, Inhabited

abbrev Word := List Piece

inductive Redirect where
  | toFile (fd : Nat) (target : Word) (append : Bool)
  | fromFile (fd : Nat) (target : Word)
  | copy (fd : Nat) (target : Word)
  | here (fd : Nat) (body : Word)
  deriving Repr, Inhabited

inductive Command where
  | simple (line : Nat) (assigns : List (String × Word)) (words : List Word) (redirects : List Redirect)
  | pipeline (negated : Bool) (stages : List Command)
  | both (first second : Command)
  | either (first second : Command)
  | sequence (commands : List Command)
  | cond (test thenPart : Command) (elsePart : Option Command)
  | forEach (var : String) (items : Option (List Word)) (body : Command)
  | loop (test body : Command) (untilMode : Bool)
  | caseOf (subject : Word) (arms : List (List Word × Command))
  | group (body : Command) (redirects : List Redirect)
  | subshell (body : Command) (redirects : List Redirect)
  | define (name : String) (body : Command)
  | background (body : Command)
  deriving Repr, Inhabited

def Command.nothing : Command := .sequence []

end LineCoverage.Shell
