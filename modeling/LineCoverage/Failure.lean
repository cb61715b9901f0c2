import LineCoverage.Error
import LineCoverage.Text.Pad
/-! A failure of a command: what went wrong, with the chain of causes beneath it, outermost
first. Each step that can fail adds a line of context above the failure it passes on.

A failure is shown in two ways: on one line, the messages joined by `": "`; and as a report,
the outermost message followed by a numbered list of causes (unnumbered when there is only
one), each line of a cause indented under its number.
-/

set_option autoImplicit false

namespace LineCoverage

structure Failure where
  message : String
  causes : List String := []
  deriving Repr

namespace Failure

def ofError (e : Error) : Failure := ⟨e.message, e.cause?.toList⟩

def ofOs (e : OsError) : Failure := ⟨e.message, []⟩

def context (ctx : String) (f : Failure) : Failure := ⟨ctx, f.message :: f.causes⟩

def oneLine (f : Failure) : String := ": ".intercalate (f.message :: f.causes)

/-- A cause indented under its number, or under four spaces when it has none. -/
def indentCause (number : Option Nat) (text : String) : String :=
  let first := match number with
    | some n => Text.padLeft 5 (toString n) ++ ": "
    | none => "    "
  let rest := match number with
    | some _ => "       "
    | none => "    "
  first ++ ("\n" ++ rest).intercalate (text.splitOn "\n")

def report (f : Failure) : String :=
  match f.causes with
  | [] => f.message
  | [c] => f.message ++ "\n\nCaused by:\n" ++ indentCause none c
  | cs => f.message ++ "\n\nCaused by:" ++
      String.join (cs.zipIdx.map fun (c, n) => "\n" ++ indentCause (some n) c)

example : (context "Failed to read a" (ofError (.io .notFound))).oneLine =
    "Failed to read a: I/O error: No such file or directory (os error 2): No such file or directory (os error 2)" := by
  decide +kernel

end Failure

end LineCoverage
