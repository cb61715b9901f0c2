import Std.Data.TreeMap
/-! Coverage dumps: what one translation unit's dump says about each source file.

A dump maps each source path, as the dump tool wrote it, to the functions and line records
found under it. Records of a path that occurs twice are kept together, in order.
-/

set_option autoImplicit false

namespace LineCoverage

structure FunctionRecord where
  startLine : Nat
  endLine : Nat
  calls : Nat
  name : String
  deriving Repr, DecidableEq, Inhabited

/-- One line as one translation unit sees it. -/
structure LineRecord where
  line : Nat
  hits : Nat
  unexecutedBlock : Bool
  deriving Repr, DecidableEq, Inhabited

structure FileRecords where
  functions : List FunctionRecord := []
  lines : List LineRecord := []
  deriving Repr, DecidableEq, Inhabited

instance : Append FileRecords := ⟨fun a b => ⟨a.functions ++ b.functions, a.lines ++ b.lines⟩⟩

abbrev Dump := Std.TreeMap String FileRecords compare

def Dump.add (d : Dump) (path : String) (r : FileRecords) : Dump :=
  d.insert path (d.getD path {} ++ r)

end LineCoverage
