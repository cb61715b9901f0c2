/-! Padding a text with spaces to a width counted in characters. -/

set_option autoImplicit false

namespace LineCoverage.Text

def padLeft (width : Nat) (s : String) : String :=
  String.ofList (List.replicate (width - s.length) ' ') ++ s

def padRight (width : Nat) (s : String) : String :=
  s ++ String.ofList (List.replicate (width - s.length) ' ')

theorem length_padLeft (width : Nat) (s : String) : (padLeft width s).length = max width s.length := by
  simp [padLeft]
  omega

example : padLeft 4 "ab" = "  ab" ∧ padRight 4 "ab" = "ab  " ∧ padLeft 1 "abc" = "abc" := by
  decide

end LineCoverage.Text
