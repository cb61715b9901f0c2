/-! Blank characters and trimming.

A character is blank when it has the Unicode White_Space property. That set is wider than
the ASCII blanks (it holds NEL, no-break space and the wide spaces of U+2000 ..= U+200A)
and narrower than the control characters (the information separators U+001C ..= U+001F
and NUL are not blank).
-/

set_option autoImplicit false

namespace LineCoverage.Text

/-- The Unicode White_Space property. -/
def isBlank (c : Char) : Bool :=
  let n := c.toNat
  (0x09 ≤ n && n ≤ 0x0D) || n == 0x20 || n == 0x85 || n == 0xA0 || n == 0x1680 ||
    (0x2000 ≤ n && n ≤ 0x200A) || n == 0x2028 || n == 0x2029 || n == 0x202F ||
    n == 0x205F || n == 0x3000

theorem isBlank_of_isWhitespace (c : Char) (h : c.isWhitespace = true) : isBlank c = true := by
  simp only [Char.isWhitespace, Bool.or_eq_true, decide_eq_true_eq] at h
  simp only [isBlank, Bool.or_eq_true, Bool.and_eq_true, beq_iff_eq, decide_eq_true_eq]
  rcases h with ((h | h) | h) | h <;> subst h <;> decide

def dropBlanks (cs : List Char) : List Char := cs.dropWhile isBlank

def trimChars (cs : List Char) : List Char :=
  (dropBlanks (dropBlanks cs).reverse).reverse

def trimEndChars (cs : List Char) : List Char :=
  (dropBlanks cs.reverse).reverse

def trim (s : String) : String := String.ofList (trimChars s.toList)

def trimEnd (s : String) : String := String.ofList (trimEndChars s.toList)

example : trim " 　a b\u0085\n" = "a b" := by decide
example : trim "\u001Fa" = "\u001Fa" := by decide

end LineCoverage.Text
