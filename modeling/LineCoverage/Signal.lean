/-! Signals of a Linux system: their numbers, names, and what a signal does to a process that
has not arranged to catch it.

Most signals end the process; `CHLD`, `CONT`, `URG` and `WINCH` are ignored, and the four
stop signals only pause it. Names are written without the `SIG` prefix and read without regard
to case.
-/

set_option autoImplicit false

namespace LineCoverage.Signal

def names : List String :=
  ["HUP", "INT", "QUIT", "ILL", "TRAP", "ABRT", "BUS", "FPE", "KILL", "USR1", "SEGV", "USR2",
    "PIPE", "ALRM", "TERM", "STKFLT", "CHLD", "CONT", "STOP", "TSTP", "TTIN", "TTOU", "URG",
    "XCPU", "XFSZ", "VTALRM", "PROF", "WINCH", "IO", "PWR", "SYS"]

def limit : Nat := 65

def name? (n : Nat) : Option String := if n = 0 then none else names[n - 1]?

/-- The signal a name or a number stands for; with `withExit`, `EXIT` and `0` stand for the
end of the shell. -/
def ofText? (s : String) (withExit : Bool) : Option Nat :=
  if !s.isEmpty && s.all Char.isDigit then
    let n := s.toNat!
    if n < limit then some n else none
  else
    let upper := String.ofList (s.toList.map Char.toUpper)
    if withExit && upper = "EXIT" then some 0
    else (names.findIdx? (· == upper)).map (· + 1)

def ends (n : Nat) : Bool := n ≠ 0 && !([17, 18, 19, 20, 21, 22, 23, 28].contains n)

example : name? 9 = some "KILL" ∧ name? 15 = some "TERM" ∧ name? 0 = none ∧ ends 9 ∧ !ends 17 := by
  decide

end LineCoverage.Signal
