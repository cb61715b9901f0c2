import LineCoverage.Shell.Tools.Files
import LineCoverage.Shell.Tools.Find
import LineCoverage.Shell.Tools.Grep
import LineCoverage.Shell.Tools.Sed.Run
import LineCoverage.Shell.Tools.Count
import LineCoverage.Shell.Tools.Echo
import LineCoverage.Shell.Tools.Names
import LineCoverage.Shell.Tools.Numbers
import LineCoverage.Shell.Tools.Order
import LineCoverage.Shell.Tools.Slices
import LineCoverage.Shell.Tools.Translate
import LineCoverage.Shell.Tools.View
/-! The utilities of the system, by the names they are run by.

Each is a function from a call to what it leaves behind; the shell finds them after its
builtins and functions and the scripts on its search path.
-/

set_option autoImplicit false

namespace LineCoverage.Shell

def utility? (name : String) : Option (Call → Done) :=
  match name with
  | "cat" => some cat
  | "ls" => some ls
  | "wc" => some wc
  | "sed" => some sed
  | "grep" => some grep
  | "find" => some find
  | "head" => some head
  | "tail" => some tail
  | "sort" => some sort
  | "uniq" => some uniq
  | "tr" => some tr
  | "cut" => some cut
  | "od" => some od
  | "tee" => some tee
  | "basename" => some basename
  | "dirname" => some dirname
  | "mkdir" => some mkdir
  | "touch" => some touch
  | "rm" => some rm
  | "rmdir" => some rmdir
  | "cp" => some (copyOrMove false)
  | "mv" => some (copyOrMove true)
  | "ln" => some ln
  | "seq" => some seq
  | "expr" => some expr
  | "echo" => some echoProgram
  | "true" => some fun c => c.answer 0 "" ""
  | "false" => some fun c => c.answer 1 "" ""
  | "sleep" => some sleep
  | "printenv" => some printenv
  | _ => none

end LineCoverage.Shell
