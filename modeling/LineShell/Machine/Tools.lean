import LineShell.Machine.Tool.Cat
import LineShell.Machine.Tool.Chmod
import LineShell.Machine.Tool.Cp
import LineShell.Machine.Tool.Ln
import LineShell.Machine.Tool.Mkdir
import LineShell.Machine.Tool.Rm
import LineShell.Machine.Tool.Rmdir

/-!
# Programs of the machine

The programs that work on files: `cat`, `chmod`, `cp`, `ln`, `mkdir`, `rm` and `rmdir`.
-/

namespace LineShell

namespace Tool

/-- Run a program other than the one that reads scripts. -/
def run (tool : Tool) (p : Process) : Step Ending :=
  match tool with
  | .sh => return .exited 0
  | .cat => Task.run Cat.body p
  | .chmod => Task.run Chmod.body p
  | .cp => Task.run Cp.body p
  | .ln => Task.run Ln.body p
  | .mkdir => Task.run Mkdir.body p
  | .rm => Task.run Rm.body p
  | .rmdir => Task.run Rmdir.body p

end Tool

end LineShell
