import LineShell.Errno
import LineShell.Path

/-!
# Faults and shell errors

A *fault* says why the operating system did not do what it was asked. A *shell error* says which
step of running a line failed; none of them ends the shell, each is shown as one message.
-/

namespace LineShell

/-- Why a request to the operating system failed. -/
inductive Fault where
  /-- The operating system refused it. -/
  | system (errno : Errno)
  /-- A path name holds a NUL byte. -/
  | nulInPath
  /-- An argument or a variable of a program holds a NUL byte. -/
  | nulInData
  /-- A line of input is not UTF-8. -/
  | notUtf8
  /-- Any other reason. -/
  | other (text : String)
deriving DecidableEq, Repr

/-- The text of a fault. -/
def Fault.message : Fault → String
  | .system e => s!"{e.text} (os error {e.code})"
  | .nulInPath => "file name contained an unexpected NUL byte"
  | .nulInData => "nul byte found in provided data"
  | .notUtf8 => "stream did not contain valid UTF-8"
  | .other text => text

/-- What can go wrong while a line is run. -/
inductive ShellError where
  /-- The name is neither a builtin nor a program that can be reached. -/
  | commandNotFound (name : String)
  /-- A redirection target could not be created, opened or written. -/
  | redirect (path : Path) (fault : Fault)
  /-- The program could not be started. -/
  | spawn (name : String) (fault : Fault)
  /-- Waiting for the program failed. -/
  | wait (name : String) (fault : Fault)
  /-- The console could not be written. -/
  | output (fault : Fault)
deriving DecidableEq, Repr

/-- The message shown for a shell error. -/
def ShellError.message : ShellError → String
  | .commandNotFound name => s!"{name}: command not found"
  | .redirect path fault => s!"{path.display}: {fault.message}"
  | .spawn name fault => s!"{name}: {fault.message}"
  | .wait name fault => s!"{name}: wait failed: {fault.message}"
  | .output fault => s!"write error: {fault.message}"

end LineShell
