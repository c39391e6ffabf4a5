import LineShell.Machine.Layout
import LineShell.Machine.System
import LineShell.Options

/-!
# The program

The shell on a fresh in-memory machine: arguments and lines come from the process, and what ends on
the screens of the machine is written to its streams.
-/

namespace LineShell

/-- The variables of the process that the shell is given. -/
def knownVariables : List String := ["PATH", "HOME", "TERM"]

/-- The machine that the program works on, with the bytes `input` to be read. -/
def freshMachine (env : Environment) (input : Bytes) : Machine :=
  Machine.start FileTree.bare 0 env FileTree.rootId input

/-- The values of `names` in the environment of the process. -/
def readVariables (names : List String) : IO Environment := do
  let pairs ← names.filterMapM fun n => return (← IO.getEnv n).map (n, ·)
  return Environment.ofList pairs

/-- Read all that is left of a stream. -/
partial def readAll (s : IO.FS.Stream) (acc : ByteArray) : IO ByteArray := do
  let block ← s.read 65536
  if block.isEmpty then return acc else readAll s (acc ++ block)

/-- Run the shell on a fresh machine. -/
def runFresh (args : List String) : IO UInt32 := do
  let env ← readVariables knownVariables
  let input := (← readAll (← IO.getStdin) ByteArray.empty).data.toList
  let (code, m) := (runProgram args env (some Path.root) (input.length + 1)).run Machine.answer
    (freshMachine env input)
  (← IO.getStdout).write ⟨m.outScreen.bytes.toArray⟩
  (← IO.getStderr).write ⟨m.errScreen.bytes.toArray⟩
  return code.toUInt32

end LineShell

def main (args : List String) : IO UInt32 :=
  LineShell.runFresh args
