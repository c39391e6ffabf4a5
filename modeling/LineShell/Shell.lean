import LineShell.Builtin
import LineShell.Command
import LineShell.External

/-!
# The shell

A shell runs one line after the other. A line is parsed, its redirection targets are created, and
its command is carried out: by the shell itself if it is a builtin, by a program otherwise. Each
failure becomes one message on the error stream, and the shell goes on with the next line.

What a shell logs is left out here and everywhere: no request stands for a log entry. The log goes to the
error stream of the process as far as the variable `TIDESH_LOG` lets it, which is warnings where it is not
set: of targets that cannot be created or opened, of lines that a target refuses, of errors that cannot be
reported, and of a history that cannot be saved. None of the statements about what is written counts them.
-/

namespace LineShell

/-- A shell: the environment it was given, the search path made from it, and what lines change. -/
structure Shell where
  env : Environment
  searchPath : SearchPath
  state : State

namespace Shell

/-- A shell over `env`, in the state `state`. -/
def start (env : Environment) (state : State) : Shell where
  env := env
  searchPath := SearchPath.ofEnvironment env
  state := state

/-- Carry out the command of a line, whose targets are there; lines go to `sink`. -/
def dispatch (sh : Shell) (c : Command) (r : Redirection) (sink : Sink) :
    Action (State × Outcome) :=
  match Builtin.lookup c.name with
  | some b => b.execute sh.env sh.searchPath sh.state sink c.joinedArgs
  | none => return (sh.state,
      ← External.call c.name c.args r sh.state sh.searchPath sh.env sink)

/-- Carry out a command that has a name, with the targets `r`, and report its failure; `console` is what it
inherits its streams from. -/
def performOver (sh : Shell) (console : Sink) (c : Command) (r : Redirection) : Action Shell := do
  let sink := r.over console
  let (state, outcome) ← sh.dispatch c r sink
  match outcome with
  | .ok () => return { sh with state := state }
  | .error e =>
    report sink e
    return { sh with state := state }

/-- Run a parsed line, with `console` as the streams that it inherits. -/
def runOver (sh : Shell) (console : Sink) (c : Command) : Action Shell := do
  let (r, errors) ← c.redirection.prepare sh.state.currentDir
  reportAll console errors
  if c.isEmpty then return sh else sh.performOver console c r

/-- Run one line, with `console` as the streams that it inherits. -/
def handleOver (sh : Shell) (console : Sink) (line : String) : Action Shell :=
  sh.runOver console (Command.parse line)

/-- Run a parsed line on the console of the process. -/
def runCommand (sh : Shell) (c : Command) : Action Shell :=
  sh.runOver Sink.console c

/-- Run one line on the console of the process. -/
def handle (sh : Shell) (line : String) : Action Shell :=
  sh.handleOver Sink.console line

theorem handle_eq_runCommand (sh : Shell) (line : String) : sh.handle line = sh.runCommand (Command.parse line) :=
  rfl

/-- Run lines one after the other. -/
def handleAll (sh : Shell) : List String → Action Shell
  | [] => return sh
  | line :: lines => do
    let sh ← sh.handle line
    sh.handleAll lines

end Shell

end LineShell
