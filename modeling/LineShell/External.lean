import LineShell.Output
import LineShell.SearchPath
import LineShell.State

/-!
# External commands

Programs outside the shell. A name with a slash is the path name of the program itself, as seen from
the current directory; any other name is looked up in the search path. The program runs in the
shell's current directory, under the name that was typed.
-/

namespace LineShell

/-- A program that has been found, ready to be started. -/
structure External where
  /-- The name that was typed. -/
  name : String
  /-- The file that holds the program. -/
  image : Path
  args : List String
deriving DecidableEq, Repr

/-- The number by which a shell tells how a program ended. -/
def Ending.code : Ending → Nat
  | .exited code => code
  | .killed signal => 128 + signal

namespace External

/-- The file that `name` stands for. -/
def locate (state : State) (sp : SearchPath) (name : String) : Action (Option Path) := do
  if hasSeparator name then
    let p := state.resolve (Path.ofString name)
    return if ← isExecutable p then some p else none
  else
    sp.find name

/-- Find the program `name`. -/
def resolve (state : State) (sp : SearchPath) (name : String) (args : List String) :
    Action (Except ShellError External) := do
  match ← locate state sp name with
  | some image => return .ok ⟨name, image, args⟩
  | none => return .error (.commandNotFound name)

/-- Where a stream with the target `t?` goes. A target that cannot be opened is reported to
`errors`, and the stream is inherited. -/
def outlet (t? : Option Target) (errors : Sink) : Action Outlet :=
  match t? with
  | none => return .inherited
  | some t => do
    match ← t.openAppend with
    | .ok handle => return .file handle
    | .error e =>
      let _ ← errors .stderr e.message
      return .inherited

/-- The program as it is started, with its streams. -/
def child (c : External) (state : State) (env : Environment) (out err : Outlet) : Child where
  image := c.image
  argv := c.name :: c.args
  environment := env
  directory := state.currentDir
  stdout := out
  stderr := err

/-- Run the program to its end. -/
def execute (c : External) (r : Redirection) (state : State) (env : Environment) (errors : Sink) :
    Action (Except ShellError Nat) := do
  let out ← outlet r.stdout errors
  let err ← outlet r.stderr errors
  match ← Action.request (.start (c.child state env out err)) with
  | .ok ending => return .ok ending.code
  | .error (.spawn fault) => return .error (.spawn c.name fault)
  | .error (.wait fault) => return .error (.wait c.name fault)

/-- Find and run the program `name`. -/
def call (name : String) (args : List String) (r : Redirection) (state : State) (sp : SearchPath)
    (env : Environment) (errors : Sink) : Action Outcome := do
  match ← resolve state sp name args with
  | .error e => return .error e
  | .ok c =>
    match ← c.execute r state env errors with
    | .ok _ => return .ok ()
    | .error e => return .error e

end External

end LineShell
