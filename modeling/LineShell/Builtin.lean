import LineShell.Output
import LineShell.SearchPath
import LineShell.State
import LineShell.Text.Blank

/-!
# Builtin commands

The commands that the shell carries out itself. A builtin takes its arguments as one text and
answers the state it leaves and whether its output could be written.
-/

namespace LineShell

/-- The commands that the shell carries out itself. -/
inductive Builtin where
  /-- Write the arguments. -/
  | echo
  /-- End the shell after this line. -/
  | exit
  /-- Tell what a name stands for. -/
  | type
  /-- Write the current directory. -/
  | pwd
  /-- Change the current directory. -/
  | cd
deriving DecidableEq, Repr

namespace Builtin

/-- All builtins. -/
def all : List Builtin := [.echo, .exit, .type, .pwd, .cd]

/-- The name by which a builtin is called. -/
def name : Builtin → String
  | .echo => "echo"
  | .exit => "exit"
  | .type => "type"
  | .pwd => "pwd"
  | .cd => "cd"

/-- The builtin called `name`. -/
def lookup (name : String) : Option Builtin :=
  all.find? (·.name == name)

/-- Tell what `name` stands for: a builtin, a program of the search path, or nothing. -/
def describe (sp : SearchPath) (sink : Sink) (name : String) : Action Outcome := do
  if name.isEmpty then
    return .ok ()
  else if (lookup name).isSome then
    sink .stdout s!"{name} is a shell builtin"
  else
    match ← sp.find name with
    | some p => sink .stdout s!"{name} is {p.display}"
    | none => sink .stderr s!"{name}: not found"

/-- Why a directory cannot become the current one. -/
inductive DirectoryFault where
  | missing
  | notDirectory
  | notListable
deriving DecidableEq, Repr

/-- The text of a directory fault. -/
def DirectoryFault.message : DirectoryFault → String
  | .missing => "No such file or directory"
  | .notDirectory => "Not a directory"
  | .notListable => "Permission denied"

/-- The first reason why `p` cannot become the current directory. -/
def directoryFault (p : Path) : Action (Option DirectoryFault) := do
  match ← Action.request (.inspect p) with
  | none => return some .missing
  | some info =>
    if info.isDirectory then
      return if ← Action.request (.canList p) then none else some .notListable
    else return some .notDirectory

/-- What the argument of `cd` asks for. -/
inductive Destination where
  /-- The directory `dir`, called `shown` in messages. -/
  | go (dir shown : String)
  /-- Nowhere: an empty argument without a home directory. -/
  | stay
  /-- The home directory, which is not known. -/
  | homeless
deriving DecidableEq, Repr

/-- The home directory, if the variable `HOME` names one. -/
def home? (env : Environment) : Option String :=
  (env.get? "HOME").filter (!·.isEmpty)

/-- What `cd` is asked for by `args`. -/
def destination (env : Environment) (args : String) : Destination :=
  match trimBlanks args, home? env with
  | "", some home => .go home home
  | "", none => .stay
  | "~", some home => .go home "~"
  | "~", none => .homeless
  | dir, _ => .go dir dir

/-- Make `target` the current directory if it can be. The message calls it `shown`. -/
def enter (state : State) (sink : Sink) (target : Path) (shown : String) :
    Action (State × Outcome) := do
  let dir := (← Action.request (.canonicalize target)).getD target
  match ← directoryFault dir with
  | some fault => return (state, ← sink .stderr s!"cd: {shown}: {fault.message}")
  | none => return ({ state with currentDir := dir }, .ok ())

/-- Change the current directory. -/
def changeDirectory (env : Environment) (state : State) (sink : Sink) (args : String) :
    Action (State × Outcome) :=
  match destination env args with
  | .go dir shown => enter state sink (state.resolve (Path.ofString dir)) shown
  | .stay => return (state, .ok ())
  | .homeless => return (state, ← sink .stderr "cd: ~: HOME not set")

/-- Carry out a builtin. -/
def execute (b : Builtin) (env : Environment) (sp : SearchPath) (state : State) (sink : Sink)
    (args : String) : Action (State × Outcome) :=
  match b with
  | .echo => return (state, ← sink .stdout args)
  | .exit => return ({ state with exitRequested := true }, .ok ())
  | .type => return (state, ← describe sp sink args)
  | .pwd => return (state, ← sink .stdout state.currentDir.display)
  | .cd => changeDirectory env state sink args

end Builtin

end LineShell
