import LineShell.Machine.Script.Run

/-!
# Starting scripts

How a process begins to run a script: which variables it has, what the words on its command line
mean, and where the script is read from.
-/

namespace LineShell.Script

namespace Invocation

/-- The variables that every script has, unless it is started with others. -/
def defaultVariables (user : Nat) : List (String × Chars) :=
  [("PATH", standardPath), ("PS1", if user = 0 then ['#', ' '] else ['$', ' ']), ("PS2", ['>', ' ']),
    ("PS4", ['+', ' '])]

/-- The variables that every script begins with, whatever it is started with. -/
def fixedVariables (parent : Nat) : List (String × Chars) :=
  [("IFS", [' ', '\t', '\n']), ("OPTIND", ['1']), ("PPID", ofNat parent)]

/-- The state at the beginning of a script. -/
def initial (user : Nat) (p : Process) : Scope :=
  let name := ofBytes (p.argv.headD [])
  let s : Scope := { process := p, name := name, args := [], vars := [], deaf := p.ignored, rootProcess := p.id }
  let s := (defaultVariables user).foldl (fun s v => s.set v.1.toList v.2) s
  let s := p.variables.foldl (fun s v =>
    let name := ofBytes v.1
    if isName name then s.assign name (ofBytes v.2) true else s) s
  (fixedVariables ((p.ancestors.head?).getD 1)).foldl (fun s v => s.set v.1.toList v.2) s

/-- Let the script know its directory: by the variable for it, if that is right. -/
def nameStart : ScriptM Unit := do
  let s ← get
  let v ← ScriptM.viewer
  let t := (← ScriptM.machine).tree
  let known := (s.get? "PWD".toList).filter fun p =>
    p.head? = some '/' && (t.find v ⟨toBytes p⟩ true).toOption = some s.process.dir
  set { s with name := ofString "sh" }
  Builtin.nameDirectory known
  modify fun t => { t with name := s.name }

/-- Where the commands of a script come from. -/
structure Plan where
  /-- Commands on the command line. -/
  commands : Option Chars := none
  /-- More commands are read from a file or from the input. -/
  input : Option ScriptInput := none

/-- Read the words of the command line. -/
def plan (args : List Chars) : ScriptM Plan := do
  let (hasCommands, rest) ← Builtin.switchWords true args.length args
  let _ ← ScriptM.flush
  let fromInput : ScriptInput := { source := .stream }
  let isStream := (← get).option 's'
  match hasCommands, rest with
  | true, [] => ScriptM.fail (ofString "-c requires an argument")
  | true, commands :: rest =>
    match rest with
    | name :: args => modify fun s => { s with name := name, args := args }
    | [] => pure ()
    return { commands := some commands, input := if isStream then some fromInput else none }
  | false, [] =>
    modify fun s => s.switch 's' true
    return { input := some fromInput }
  | false, name :: args =>
    if isStream then
      modify fun s => { s with args := name :: args }
      return { input := some fromInput }
    else
      let i ← Redirect.openFile name .reading
      modify fun s => { s with name := name, args := args }
      return { input := some { source := .file i } }

/-- How many steps a script takes at most. -/
def stepLimit : Nat := 1000000000

/-- Run a script from its command line on. -/
def runAll (x : Programs) (args : List Chars) : ScriptM Nat := do
  nameStart
  let p ← plan args
  let code ← match p.commands with
    | some text => runText x stepLimit { isLast := p.input.isNone } text
    | none => pure 0
  match p.input with
  | some input =>
    modify fun s => { s with input := input, skip := .nothing }
    runInput x stepLimit {} true 0 0
  | none => return code

end Invocation

/-- Run the script that a process is started for. -/
def runProcess (x : Programs) (p : Process) : Step Ending := do
  let s := Invocation.initial (← get).user p
  let body := finish x Invocation.stepLimit (Invocation.runAll x (p.argv.tail.map ofBytes))
  match ← StateT.run (ExceptT.run body) s with
  | (.ok e, _) | (.error (.replaced e), _) => return e
  | (.error (.killed signal), _) => return .killed signal
  | (.error _, _) => return .exited 0

end LineShell.Script
