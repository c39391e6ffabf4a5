import LineShell.Machine.Process
import LineShell.Machine.Script.Number
import LineShell.Machine.Script.Reader
import LineShell.Machine.Script.Signal

/-!
# The state of a running script

A script has a name, arguments, variables and options, and what it has been told to do later: its
functions, its aliases, its traps. Its steps run on the machine and may end the script at any point.
-/

namespace LineShell.Script

/-- A variable of a script. -/
structure Variable where
  name : Chars
  /-- The value; a variable without one may still be marked. -/
  value : Option Chars
  /-- The variable is handed down to programs. -/
  exported : Bool := false
  /-- The variable cannot be changed. -/
  isFixed : Bool := false
deriving DecidableEq, Repr

/-- What is left out until a loop or a function is over. -/
inductive Skip where
  | nothing
  /-- Leave so many loops. -/
  | leaveLoops (count : Nat)
  /-- Leave all but the last of so many loops, and begin the next round of that. -/
  | nextRound (count : Nat)
  /-- Leave the function, or the file that is read; `chosen` tells that the exit code was given. -/
  | leaveFunction (chosen : Bool)
deriving DecidableEq, Repr

/-- How a script ends before its last step. -/
inductive Halt where
  /-- It was told to end. -/
  | exit
  /-- Nothing is left to be done. -/
  | finished
  /-- Something failed that it cannot go on without. -/
  | failure
  | killed (signal : Nat)
  /-- A program took its place, and ended. -/
  | replaced (ending : Ending)
deriving DecidableEq, Repr

/-- Where a script is read from. -/
inductive Source where
  /-- A text that is there as a whole. -/
  | text
  /-- An open file, from which blocks are read when they are needed. -/
  | file (opened : Nat)
  /-- The input of the script, whatever file that is. -/
  | stream

/-- A script that is being read. -/
structure ScriptInput where
  source : Source
  /-- What has been read from the source but not used. -/
  rest : Chars := []
  /-- The source has ended. -/
  complete : Bool := false
  line : Nat := 1
  /-- The values of aliases that have not been read to their ends. -/
  insertions : List Insertion := []
  /-- What has been taken back. -/
  back : List Symbol := []
  /-- How much of the rest belongs to a line that has been shown. -/
  shown : Nat := 0

/-- What has become of a statement in the background. -/
structure Job where
  process : Nat
  status : Nat
  /-- What the one who waits for it is told. -/
  message : Chars := []
deriving DecidableEq, Repr

/-- Where the options among arguments have been read to. -/
structure OptionMark where
  /-- The number of the next argument. -/
  index : Nat := 1
  /-- How much of the argument before it has been read, if there is more in it. -/
  offset : Option Nat := none

/-- The state of a running script. -/
structure Scope where
  /-- The process that runs the script. -/
  process : Process
  /-- The name by which the script calls itself. -/
  name : Chars
  /-- The path name of the directory, as the script came there. -/
  here : Chars := []
  args : List Chars
  optionMark : OptionMark := {}
  vars : List Variable
  /-- The letters of the options that are switched on. -/
  options : Chars := []
  functions : List (Chars × Statement) := []
  aliases : List (Chars × Chars) := []
  documents : Array Document := #[]
  /-- What is done when a signal arrives, by the number of the signal; 0 is the end of the script. -/
  traps : List (Nat × Chars) := []
  /-- The signals that have arrived and have a trap. -/
  arrived : List Nat := []
  /-- The signals that were ignored when the script began. -/
  deaf : List Nat := []
  /-- The exit code of the last command. -/
  status : Nat := 0
  /-- The exit code that is kept while a trap runs. -/
  keptStatus : Option Nat := none
  /-- The exit code of the last command substitution in the current command. -/
  substituted : Nat := 0
  skip : Skip := .nothing
  /-- How many loops are running. -/
  loops : Nat := 0
  /-- How many functions are running. -/
  depth : Nat := 0
  /-- The line of the command that is run. -/
  line : Nat := 0
  /-- The builtin command that is run. -/
  running : Option Chars := none
  /-- The script that is being read. -/
  input : ScriptInput := { source := .text, complete := true }
  /-- The variables that the running functions and commands will put back, innermost first. -/
  locals : List (List (Chars × Option Variable)) := []
  /-- The options that the running functions will put back, if they said so. -/
  localOptions : List (Option Chars) := []
  /-- What redirections have put aside: numbers with the open files that they stood for. -/
  aside : List (List (Nat × Option Nat)) := []
  /-- Where the places of programs in the search path are remembered; whether to look again. -/
  known : List (Chars × Nat × Bool) := []
  jobs : List Job := []
  /-- The process of the last statement in the background. -/
  lastJob : Option Nat := none
  /-- The process of the script that was started first. -/
  rootProcess : Nat
  /-- A trace line is being made. -/
  tracing : Bool := false
  /-- What the running builtin command has printed but not written, last piece first. -/
  output : List Chars := []

/-- The steps of a script, any of which may end it. -/
abbrev ScriptM := ExceptT Halt (StateT Scope Step)

namespace Scope

/-- The entry of a variable. -/
def lookup? (s : Scope) (name : Chars) : Option Variable :=
  s.vars.find? (·.name == name)

/-- The value of a variable. -/
def get? (s : Scope) (name : Chars) : Option Chars :=
  (s.lookup? name).bind (·.value)

/-- The value of the variable `name`, or the empty text. -/
def text (s : Scope) (name : String) : Chars :=
  (s.get? name.toList).getD []

/-- Put the entry of a variable in place of the one it has. -/
def putEntry (s : Scope) (name : Chars) (v : Option Variable) : Scope :=
  { s with vars := v.toList ++ s.vars.filter (·.name != name) }

/-- The option with the given letter is switched on. -/
def option (s : Scope) (letter : Char) : Bool :=
  s.options.contains letter

/-- Switch an option. -/
def switch (s : Scope) (letter : Char) (on : Bool) : Scope :=
  let others := s.options.filter (· ≠ letter)
  { s with options := if on then letter :: others else others }

/-- The variables that the script's own working depends on; they stay when they are unset. -/
def lastingNames : List Chars :=
  ["ATTY", "IFS", "MAIL", "MAILPATH", "PATH", "PS1", "PS2", "PS4", "OPTIND", "TERM",
    "HISTSIZE"].map String.toList

/-- Give a variable a value, and with `exported` hand it down. -/
def assign (s : Scope) (name value : Chars) (exported : Bool) : Scope :=
  let old := s.lookup? name
  let v : Variable :=
    { name := name
      value := some value
      exported := exported || s.option 'a' || old.any (·.exported)
      isFixed := old.any (·.isFixed) }
  let s := if name = "PATH".toList then { s with known := [] } else s
  s.putEntry name (some v)

/-- Give a variable a value. -/
def set (s : Scope) (name value : Chars) : Scope :=
  s.assign name value false

/-- The variables that programs get. -/
def handedDown (s : Scope) : List (Bytes × Bytes) :=
  s.vars.filterMap fun v =>
    if v.exported then v.value.map fun x => (toBytes v.name, toBytes x) else none

/-- The characters that separate words in values. -/
def separators (s : Scope) : Chars :=
  (s.get? "IFS".toList).getD [' ', '\t', '\n']

/-- The search path. -/
def searchPath (s : Scope) : Chars :=
  s.text "PATH"

/-- The open file that the script knows by the number `fd`. -/
def opened? (s : Scope) (fd : Nat) : Option Nat :=
  s.process.files.lookup fd

/-- Connect the number `fd` with an open file, or with none. -/
def connect (s : Scope) (fd : Nat) (opened : Option Nat) : Scope :=
  let others := s.process.files.filter (·.1 != fd)
  { s with process := { s.process with files := (opened.map (fd, ·)).toList ++ others } }

/-- Connect a number with an open file, and remember what it stood for. -/
def redirect (s : Scope) (fd : Nat) (opened : Option Nat) : Scope :=
  let aside := match s.aside with
    | frame :: frames =>
      (if frame.any (·.1 == fd) then frame else (fd, s.opened? fd) :: frame) :: frames
    | [] => []
  { s with aside := aside }.connect fd opened

/-- Begin redirections that will be undone. -/
def beginRedirections (s : Scope) : Scope :=
  { s with aside := [] :: s.aside }

/-- Undo the last redirections, or with `keep` leave them as they are. -/
def endRedirections (s : Scope) (keep : Bool) : Scope :=
  match s.aside with
  | [] => s
  | frame :: frames =>
    let s := { s with aside := frames }
    if keep then s else frame.foldl (fun s p => s.connect p.1 p.2) s

/-- Undo all redirections but the first `depth`. -/
def undoRedirections (s : Scope) (depth : Nat) : Scope :=
  (List.range (s.aside.length - depth)).foldl (fun s _ => s.endRedirections false) s

/-- Remember the entry of a variable, to be put back later. -/
def remember (s : Scope) (name : Chars) : Scope :=
  match s.locals with
  | frame :: frames =>
    if frame.any (·.1 == name) then s
    else { s with locals := ((name, s.lookup? name) :: frame) :: frames }
  | [] => s

/-- Begin a scope of variables. -/
def beginLocals (s : Scope) : Scope :=
  { s with locals := [] :: s.locals, localOptions := none :: s.localOptions }

/-- Put back the variables and options of the innermost scope. -/
def endLocals (s : Scope) : Scope :=
  let s := match s.localOptions with
    | some options :: more => { s with options := options, localOptions := more }
    | _ :: more => { s with localOptions := more }
    | [] => s
  match s.locals with
  | [] => s
  | frame :: frames =>
    let changesPath := frame.any (·.1 = "PATH".toList)
    let s := if changesPath then { s with known := [] } else s
    let s := match (frame.lookup "OPTIND".toList).bind id with
      | some v => { s with optionMark := { index := (v.value.bind Number.count?).getD 1 } }
      | none => s
    frame.foldl (fun s p => s.putEntry p.1 p.2) { s with locals := frames }

/-- End all scopes of variables but the first `depth`. -/
def undoLocals (s : Scope) (depth : Nat) : Scope :=
  (List.range (s.locals.length - depth)).foldl (fun s _ => s.endLocals) s

/-- There is something to be done when a signal arrives or the script ends. -/
def hasTraps (s : Scope) : Bool :=
  s.traps.any fun t => !t.2.isEmpty

/-- The process of a program that takes the place of the script. -/
def programProcess (s : Scope) (argv : List Chars) : Process :=
  let ignored := s.traps.filterMap fun t => if t.2.isEmpty then some t.1 else none
  { s.process with
    argv := argv.map toBytes
    «variables» := s.handedDown
    held := s.process.held ++ s.aside.flatMap (·.filterMap (·.2))
    ignored := (ignored ++ s.deaf).eraseDups }

/-- The process `p` with the number `id`, started by the one that runs the script, which waits for
it. -/
def childOf (s : Scope) (id : Nat) (p : Process) : Process :=
  { p with
    id := id
    ancestors := s.process.id :: s.process.ancestors
    held := p.held ++ s.process.files.map (·.2) ++ s.aside.flatMap (·.filterMap (·.2)) }

end Scope

namespace ScriptM

/-- A step of the machine. -/
def ofStep {α : Type} (x : Step α) : ScriptM α :=
  liftM (m := StateT Scope Step) (liftM x)

/-- The machine. -/
def machine : ScriptM Machine :=
  ofStep get

/-- The script as one who looks up path names. -/
def viewer : ScriptM FileTree.Viewer :=
  return (← machine).viewerOf (← get).process

/-- Write to an open file; the result tells whether that worked. A script that writes where nobody
reads is killed, unless it has said otherwise. -/
def writeOpened (opened : Option Nat) (cs : Chars) : ScriptM Bool := do
  match opened with
  | none => return false
  | some i =>
    match ← ofStep (fun m => m.write i (toBytes cs)) with
    | .ok () => return true
    | .error e =>
      let s ← get
      let bears := (s.traps.map (·.1) ++ s.deaf).contains Signal.pipe
      if e = .brokenPipe && !bears then throw (.killed Signal.pipe)
      return false

/-- Write to a stream; the result tells whether that worked. -/
def write (fd : Nat) (cs : Chars) : ScriptM Bool := do
  writeOpened ((← get).opened? fd) cs

/-- Write on the error stream. -/
def writeError (cs : Chars) : ScriptM Unit := do
  let _ ← write 2 cs

/-- Write a message, with the name and the line of the script and the command that it is about. -/
def complain (text : Chars) : ScriptM Unit := do
  let s ← get
  let who := (s.running.map (· ++ ofString ": ")).getD []
  writeError (s.name ++ ofString ": " ++ ofNat s.line ++ ofString ": " ++ who ++ text ++ ['\n'])

/-- Print on the output of a builtin command, which is written when the command is over. -/
def print (cs : Chars) : ScriptM Unit :=
  modify fun s => { s with output := cs :: s.output }

/-- Write what has been printed; the result tells whether that worked. -/
def flush : ScriptM Bool := do
  let text := (← get).output.reverse.flatten
  modify fun s => { s with output := [] }
  if text.isEmpty then return true else write 1 text

/-- Fail with a message. -/
def fail {α : Type} (text : Chars) : ScriptM α := do
  complain text
  let _ ← flush
  modify fun s => { s with status := 2 }
  throw .failure

/-- Refuse a number. -/
def illegalNumber {α : Type} (cs : Chars) : ScriptM α :=
  fail (ofString "Illegal number: " ++ cs)

/-- Refuse to change a variable. -/
def refuseChange {α : Type} (name : Chars) : ScriptM α :=
  fail (name ++ ofString ": is read only")

/-- Change the entry of a variable, unless it cannot be changed. -/
def changing (name : Chars) (f : Scope → Scope) : ScriptM Unit := do
  if ((← get).lookup? name).any (·.isFixed) then refuseChange name
  modify f

/-- Begin to read the options among the arguments anew. -/
def markOptions (value : Chars) : ScriptM Unit := do
  match Number.count? value with
  | some n => modify fun s => { s with optionMark := { index := if n = 0 then 1 else n } }
  | none => illegalNumber value

/-- Give a variable a value, and with `exported` hand it down. -/
def assign (name value : Chars) (exported : Bool) : ScriptM Unit := do
  changing name fun s => s.assign name value exported
  if name = "OPTIND".toList then markOptions value

/-- Give a variable a value. -/
def setVariable (name value : Chars) : ScriptM Unit :=
  assign name value false

/-- Take the value of a variable away. -/
def unsetVariable (name : Chars) : ScriptM Unit :=
  changing name fun s =>
    match s.lookup? name with
    | none => s
    | some v =>
      let stays := Scope.lastingNames.contains name || s.locals.any (·.any (·.1 == name))
      s.putEntry name (if stays then some { v with value := none } else none)

/-- Run steps as a process of their own: what they change stays with them. -/
def isolated {α : Type} (x : ScriptM α) : ScriptM (Except Halt α × Scope) := do
  ofStep (StateT.run (ExceptT.run x) (← get))

/-- Run steps, and `after` whether they end the script or not. -/
def andThen {α : Type} (x : ScriptM α) (after : ScriptM Unit) : ScriptM α := do
  let (result, s) ← isolated x
  set s
  after
  match result with
  | .ok a => return a
  | .error h => throw h

end ScriptM

end LineShell.Script
