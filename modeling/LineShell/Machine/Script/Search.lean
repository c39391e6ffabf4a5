import LineShell.Machine.Script.Scope

/-!
# Searching commands

What the name of a command stands for: a function, a builtin command, or a program, which is searched
in the directories of the search path. Where a program was found is remembered until the search path
changes, and looked at again after the script has changed its directory.
-/

namespace LineShell.Script

/-- A command that scripts have without a program. -/
structure BuiltinEntry where
  name : String
  /-- What it is about cannot be replaced, and it ends the script when it fails. -/
  special : Bool := false
  /-- Words that look like assignments are not cut into fields. -/
  assigns : Bool := false
  /-- The command is known before the words after it are expanded. -/
  early : Bool := true

/-- All builtin commands. -/
def builtinEntries : List BuiltinEntry :=
  [{ name := ".", special := true }, { name := ":", special := true }, { name := "[", early := false },
    { name := "alias", assigns := true }, { name := "bg" }, { name := "break", special := true },
    { name := "cd" }, { name := "chdir" }, { name := "command" },
    { name := "continue", special := true }, { name := "echo", early := false },
    { name := "eval", special := true }, { name := "exec", special := true },
    { name := "exit", special := true }, { name := "export", special := true, assigns := true },
    { name := "false" }, { name := "fg" }, { name := "getopts" }, { name := "hash" },
    { name := "jobs" }, { name := "kill" }, { name := "local", special := true, assigns := true },
    { name := "printf", early := false }, { name := "pwd" }, { name := "read" },
    { name := "readonly", special := true, assigns := true }, { name := "return", special := true },
    { name := "set", special := true }, { name := "shift", special := true },
    { name := "test", early := false }, { name := "times", special := true },
    { name := "trap", special := true }, { name := "true" }, { name := "type" },
    { name := "ulimit" }, { name := "umask" }, { name := "unalias" },
    { name := "unset", special := true }, { name := "wait" }]

/-- The builtin command called `name`. -/
def builtinCalled? (name : Chars) : Option BuiltinEntry :=
  builtinEntries.find? (·.name.toList = name)

/-- What the name of a command stands for. -/
inductive Found where
  | function (body : Statement)
  | builtin (entry : BuiltinEntry)
  /-- A program: its place in the search path, unless the name is a path name. -/
  | program (index : Option Nat)
  | nothing

/-- How a command is searched. -/
structure SearchMode where
  /-- The search path, if it is not that of the script. -/
  path : Option Chars := none
  /-- Functions do not count. -/
  noFunctions : Bool := false
  /-- Complain if nothing is found. -/
  complains : Bool := false
  /-- A path name must lead to a file. -/
  mustExist : Bool := false

/-- The search path that finds what every machine has. -/
def standardPath : Chars :=
  ofString "/usr/local/sbin:/usr/local/bin:/usr/sbin:/usr/bin:/sbin:/bin"

/-- The parts of a text between the characters `sep`. -/
def splitAt (sep : Char) : Chars → List Chars
  | [] => [[]]
  | c :: cs =>
    if c = sep then [] :: splitAt sep cs
    else
      match splitAt sep cs with
      | p :: ps => (c :: p) :: ps
      | [] => [[c]]

/-- The path names under which `name` is searched. -/
def candidates (path name : Chars) : List Chars :=
  (splitAt ':' path).map fun dir => if dir.isEmpty then name else dir ++ '/' :: name

/-- The text of an error about a file that should be there; `missing` stands for it not being there. -/
def reasonText (missing : String) (e : Errno) : Chars :=
  if e = .noEntry || e = .notDirectory then ofString missing else ofString e.text

/-- The text of an error about a command. -/
def commandReason (e : Errno) : Chars := reasonText "not found" e

namespace Scope

/-- Remember where a program was found. -/
def learn (s : Scope) (name : Chars) (index : Nat) : Scope :=
  let entry := (name, index, false)
  if s.known.any (·.1 = name) then
    { s with known := s.known.map fun k => if k.1 = name then entry else k }
  else { s with known := s.known ++ [entry] }

/-- Forget where a program was found. -/
def forget (s : Scope) (name : Chars) : Scope :=
  { s with known := s.known.filter (·.1 ≠ name) }

/-- Look again where programs are when they are used next. -/
def doubtKnown (s : Scope) : Scope :=
  { s with known := s.known.map fun k => (k.1, k.2.1, true) }

end Scope

/-- A program among the files `places`, which are numbered from `index` on: the number of the first
that is an ordinary file, or why there is none. Up to the number `sure` absolute path names are known
not to have changed. -/
def searchIn (t : FileTree) (v : FileTree.Viewer) (sure : Option Nat) (index : Nat) (e : Errno) :
    List Chars → Except Errno Nat
  | [] => .error e
  | place :: places =>
    let here := place.head? = some '/' && sure.any (index ≤ ·)
    if here && sure = some index then .ok index
    else if here then searchIn t v sure (index + 1) e places
    else
      match t.findNode v ⟨toBytes place⟩ true with
      | .error e' =>
        let e := if e' = .noEntry || e' = .notDirectory then e else e'
        searchIn t v sure (index + 1) e places
      | .ok (_, n) =>
        if n.isRegular then .ok index else searchIn t v sure (index + 1) .accessDenied places

/-- What `name` stands for. -/
def find (mode : SearchMode) (name : Chars) : ScriptM Found := do
  let s ← get
  let v ← ScriptM.viewer
  let t := (← ScriptM.machine).tree
  if name.contains '/' then
    if mode.mustExist && !(t.findNode v ⟨toBytes name⟩ true).isOk then return .nothing
    return .program none
  match if mode.noFunctions then none else s.functions.lookup name with
  | some body => return .function body
  | none =>
    match builtinCalled? name with
    | some entry => return .builtin entry
    | none =>
      let known := if mode.path.isNone then s.known.lookup name else none
      match known with
      | some (index, false) => return .program (some index)
      | _ =>
        let path := mode.path.getD s.searchPath
        match searchIn t v (known.map (·.1)) 0 .noEntry (candidates path name) with
        | .ok index =>
          if mode.path.isNone then modify fun s => s.learn name index
          return .program (some index)
        | .error e =>
          if mode.path.isNone then modify fun s => s.forget name
          if mode.complains then ScriptM.complain (name ++ ofString ": " ++ commandReason e)
          return .nothing

/-- What `name` stands for before the words after it are expanded: programs and some builtin commands
are not looked for. -/
def findEarly (noFunctions : Bool) (name : Chars) : ScriptM Found := do
  let s ← get
  match if noFunctions then none else s.functions.lookup name with
  | some body => return .function body
  | none =>
    match (builtinCalled? name).filter (·.early) with
    | some entry => return .builtin entry
    | none => return .nothing

/-- How programs are run. -/
structure Programs where
  /-- Start the program in a file, and run it to its end. -/
  execute : Path → Process → Step (Except Errno Ending)

namespace Programs

/-- The program that reads scripts. -/
def interpreter : Chars := ofString "/bin/sh"

/-- Start the program in the file `place`; a file that is no program is read as a script. -/
def start (x : Programs) (p : Process) (place : Chars) : Step (Except Errno Ending) := do
  match ← x.execute ⟨toBytes place⟩ p with
  | .error e =>
    if e = .notExecutable then
      let argv := toBytes interpreter :: toBytes place :: p.argv.tail
      x.execute ⟨toBytes interpreter⟩ { p with argv := argv }
    else return .error e
  | ending => return ending

/-- Start the first of `places` that can be started. -/
def startFirst (x : Programs) (p : Process) (e : Errno) : List Chars → Step (Except Errno Ending)
  | [] => return .error e
  | place :: places => do
    match ← x.start p place with
    | .error e' =>
      let e := if e' = .noEntry || e' = .notDirectory then e else e'
      startFirst x p e places
    | ending => return ending

/-- Start the program `name`, which was found at the number `index` of the search path. -/
def launch (x : Programs) (p : Process) (path name : Chars) (index : Option Nat) :
    Step (Except Errno Ending) :=
  if name.contains '/' then x.start p name
  else x.startFirst p .noEntry ((candidates path name).drop (index.getD 0))

/-- The exit code of a program that could not be started. -/
def refusalCode (e : Errno) : Nat :=
  if [Errno.noEntry, .notDirectory, .tooManyLinks, .nameTooLong].contains e then 127 else 126

end Programs

end LineShell.Script
