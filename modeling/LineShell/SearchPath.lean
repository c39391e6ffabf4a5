import LineShell.Action

/-!
# The search path

The directories in which programs are looked up by name. They come from the variable `PATH`, cut at
each colon, empty entries left out. The first directory that holds an executable file of the name
decides.
-/

namespace LineShell

/-- The directories in which programs are looked up, in order. -/
structure SearchPath where
  dirs : List Path := []
deriving DecidableEq, Repr

/-- A program is a regular file with an execute permission for anyone. -/
def FileInfo.isProgram (info : FileInfo) : Bool :=
  info.isRegular && info.mode &&& 0o111 != 0

/-- Whether `p` is a file that can be started. -/
def isExecutable (p : Path) : Action Bool :=
  return (← Action.request (.inspect p)).any FileInfo.isProgram

namespace SearchPath

/-- The pieces of `cs` between colons. -/
def splitColons : List Char → List (List Char)
  | [] => [[]]
  | c :: cs =>
    if c = ':' then [] :: splitColons cs
    else
      match splitColons cs with
      | [] => [[c]]
      | p :: ps => (c :: p) :: ps

/-- The search path that the text of `PATH` stands for. -/
def ofString (s : String) : SearchPath :=
  ⟨((splitColons s.toList).filter (· ≠ [])).map fun d => Path.ofString (String.ofList d)⟩

/-- The search path of an environment; without `PATH` nothing is found. -/
def ofEnvironment (env : Environment) : SearchPath :=
  ((env.get? "PATH").map ofString).getD {}

/-- Those of `candidates` that are programs. -/
def keepPrograms : List Path → Action (List Path)
  | [] => return []
  | p :: ps => do
    let found ← isExecutable p
    let rest ← keepPrograms ps
    return if found then p :: rest else rest

/-- A name is looked up if it is not empty and holds no slash. -/
def isSearchable (name : String) : Bool :=
  !name.isEmpty && !hasSeparator name

/-- All programs called `name`, in the order of the directories. -/
def search (sp : SearchPath) (name : String) : Action (List Path) :=
  if isSearchable name then keepPrograms (sp.dirs.map (·.join (Path.ofString name))) else return []

/-- The program that `name` stands for. -/
def find (sp : SearchPath) (name : String) : Action (Option Path) :=
  return (← sp.search name).head?

end SearchPath

end LineShell
