import LineShell.Machine.Tool.Mode
import LineShell.Machine.Tool.Task

/-!
# Making directories

The program `mkdir` makes directories, and with `-p` those above them that are not there.
-/

namespace LineShell

namespace Tool

namespace Mkdir

/-- The options. -/
def options : OptionTable :=
  .ofLetters "pvZ" "m"
    [{ name := "context", letter := 'Z', value := .optional },
      { name := "mode", letter := 'm', value := .required }, { name := "parents", letter := 'p' },
      { name := "verbose", letter := 'v' }]

/-- What is to be done. -/
structure Job where
  /-- The permission bits, if they are not those of every new directory. -/
  mode : Option Nat
  parents : Bool
  verbose : Bool

/-- Refuse to make the directory `dir`. -/
def refuse (dir : Bytes) (e : Errno) : Task Unit :=
  Task.complain [text "cannot create directory ", Quoted.withBackslashes dir, text s!": {e.text}"]

/-- Make the directory `dir`. -/
def makeOne (job : Job) (dir : Bytes) : Task (Except Errno Unit) := do
  let made ← Task.change fun t v => t.makeDirectory v ⟨dir⟩ FileTree.newDirectoryMode
  if made.isOk && job.verbose then
    Task.print ((← Task.name) ++ text ": created directory " ++ Quoted.always dir ++ [0x0A])
  return made

/-- The beginnings of a path name that end with one of its parts, but for the last part, each with
that part; `done` is what stands before the parts. -/
def ancestors (done : Bytes) : List Name → List (Bytes × Name)
  | [] => []
  | n :: ns =>
    let here := done ++ n
    if ns.all (·.isEmpty) then []
    else
      let rest := ancestors (here ++ [Path.slash]) ns
      if n.isEmpty then rest else (here, n) :: rest

/-- Make directories that are not there; the result tells whether one can go on below them. -/
def makeAncestors (job : Job) : List (Bytes × Name) → Task Bool
  | [] => return true
  | (dir, name) :: more => do
    if name = FileTree.dot then makeAncestors job more
    else
      let made ← if name = FileTree.dotDot then pure (.ok ()) else makeOne job dir
      let (t, v) ← Task.scene
      let entered : Except Errno Unit := do
        let (_, n) ← t.findNode v ⟨dir⟩ true
        if !n.isDirectory then throw .notDirectory
        if !n.allows v.user .execute then throw .accessDenied
      match entered with
      | .ok () => makeAncestors job more
      | .error e =>
        let e := match made with
          | .error e' => if e = .noEntry then e' else e
          | .ok () => e
        refuse dir e
        return false

/-- Make the directory `dir`, and with `parents` those above it. -/
def make (job : Job) (dir : Bytes) : Task Unit := do
  if job.parents then
    if !(← makeAncestors job (ancestors [] (dir.splitOn Path.slash))) then return
  match ← makeOne job dir with
  | .ok () =>
    match job.mode with
    | none => pure ()
    | some mode => let _ ← Task.change fun t v => t.changeMode v ⟨dir⟩ fun _ => mode
  | .error e =>
    if job.parents && e ≠ .noEntry && (← Task.isDirectory dir) then return
    refuse dir e

/-- What the program does. -/
def body : Task Unit :=
  Task.withOptions options (pure ()) fun parsed => do
    if parsed.operands.isEmpty then Task.misuse [text "missing operand"]
    let mask := (← Task.process).mask
    let mode ← match parsed.value 'm' with
      | none => pure none
      | some spec =>
        match ModeChange.read spec with
        | none => Task.die [text "invalid mode ", Quoted.withBackslashes spec]
        | some changes =>
          pure (some (ModeChange.applyAll true mask changes FileTree.newDirectoryMode))
    let job : Job := ⟨mode, parsed.has "p", parsed.has "v"⟩
    parsed.operands.forM (make job)

end Mkdir

end Tool

end LineShell
