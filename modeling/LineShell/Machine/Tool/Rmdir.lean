import LineShell.Machine.Tool.Task

/-!
# Removing empty directories

The program `rmdir` removes empty directories, and with `-p` those above them that become empty.
-/

namespace LineShell

namespace Tool

namespace Rmdir

/-- The options. -/
def options : OptionTable :=
  .ofLetters "pv" ""
    [{ name := "ignore-fail-on-non-empty", letter := '\x03' }, { name := "path", letter := 'p' },
      { name := "parents", letter := 'p' }, { name := "verbose", letter := 'v' }]

/-- What is to be done. -/
structure Job where
  parents : Bool
  verbose : Bool
  /-- Directories that are not empty are no failure. -/
  lenient : Bool

/-- Say that a directory is about to be removed. -/
def announce (job : Job) (dir : Bytes) : Task Unit := do
  if job.verbose then
    Task.print ((← Task.name) ++ text ": removing directory, " ++ Quoted.always dir ++ [0x0A])

/-- Remove the directory `dir`. -/
def removeOne (dir : Bytes) : Task (Except Errno Unit) :=
  Task.change fun t v => t.removeDirectory v ⟨dir⟩

/-- A failure to remove `dir` that is none. -/
def isIgnored (job : Job) (dir : Bytes) (e : Errno) : Task Bool := do
  if !job.lenient then return false
  if e = .notEmpty || e = .fileExists then return true
  if e = .accessDenied || e = .notPermitted then
    let (t, v) ← Task.scene
    return match t.list v ⟨dir⟩ with
      | .ok names => !names.isEmpty
      | .error _ => false
  return false

/-- The path name of the directory above, as far as it is written; none if it is not. -/
def above (dir : Bytes) : Option Bytes :=
  let kept := (dir.reverse.dropWhile (· ≠ Path.slash)).reverse
  if kept.isEmpty then none else some (FileTree.withoutEndSlashes ⟨kept⟩).bytes

/-- Remove the directories above `dir`, at most `n`. -/
def removeAbove (job : Job) (n : Nat) (dir : Bytes) : Task Unit := do
  match n, above dir with
  | n + 1, some dir =>
    announce job dir
    match ← removeOne dir with
    | .ok () => removeAbove job n dir
    | .error e =>
      if !(← isIgnored job dir e) then
        if e = .notDirectory then Task.refuse "failed to remove" dir e
        else Task.refuse "failed to remove directory" dir e
  | _, _ => return

/-- Remove `dir`, and what is above it if that is wanted. -/
def remove (job : Job) (dir : Bytes) : Task Unit := do
  announce job dir
  match ← removeOne dir with
  | .ok () =>
    if job.parents then removeAbove job dir.length (FileTree.withoutEndSlashes ⟨dir⟩).bytes
  | .error e =>
    if ← isIgnored job dir e then return
    let bare := (FileTree.withoutEndSlashes ⟨dir⟩).bytes
    let isLink := match ← Task.look bare false with
      | .ok (_, ⟨.link _, _, _, _⟩) => true
      | _ => false
    let leads := match ← Task.look dir true with
      | .ok (_, n) => n.isDirectory
      | .error e => e ≠ .notDirectory
    if e = .notDirectory && dir.getLast? = some Path.slash && isLink && leads then
      Task.complainOf "failed to remove " dir ": Symbolic link not followed"
    else Task.refuse "failed to remove" dir e

/-- What the program does. -/
def body : Task Unit :=
  Task.withOptions options (pure ()) fun parsed => do
    if parsed.operands.isEmpty then Task.misuse [text "missing operand"]
    let job : Job := ⟨parsed.has "p", parsed.has "v", parsed.has "\x03"⟩
    parsed.operands.forM (remove job)

end Rmdir

end Tool

end LineShell
