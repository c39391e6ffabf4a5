import LineShell.Machine.Process
import LineShell.Machine.Tool.Arguments
import LineShell.Machine.Tool.Quoted

/-!
# Running programs

A program of the machine goes through its operands, writes a message about each that fails and goes
on. What it prints on its output is written when it is done. It ends with 0, or with 1 if something
failed; some faults end it at once.
-/

namespace LineShell

namespace Tool

/-- The state of a running program. -/
structure Work where
  process : Process
  /-- What has been printed, last piece first. -/
  printed : List Bytes := []
  /-- Something failed. -/
  failed : Bool := false

/-- The steps of a program; it may end before the last. -/
abbrev Task := ExceptT Ending (StateT Work Step)

namespace Task

/-- A step of the machine. -/
def ofStep {α : Type} (x : Step α) : Task α :=
  liftM (m := StateT Work Step) (liftM x)

/-- The process that runs the program. -/
def process : Task Process :=
  return (← get).process

/-- The tree of the machine, and the program as one who looks up path names. -/
def scene : Task (FileTree × FileTree.Viewer) := do
  let p ← process
  let m ← ofStep get
  return (m.tree, m.viewerOf p)

/-- Write on the error stream. -/
def writeError (bytes : Bytes) : Task Unit := do
  let _ ← ofStep ((← process).write 2 bytes)

/-- The name that the program was started under. -/
def name : Task Bytes :=
  return (← process).argv.headD []

/-- Write a message under the program's name. -/
def tell (parts : List Bytes) : Task Unit := do
  writeError ((← name) ++ Bytes.ofString ": " ++ parts.flatten ++ [0x0A])

/-- Something failed. -/
def fail : Task Unit :=
  modify fun w => { w with failed := true }

/-- Write a message about something that failed. -/
def complain (parts : List Bytes) : Task Unit := do
  tell parts
  fail

/-- Write a message about the file `name`. -/
def complainOf (before : String) (name : Bytes) (after : String) : Task Unit :=
  complain [Bytes.ofString before, Quoted.always name, Bytes.ofString after]

/-- Write a message about why something could not be done with the file `name`. -/
def refuse (what : String) (name : Bytes) (e : Errno) : Task Unit :=
  complainOf s!"{what} " name s!": {e.text}"

/-- Print on the output. -/
def print (bytes : Bytes) : Task Unit :=
  modify fun w => { w with printed := bytes :: w.printed }

/-- Print a line about the file `name`. -/
def printOf (before : String) (name : Bytes) (after : String) : Task Unit :=
  print (Bytes.ofString before ++ Quoted.always name ++ Bytes.ofString after ++ [0x0A])

/-- Write what has been printed. -/
def flush : Task Unit := do
  let w ← get
  set { w with printed := [] }
  let bytes := w.printed.reverse.flatten
  if !bytes.isEmpty then
    match ← ofStep (w.process.write 1 bytes) with
    | .ok () => pure ()
    | .error e =>
      if e = .brokenPipe && !w.process.ignored.contains 13 then throw (.killed 13)
      tell [Bytes.ofString s!"write error: {e.text}"]
      throw (.exited 1)

/-- End at once. -/
def stop {α : Type} : Task α := do
  flush
  throw (.exited 1)

/-- End at once with a message. -/
def die {α : Type} (parts : List Bytes) : Task α := do
  tell parts
  stop

/-- Tell where help is found, and end. -/
def pointToHelp {α : Type} : Task α := do
  writeError (Bytes.ofString "Try '" ++ (← name) ++
    Bytes.ofString " --help' for more information.\n")
  stop

/-- End at once, since the program is not used as it should be. -/
def misuse {α : Type} (parts : List Bytes) : Task α := do
  tell parts
  pointToHelp

/-- Change the tree. -/
def change (f : FileTree → FileTree.Viewer → Except Errno FileTree) : Task (Except Errno Unit) := do
  let p ← process
  ofStep (Step.change fun m => f m.tree (m.viewerOf p))

/-- The file that a path name leads to. -/
def look (path : Bytes) (follow : Bool) : Task (Except Errno (FileId × Node)) := do
  let (t, v) ← scene
  return t.findNode v ⟨path⟩ follow

/-- The path name leads to a directory. -/
def isDirectory (path : Bytes) : Task Bool := do
  match ← look path true with
  | .ok (_, n) => return n.isDirectory
  | .error _ => return false

/-- Read a line of input; where the input is shared in order, no more is read. -/
def readAnswer : Task Bytes := do
  let p ← process
  let rest := (← ofStep (p.unread 0)).toOption.getD []
  let line := rest.takeWhile (· ≠ 0x0A)
  let isFile := (← ofStep (p.fileOf? 0)).isSome
  let count := if isFile then min rest.length (line.length + 1) else min rest.length 4096
  let _ ← ofStep (p.read 0 count)
  return line

/-- Ask a question; the answer is yes if it begins so. -/
def ask (question : List Bytes) : Task Bool := do
  writeError ((← name) ++ Bytes.ofString ": " ++ question.flatten ++ Bytes.ofString "? ")
  let answer ← readAnswer
  return answer.head? = some 0x79 || answer.head? = some 0x59

/-- Run a program to its end. -/
def run (body : Task Unit) (p : Process) : Step Ending := do
  let whole : Task Unit := do
    body
    flush
  match ← StateT.run (ExceptT.run whole) { process := p } with
  | (.ok (), w) => return .exited (if w.failed then 1 else 0)
  | (.error e, _) => return e

/-- Read the options of the program, and go on with what they mean. -/
def withOptions (t : OptionTable) (onFault : Task Unit) (body : Parsed → Task Unit) :
    Task Unit := do
  match t.read (← process).argv.tail with
  | .error fault =>
    tell [fault.message]
    onFault
    pointToHelp
  | .ok parsed =>
    if parsed.has "\x01\x02" then return
    body parsed

end Task

/-- The last part of a path name. -/
def baseName (path : Bytes) : Bytes :=
  (Path.parts ⟨path⟩).getLastD path

/-- The path name of `name` in the directory `dir`. -/
def inside (dir name : Bytes) : Bytes :=
  ((FileTree.withoutEndSlashes ⟨dir⟩).join ⟨name⟩).bytes

/-- A path name with at most one slash at its end. -/
def oneEndSlash (path : Bytes) : Bytes :=
  match path.reverse with
  | a :: b :: _ =>
    if a = Path.slash && b = Path.slash then
      let kept := (FileTree.withoutEndSlashes ⟨path⟩).bytes
      if kept = [Path.slash] then kept else kept ++ [Path.slash]
    else path
  | _ => path

/-- The path name is that of a directory itself, or of the one above it, by its last part. -/
def endsInDots (path : Bytes) : Bool :=
  let last := baseName path
  last = FileTree.dot || last = FileTree.dotDot

/-- How many directories deep programs go. -/
def depthLimit : Nat := 1000

/-- The bytes of a text. -/
def text (s : String) : Bytes := Bytes.ofString s

end Tool

end LineShell
