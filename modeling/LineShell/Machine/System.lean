import LineShell.Machine.Exec

/-!
# The in-memory machine as a system

How a machine answers the requests of the shell: files come from its tree, programs run on it, lines go
to the streams of the shell's process, and a line editor reads its input.

The machine is there so that the shell can be run without a world, and what it does be compared with what
is known of real runs. For this it has the part of an operating system that such runs see: a file system
with permissions and links, a script interpreter, a few tools, and an editor with a history. The theory
takes none of this for granted. Its statements hold of every `System`, or of every one with the laws that
they name, so that programs and editor of the machine are no more than one example. That the machine has
such laws is proved too: for its files under `Proofs/Machine`, and else beside the law.
-/

namespace LineShell

namespace Machine

/-- The outcome of a request as the shell sees it. -/
def asFault {α : Type} : Except Errno α → Except Fault α
  | .ok a => .ok a
  | .error e => .error (.system e)

/-- A machine at the start of the shell's process, with the bytes `input` to be read. -/
def start (tree : FileTree) (user : Nat) (vars : Environment) (dir : FileId) (input : Bytes) :
    Machine :=
  let (id, tree) := tree.add { content := .regular input, mode := 0o400, owner := user }
  { tree := tree
    user := user
    «variables» := vars
    dir := dir
    opened := #[{ channel := .file id, readable := true },
      { channel := .screen .stdout, writable := true },
      { channel := .screen .stderr, writable := true }] }

/-- Open a file as the shell's process, and do `f` with it. -/
def withFile {α : Type} (m : Machine) (p : Path) (o : FileTree.Opening)
    (f : Nat → Machine → Except Errno α × Machine) : Except Fault α × Machine :=
  if p.hasNul then (.error .nulInPath, m)
  else
    match m.openFile m.viewer p o with
    | (.error e, m) => (.error (.system e), m)
    | (.ok i, m) =>
      let (result, m) := f i m
      (asFault result, m)

/-- Open a file at its end. -/
def openAppend (m : Machine) (p : Path) : Except Fault Handle × Machine :=
  m.withFile p .appending fun i m => (.ok ⟨i⟩, m)

/-- Create a redirection target. -/
def create (m : Machine) (t : Target) : Except Fault Unit × Machine :=
  m.withFile t.path (if t.append then .appending else .replacing) fun _ m => (.ok (), m)

/-- The absolute path name of a file. -/
def canonicalize (m : Machine) (p : Path) : Option Path :=
  if p.hasNul then none else (m.tree.canonical m.viewer p).toOption

/-- Kind and permission bits of a file. -/
def inspect (m : Machine) (p : Path) : Option FileInfo :=
  if p.hasNul then none
  else (m.tree.findNode m.viewer p true).toOption.map fun (_, n) =>
    { isDirectory := n.isDirectory, isRegular := n.isRegular, mode := n.mode }

/-- Whether a directory can be listed. -/
def canList (m : Machine) (p : Path) : Bool :=
  !p.hasNul && (m.tree.list m.viewer p).isOk

/-- The contents of a file. -/
def readFile (m : Machine) (p : Path) : Except Fault Bytes × Machine :=
  m.withFile p .reading fun i m => (m.unread i [], m)

/-- Write to a stream of the shell's process. -/
def writeStream (m : Machine) (s : Stream) (text : String) : Except Fault Unit × Machine :=
  let (result, m) := m.write (match s with
    | .stdout => 1
    | .stderr => 2) (Bytes.ofString text)
  (asFault result, m)

/-- Read a line of input. Blocks are read until there is a newline in what has been read; what comes
after it is kept for the next line. -/
def nextLine (m : Machine) : Except Fault (Option String) × Machine :=
  let missing := match m.unread 0 [] with
    | .error _ => 0
    | .ok rest => if m.pending.contains Input.newline then 0 else Input.bytesToRead rest
  match m.read 0 missing [] with
  | (.error e, m) => (.error (.system e), m)
  | (.ok bytes, m) =>
    let bytes := m.pending ++ bytes
    if bytes.isEmpty then (.ok none, m)
    else
      let (line, rest) := Input.firstLine bytes
      (line.toLine.map some, { m with pending := rest })

/-- A fault of the operating system as the line editor passes it on. -/
def asEditorFault (fault : Fault) : EditorFault :=
  { text := fault.message, reasons := [fault.message] }

/-- Show the prompt where the terminal needs it, and read a line. -/
def readLine (m : Machine) (prompt : String) : Except EditorFault Reading × Machine :=
  let terminal := (m.variables.get? "TERM").getD ""
  match if Input.isPlainTerminal terminal then m.writeStream .stdout prompt else (.ok (), m) with
  | (.error fault, m) => (.error (asEditorFault fault), m)
  | (.ok (), m) =>
    match m.nextLine with
    | (.error fault, m) => (.error (asEditorFault fault), m)
    | (.ok none, m) => (.ok .ended, m)
    | (.ok (some line), m) => (.ok (.line line), m)

/-- The line editor of a machine. A history is saved only if it holds something new. -/
def edit : (r : EditorRequest) → Machine → r.Answer × Machine
  | .setUp, m => (.ok (), m)
  | .loadHistory p, m =>
    match m.readFile p with
    | (.ok bytes, m) => (.ok (), { m with history := History.ofBytes bytes })
    | (.error fault, m) => (.error (asEditorFault fault), m)
  | .readLine prompt, m => m.readLine prompt
  | .offer line, m => (.ok (m.history.keeps line), { m with history := m.history.add line })
  | .saveHistory p, m =>
    if m.history.unsaved then
      let (result, m) := m.withFile p .replacing fun i m => m.write i (Bytes.ofString m.history.toText)
      (result.mapError asEditorFault, m)
    else (.ok (), m)

/-- Some part of a program to be started holds a NUL byte. -/
def childHasNul (c : Child) : Bool :=
  let hasNul (s : String) := (Bytes.ofString s).contains 0
  c.image.hasNul || c.directory.hasNul || c.argv.any hasNul ||
    c.environment.vars.any fun (k, v) => hasNul k || hasNul v

/-- A variable as a program reads it: its name ends at the first equals sign. -/
def variableOf (key value : String) : Bytes × Bytes :=
  let text := Bytes.ofString s!"{key}={value}"
  let name := text.takeWhile (· ≠ 0x3D)
  (name, text.drop (name.length + 1))

/-- The open file that a stream of a program goes to. -/
def openedFor (inherited : Nat) : Outlet → Nat
  | .inherited => inherited
  | .file h => h.id

/-- The directory that a program is started in. -/
def startDirectory (m : Machine) (p : Path) : Except Errno FileId := do
  let (id, n) ← m.tree.findNode m.viewer p true
  if !n.isDirectory then throw .notDirectory
  if !n.allows m.user .execute then throw .accessDenied
  return id

/-- How deep programs may start each other. -/
def processLimit : Nat := 100

/-- Start a program and run it to its end. -/
def startChild (m : Machine) (c : Child) : Except ChildFault Ending × Machine :=
  if childHasNul c then (.error (.spawn .nulInData), m)
  else
    match m.startDirectory c.directory with
    | .error e => (.error (.spawn (.system e)), m)
    | .ok dir =>
      let (id, m) := m.newProcess
      let process : Process :=
        { argv := c.argv.map Bytes.ofString
          «variables» := (m.variables.override c.environment).toList.map fun (k, v) => variableOf k v
          dir := dir
          files := [(0, 0), (1, openedFor 1 c.stdout), (2, openedFor 2 c.stderr)]
          id := id }
      match execute processLimit c.image process m with
      | (.ok ending, m) => (.ok ending, m)
      | (.error e, m) => (.error (.spawn (.system e)), m)

/-- A machine answers the requests of the shell. -/
def answer : System Machine
  | .create t, m => m.create t
  | .appendLine p line, m => m.withFile p .appending fun i m => m.write i (Bytes.ofString (line ++ "\n"))
  | .openAppend p, m => m.openAppend p
  | .canonicalize p, m => (m.canonicalize p, m)
  | .inspect p, m => (m.inspect p, m)
  | .canList p, m => (m.canList p, m)
  | .start c, m => m.startChild c
  | .print s line, m => m.writeStream s (line ++ "\n")
  | .complain line, m => m.writeStream .stderr (line ++ "\n")
  | .editor r, m => m.edit r

end Machine

end LineShell
