import LineShell.Action
import LineShell.Machine.Editor.History
import LineShell.Machine.Files
import LineShell.Machine.Spool

/-!
# Processes

A machine has a file tree, two screens that keep what is written to them, and the files that have
been opened. A running program sees its arguments, its variables, its directory and, by small
numbers, open files; what one program reads from an open file, others that share it do not read
again.
-/

namespace LineShell

/-- What an open file reads from and writes to. -/
inductive Channel where
  | file (id : FileId)
  /-- What is written at one end waits until it is read at the other. -/
  | pipe (id : Nat)
  | screen (s : Stream)
deriving DecidableEq, Repr

/-- A file that has been opened. -/
structure OpenFile where
  channel : Channel
  /-- Where the next byte is read or written. -/
  offset : Nat := 0
  /-- Bytes are written at the end of the file. -/
  append : Bool := false
  readable : Bool := false
  writable : Bool := false
deriving Repr

/-- An in-memory machine. -/
structure Machine where
  tree : FileTree
  /-- The user that all processes run as. -/
  user : Nat
  /-- The variables of the shell's process. -/
  «variables» : Environment
  /-- The directory of the shell's process. -/
  dir : FileId
  /-- All files that have been opened; the first three are the streams of the shell's process. -/
  opened : Array OpenFile
  pipes : Array Spool := #[]
  /-- What has been written to the screens. -/
  outScreen : Spool := {}
  errScreen : Spool := {}
  /-- What the line editor has read from the shell's input without using it yet. -/
  pending : Bytes := []
  /-- The history of the line editor. -/
  history : History := {}
  /-- The number of the process that was started last. -/
  lastProcess : Nat := 4242
  /-- Signals on their way: to which process, and which. -/
  signals : List (Nat × Nat) := []

/-- How much of something a process may use; none stands for any amount. -/
structure Limit where
  /-- What holds now. -/
  soft : Option Nat
  /-- What it may be raised to. -/
  hard : Option Nat
deriving DecidableEq, Repr

/-- A running program. -/
structure Process where
  /-- The argument vector. -/
  argv : List Bytes
  /-- The variables: names and values. -/
  «variables» : List (Bytes × Bytes)
  dir : FileId
  /-- The open files, by the numbers that the program knows them by. -/
  files : List (Nat × Nat)
  /-- The open files of those who wait for the program. -/
  held : List Nat := []
  /-- The permission bits that new files do not get. -/
  mask : Nat := 0o022
  /-- The limits that are not those of the start, by the letters of what they are about. -/
  limits : List (Char × Limit) := []
  /-- The signals that the program ignores. -/
  ignored : List Nat := []
  /-- The number of the process. -/
  id : Nat := 0
  /-- The numbers of the process that started it, of the one that started that, and so on. -/
  ancestors : List Nat := []

namespace Machine

/-- The shell's process as one who looks up path names. -/
def viewer (m : Machine) : FileTree.Viewer :=
  { user := m.user, dir := m.dir, out := some 1, err := some 2 }

/-- A running program as one who looks up path names. -/
def viewerOf (m : Machine) (p : Process) : FileTree.Viewer :=
  { user := m.user, dir := p.dir, mask := p.mask, out := p.files.lookup 1, err := p.files.lookup 2 }

/-- Add an open file. -/
def addOpened (m : Machine) (f : OpenFile) : Nat × Machine :=
  (m.opened.size, { m with opened := m.opened.push f })

/-- Empty what a stream goes to, if it is a file or a screen. -/
def emptyChannel (m : Machine) : Channel → Machine
  | .file id =>
    match (m.tree.node? id).map Node.content with
    | some (.regular _) => { m with tree := m.tree.setContent id (.regular []) }
    | _ => m
  | .pipe _ => m
  | .screen .stdout => { m with outScreen := {} }
  | .screen .stderr => { m with errScreen := {} }

/-- Open once more what the open file `source?` is connected to. -/
def reopen (m : Machine) (source? : Option Nat) (o : FileTree.Opening) : Except Errno Nat × Machine :=
  match source?.bind fun i => m.opened[i]? with
  | none => (.error .noEntry, m)
  | some f =>
    let m := if o.truncate then m.emptyChannel f.channel else m
    let (i, m) := m.addOpened
      { channel := f.channel, append := o.append, readable := o.read, writable := o.write }
    (.ok i, m)

/-- Open a file. A file that stands for a stream of the one who looks opens what this goes to. -/
def openFile (m : Machine) (v : FileTree.Viewer) (p : Path) (o : FileTree.Opening) :
    Except Errno Nat × Machine :=
  match m.tree.openFile v p o with
  | .error e => (.error e, m)
  | .ok (id, tree) =>
    let m := { m with tree := tree }
    match tree.stream? id with
    | some s => m.reopen (v.opened s) o
    | none =>
      let (i, m) := m.addOpened
        { channel := .file id, append := o.append, readable := o.read, writable := o.write }
      (.ok i, m)

/-- Make a pipe: the end that is read, and the end that is written. -/
def addPipe (m : Machine) : (Nat × Nat) × Machine :=
  let id := m.pipes.size
  let (source, m) := { m with pipes := m.pipes.push {} }.addOpened
    { channel := .pipe id, readable := true }
  let (sink, m) := m.addOpened { channel := .pipe id, writable := true }
  ((source, sink), m)

/-- How many bytes may wait in a pipe; the one who writes more waits for nobody. -/
def pipeLimit : Nat := 1048576

/-- What can still be read from an open file; `argv` is the argument vector of the reader. -/
def unread (m : Machine) (i : Nat) (argv : List Bytes) : Except Errno Bytes :=
  match m.opened[i]? with
  | none => .error .badDescriptor
  | some f =>
    if !f.readable then .error .badDescriptor
    else
      match f.channel with
      | .file id => (m.tree.bytesOf id argv).map (·.drop f.offset)
      | .pipe id => .ok (m.pipes[id]?.getD {}).bytes
      | .screen _ => .ok []

/-- Go on `n` bytes in what is read from an open file. -/
def skip (m : Machine) (i n : Nat) : Machine :=
  match m.opened[i]? with
  | none => m
  | some f =>
    match f.channel with
    | .pipe id => { m with pipes := m.pipes.modify id (·.drop n) }
    | _ => { m with opened := m.opened.setIfInBounds i { f with offset := f.offset + n } }

/-- Read at most `n` bytes from an open file. -/
def read (m : Machine) (i n : Nat) (argv : List Bytes) : Except Errno Bytes × Machine :=
  match m.unread i argv with
  | .error e => (.error e, m)
  | .ok rest =>
    let bytes := rest.take n
    (.ok bytes, m.skip i bytes.length)

/-- Write bytes to an open file. -/
def write (m : Machine) (i : Nat) (bytes : Bytes) : Except Errno Unit × Machine :=
  match m.opened[i]? with
  | none => (.error .badDescriptor, m)
  | some f =>
    if !f.writable then (.error .badDescriptor, m)
    else
      match f.channel with
      | .screen .stdout => (.ok (), { m with outScreen := m.outScreen.add bytes })
      | .screen .stderr => (.ok (), { m with errScreen := m.errScreen.add bytes })
      | .pipe id =>
        if m.pipes[id]?.any fun s => s.size + bytes.length > pipeLimit then (.error .brokenPipe, m)
        else (.ok (), { m with pipes := m.pipes.modify id (·.add bytes) })
      | .file id =>
        let offset := if f.append then m.tree.size id else f.offset
        match m.tree.write id offset bytes with
        | .error e => (.error e, m)
        | .ok tree =>
          let f := { f with offset := offset + bytes.length }
          (.ok (), { m with tree := tree, opened := m.opened.setIfInBounds i f })

/-- Change the tree, if the change does not fail. -/
def change (m : Machine) : Except Errno FileTree → Except Errno Unit × Machine
  | .ok tree => (.ok (), { m with tree := tree })
  | .error e => (.error e, m)

/-- Take the signals that are on their way to the process `id`. -/
def takeSignals (m : Machine) (id : Nat) : List Nat × Machine :=
  let (here, others) := m.signals.partition (·.1 = id)
  (here.map (·.2), { m with signals := others })

/-- The number of a new process. -/
def newProcess (m : Machine) : Nat × Machine :=
  let id := m.lastProcess + 1
  (id, { m with lastProcess := id, tree := { m.tree with now := m.tree.now + 1 } })

end Machine

/-- The steps of a running program. -/
abbrev Step := StateM Machine

namespace Step

/-- Change the tree. -/
def change (f : Machine → Except Errno FileTree) : Step (Except Errno Unit) :=
  fun m => m.change (f m)

end Step

namespace Process

/-- The open file that the program knows by the number `fd`. -/
def opened? (p : Process) (fd : Nat) : Option Nat :=
  p.files.lookup fd

/-- Write bytes. -/
def write (p : Process) (fd : Nat) (bytes : Bytes) : Step (Except Errno Unit) :=
  match p.opened? fd with
  | none => return .error .badDescriptor
  | some i => fun m => m.write i bytes

/-- Read at most `n` bytes. -/
def read (p : Process) (fd n : Nat) : Step (Except Errno Bytes) :=
  match p.opened? fd with
  | none => return .error .badDescriptor
  | some i => fun m => m.read i n p.argv

/-- All that can still be read, without reading it. -/
def unread (p : Process) (fd : Nat) : Step (Except Errno Bytes) :=
  match p.opened? fd with
  | none => return .error .badDescriptor
  | some i => return (← get).unread i p.argv

/-- Read all that is left. -/
def readAll (p : Process) (fd : Nat) : Step (Except Errno Bytes) := do
  match ← p.unread fd with
  | .error e => return .error e
  | .ok bytes => p.read fd bytes.length

/-- The file behind the number `fd`, if it is in the tree. -/
def fileOf? (p : Process) (fd : Nat) : Step (Option FileId) := do
  let m ← get
  return ((p.opened? fd).bind fun i => m.opened[i]?).bind fun f => match f.channel with
    | .file id => some id
    | _ => none

end Process

end LineShell
