import LineShell.Errno
import LineShell.Redirection

/-!
# File trees

The files of an in-memory machine. A file has a number that stays the same whatever names it has;
directories map names to numbers. Files are never given up, so a number stays good for those who
hold the file open.
-/

namespace LineShell

/-- The number of a file. -/
abbrev FileId := Nat

/-- A name in a directory. -/
abbrev Name := Bytes

/-- The parts of a path name between its slashes. -/
def Path.parts (p : Path) : List Name :=
  (p.bytes.splitOn Path.slash).filter (· ≠ [])

/-- A path name that ends in a slash must name a directory. -/
def Path.endsInSlash (p : Path) : Bool :=
  p.bytes.getLast? == some Path.slash

/-- The absolute path name with the given parts. -/
def Path.ofParts (parts : List Name) : Path :=
  if parts.isEmpty then Path.root else ⟨parts.flatMap (Path.slash :: ·)⟩

/-- Files that hold no bytes of their own. -/
inductive Device where
  /-- Takes everything, holds nothing. -/
  | null
  /-- Takes nothing. -/
  | full
  /-- Holds the argument vector of whoever reads it. -/
  | commandLine
  /-- Stands for a stream of whoever opens it. -/
  | stream (s : Stream)
deriving DecidableEq, Repr

/-- The programs of the machine. -/
inductive Tool where
  | sh
  | cat
  | chmod
  | cp
  | ln
  | mkdir
  | rm
  | rmdir
deriving DecidableEq, Repr

/-- What a file is. -/
inductive Content where
  | directory (parent : FileId) (entries : List (Name × FileId))
  | regular (bytes : Bytes)
  | link (target : Path)
  | device (d : Device)
  | program (t : Tool)
deriving DecidableEq, Repr

/-- A file with its permission bits and its owner. -/
structure Node where
  content : Content
  mode : Nat
  owner : Nat
  /-- The time of the last change of what the file holds. -/
  time : Nat := 0
deriving DecidableEq, Repr

/-- A way of using a file. -/
inductive Access where
  | read
  | write
  /-- Start a program, or pass through a directory. -/
  | execute
deriving DecidableEq, Repr

/-- The permission bit of an access. -/
def Access.bit : Access → Nat
  | .read => 4
  | .write => 2
  | .execute => 1

namespace Node

/-- The file is a directory. -/
def isDirectory (n : Node) : Bool :=
  match n.content with
  | .directory .. => true
  | _ => false

/-- The file is an ordinary file. -/
def isRegular (n : Node) : Bool :=
  match n.content with
  | .regular _ | .program _ => true
  | _ => false

/-- The entries of a directory. -/
def entries (n : Node) : List (Name × FileId) :=
  match n.content with
  | .directory _ es => es
  | _ => []

/-- Whether `user` may use the file; user 0 may do everything but start what nobody may start. -/
def allows (n : Node) (user : Nat) (a : Access) : Bool :=
  if user = 0 then a != .execute || n.isDirectory || n.mode &&& 0o111 != 0
  else if n.owner = user then (n.mode >>> 6) &&& a.bit != 0
  else n.mode &&& a.bit != 0

end Node

/-- All files of a machine; file 0 is the root directory. -/
structure FileTree where
  nodes : Array Node
  /-- The time of the changes that are made next. -/
  now : Nat := 0
deriving DecidableEq, Repr

namespace FileTree

/-- The number of the root directory. -/
def rootId : FileId := 0

/-- A tree with nothing but the root directory. -/
def empty : FileTree :=
  { nodes := #[{ content := .directory rootId [], mode := 0o755, owner := 0 }] }

/-- The file with the number `id`. -/
def node? (t : FileTree) (id : FileId) : Option Node :=
  t.nodes[id]?

/-- The stream that a file stands for. -/
def stream? (t : FileTree) (id : FileId) : Option Stream :=
  match (t.node? id).map Node.content with
  | some (.device (.stream s)) => some s
  | _ => none

/-- Replace the file with the number `id`. -/
def setNode (t : FileTree) (id : FileId) (n : Node) : FileTree :=
  { t with nodes := t.nodes.setIfInBounds id n }

/-- Change the file with the number `id`. -/
def modify (t : FileTree) (id : FileId) (f : Node → Node) : FileTree :=
  match t.node? id with
  | some n => t.setNode id (f n)
  | none => t

/-- Give the file with the number `id` other contents. -/
def setContent (t : FileTree) (id : FileId) (c : Content) : FileTree :=
  t.modify id fun n => { n with content := c, time := t.now }

/-- Add a file under a new number. -/
def add (t : FileTree) (n : Node) : FileId × FileTree :=
  (t.nodes.size, { t with nodes := t.nodes.push { n with time := t.now } })

/-- The number of the file called `name` in the directory `dir`. -/
def child? (t : FileTree) (dir : FileId) (name : Name) : Option FileId :=
  (t.node? dir).bind fun n => n.entries.lookup name

/-- The directory above `dir`. -/
def parent (t : FileTree) (dir : FileId) : FileId :=
  match (t.node? dir).map Node.content with
  | some (.directory p _) => p
  | _ => rootId

/-- Change the entries of the directory `dir`. -/
def modifyEntries (t : FileTree) (dir : FileId)
    (f : List (Name × FileId) → List (Name × FileId)) : FileTree :=
  t.modify dir fun n =>
    match n.content with
    | .directory p es => { n with content := .directory p (f es), time := t.now }
    | _ => n

/-- Call the file `id` by `name` in the directory `dir`. -/
def bindName (t : FileTree) (dir : FileId) (name : Name) (id : FileId) : FileTree :=
  t.modifyEntries dir fun es => es.filter (·.1 != name) ++ [(name, id)]

/-- Take the name `name` out of the directory `dir`. -/
def unbindName (t : FileTree) (dir : FileId) (name : Name) : FileTree :=
  t.modifyEntries dir fun es => es.filter (·.1 != name)

/-- The directory is not removed: the one above it still has it. -/
def isAttached (t : FileTree) (dir : FileId) : Bool :=
  dir == rootId || ((t.node? (t.parent dir)).map Node.entries).any fun es => es.any (·.2 == dir)

/-- Add a file called `name` to the directory `dir`. -/
def addNamed (t : FileTree) (dir : FileId) (name : Name) (n : Node) : FileId × FileTree :=
  let (id, t) := t.add n
  (id, t.bindName dir name id)

end FileTree

end LineShell
