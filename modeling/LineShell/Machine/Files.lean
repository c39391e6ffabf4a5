import LineShell.Machine.Lookup

/-!
# Using files

What users may do with the files of a tree: open them for writing, write and read them, make, remove
and rename them. Each request either fails with an error number and changes nothing, or yields the
changed tree.
-/

namespace LineShell

namespace FileTree

/-- The permission bits of a new file, unless the one who makes it takes some away. -/
def newFileMode : Nat := 0o666

/-- The permission bits of a new directory, unless the one who makes it takes some away. -/
def newDirectoryMode : Nat := 0o777

/-- Permission bits without those of `mask`. -/
def unmasked (mode mask : Nat) : Nat :=
  mode - (mode &&& mask)

/-- What a file is opened for. -/
structure Opening where
  read : Bool := false
  write : Bool := false
  /-- Make the file if it is not there. -/
  create : Bool := false
  /-- The file must not be there. -/
  isNew : Bool := false
  /-- Empty the file. -/
  truncate : Bool := false
  /-- Write at the end of the file, wherever that is. -/
  append : Bool := false
  /-- The permission bits of a file that is made. -/
  mode : Nat := newFileMode
deriving DecidableEq, Repr

namespace Opening

/-- Open a file for reading. -/
def reading : Opening := { read := true }

/-- Open a file for writing and empty it. -/
def replacing : Opening := { write := true, create := true, truncate := true }

/-- Open a file for writing at its end. -/
def appending : Opening := { write := true, create := true, append := true }

end Opening

/-- Whether names may be added to and taken from the directory `dir`. -/
def mayChange (t : FileTree) (user : Nat) (dir : FileId) : Except Errno Unit :=
  match t.node? dir with
  | none => .error .noEntry
  | some n =>
    if n.allows user .write && n.allows user .execute then .ok () else .error .accessDenied

/-- Open a file. -/
def openFile (t : FileTree) (v : Viewer) (p : Path) (o : Opening) :
    Except Errno (FileId × FileTree) := do
  match ← t.locate v { create := o.create, follow := !o.isNew } p with
  | .vacant dir name =>
    if !o.create || !t.isAttached dir then throw .noEntry
    t.mayChange v.user dir
    return t.addNamed dir name
      { content := .regular [], mode := unmasked o.mode v.mask, owner := v.user }
  | .found id =>
    match t.node? id with
    | none => throw .noEntry
    | some n =>
      if o.isNew then throw .fileExists
      if n.isDirectory && (o.write || o.create) then throw .isDirectory
      if o.read && !n.allows v.user .read then throw .accessDenied
      if o.write && !n.allows v.user .write then throw .accessDenied
      match n.content with
      | .regular _ => return (id, if o.truncate then t.setContent id (.regular []) else t)
      | _ => return (id, t)

/-- The bytes `old` with `bytes` written over them from `offset` on. -/
def overwritten (old : Bytes) (offset : Nat) (bytes : Bytes) : Bytes :=
  if offset = old.length then old ++ bytes
  else
    old.take offset ++ List.replicate (offset - old.length) 0 ++ bytes ++
      old.drop (offset + bytes.length)

/-- Write `bytes` to a file from `offset` on. -/
def write (t : FileTree) (id : FileId) (offset : Nat) (bytes : Bytes) : Except Errno FileTree :=
  match (t.node? id).map Node.content with
  | none => .error .noEntry
  | some (.regular old) =>
    .ok (if bytes.isEmpty then t else t.setContent id (.regular (overwritten old offset bytes)))
  | some (.device .full) => if bytes.isEmpty then .ok t else .error .noSpace
  | some _ => .ok t

/-- How many bytes a file holds. -/
def size (t : FileTree) (id : FileId) : Nat :=
  match (t.node? id).map Node.content with
  | some (.regular bytes) => bytes.length
  | _ => 0

/-- The bytes of a file; `argv` is the argument vector of the reader. -/
def bytesOf (t : FileTree) (id : FileId) (argv : List Bytes) : Except Errno Bytes :=
  match (t.node? id).map Node.content with
  | some (.regular bytes) => .ok bytes
  | some (.directory ..) => .error .isDirectory
  | some (.device .commandLine) => .ok (argv.flatMap (· ++ [0]))
  | _ => .ok []

/-- The names in a directory. -/
def list (t : FileTree) (v : Viewer) (p : Path) : Except Errno (List Name) := do
  let (_, n) ← t.findNode v p true
  if !n.isDirectory then throw .notDirectory
  if !n.allows v.user .read then throw .accessDenied
  return n.entries.map (·.1)

/-- The path name without slashes at its end. -/
def withoutEndSlashes (p : Path) : Path :=
  let kept := (p.bytes.reverse.dropWhile (· = Path.slash)).reverse
  if kept.isEmpty then ⟨p.bytes.take 1⟩ else ⟨kept⟩

/-- The directory and the name where a new file called `p` goes. Only a directory may be called by a
path name with a slash at its end. -/
def vacancy (t : FileTree) (v : Viewer) (p : Path) (directory : Bool) :
    Except Errno (FileId × Name) := do
  match ← t.locate v { follow := false } (withoutEndSlashes p) with
  | .found _ => throw .fileExists
  | .vacant dir name =>
    if p.endsInSlash && !directory then throw .noEntry
    if !t.isAttached dir then throw .noEntry
    t.mayChange v.user dir
    return (dir, name)

/-- Make a file called `p`, whose name must be free. -/
def make (t : FileTree) (v : Viewer) (p : Path) (directory : Bool) (n : FileId → Node) :
    Except Errno FileTree := do
  let (dir, name) ← t.vacancy v p directory
  return (t.addNamed dir name (n dir)).2

/-- Make a directory, with the permission bits `mode` unless `v` takes some away. -/
def makeDirectory (t : FileTree) (v : Viewer) (p : Path) (mode : Nat) : Except Errno FileTree :=
  t.make v p true fun dir =>
    { content := .directory dir [], mode := unmasked mode v.mask, owner := v.user }

/-- Make a symbolic link to `target`. -/
def makeLink (t : FileTree) (v : Viewer) (target p : Path) : Except Errno FileTree :=
  if target.bytes.isEmpty then .error .noEntry
  else t.make v p false fun _ => { content := .link target, mode := 0o777, owner := v.user }

/-- Call the file `old` by the further name `new`. -/
def hardLink (t : FileTree) (v : Viewer) (old new : Path) : Except Errno FileTree := do
  let id ← t.find v old false
  let (dir, name) ← t.vacancy v new false
  if (t.node? id).any Node.isDirectory then throw .notPermitted
  return t.bindName dir name id

/-- The directory and the name that a path name without a link at its end stands for. -/
def nameOf (t : FileTree) (v : Viewer) (p : Path) : Except Errno (FileId × Name) := do
  match p.parts.reverse with
  | [] => throw (if p.bytes.isEmpty then .noEntry else .isDirectory)
  | name :: before =>
    let up : Path := ⟨(if p.isAbsolute then [Path.slash] else FileTree.dot) ++
      before.reverse.flatMap (Path.slash :: ·)⟩
    let (dir, n) ← t.findNode v up true
    if !n.isDirectory then throw .notDirectory
    return (dir, name)

/-- The directory and the name that a path name stands for, and the file that has that name; a link is
not followed, even if a slash comes after it. -/
def entryAt (t : FileTree) (v : Viewer) (p : Path) : Except Errno (FileId × Name × FileId) := do
  let (dir, name) ← t.nameOf v p
  match ← t.locate v { follow := false } (withoutEndSlashes p) with
  | .found id => return (dir, name, id)
  | .vacant .. => throw .noEntry

/-- The last part of the path name stands for a directory in itself, or for the one above it. -/
def isDots (name : Name) : Bool :=
  name = dot || name = dotDot

/-- Take away the name `p` of a file that is no directory. -/
def unlink (t : FileTree) (v : Viewer) (p : Path) : Except Errno FileTree := do
  let (dir, name, id) ← t.entryAt v p
  if isDots name then throw .isDirectory
  let isDir := (t.node? id).any Node.isDirectory
  if p.endsInSlash then throw (if isDir then .isDirectory else .notDirectory)
  t.mayChange v.user dir
  if isDir then throw .isDirectory
  return t.unbindName dir name

/-- Remove an empty directory. -/
def removeDirectory (t : FileTree) (v : Viewer) (p : Path) : Except Errno FileTree := do
  if !p.bytes.isEmpty && p.parts.isEmpty then throw .busy
  let (dir, name, id) ← t.entryAt v p
  if name = dot then throw .invalidArgument
  if name = dotDot then throw .notEmpty
  t.mayChange v.user dir
  match t.node? id with
  | none => throw .noEntry
  | some n =>
    if !n.isDirectory then throw .notDirectory
    if !n.entries.isEmpty then throw .notEmpty
    return t.unbindName dir name

/-- Call the file `old` by the name `new` instead; a file that has the name loses it. -/
def rename (t : FileTree) (v : Viewer) (old new : Path) : Except Errno FileTree := do
  let id ← t.find v old false
  let (dir, name) ← t.nameOf v old
  let (dir', name') ← t.nameOf v new
  t.mayChange v.user dir
  t.mayChange v.user dir'
  return (t.unbindName dir name).bindName dir' name' id

/-- Give a file other permission bits. -/
def changeMode (t : FileTree) (v : Viewer) (p : Path) (f : Node → Nat) :
    Except Errno FileTree := do
  let (id, n) ← t.findNode v p true
  if v.user ≠ 0 ∧ n.owner ≠ v.user then throw .notPermitted
  return t.setNode id { n with mode := f n }

end FileTree

end LineShell
