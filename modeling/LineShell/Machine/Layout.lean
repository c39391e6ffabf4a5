import LineShell.Machine.Process

/-!
# Laying out a file tree

A file tree is described by entries, each a path name with what is found there. The bare tree has
the directories and programs that every machine has; entries are then added below a directory, with
missing directories on the way, and get their permission bits when everything is there.
-/

namespace LineShell

/-- What an entry of a layout is. -/
inductive EntryKind where
  | directory
  | file (bytes : Bytes)
  | link (target : Path)
deriving DecidableEq, Repr

/-- An entry of a layout. -/
structure Entry where
  path : Path
  kind : EntryKind
  /-- The permission bits, if they are not those of every new file. -/
  mode : Option Nat := none
deriving DecidableEq, Repr

namespace FileTree

/-- The one who lays out trees may do everything. -/
def builder : Viewer := { user := 0, dir := rootId }

/-- The tree after a change, or as it is if that fails. -/
def orSame (t : FileTree) (changed : Except Errno FileTree) : FileTree :=
  changed.toOption.getD t

/-- Make the directories with the given parts below `done` that are not there. -/
def ensureDirectories (t : FileTree) (done : Path) : List Name → FileTree
  | [] => t
  | n :: ns =>
    let here := done.join ⟨n⟩
    (t.orSame (t.makeDirectory builder here newDirectoryMode)).ensureDirectories here ns

/-- Add a file called `p`, with missing directories on the way. -/
def place (t : FileTree) (base p : Path) (kind : EntryKind) : FileTree :=
  let t := t.ensureDirectories base p.parts.dropLast
  let here := base.join p
  match kind with
  | .directory => t.orSame (t.makeDirectory builder here newDirectoryMode)
  | .link target => t.orSame (t.makeLink builder target here)
  | .file bytes =>
    match t.openFile builder here .replacing with
    | .ok (id, t) => t.orSame (t.write id 0 bytes)
    | .error _ => t

/-- Add entries below the directory `base`. -/
def layOut (t : FileTree) (base : Path) (entries : List Entry) : FileTree :=
  let t := entries.foldl (fun t e => t.place base e.path e.kind) t
  entries.foldl (fun t e => match e.mode with
    | some mode => t.orSame (t.changeMode builder (base.join e.path) fun _ => mode)
    | none => t) t

/-- Give a directory and everything in it to a user, at most `depth` directories deep. -/
def giveTo (user : Nat) (depth : Nat) (t : FileTree) (id : FileId) : FileTree :=
  match depth with
  | 0 => t
  | depth + 1 =>
    let t := t.modify id fun n => { n with owner := user }
    match t.node? id with
    | some n => (n.entries.map (·.2)).foldl (giveTo user depth) t
    | none => t

/-- Add a file that is no ordinary one. -/
def placeSpecial (t : FileTree) (p : String) (content : Content) (mode : Nat) : FileTree :=
  t.orSame (t.make builder (Path.ofString p) false fun _ =>
    { content := content, mode := mode, owner := 0 })

/-- The names of the programs. -/
def toolNames : List (String × Tool) :=
  [("sh", .sh), ("cat", .cat), ("chmod", .chmod), ("cp", .cp), ("ln", .ln), ("mkdir", .mkdir),
    ("rm", .rm), ("rmdir", .rmdir)]

/-- The directories of every machine. -/
def bareDirectories : List String :=
  ["/dev", "/etc", "/home", "/proc", "/proc/self", "/root", "/tmp", "/usr", "/usr/bin", "/usr/lib",
    "/var"]

/-- The tree that every machine has. -/
def bare : FileTree :=
  let t := bareDirectories.foldl (fun t d => t.orSame (t.makeDirectory builder (Path.ofString d) newDirectoryMode)) empty
  let t := t.orSame (t.changeMode builder (Path.ofString "/tmp") fun _ => 0o1777)
  let t := t.orSame (t.changeMode builder (Path.ofString "/root") fun _ => 0o700)
  let t := t.orSame (t.makeLink builder (Path.ofString "usr/bin") (Path.ofString "/bin"))
  let t := toolNames.foldl (fun t p => t.placeSpecial s!"/usr/bin/{p.1}" (.program p.2) 0o755) t
  let t := t.placeSpecial "/dev/null" (.device .null) 0o666
  let t := t.placeSpecial "/dev/full" (.device .full) 0o666
  let t := t.placeSpecial "/dev/stdout" (.device (.stream .stdout)) 0o666
  let t := t.placeSpecial "/dev/stderr" (.device (.stream .stderr)) 0o666
  t.placeSpecial "/proc/self/cmdline" (.device .commandLine) 0o444

end FileTree

end LineShell
