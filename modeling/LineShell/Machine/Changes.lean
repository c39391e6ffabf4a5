import LineShell.Machine.Process

/-!
# Changes of a file tree

What a user sees below a directory, and how two such views differ. Links are not followed; what is
in a directory that cannot be listed is not seen, and of a file that cannot be read only that.
-/

namespace LineShell

/-- What is seen of a file. -/
inductive Sight where
  | directory
  | file (bytes : Bytes)
  | link (target : Path)
  | unreadable
deriving DecidableEq, Repr

/-- The files seen below a directory, by their path names relative to it. -/
abbrev View := List (Path × Sight)

namespace FileTree

/-- What `user` sees of the file `id`, which is called `name` and can be reached. -/
def sightOf (t : FileTree) (user : Nat) (id : FileId) : Sight :=
  match t.node? id with
  | none => .unreadable
  | some n =>
    match n.content with
    | .directory .. => .directory
    | .link target => .link target
    | .regular bytes => if n.allows user .read then .file bytes else .unreadable
    | _ => .unreadable

/-- The files below the directory `id`, whose path names start with `before`, at most `depth`
directories deep. -/
def viewBelow (t : FileTree) (user : Nat) (depth : Nat) (before : Path) (id : FileId) : View :=
  match depth with
  | 0 => []
  | depth + 1 =>
    match t.node? id with
    | none => []
    | some n =>
      if !n.allows user .read then []
      else n.entries.flatMap fun (name, child) =>
        let here := before.join ⟨name⟩
        if !n.allows user .execute then [(here, .unreadable)]
        else
          (here, t.sightOf user child) ::
            (if (t.node? child).any Node.isDirectory then t.viewBelow user depth here child else [])

/-- How deep directories are looked into. -/
def viewDepth : Nat := 1000

/-- What `user` sees below the directory `id`. -/
def view (t : FileTree) (user : Nat) (id : FileId) : View :=
  t.viewBelow user viewDepth ⟨[]⟩ id

end FileTree

/-- The files that are seen otherwise in `new` than in `old`, or no longer. -/
def View.changes (old new : View) : List (Path × Option Sight) :=
  (new.filter fun p => old.lookup p.1 ≠ some p.2).map (fun p => (p.1, some p.2)) ++
    (old.filter fun p => (new.lookup p.1).isNone).map fun p => (p.1, none)

end LineShell
