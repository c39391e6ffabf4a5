import LineShell.Path

/-!
# The state of a shell

What running a line can change: the directory that relative path names are seen from, and whether
the shell has been told to end. The directory is the shell's own; that of its process never changes.
-/

namespace LineShell

/-- The state of a shell. -/
structure State where
  currentDir : Path
  /-- The shell has been told to end. -/
  exitRequested : Bool := false
deriving DecidableEq, Repr

namespace State

/-- The path name of `p` as seen from the current directory, unless it is absolute. -/
def resolve (s : State) (p : Path) : Path :=
  if p.isAbsolute then p else s.currentDir.join p

theorem resolve_eq_join (s : State) (p : Path) : s.resolve p = s.currentDir.join p := by
  rw [resolve]
  split
  · exact (Path.join_of_isAbsolute s.currentDir ‹_›).symm
  · rfl

/-- The state of a shell started in the directory of its process, or in the root directory if that
is not known. -/
def ofProcess (dir? : Option Path) : State :=
  { currentDir := dir?.getD Path.root }

end State

end LineShell
