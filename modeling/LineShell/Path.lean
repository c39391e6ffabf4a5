import LineShell.Text.Utf8

/-!
# Path names

A path name is a sequence of bytes with `/` between its parts. Joining inserts one `/` where the
left side needs it and starts afresh at an absolute right side; no other normalization takes place,
so `join` is associative and the join of a directory with a name can be read off.
-/

namespace LineShell

/-- The name of a file as the operating system takes it. -/
structure Path where
  bytes : Bytes
deriving DecidableEq, Repr

namespace Path

/-- The byte between the parts of a path name. -/
def slash : UInt8 := 0x2F

/-- The path name with the text `s`. -/
def ofString (s : String) : Path :=
  ⟨Bytes.ofString s⟩

/-- The path name as a text; bytes that are no text are shown as replacement characters. -/
def display (p : Path) : String :=
  Bytes.decodeLossy p.bytes

@[simp] theorem display_ofString (s : String) : (ofString s).display = s :=
  Bytes.decodeLossy_ofString s

/-- A path name is absolute when it starts with a slash. -/
def isAbsolute (p : Path) : Bool :=
  p.bytes.head? == some slash

/-- The path name of `p` as seen from the directory `base`. -/
def join (base p : Path) : Path :=
  if p.isAbsolute then p
  else if base.bytes.isEmpty || base.bytes.getLast? == some slash then ⟨base.bytes ++ p.bytes⟩
  else ⟨base.bytes ++ slash :: p.bytes⟩

/-- A path name that holds a NUL byte cannot be handed to the operating system. -/
def hasNul (p : Path) : Bool :=
  p.bytes.contains 0

/-- The path name of the root directory. -/
def root : Path := ⟨[slash]⟩

theorem join_of_isAbsolute {p : Path} (base : Path) (h : p.isAbsolute = true) : base.join p = p := by
  simp [join, h]

end Path

/-- A name that contains a slash names a file directly and is never searched for. -/
def hasSeparator (name : String) : Bool :=
  name.toList.contains '/'

end LineShell
