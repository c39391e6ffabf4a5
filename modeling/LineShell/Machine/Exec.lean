import LineShell.Machine.Script.Invocation
import LineShell.Machine.Tools

/-!
# Starting programs

How a file becomes a running program: it must be an ordinary file with execute permission that
nobody writes to. A file that names an interpreter in its first line is run by that; one that is
neither a program nor names an interpreter is refused.
-/

namespace LineShell

/-- The interpreter that a file names, with the one argument that may follow it. -/
structure Interpreter where
  image : Path
  arg : Option Bytes
deriving DecidableEq, Repr

namespace Interpreter

/-- How many bytes of a file are looked at. -/
def window : Nat := 256

/-- A blank between the name of an interpreter and its argument. -/
def isBlankByte (b : UInt8) : Bool :=
  b = 0x20 || b = 0x09

/-- The bytes without blanks at the end. -/
def dropBlanksAtEnd (bs : Bytes) : Bytes :=
  (bs.reverse.dropWhile isBlankByte).reverse

/-- The bytes of a name or an argument: up to a NUL. -/
def untilNul (bs : Bytes) : Bytes :=
  bs.takeWhile (· ≠ 0)

/-- Read what stands after the mark `#!`. An argument that only the end of the file cuts short may be
empty. -/
def ofLine (line : Bytes) : Option Interpreter :=
  let line := (dropBlanksAtEnd line).dropWhile isBlankByte
  if line.isEmpty then none
  else
    let name := line.takeWhile fun b => !isBlankByte b && b ≠ 0
    let rest := line.drop name.length
    let arg := if rest.head?.any isBlankByte then some (untilNul (rest.dropWhile isBlankByte)) else none
    some ⟨⟨name⟩, arg⟩

/-- The interpreter that a file with these bytes names. A first line that does not end in the window
must at least end the interpreter's name there. -/
def ofBytes (bytes : Bytes) : Option Interpreter :=
  match bytes with
  | 0x23 :: 0x21 :: _ =>
    let seen := (bytes.take window ++ List.replicate (window - bytes.length) 0).drop 2
    if (untilNul seen).contains 0x0A then ofLine (seen.takeWhile (· ≠ 0x0A))
    else if (seen.dropWhile isBlankByte).any fun b => isBlankByte b || b = 0 then ofLine seen.dropLast
    else none
  | _ => none

end Interpreter

namespace Machine

/-- The most interpreters that may follow each other. -/
def interpreterLimit : Nat := 5

/-- The most bytes in an argument or a variable, with the one that ends it. -/
def argumentLimit : Nat := 131072

/-- The most bytes in all that a program is started with. -/
def startLimit : Nat := 2097152

/-- What a program is started with does not fit. -/
def isTooLong (p : Process) (image : Path) : Bool :=
  let sizes := p.argv.map (·.length + 1) ++ p.variables.map fun v => v.1.length + v.2.length + 2
  sizes.any (· > argumentLimit) || sizes.foldl (· + ·) 0 + 8 * sizes.length + image.bytes.length + 1 > startLimit

/-- The file `p`, if it can be started. `busy` are the files that are written to. -/
def startable (m : Machine) (v : FileTree.Viewer) (busy : List FileId) (p : Path) :
    Except Errno Node := do
  let (id, n) ← m.tree.findNode v p true
  if !n.isRegular || !n.allows v.user .execute then throw .accessDenied
  if busy.contains id then throw .textBusy
  return n

/-- The tool that a file holds and the argument vector it gets, interpreters followed at most
`depth` times. An interpreter without a name cannot be started. -/
def image (m : Machine) (v : FileTree.Viewer) (busy : List FileId) (depth : Nat) (p : Path)
    (argv : List Bytes) : Except Errno (Tool × List Bytes) := do
  let n ← m.startable v busy p
  match n.content with
  | .program t => return (t, argv)
  | .regular bytes =>
    match Interpreter.ofBytes bytes with
    | none => throw .notExecutable
    | some i =>
      if i.image.bytes.isEmpty then throw .accessDenied
      match depth with
      | 0 =>
        let _ ← m.startable v busy i.image
        throw .tooManyLinks
      | depth + 1 => m.image v busy depth i.image (i.image.bytes :: i.arg.toList ++ p.bytes :: argv.tail)
  | _ => throw .accessDenied

/-- The files that a process, or one that waits for it, has open for writing. -/
def busyFiles (m : Machine) (p : Process) : List FileId :=
  (p.files.map (·.2) ++ p.held).filterMap fun i => (m.opened[i]?).bind fun f =>
    match f.channel with
    | .file id => if f.writable then some id else none
    | _ => none

end Machine

/-- Start the program in the file `p` and run it to its end; at most `n` programs start each other. -/
def execute (n : Nat) (p : Path) (process : Process) : Step (Except Errno Ending) :=
  match n with
  | 0 => return .error .tryAgain
  | n + 1 => do
    let m ← get
    let v := m.viewerOf process
    let busy := m.busyFiles process
    let image := do
      let _ ← m.startable v busy p
      if Machine.isTooLong process p then throw Errno.argumentsTooLong
      m.image v busy Machine.interpreterLimit p process.argv
    match image with
    | .error e => return .error e
    | .ok (tool, argv) =>
      let process := { process with argv := argv }
      match tool with
      | .sh => return .ok (← Script.runProcess ⟨execute n⟩ process)
      | _ => return .ok (← tool.run process)

end LineShell
