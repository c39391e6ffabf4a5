import LineShell.Fault
import LineShell.Machine.Editor.Cluster
import LineShell.Text.Lines

/-!
# Lines of input

How the machine's line editor reads. Input is cut at newlines; a carriage return before a newline goes
with it, and a last line without a newline counts if it holds anything. A line that is not UTF-8 cannot
be read. In a line the backspace character deletes the cluster before it. Input is taken in blocks, and
those who share it find what comes after the last block. On terminals that cannot edit lines a prompt is
written.
-/

namespace LineShell

namespace Input

/-- The first line of `bs`, and what comes after it. -/
def firstLine (bs : Bytes) : RawLine × Bytes :=
  let line := bs.takeWhile (· ≠ newline)
  (⟨line, line.length < bs.length⟩, bs.drop (line.length + 1))

/-- The text without a carriage return at its end. -/
def dropReturn (s : String) : String :=
  match s.toList.reverse with
  | '\r' :: rest => String.ofList rest.reverse
  | _ => s

/-- The text of a line, its end dropped. -/
def RawLine.text? (l : RawLine) : Option String :=
  (Bytes.decode? l.bytes).map fun s => if l.ended then dropReturn s else s

/-- The backspace character. -/
def backspace : Char := '\x08'

/-- The number of bytes of a text in UTF-8. -/
def byteCount (cs : List Char) : Nat :=
  (String.ofList cs).utf8ByteSize

/-- Drop characters from the front as long as they fit into `n` bytes. -/
def dropBytes (n : Nat) : List Char → List Char
  | [] => []
  | c :: cs => if c.utf8Size ≤ n then dropBytes (n - c.utf8Size) cs else c :: cs

/-- Apply backspaces to clusters. `out` is the text so far, last character first; `sizes` are the
byte counts of its clusters, last first. A count is kept in one byte, so of a cluster of 256 bytes or
more only the remainder is deleted. -/
def applyBackspaces (out : List Char) (sizes : List Nat) : List (List Char) → List Char
  | [] => out.reverse
  | g :: gs =>
    if g = [backspace] then
      match sizes with
      | [] => applyBackspaces out [] gs
      | n :: ns => applyBackspaces (dropBytes n out) ns gs
    else applyBackspaces (g.reverse ++ out) (byteCount g % 256 :: sizes) gs

/-- The line that remains when each backspace has deleted the cluster before it. -/
def edited (line : String) : String :=
  if line.toList.contains backspace then
    String.ofList (applyBackspaces [] [] (Cluster.cut line.toList))
  else line

/-- How many bytes of its input the editor takes at a time. -/
def blockSize : Nat := 8192

/-- How many of the bytes `rest` have to be read, in blocks, to find the end of a line in them. -/
def bytesToRead (rest : Bytes) : Nat :=
  match rest.findIdx? (· = newline) with
  | some k => (k / blockSize + 1) * blockSize
  | none => rest.length

/-- The terminals that cannot edit lines. -/
def plainTerminals : List String := ["dumb", "cons25", "emacs"]

/-- Whether the terminal called `name`, in whatever letter case, cannot edit lines. -/
def isPlainTerminal (name : String) : Bool :=
  plainTerminals.contains (name.map Char.toLower)

/-- A line as it is handed to the shell. -/
def RawLine.toLine (l : RawLine) : Except Fault String :=
  match l.text? with
  | some s => .ok (edited s)
  | none => .error .notUtf8

end Input

end LineShell
