import LineShell.Text.Utf8

/-!
# Lines of bytes

Bytes are cut at newlines. A last line without a newline counts if it holds anything.
-/

namespace LineShell

namespace Input

/-- A line of input before it is decoded. -/
structure RawLine where
  bytes : Bytes
  /-- A newline ends the line. -/
  ended : Bool
deriving DecidableEq, Repr

/-- The newline. -/
def newline : UInt8 := 0x0A

/-- The lines of `bs`, the first of which starts with `cur`, last byte first. -/
def rawLinesFrom (cur : Bytes) : Bytes → List RawLine
  | [] => if cur.isEmpty then [] else [⟨cur.reverse, false⟩]
  | b :: bs => if b = newline then ⟨cur.reverse, true⟩ :: rawLinesFrom [] bs
      else rawLinesFrom (b :: cur) bs

/-- The lines of `bs`. -/
def rawLines (bs : Bytes) : List RawLine :=
  rawLinesFrom [] bs

end Input

end LineShell
