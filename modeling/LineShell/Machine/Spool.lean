import LineShell.Text.Utf8

/-!
# Spools

Bytes that are added at one end and taken at the other, such as what waits in a pipe or what has been
written to a screen. Pieces are kept as they were added until someone looks at the whole.
-/

namespace LineShell

/-- Bytes in the order in which they were added. -/
structure Spool where
  /-- The bytes that were added first. -/
  front : Bytes := []
  /-- The pieces that were added later, last one first. -/
  later : List Bytes := []
  /-- How many bytes there are. -/
  size : Nat := 0
deriving Repr

namespace Spool

/-- All bytes. -/
def bytes (s : Spool) : Bytes :=
  if s.later.isEmpty then s.front else s.front ++ s.later.reverse.flatten

/-- The spool with further bytes at its end. -/
def add (s : Spool) (bs : Bytes) : Spool :=
  { s with later := bs :: s.later, size := s.size + bs.length }

/-- The spool without its first `n` bytes. -/
def drop (s : Spool) (n : Nat) : Spool :=
  { front := s.bytes.drop n, later := [], size := s.size - n }

theorem bytes_add (s : Spool) (bs : Bytes) : (s.add bs).bytes = s.bytes ++ bs := by
  unfold bytes add
  by_cases h : s.later = [] <;> simp [h]

theorem bytes_drop (s : Spool) (n : Nat) : (s.drop n).bytes = s.bytes.drop n := by
  simp [bytes, drop]

end Spool

end LineShell
