/-!
# Text as bytes

Texts are written to files and used as names of files in UTF-8. Reading back is exact where the
bytes are UTF-8 (`decode?`); for display each longest stretch that cannot be part of a character
is shown as one replacement character (`decodeLossy`).
-/

namespace LineShell

/-- A sequence of bytes: the contents of a file or the name of one. -/
abbrev Bytes := List UInt8

namespace Bytes

/-- The UTF-8 bytes of a text. -/
def ofString (s : String) : Bytes :=
  s.toUTF8.data.toList

/-- The text whose UTF-8 bytes are `bs`, if there is one. -/
def decode? (bs : Bytes) : Option String :=
  String.fromUTF8? ⟨bs.toArray⟩

theorem decode?_ofString (s : String) : decode? (ofString s) = some s := by
  have h : (⟨s.toUTF8.data.toList.toArray⟩ : ByteArray) = s.toUTF8 := by simp
  have valid : s.toUTF8.IsValidUTF8 := s.isValidUTF8
  rw [decode?, ofString, h, String.fromUTF8?, dif_pos valid]
  rfl

/-- The character shown in place of bytes that are not UTF-8. -/
def replacement : Char := '\uFFFD'

/-- What the first byte of a longer character says: how many bytes follow, the range of the first
of these, and the value bits it carries itself. -/
def lead? (b : UInt8) : Option (Nat × UInt8 × UInt8 × Nat) :=
  if 0xC2 ≤ b ∧ b ≤ 0xDF then some (1, 0x80, 0xBF, b.toNat - 0xC0)
  else if b = 0xE0 then some (2, 0xA0, 0xBF, 0)
  else if b = 0xED then some (2, 0x80, 0x9F, 0xD)
  else if 0xE1 ≤ b ∧ b ≤ 0xEF then some (2, 0x80, 0xBF, b.toNat - 0xE0)
  else if b = 0xF0 then some (3, 0x90, 0xBF, 0)
  else if 0xF1 ≤ b ∧ b ≤ 0xF3 then some (3, 0x80, 0xBF, b.toNat - 0xF0)
  else if b = 0xF4 then some (3, 0x80, 0x8F, 4)
  else none

/-- Read `n` further bytes of a character of value `v`, the first of them between `lo` and `hi`;
no value is left when one of them does not fit. -/
def following : Nat → UInt8 → UInt8 → Nat → Bytes → Option Nat × Bytes
  | 0, _, _, v, bs => (some v, bs)
  | _ + 1, _, _, _, [] => (none, [])
  | n + 1, lo, hi, v, b :: bs =>
    if lo ≤ b ∧ b ≤ hi then following n 0x80 0xBF (v * 64 + (b.toNat - 0x80)) bs
    else (none, b :: bs)

theorem length_following_le (n : Nat) (lo hi : UInt8) (v : Nat) (bs : Bytes) :
    (following n lo hi v bs).2.length ≤ bs.length := by
  induction n generalizing lo hi v bs with
  | zero => simp [following]
  | succ n ih =>
    cases bs with
    | nil => simp [following]
    | cons b bs =>
      simp only [following]
      split
      · exact Nat.le_succ_of_le (ih ..)
      · simp

/-- The characters of `bs`, with one replacement character for each longest stretch of bytes that
is no character. -/
def decodeChars : Bytes → List Char
  | [] => []
  | b :: bs =>
    if b < 0x80 then Char.ofNat b.toNat :: decodeChars bs
    else
      match lead? b with
      | none => replacement :: decodeChars bs
      | some (n, lo, hi, v) =>
        have := length_following_le n lo hi v bs
        let shown := ((following n lo hi v bs).1.map Char.ofNat).getD replacement
        shown :: decodeChars (following n lo hi v bs).2
termination_by bs => bs.length

/-- The text of `bs` for display. -/
def decodeLossy (bs : Bytes) : String :=
  (decode? bs).getD (String.ofList (decodeChars bs))

@[simp] theorem decodeLossy_ofString (s : String) : decodeLossy (ofString s) = s := by
  simp [decodeLossy, decode?_ofString]

end Bytes

end LineShell
