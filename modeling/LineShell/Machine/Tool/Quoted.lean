import LineShell.Text.Utf8

/-!
# Quoted names

How programs show names in their messages, so that a name with unusual bytes can be told from the
words around it: in quotes that a command line would read, or between plain quotes with backslashes.
-/

namespace LineShell

namespace Quoted

/-- The byte is shown as it is. -/
def isPrintable (b : UInt8) : Bool :=
  0x20 ≤ b && b < 0x7F

/-- The byte means something to a command line, wherever it stands, or separates a name from a
message. -/
def isSpecial (b : UInt8) : Bool :=
  (Bytes.ofString " !\"$&'()*:;<=>?[\\^\x60|").contains b

/-- The letters of escapes, by the number of the byte. -/
def escapeLetters : List (Nat × Char) :=
  [(7, 'a'), (8, 'b'), (9, 't'), (10, 'n'), (11, 'v'), (12, 'f'), (13, 'r')]

/-- The escape of a byte that cannot be shown. -/
def escape (b : UInt8) : Bytes :=
  match escapeLetters.lookup b.toNat with
  | some c => [0x5C, c.toNat.toUInt8]
  | none =>
    let n := b.toNat
    0x5C :: [n / 64, n / 8 % 8, n % 8].map fun d => (0x30 + d).toUInt8

/-- Quote bytes of which some cannot be shown; `shown` tells how the byte before was written. -/
def mixed (shown : Bool) : Bytes → Bytes
  | [] => Bytes.ofString "'"
  | b :: bs =>
    if b = 0x27 then Bytes.ofString "'\\''" ++ mixed true bs
    else if isPrintable b then
      (if shown then [b] else Bytes.ofString "''" ++ [b]) ++ mixed true bs
    else
      (if shown then Bytes.ofString "'$'" else []) ++ escape b ++ mixed false bs

/-- The byte stands for itself between double quotes, and needs none but for blanks and quotes. -/
def isHarmless (b : UInt8) : Bool :=
  isPrintable b && (b = 0x20 || b = 0x27 || b = 0x3A || !isSpecial b) &&
    !(Bytes.ofString "\x7b\x7d#~").contains b

/-- The byte may stand at the front of a name between double quotes. -/
def isHarmlessFront (b : UInt8) : Bool :=
  isHarmless b || b = 0x23 || b = 0x7E

/-- A name in quotes. -/
def always (name : Bytes) : Bytes :=
  let harmless := name.head?.all isHarmlessFront && name.tail.all isHarmless
  if name.contains 0x27 && harmless then Bytes.ofString "\"" ++ name ++ Bytes.ofString "\""
  else Bytes.ofString "'" ++ mixed true name

/-- A name, in quotes if it would be misread without them. -/
def ifNeeded (name : Bytes) : Bytes :=
  let lone := name = Bytes.ofString "\x7b" || name = Bytes.ofString "\x7d"
  let start := name.head? = some 0x7E || name.head? = some 0x23
  if name.isEmpty || lone || start || name.any (fun b => !isPrintable b || isSpecial b) then
    always name
  else name

/-- A name between quotes, in which backslashes mark what cannot be shown. -/
def withBackslashes (name : Bytes) : Bytes :=
  let one (b : UInt8) : Bytes :=
    if b = 0x27 || b = 0x5C then [0x5C, b] else if isPrintable b then [b] else escape b
  Bytes.ofString "'" ++ name.flatMap one ++ Bytes.ofString "'"

end Quoted

end LineShell
