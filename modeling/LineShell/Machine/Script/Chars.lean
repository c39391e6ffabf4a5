import LineShell.Text.Utf8

/-!
# The text of scripts

A script is read as bytes, and each byte is handled as the character of the same number.
-/

namespace LineShell.Script

/-- A text whose characters stand for bytes. -/
abbrev Chars := List Char

/-- The order of texts by the numbers of their bytes. -/
def Chars.le (a b : Chars) : Bool :=
  !List.lex b a fun x y => x < y

/-- The text of `bs`. -/
def ofBytes (bs : Bytes) : Chars :=
  bs.map fun b => Char.ofNat b.toNat

/-- The bytes of `cs`. -/
def toBytes (cs : Chars) : Bytes :=
  cs.map fun c => c.toNat.toUInt8

/-- The text of a string. -/
def ofString (s : String) : Chars :=
  ofBytes (Bytes.ofString s)

/-- The decimal digits of `n`. -/
def ofNat (n : Nat) : Chars :=
  (toString n).toList

/-- The decimal digits of `n`, with a sign if it is negative. -/
def ofInt (n : Int) : Chars :=
  (toString n).toList

/-- The character may start a name. -/
def isNameStart (c : Char) : Bool :=
  c.isAlpha || c = '_'

/-- The character may stand in a name. -/
def isNameChar (c : Char) : Bool :=
  c.isAlphanum || c = '_'

/-- The longest name at the front of a text. -/
def nameAtFront (cs : Chars) : Chars :=
  if cs.head?.any isNameStart then cs.takeWhile isNameChar else []

/-- The text is a name. -/
def isName (cs : Chars) : Bool :=
  cs.head?.any isNameStart && cs.all isNameChar

/-- The character is a digit of the octal system. -/
def isOctal (c : Char) : Bool :=
  '0' ≤ c && c ≤ '7'

/-- The character separates words wherever it stands in a line. -/
def isSpace (c : Char) : Bool :=
  c = ' ' || ('\t' ≤ c && c ≤ '\r')

/-- The number of a digit, which may be a letter. -/
def digitValue (c : Char) : Nat :=
  if c.isDigit then c.toNat - '0'.toNat else c.toLower.toNat - 'a'.toNat + 10

/-- The number that the digits `ds` write in the given base. -/
def ofDigits (base : Nat) (ds : Chars) : Nat :=
  ds.foldl (fun v d => v * base + digitValue d) 0

/-- The number that decimal digits write, and nothing else. -/
def natural? (cs : Chars) : Option Nat :=
  if cs.isEmpty || !cs.all Char.isDigit then none else some (ofDigits 10 cs)

/-- The text without newlines at its end. -/
def withoutEndNewlines (cs : Chars) : Chars :=
  (cs.reverse.dropWhile (· = '\n')).reverse

/-- The texts with one blank between them. -/
def joined (texts : List Chars) : Chars :=
  [' '].intercalate texts

/-- The text in quotes, with at most `n` stretches of single quotes in it: everything else stands in
single quotes, and single quotes stand in double quotes. -/
def quotedUpTo (n : Nat) (cs : Chars) : Chars :=
  let here := cs.takeWhile (· ≠ '\'')
  let rest := cs.drop here.length
  let quotes := rest.takeWhile (· = '\'')
  let rest := rest.drop quotes.length
  let front := '\'' :: here ++ ['\'']
  match n with
  | 0 => front
  | n + 1 =>
    if quotes.isEmpty then front
    else front ++ '"' :: quotes ++ '"' :: (if rest.isEmpty then [] else quotedUpTo n rest)

/-- The text in quotes, so that a script that reads it finds `cs`. -/
def quotedText (cs : Chars) : Chars :=
  quotedUpTo cs.length cs

end LineShell.Script
