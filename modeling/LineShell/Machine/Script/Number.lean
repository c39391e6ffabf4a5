import LineShell.Machine.Script.Chars

/-!
# Whole numbers

Numbers are written with digits of the decimal, the octal or the hexadecimal system and may have a
sign. They are kept in 64 bits: what does not fit becomes the nearest number that does when it is
read, and wraps around when it is computed.
-/

namespace LineShell.Script

namespace Number

/-- The greatest number. -/
def greatest : Int := 9223372036854775807

/-- The least number. -/
def least : Int := -9223372036854775808

/-- The greatest number without a sign. -/
def greatestUnsigned : Nat := 18446744073709551615

/-- The number in 64 bits that a computation comes to. -/
def wrap (n : Int) : Int :=
  (Int64.ofInt n).toInt

/-- The 64 bits of a number as one without a sign. -/
def toUnsigned (n : Int) : Nat :=
  (Int64.ofInt n).toUInt64.toNat

/-- A number at the front of a text. -/
structure Reading where
  negative : Bool
  magnitude : Nat
  /-- There is a number at all. -/
  found : Bool
  rest : Chars

/-- The character is a digit in the given base. -/
def isDigitIn (base : Nat) (c : Char) : Bool :=
  (c.isDigit || c.isAlpha) && digitValue c < base

/-- Read digits of the given base. -/
def readDigits (base : Nat) (cs : Chars) : Option (Nat × Chars) :=
  let ds := cs.takeWhile (isDigitIn base)
  if ds.isEmpty then none else some (ofDigits base ds, cs.drop ds.length)

/-- Read digits whose base shows in how they begin. -/
def readLiteral (cs : Chars) : Option (Nat × Chars) :=
  match cs with
  | '0' :: x :: d :: rest =>
    if (x = 'x' || x = 'X') && isDigitIn 16 d then readDigits 16 (d :: rest) else readDigits 8 cs
  | '0' :: _ => readDigits 8 cs
  | _ => readDigits 10 cs

/-- Read a number, decimal or in the base that shows, after blanks and a sign. -/
def read (decimal : Bool) (cs : Chars) : Reading :=
  let trimmed := cs.dropWhile isSpace
  let (negative, digits) := match trimmed with
    | '-' :: ds => (true, ds)
    | '+' :: ds => (false, ds)
    | ds => (false, ds)
  match if decimal then readDigits 10 digits else readLiteral digits with
  | some (n, rest) => ⟨negative, n, true, rest⟩
  | none => ⟨false, 0, false, cs⟩

namespace Reading

/-- The number that was read. -/
def value (r : Reading) : Int :=
  if r.negative then -(r.magnitude : Int) else r.magnitude

/-- The number does not fit. -/
def overflows (r : Reading) : Bool :=
  r.value > greatest || r.value < least

/-- The nearest number that fits. -/
def clamped (r : Reading) : Int :=
  if r.value > greatest then greatest else if r.value < least then least else r.value

/-- The number does not fit even without a sign. -/
def overflowsUnsigned (r : Reading) : Bool :=
  r.magnitude > greatestUnsigned

/-- The nearest number without a sign that fits; one with a sign wraps around. -/
def clampedUnsigned (r : Reading) : Nat :=
  if r.magnitude > greatestUnsigned then greatestUnsigned else toUnsigned r.value

end Reading

/-- The number that a text writes, with blanks around it and nothing else. A decimal number must be
there; otherwise none stands for zero. -/
def parse? (decimal : Bool) (cs : Chars) : Option Int :=
  let r := read decimal cs
  if r.overflows || (decimal && !r.found) || !r.rest.all isSpace then none else some r.clamped

/-- The number that a text writes, if it counts something. -/
def count? (cs : Chars) : Option Nat :=
  match parse? true cs with
  | some n => if 0 ≤ n && n ≤ 2147483647 then some n.toNat else none
  | none => none

end Number

end LineShell.Script
