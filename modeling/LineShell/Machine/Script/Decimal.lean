import LineShell.Machine.Script.Number

/-!
# Numbers with fractions

Numbers with fractions are kept in binary, with 53 bits, and written in decimal or hexadecimal
digits. Both ways the nearest number is taken, and of two equally near ones the even one; all
computations are exact.
-/

namespace LineShell.Script

/-- The quotient of two numbers, rounded to the nearest; a half goes to the even neighbour. -/
def roundedQuotient (a b : Nat) : Nat :=
  let q := a / b
  let r := a % b
  if 2 * r > b || (2 * r = b && q % 2 = 1) then q + 1 else q

/-- A number with a fraction. -/
inductive Real where
  /-- The number `mantissa * 2 ^ exponent`. -/
  | finite (negative : Bool) (mantissa : Nat) (exponent : Int)
  | infinite (negative : Bool)
  | undefined (negative : Bool)
deriving DecidableEq, Repr

namespace Real

/-- The least exponent of a mantissa. -/
def leastExponent : Int := -1074

/-- The number of bits of a mantissa. -/
def mantissaBits : Nat := 53

/-- The nearest number to `a / b`, and whether it is too far away for a number of its size. -/
def ofQuotient (negative : Bool) (a b : Nat) : Real × Bool :=
  if a = 0 then (.finite negative 0 0, false)
  else
    let estimate : Int := (a.log2 : Int) - b.log2 - mantissaBits
    let scaled (e : Int) : Nat × Nat :=
      if e ≥ 0 then (a, b * Nat.pow 2 e.toNat) else (a * Nat.pow 2 (-e).toNat, b)
    let fits (e : Int) : Bool := let (x, y) := scaled e; x < y * Nat.pow 2 mantissaBits
    let e := max leastExponent
      (if fits estimate then estimate else if fits (estimate + 1) then estimate + 1 else estimate + 2)
    let (x, y) := scaled e
    let m := roundedQuotient x y
    let (m, e) := if m = Nat.pow 2 mantissaBits then (m / 2, e + 1) else (m, e)
    if e > 971 then (.infinite negative, true)
    else (.finite negative m e, m < Nat.pow 2 (mantissaBits - 1) && x % y ≠ 0)

/-- The number `digits * base ^ exponent`. -/
def ofScaled (negative : Bool) (base : Nat) (digits : Nat) (exponent : Int) : Real × Bool :=
  let size : Int := (Nat.toDigits base digits).length + exponent
  if digits = 0 then (.finite negative 0 0, false)
  else if size > 1100 then (.infinite negative, true)
  else if size < -1100 then (.finite negative 0 0, true)
  else if exponent ≥ 0 then ofQuotient negative (digits * Nat.pow base exponent.toNat) 1
  else ofQuotient negative digits (Nat.pow base (-exponent).toNat)

/-- A number at the front of a text. -/
structure Reading where
  value : Real
  /-- The number is out of range. -/
  outOfRange : Bool := false
  rest : Chars
  /-- There is a number at all. -/
  found : Bool := true

/-- The word `w` stands at the front of `cs`, in whatever letter case. -/
def startsWithWord (w : String) (cs : Chars) : Bool :=
  (cs.take w.length).map Char.toLower = w.toList

/-- Read an exponent after one of the letters `marks`, if one stands here. -/
def readExponent (marks : List Char) (cs : Chars) : Int × Chars :=
  match cs with
  | m :: more =>
    let (negative, digits) := match more with
      | '-' :: ds => (true, ds)
      | '+' :: ds => (false, ds)
      | ds => (false, ds)
    let ds := digits.takeWhile Char.isDigit
    if marks.contains m && !ds.isEmpty then
      let n : Int := ofDigits 10 ds
      (if negative then -n else n, digits.drop ds.length)
    else (0, cs)
  | [] => (0, [])

/-- Read digits with a point among them: the digits, how many stand after the point, and the rest. -/
def readPointed (base : Nat) (cs : Chars) : Option (Nat × Nat × Chars) :=
  let whole := cs.takeWhile (Number.isDigitIn base)
  let rest := cs.drop whole.length
  let (fraction, rest') := match rest with
    | '.' :: more =>
      let f := more.takeWhile (Number.isDigitIn base)
      (f, more.drop f.length)
    | _ => ([], rest)
  if whole.isEmpty && fraction.isEmpty then none
  else some (ofDigits base (whole ++ fraction), fraction.length, rest')

/-- Read what stands in parentheses after the word for an undefined number. -/
def dropNote (cs : Chars) : Chars :=
  match cs with
  | '(' :: more =>
    match more.dropWhile isNameChar with
    | ')' :: rest => rest
    | _ => cs
  | _ => cs

/-- Read a number after blanks and a sign. -/
def read (cs : Chars) : Reading :=
  let trimmed := cs.dropWhile isSpace
  let (negative, digits) := match trimmed with
    | '-' :: ds => (true, ds)
    | '+' :: ds => (false, ds)
    | ds => (false, ds)
  let nothing : Reading := { value := .finite false 0 0, rest := cs, found := false }
  let decimal : Reading :=
    match readPointed 10 digits with
    | none => nothing
    | some (n, places, rest) =>
      let (e, rest) := readExponent ['e', 'E'] rest
      let (value, far) := ofScaled negative 10 n (e - places)
      { value := value, outOfRange := far, rest := rest }
  if startsWithWord "infinity" digits then
    { value := .infinite negative, rest := digits.drop 8 }
  else if startsWithWord "inf" digits then { value := .infinite negative, rest := digits.drop 3 }
  else if startsWithWord "nan" digits then
    { value := .undefined negative, rest := dropNote (digits.drop 3) }
  else if startsWithWord "0x" digits then
    match readPointed 16 (digits.drop 2) with
    | none => decimal
    | some (n, places, rest) =>
      let (e, rest) := readExponent ['p', 'P'] rest
      let (value, far) := ofScaled negative 2 n (e - 4 * places)
      { value := value, outOfRange := far, rest := rest }
  else decimal

/-- How a number is written. -/
inductive Notation where
  /-- With a point among the digits. -/
  | fixed
  /-- With an exponent. -/
  | scientific
  /-- As is shorter. -/
  | general
  /-- In hexadecimal digits. -/
  | hexadecimal
deriving DecidableEq, Repr

/-- Decimal digits, at least `n` of them. -/
def paddedDigits (base n k : Nat) : Chars :=
  let ds := Nat.toDigits base k
  List.replicate (n - ds.length) '0' ++ ds

/-- Digits of which the last `places` stand after a point. -/
def withPoint (keepPoint : Bool) (places : Nat) (ds : Chars) : Chars :=
  let whole := ds.take (ds.length - places)
  if places = 0 then if keepPoint then whole ++ ['.'] else whole
  else whole ++ '.' :: ds.drop (ds.length - places)

/-- A quotient that is the number `m * 2 ^ e`. -/
def quotientOf (m : Nat) (e : Int) : Nat × Nat :=
  if e ≥ 0 then (m * Nat.pow 2 e.toNat, 1) else (m, Nat.pow 2 (-e).toNat)

/-- A number with a fixed number of places. -/
def fixedDigits (keepPoint : Bool) (places m : Nat) (e : Int) : Chars :=
  let (a, b) := quotientOf m e
  withPoint keepPoint places (paddedDigits 10 (places + 1) (roundedQuotient (a * Nat.pow 10 places) b))

/-- The first `places + 1` digits of a number, and the power of ten that the first stands for. -/
def leadingDigits (places m : Nat) (e : Int) : Nat × Int :=
  if m = 0 then (0, 0)
  else
    let (a, b) := quotientOf m e
    let digitCount (n : Nat) : Int := (Nat.toDigits 10 n).length
    let x : Int := if a ≥ b then digitCount (a / b) - 1 else -(digitCount ((b - 1) / a))
    let shift : Int := places - x
    let ds := if shift ≥ 0 then roundedQuotient (a * Nat.pow 10 shift.toNat) b
      else roundedQuotient a (b * Nat.pow 10 (-shift).toNat)
    if ds ≥ Nat.pow 10 (places + 1) then (ds / 10, x + 1) else (ds, x)

/-- An exponent with its sign and at least `n` digits. -/
def exponentText (mark : Char) (n : Nat) (x : Int) : Chars :=
  mark :: (if x < 0 then '-' else '+') :: paddedDigits 10 n x.natAbs

/-- A number with an exponent. -/
def scientificDigits (keepPoint : Bool) (places m : Nat) (e : Int) : Chars :=
  let (ds, x) := leadingDigits places m e
  withPoint keepPoint places (paddedDigits 10 (places + 1) ds) ++ exponentText 'e' 2 x

/-- The text without zeros at the end of its fraction. -/
def withoutEndZeros (cs : Chars) : Chars :=
  if cs.contains '.' then
    let kept := cs.reverse.dropWhile (· = '0')
    (if kept.head? = some '.' then kept.tail else kept).reverse
  else cs

/-- A number as is shorter, with so many digits. -/
def generalDigits (keepZeros : Bool) (digits m : Nat) (e : Int) : Chars :=
  let digits := max digits 1
  let (ds, x) := leadingDigits (digits - 1) m e
  let trim (cs : Chars) : Chars := if keepZeros then cs else withoutEndZeros cs
  if -4 ≤ x && x < digits then
    trim (fixedDigits keepZeros ((digits : Int) - 1 - x).toNat m e)
  else
    trim (withPoint keepZeros (digits - 1) (paddedDigits 10 digits ds)) ++ exponentText 'e' 2 x

/-- A number in hexadecimal digits. -/
def hexadecimalDigits (keepPoint : Bool) (places : Option Nat) (m : Nat) (e : Int) : Chars :=
  let full := 13
  let (lead, x) :=
    if m = 0 then (0, 0)
    else
      let lacking := mantissaBits - 1 - m.log2
      if e - lacking ≥ leastExponent then (m * Nat.pow 2 lacking, e - lacking + 52) else (m, e + 52)
  let text (k : Nat) (v : Nat) : Chars := paddedDigits 16 (k + 1) v
  let digits := match places with
    | some k =>
      if k ≥ full then withPoint keepPoint k (text full lead ++ List.replicate (k - full) '0')
      else withPoint keepPoint k (text k (roundedQuotient lead (Nat.pow 16 (full - k))))
    | none =>
      let fraction := (text full lead).drop 1
      let kept := (fraction.reverse.dropWhile (· = '0')).reverse
      withPoint keepPoint kept.length ((text full lead).take 1 ++ kept)
  '0' :: 'x' :: digits ++ exponentText 'p' 1 x

/-- The digits of a number without its sign, and whether they can be filled up with zeros. -/
def digits (n : Notation) (alternative : Bool) (precision : Option Nat) : Real → Chars × Bool
  | .infinite _ => ("inf".toList, false)
  | .undefined _ => ("nan".toList, false)
  | .finite _ m e =>
    let places := precision.getD 6
    (match n with
      | .fixed => fixedDigits alternative places m e
      | .scientific => scientificDigits alternative places m e
      | .general => generalDigits alternative places m e
      | .hexadecimal => hexadecimalDigits alternative precision m e, true)

/-- The number has a minus sign. -/
def isNegative : Real → Bool
  | .finite negative _ _ | .infinite negative | .undefined negative => negative

end Real

end LineShell.Script
