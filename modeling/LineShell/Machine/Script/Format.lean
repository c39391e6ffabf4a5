import LineShell.Machine.Script.Decimal

/-!
# Formatted output

The escapes that `echo` and `printf` know, and the formats of `printf`. A format is gone through
again as long as there are arguments and it takes some of them.
-/

namespace LineShell.Script

/-- The character that stands after a backslash for one that cannot be written itself. -/
def escapeOf (c : Char) : Option Char :=
  [('\\', '\\'), ('a', '\x07'), ('b', '\x08'), ('e', '\x1b'), ('f', '\x0c'), ('n', '\n'),
    ('r', '\r'), ('t', '\t'), ('v', '\x0b')].lookup c

/-- Read the escape after a backslash: the characters that it stands for and what comes after it. -/
def takeEscape (cs : Chars) : Chars × Chars :=
  match cs with
  | [] => (['\\'], [])
  | c :: rest =>
    if isOctal c then
      let ds := (cs.take 3).takeWhile isOctal
      ([Char.ofNat (ofDigits 8 ds % 256)], cs.drop ds.length)
    else
      match escapeOf c with
      | some e => ([e], rest)
      | none => (['\\'], cs)

/-- The text that `cs` stands for in `echo` and in the format `%b`, with at most `n` characters read,
and whether it ends the output. -/
def unescapeUpTo (n : Nat) (cs : Chars) : Chars × Bool :=
  match n, cs with
  | 0, _ | _ + 1, [] => ([], false)
  | n + 1, '\\' :: cs =>
    if cs.head? = some 'c' then ([], true)
    else
      let skipsZero := cs.head? = some '0' && (cs.tail.head?).any isOctal
      let (e, rest) := takeEscape (if skipsZero then cs.tail else cs)
      let (more, stop) := unescapeUpTo n rest
      (e ++ more, stop)
  | n + 1, c :: cs =>
    let (more, stop) := unescapeUpTo n cs
    (c :: more, stop)

/-- The text that `cs` stands for in `echo`, and whether it ends the output. -/
def unescapeText (cs : Chars) : Chars × Bool :=
  unescapeUpTo (cs.length + 1) cs

/-- What `echo` writes. -/
def echoText (args : List Chars) : Chars :=
  let (plain, args) := match args with
    | ['-', 'n'] :: args => (true, args)
    | args => (false, args)
  let (text, stop) := unescapeText (joined args)
  if plain || stop then text else text ++ ['\n']

/-- How a format lays out one argument. -/
structure Layout where
  left : Bool := false
  zeros : Bool := false
  plus : Bool := false
  space : Bool := false
  alternative : Bool := false
  width : Nat := 0
  precision : Option Nat := none

namespace Layout

/-- Fill `cs` up to the width. -/
def pad (l : Layout) (cs : Chars) : Chars :=
  let fill := List.replicate (l.width - cs.length) ' '
  if l.left then cs ++ fill else fill ++ cs

/-- Fill a number up to the width: its sign, and its digits. -/
def padNumber (l : Layout) (zeros : Bool) (sign digits : Chars) : Chars :=
  if zeros && !l.left then
    sign ++ List.replicate (l.width - sign.length - digits.length) '0' ++ digits
  else l.pad (sign ++ digits)

/-- Lay out a whole number. -/
def whole (l : Layout) (sign digits : Chars) : Chars :=
  let digits := if l.precision = some 0 && digits = ['0'] then [] else digits
  let digits := List.replicate (l.precision.getD 1 - digits.length) '0' ++ digits
  l.padNumber (l.zeros && l.precision.isNone) sign digits

/-- The sign of a number. -/
def signOf (l : Layout) (negative : Bool) : Chars :=
  if negative then ['-'] else if l.plus then ['+'] else if l.space then [' '] else []

/-- Read flags. -/
def takeFlags (l : Layout) : Chars → Layout × Chars
  | '-' :: cs => takeFlags { l with left := true } cs
  | '0' :: cs => takeFlags { l with zeros := true } cs
  | '+' :: cs => takeFlags { l with plus := true } cs
  | ' ' :: cs => takeFlags { l with space := true } cs
  | '#' :: cs => takeFlags { l with alternative := true } cs
  | cs => (l, cs)

end Layout

/-- What `printf` has done so far. -/
structure Printed where
  text : Chars := []
  args : List Chars
  /-- An argument was taken. -/
  took : Bool := false
  /-- Output ends here. -/
  stop : Bool := false
  /-- What is wrong with arguments. -/
  faults : List Chars := []
  /-- What is wrong with the format. -/
  refusal : Option Chars := none

namespace Printed

/-- Add `cs` to what is printed. -/
def emit (p : Printed) (cs : Chars) : Printed :=
  { p with text := p.text ++ cs }

/-- Go no further. -/
def refuse (p : Printed) (message : Chars) : Printed :=
  { p with stop := true, refusal := some message }

/-- Take the next argument. -/
def next (p : Printed) : Option Chars × Printed :=
  match p.args with
  | [] => (none, p)
  | a :: args => (some a, { p with args := args, took := true })

/-- Check how an argument was read as a number. -/
def check (p : Printed) (arg rest : Chars) (found outOfRange : Bool) : Printed :=
  let fault (why : String) : Printed :=
    { p with faults := p.faults ++ [arg ++ ofString s!": {why}"] }
  if !rest.isEmpty then
    fault (if found then "not completely converted" else "expected numeric value")
  else if outOfRange then fault "Numerical result out of range"
  else p

/-- The number of the character that a quote is followed by. -/
def codeAfterQuote (cs : Chars) : Option Nat :=
  match cs with
  | q :: more => if q = '\'' || q = '"' then some ((more.head?.map Char.toNat).getD 0) else none
  | [] => none

/-- Take the next argument as a whole number. -/
def nextInt (p : Printed) : Int × Printed :=
  match p.next with
  | (none, p) => (0, p)
  | (some cs, p) =>
    match codeAfterQuote cs with
    | some n => (n, p)
    | none =>
      let r := Number.read false cs
      (r.clamped, p.check cs r.rest r.found r.overflows)

/-- Take the next argument as a whole number without a sign. -/
def nextNat (p : Printed) : Nat × Printed :=
  match p.next with
  | (none, p) => (0, p)
  | (some cs, p) =>
    match codeAfterQuote cs with
    | some n => (n, p)
    | none =>
      let r := Number.read false cs
      (r.clampedUnsigned, p.check cs r.rest r.found r.overflowsUnsigned)

/-- Take the next argument as a number with a fraction. -/
def nextReal (p : Printed) : Real × Printed :=
  match p.next with
  | (none, p) => (.finite false 0 0, p)
  | (some cs, p) =>
    match codeAfterQuote cs with
    | some n => ((Real.ofQuotient false n 1).1, p)
    | none =>
      let r := Real.read cs
      (r.value, p.check cs r.rest r.found r.outOfRange)

end Printed

/-- The notations of the conversions for numbers with fractions. -/
def realConversions : List (Char × Real.Notation) :=
  [('f', .fixed), ('e', .scientific), ('g', .general), ('a', .hexadecimal)]

/-- Lay out one argument as the conversion `c` says, unless there is no such conversion. -/
def convert (l : Layout) (c : Char) (p : Printed) : Option Printed :=
  let unsigned (base : Nat) (mark : Chars) (upper : Bool) : Printed :=
    let (v, p) := p.nextNat
    let ds := Nat.toDigits base v
    let ds := if upper then ds.map Char.toUpper else ds
    let ds := if base = 8 && l.alternative && v ≠ 0 then '0' :: ds else ds
    p.emit (l.whole (if l.alternative && v ≠ 0 then mark else []) ds)
  match c with
  | 's' =>
    let (a, p) := p.next
    let cs := a.getD []
    some (p.emit (l.pad (cs.take (l.precision.getD cs.length))))
  | 'b' =>
    let (a, p) := p.next
    let (cs, stop) := unescapeText (a.getD [])
    some { p.emit (l.pad (cs.take (l.precision.getD cs.length))) with stop := stop }
  | 'c' =>
    let (a, p) := p.next
    some (p.emit (l.pad [(a.getD []).headD '\x00']))
  | 'd' | 'i' =>
    let (v, p) := p.nextInt
    some (p.emit (l.whole (l.signOf (v < 0)) (Nat.toDigits 10 v.natAbs)))
  | 'u' => some (unsigned 10 [] false)
  | 'o' => some (unsigned 8 [] false)
  | 'x' => some (unsigned 16 ['0', 'x'] false)
  | 'X' => some (unsigned 16 ['0', 'X'] true)
  | c =>
    (realConversions.lookup c.toLower).map fun n =>
      let (v, p) := p.nextReal
      let (ds, zeros) := v.digits n l.alternative l.precision
      let isHex := n = .hexadecimal && zeros
      let (mark, ds) := if isHex then (ds.take 2, ds.drop 2) else ([], ds)
      let text := l.padNumber (l.zeros && zeros) (l.signOf v.isNegative ++ mark) ds
      p.emit (if c.isUpper then text.map Char.toUpper else text)

/-- Read the number at the front. -/
def takeNumber (cs : Chars) : Option Nat × Chars :=
  let ds := cs.takeWhile Char.isDigit
  (if ds.isEmpty then none else some (ofDigits 10 ds), cs.drop ds.length)

/-- Read a width or a precision, which may be an argument. -/
def takeExtent (p : Printed) (cs : Chars) : Option Int × Printed × Chars :=
  match cs with
  | '*' :: cs =>
    let (v, p) := p.nextInt
    (some v, p, cs)
  | cs =>
    let (v, cs) := takeNumber cs
    (v.map fun n => (n : Int), p, cs)

/-- Carry out the format after a percent sign; the result is what comes after it. -/
def printDirective (cs : Chars) (p : Printed) : Printed × Chars :=
  let (l, rest) := Layout.takeFlags {} cs
  let (width, p, rest) := takeExtent p rest
  let (precision, p, rest) := match rest with
    | '.' :: rest =>
      let (v, p, rest) := takeExtent p rest
      (some (v.getD 0), p, rest)
    | rest => (none, p, rest)
  let width := width.getD 0
  let l := { l with
    left := l.left || width < 0
    width := width.natAbs
    precision := precision.bind fun k => if k < 0 then none else some k.toNat }
  match rest with
  | [] => (p.refuse (ofString "missing format character"), [])
  | c :: rest' =>
    match convert l c p with
    | some p => (p, rest')
    | none =>
      let written := '%' :: cs.take (cs.length - rest'.length)
      (p.refuse (written ++ ofString ": invalid directive"), rest')

/-- Go through a format once, with at most `n` characters read. -/
def printOnce (n : Nat) (format : Chars) (p : Printed) : Printed :=
  match n, format with
  | 0, _ | _ + 1, [] => p
  | n + 1, '\\' :: cs =>
    let (e, rest) := takeEscape cs
    printOnce n rest (p.emit e)
  | n + 1, '%' :: '%' :: cs => printOnce n cs (p.emit ['%'])
  | n + 1, '%' :: cs =>
    let (p, rest) := printDirective cs p
    if p.stop then p else printOnce n rest p
  | n + 1, c :: cs => printOnce n cs (p.emit [c])

/-- Go through a format as long as there are arguments, at most `n` times. -/
def printAll (n : Nat) (format : Chars) (p : Printed) : Printed :=
  match n with
  | 0 => p
  | n + 1 =>
    let p := printOnce (format.length + 1) format { p with took := false }
    if p.stop || !p.took || p.args.isEmpty then p else printAll n format p

/-- What `printf` does with a format and arguments. -/
def printText (format : Chars) (args : List Chars) : Printed :=
  printAll (args.length + 1) format { args := args }

end LineShell.Script
