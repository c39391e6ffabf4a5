import LineShell.Text.Utf8

/-!
# Arguments of programs

How the programs of the machine tell options from operands: options are letters after a dash, or
words after two dashes, of which the beginning is enough; they may stand between operands, and two
dashes alone end them.
-/

namespace LineShell

namespace Tool

/-- Whether an option takes a value. -/
inductive ValueUse where
  | none
  | required
  | optional
deriving DecidableEq, Repr

/-- An option that is called by a word. -/
structure LongOption where
  name : String
  /-- The letter that means the same, or stands for it. -/
  letter : Char
  value : ValueUse := .none

/-- The options that a program knows. -/
structure OptionTable where
  /-- The letters, with those that take a value. -/
  letters : List (Char × ValueUse)
  words : List LongOption

/-- An option that was given. -/
structure Given where
  letter : Char
  value : Option Bytes := none
  /-- The argument that it stands in. -/
  argument : Bytes

/-- What arguments mean. -/
structure Parsed where
  options : List Given := []
  operands : List Bytes := []

/-- What is wrong with an option. -/
inductive OptionFault where
  | unknownLetter (c : UInt8)
  | letterWithoutValue (c : Char)
  | unknownWord (written : Bytes)
  | ambiguous (written : Bytes) (names : List String)
  | unexpectedValue (name : String)
  | wordWithoutValue (name : String)

/-- The message about an option. -/
def OptionFault.message : OptionFault → Bytes
  | .unknownLetter c => Bytes.ofString "invalid option -- '" ++ c :: Bytes.ofString "'"
  | .letterWithoutValue c => Bytes.ofString s!"option requires an argument -- '{c}'"
  | .unknownWord written =>
    Bytes.ofString "unrecognized option '" ++ written ++ Bytes.ofString "'"
  | .ambiguous written names =>
    Bytes.ofString "option '" ++ written ++ Bytes.ofString "' is ambiguous; possibilities:" ++
      names.flatMap fun n => Bytes.ofString s!" '--{n}'"
  | .unexpectedValue name => Bytes.ofString s!"option '--{name}' doesn't allow an argument"
  | .wordWithoutValue name => Bytes.ofString s!"option '--{name}' requires an argument"

/-- The options of a table with letters that take no value. -/
def OptionTable.ofLetters (letters : String) (withValue : String) (words : List LongOption) :
    OptionTable :=
  { letters := letters.toList.map (·, .none) ++ withValue.toList.map (·, .required)
    words := words ++ [{ name := "help", letter := '\x01' }, { name := "version", letter := '\x02' }] }

namespace OptionTable

/-- The options that the word `name` may call: the one of that name, or those that begin so. -/
def called (t : OptionTable) (name : Bytes) : List LongOption :=
  match t.words.find? fun w => Bytes.ofString w.name = name with
  | some w => [w]
  | none => t.words.filter fun w => name.isPrefixOf (Bytes.ofString w.name)

/-- Read letters of the argument `argument`; a value may be the rest of it or come from `rest`. -/
def readLetters (t : OptionTable) (argument : Bytes) (rest : List Bytes) :
    Bytes → Except OptionFault (List Given × List Bytes)
  | [] => .ok ([], rest)
  | b :: bs => do
    let c := Char.ofNat b.toNat
    match t.letters.lookup c with
    | none => throw (.unknownLetter b)
    | some .none =>
      let (more, rest) ← t.readLetters argument rest bs
      return (⟨c, none, argument⟩ :: more, rest)
    | some .optional => return ([⟨c, some bs, argument⟩], rest)
    | some .required =>
      if !bs.isEmpty then return ([⟨c, some bs, argument⟩], rest)
      match rest with
      | v :: rest => return ([⟨c, some v, argument⟩], rest)
      | [] => throw (.letterWithoutValue c)

/-- Read a word after two dashes; a value may follow an equals sign or come from `rest`. -/
def readWord (t : OptionTable) (argument word : Bytes) (rest : List Bytes) :
    Except OptionFault (Given × List Bytes) := do
  let name := word.takeWhile (· ≠ 0x3D)
  let value := if name.length < word.length then some (word.drop (name.length + 1)) else none
  match t.called name with
  | [] => throw (.unknownWord argument)
  | w :: others =>
    if others.any fun o => o.letter ≠ w.letter then
      throw (.ambiguous argument ((w :: others).map (·.name)))
    match w.value, value with
    | .none, some _ => throw (.unexpectedValue w.name)
    | .required, none =>
      match rest with
      | v :: rest => return (⟨w.letter, some v, argument⟩, rest)
      | [] => throw (.wordWithoutValue w.name)
    | _, value => return (⟨w.letter, value, argument⟩, rest)

/-- Read at most `n` arguments. -/
def readUpTo (t : OptionTable) (n : Nat) (args : List Bytes) : Except OptionFault Parsed := do
  match n, args with
  | 0, _ | _, [] => return {}
  | n + 1, a :: rest =>
    if a = Bytes.ofString "--" then return { operands := rest }
    match a with
    | 0x2D :: 0x2D :: word =>
      let (o, rest) ← t.readWord a word rest
      let p ← t.readUpTo n rest
      return { p with options := o :: p.options }
    | 0x2D :: b :: bs =>
      let (os, rest) ← t.readLetters a rest (b :: bs)
      let p ← t.readUpTo n rest
      return { p with options := os ++ p.options }
    | _ =>
      let p ← t.readUpTo n rest
      return { p with operands := a :: p.operands }

/-- Read arguments. -/
def read (t : OptionTable) (args : List Bytes) : Except OptionFault Parsed :=
  t.readUpTo args.length args

end OptionTable

namespace Parsed

/-- An option of one of the letters was given. -/
def has (p : Parsed) (letters : String) : Bool :=
  p.options.any fun o => letters.toList.contains o.letter

/-- The last option that was given of those with the letters. -/
def last (p : Parsed) (letters : String) : Option Given :=
  (p.options.filter fun o => letters.toList.contains o.letter).getLast?

/-- The value of the last option with the letter. -/
def value (p : Parsed) (letter : Char) : Option Bytes :=
  ((p.options.filter (·.letter = letter)).getLast?).bind (·.value)

end Parsed

end Tool

end LineShell
