import LineShell.Machine.Script.Scope

/-!
# Options and operands

How builtin commands read their options: letters after a dash, one or more in a word, up to a word
that is no option or to two dashes. Some letters take a value, which is the rest of the word or the
next word.
-/

namespace LineShell.Script

/-- Where the options of a command have been read to. -/
structure OptionReader where
  /-- What is left of a word with options. -/
  word : Chars := []
  /-- The words after it. -/
  args : List Chars

/-- An option: its letter, and its value if it takes one. -/
structure OptionRead where
  letter : Char
  value : Chars := []

/-- Whether the letter is among the `known` ones, in which a colon follows a letter that takes a
value: whether it takes one. -/
def optionKind (c : Char) : Chars → Option Bool
  | [] => none
  | k :: ':' :: ks => if k = c then some true else optionKind c ks
  | k :: ks => if k = c then some false else optionKind c ks

namespace OptionReader

/-- Read an option, if there is one. -/
def next (known : String) (r : OptionReader) : ScriptM (Option OptionRead × OptionReader) := do
  let r : OptionReader := match r.word, r.args with
    | [], ('-' :: c :: cs) :: args =>
      if c = '-' && cs.isEmpty then { args := args } else { word := c :: cs, args := args }
    | _, _ => r
  match r.word with
  | [] => return (none, r)
  | c :: cs =>
    match optionKind c known.toList with
    | none => ScriptM.fail (ofString "Illegal option -" ++ [c])
    | some false => return (some { letter := c }, { r with word := cs })
    | some true =>
      if !cs.isEmpty then return (some ⟨c, cs⟩, { r with word := [] })
      else
        match r.args with
        | v :: args => return (some ⟨c, v⟩, { args := args })
        | [] => ScriptM.fail (ofString "No arg for -" ++ c :: ofString " option")

/-- Read all options, at most `n`; the result has the options and the operands. -/
def readAll (known : String) (n : Nat) (r : OptionReader) :
    ScriptM (List OptionRead × List Chars) := do
  match n with
  | 0 => return ([], r.args)
  | n + 1 =>
    match ← r.next known with
    | (none, r) => return ([], r.args)
    | (some o, r) =>
      let (os, operands) ← r.readAll known n
      return (o :: os, operands)

end OptionReader

/-- Read the options at the front of arguments; the result has the options and the operands. -/
def readOptions (known : String) (args : List Chars) : ScriptM (List OptionRead × List Chars) :=
  OptionReader.readAll known (args.flatten.length + 1) { args := args }

/-- The operands of a command that takes no options. -/
def operandsOf (args : List Chars) : ScriptM (List Chars) :=
  return (← readOptions "" args).2

/-- The number that an argument writes, which must be one that counts something. -/
def countOf (cs : Chars) : ScriptM Nat := do
  match Number.count? cs with
  | some n => return n
  | none => ScriptM.illegalNumber cs

end LineShell.Script
