import LineShell.Machine.Script.Operands
import LineShell.Machine.Script.Search

/-!
# Names of commands

The builtin commands about what names stand for: `alias`, `unalias`, `hash`, `type` and the questions
that `command` answers. Lists are in the order of a table with a fixed number of rows, in which the
row of a name follows from its characters.
-/

namespace LineShell.Script

namespace Builtin

/-- The row of a name in a table with `rows` rows. -/
def tableRow (rows : Nat) (name : Chars) : Nat :=
  let first := (name.head?.map Char.toNat).getD 0
  (name.foldl (fun sum c => sum + c.toNat) (first * 16)) % 32768 % rows

/-- Entries in the order of a table with `rows` rows. -/
def inTableOrder {α : Type} (rows : Nat) (entries : List (Chars × α)) : List (Chars × α) :=
  (List.range rows).flatMap fun row => entries.filter fun e => tableRow rows e.1 = row

/-- How many rows the table of aliases has. -/
def aliasRows : Nat := 39

/-- How many rows the table of programs has. -/
def programRows : Nat := 31

/-- An alias as it is written down. -/
def aliasText (name value : Chars) : Chars :=
  name ++ '=' :: quotedText value ++ ['\n']

/-- Show the alias that `arg` names, or make the one that it defines. -/
def aliasOne (arg : Chars) : ScriptM Nat := do
  let s ← get
  let name := arg.take 1 ++ (arg.drop 1).takeWhile (· ≠ '=')
  if name.length < arg.length then
    let value := arg.drop (name.length + 1)
    let aliases := if s.aliases.any (·.1 = name)
      then s.aliases.map fun a => if a.1 = name then (name, value) else a
      else s.aliases ++ [(name, value)]
    set { s with aliases := aliases }
    return 0
  else
    match s.aliases.lookup arg with
    | some value =>
      ScriptM.print (aliasText arg value)
      return 0
    | none =>
      ScriptM.writeError (ofString "alias: " ++ arg ++ ofString " not found\n")
      return 1

/-- Do `f` with each of `args`; the result is 1 if one of them fails. -/
def each (f : Chars → ScriptM Nat) : List Chars → ScriptM Nat
  | [] => return 0
  | a :: args => do
    let here ← f a
    let rest ← each f args
    return max here rest

/-- Show or make aliases. -/
def runAlias (args : List Chars) : ScriptM Nat := do
  if args.isEmpty then
    for (name, value) in inTableOrder aliasRows (← get).aliases do
      ScriptM.print (aliasText name value)
  each aliasOne args

/-- Take aliases away. -/
def runUnalias (args : List Chars) : ScriptM Nat := do
  let (first, _) ← OptionReader.next "a" { args := args }
  if first.isSome then
    modify fun s => { s with aliases := [] }
    return 0
  each (fun name => do
    let s ← get
    if (s.aliases.lookup name).isSome then
      set { s with aliases := s.aliases.filter (·.1 ≠ name) }
      return 0
    else
      ScriptM.writeError (ofString "unalias: " ++ name ++ ofString " not found\n")
      return 1) (← operandsOf args)

/-- The path name of the program `name`, which was found at the number `index` of a search path. -/
def placeOf (path name : Chars) (index : Option Nat) : Chars :=
  match index with
  | none => name
  | some i => ((candidates path name)[i]?).getD name

/-- Show or change what is remembered about programs. -/
def runHash (args : List Chars) : ScriptM Nat := do
  let (first, _) ← OptionReader.next "r" { args := args }
  if first.isSome then
    modify fun s => { s with known := [] }
    return 0
  let names ← operandsOf args
  if names.isEmpty then
    let s ← get
    for (name, index, doubted) in inTableOrder programRows s.known do
      let mark := if doubted then ['*'] else []
      ScriptM.print (placeOf s.searchPath name (some index) ++ mark ++ ['\n'])
  each (fun name => do
    modify fun s => s.forget name
    match ← find { complains := true } name with
    | .nothing => return 1
    | _ => return 0) names

/-- Tell what `name` stands for: at length, or in the words that call it. -/
def describe (path : Option Chars) (atLength : Bool) (name : Chars) : ScriptM Nat := do
  let s ← get
  let tell (long short : Chars) : ScriptM Nat := do
    ScriptM.print ((if atLength then name ++ long else short) ++ ['\n'])
    return 0
  if Token.keywords.any fun k => k.toList = name then
    return ← tell (ofString " is a shell keyword") name
  match s.aliases.lookup name with
  | some value =>
    if atLength then tell (ofString " is an alias for " ++ value) []
    else
      ScriptM.print (ofString "alias " ++ aliasText name value)
      return 0
  | none =>
    let remembered := path.isNone && (s.known.lookup name).isSome
    let found ← if remembered then pure (Found.program ((s.known.lookup name).map (·.1)))
      else find { path := path, mustExist := true } name
    match found with
    | .function _ => tell (ofString " is a shell function") name
    | .builtin entry =>
      let kind := if entry.special then "special " else ""
      tell (ofString s!" is a {kind}shell builtin") name
    | .program index =>
      let place := placeOf (path.getD s.searchPath) name index
      let how := if remembered then " is a tracked alias for " else " is "
      tell (ofString how ++ place) place
    | .nothing =>
      if atLength then ScriptM.print (name ++ ofString ": not found\n")
      return 127

/-- Tell what names stand for. -/
def runType : List Chars → ScriptM Nat
  | [] => return 0
  | name :: names => do
    let here ← describe none true name
    let rest ← runType names
    return here ||| rest

/-- Tell what the name of a command stands for, if that is asked. -/
def runCommand (args : List Chars) : ScriptM Nat := do
  let (options, operands) ← readOptions "pvV" args
  let has (c : Char) : Bool := options.any (·.letter = c)
  match operands with
  | name :: _ =>
    if has 'v' || has 'V' then
      describe (if has 'p' then some standardPath else none) (has 'V') name
    else return 0
  | [] => return 0

end Builtin

end LineShell.Script
