import LineShell.Machine.Script.Expansion
import LineShell.Machine.Script.Operands

/-!
# Variables, arguments and options

The builtin commands that change variables, the arguments of the script and its options: `export`,
`readonly`, `unset`, `local`, `set`, `shift`, `getopts` and `read`.
-/

namespace LineShell.Script

namespace Builtin

/-- Refuse a text that is no name. -/
def demandName (name : Chars) : ScriptM Unit := do
  if !isName name then ScriptM.fail (name ++ ofString ": bad variable name")

/-- The name that an assignment begins with, and the value if it has one. -/
def assignment (text : Chars) : Chars × Option Chars :=
  let name := text.takeWhile (· ≠ '=')
  (name, if name.length < text.length then some (text.drop (name.length + 1)) else none)

/-- Show variables, each as an assignment, in the order of their names. -/
def showVariables (before : Chars) (shown : Variable → Bool) : ScriptM Unit := do
  let vs := ((← get).vars.filter shown).mergeSort fun a b => a.name.le b.name
  for v in vs do
    let value := (v.value.map fun x => '=' :: quotedText x).getD []
    ScriptM.print (before ++ v.name ++ value ++ ['\n'])

/-- Mark the variable that `text` names or assigns. -/
def markVariable (mark : Variable → Variable) (text : Chars) : ScriptM Unit := do
  let (name, value) := assignment text
  let old := (← get).lookup? name
  if value.isNone && old.isSome then modify fun s => s.putEntry name (old.map mark)
  else
    demandName name
    match value with
    | some value => ScriptM.setVariable name value
    | none => modify fun s => s.putEntry name (some { name := name, value := none })
    modify fun s => s.putEntry name ((s.lookup? name).map mark)

/-- Mark variables, or show those that are marked. -/
def markVariables (command : String) (isMarked : Variable → Bool) (mark : Variable → Variable)
    (args : List Chars) : ScriptM Nat := do
  let (first, r) ← OptionReader.next "p" { args := args }
  if first.isSome || r.args.isEmpty then showVariables (ofString s!"{command} ") isMarked
  else r.args.forM (markVariable mark)
  return 0

/-- Hand variables down to programs. -/
def runExport : List Chars → ScriptM Nat :=
  markVariables "export" (·.exported) fun v => { v with exported := true }

/-- Protect variables from being changed. -/
def runReadonly : List Chars → ScriptM Nat :=
  markVariables "readonly" (·.isFixed) fun v => { v with isFixed := true }

/-- Take variables or functions away. -/
def runUnset (args : List Chars) : ScriptM Nat := do
  let (options, names) ← readOptions "vf" args
  let functions := (options.getLast?.map (·.letter)) = some 'f'
  for name in names do
    if functions then
      modify fun s => { s with functions := s.functions.filter (·.1 ≠ name) }
    else
      let (name, _) := assignment name
      demandName name
      ScriptM.unsetVariable name
      if name = "PATH".toList then modify fun s => { s with known := [] }
      if name = "OPTIND".toList then ScriptM.markOptions []
  return 0

/-- Make the variable that `text` names or assigns one of the innermost scope; `-` stands for the
options. -/
def makeLocal (exported : Bool) (text : Chars) : ScriptM Unit := do
  let s ← get
  if text = ['-'] then
    match s.localOptions with
    | none :: more => set { s with localOptions := some s.options :: more }
    | _ => pure ()
  else
    let (name, value) := assignment text
    match value with
    | some value =>
      modify fun s => s.remember name
      ScriptM.assign name value exported
    | none =>
      if (s.lookup? name).isNone then
        demandName name
        modify fun s => s.remember name
        modify fun s => s.putEntry name (some { name := name, value := none, exported := exported })
      else modify fun s => s.remember name

/-- Make variables local. -/
def runLocal (args : List Chars) : ScriptM Nat := do
  if (← get).locals.isEmpty then ScriptM.fail (ofString "not in a function")
  args.forM (makeLocal false)
  return 0

/-- The options with their letters; those that can only be called by name have a letter that no
script writes. -/
def optionNames : List (String × Char) :=
  [("errexit", 'e'), ("noglob", 'f'), ("ignoreeof", 'I'), ("interactive", 'i'), ("monitor", 'm'),
    ("noexec", 'n'), ("stdin", 's'), ("xtrace", 'x'), ("verbose", 'v'), ("vi", 'V'), ("emacs", 'E'),
    ("noclobber", 'C'), ("allexport", 'a'), ("notify", 'b'), ("nounset", 'u'), ("privileged", 'p'),
    ("nolog", '\x00'), ("debug", '\x01')]

/-- Switch the option with a letter. -/
def switchOption (c : Char) (on : Bool) : ScriptM Unit := do
  if !optionLetters.contains c then ScriptM.fail (ofString "Illegal option -" ++ [c])
  modify fun s => s.switch c on
  if on && c = 'V' then modify fun s => s.switch 'E' false
  if on && c = 'E' then modify fun s => s.switch 'V' false
  if on && c = 'm' then
    modify fun s => s.switch 'm' false
    ScriptM.complain (ofString "can't access tty; job control turned off")

/-- Switch the option called `name`, or show all options. -/
def switchNamed (name : Option Chars) (on : Bool) : ScriptM Unit := do
  match name with
  | some name =>
    match optionNames.find? (·.1.toList = name) with
    | some (_, c) => modify fun s => s.switch c on
    | none => ScriptM.fail (ofString "Illegal option -o " ++ name)
  | none =>
    let s ← get
    if on then ScriptM.print (ofString "Current option settings\n")
    for (name, c) in optionNames do
      if on then
        let blanks := String.ofList (List.replicate (16 - name.length) ' ')
        let state := if s.option c then "on" else "off"
        ScriptM.print (ofString s!"{name}{blanks}{state}\n")
      else
        let sign := if s.option c then "-o" else "+o"
        ScriptM.print (ofString s!"set {sign} {name}\n")

/-- Give the script other arguments. -/
def setArguments (args : List Chars) : ScriptM Unit :=
  modify fun s => { s with args := args, optionMark := {} }

/-- Switch the options of a word, in which `rest` follows; the result is what follows then. With
`atStart` the letters `c` and `l` are not for the script, and `c` is told. -/
def switchWord (atStart : Bool) (on : Bool) (rest : List Chars) :
    Chars → ScriptM (Bool × List Chars)
  | [] => return (false, rest)
  | c :: cs => do
    if c = 'o' then
      switchNamed rest.head? on
      switchWord atStart on rest.tail cs
    else if atStart && (c = 'c' || c = 'l') then
      let (commands, rest) ← switchWord atStart on rest cs
      return (commands || c = 'c', rest)
    else
      switchOption c on
      switchWord atStart on rest cs

/-- Switch options as the words at the front of `args` say, of which there are at most `n`; the result
tells whether commands follow and what is left. -/
def switchWords (atStart : Bool) (n : Nat) (args : List Chars) : ScriptM (Bool × List Chars) := do
  match n, args with
  | n + 1, (sign :: cs) :: rest =>
    if sign ≠ '-' && sign ≠ '+' then return (false, args)
    if sign = '-' && (cs.isEmpty || cs = ['-']) then
      if !atStart then
        if cs.isEmpty then modify fun s => (s.switch 'x' false).switch 'v' false
        else if rest.isEmpty then setArguments []
      return (false, rest)
    let (here, rest) ← switchWord atStart (sign = '-') rest cs
    let (later, rest) ← switchWords atStart n rest
    return (here || later, rest)
  | _, _ => return (false, args)

/-- Show variables, switch options and set arguments. -/
def runSet (args : List Chars) : ScriptM Nat := do
  if args.isEmpty then showVariables [] (·.value.isSome)
  else
    let (_, rest) ← switchWords false args.length args
    if !rest.isEmpty then setArguments rest
  return 0

/-- Drop arguments. -/
def runShift (args : List Chars) : ScriptM Nat := do
  let n ← match args with
    | a :: _ => countOf a
    | [] => pure 1
  let s ← get
  if n > s.args.length then ScriptM.fail (ofString "can't shift that many")
  setArguments (s.args.drop n)
  return 0

/-- What reading an option yields. -/
structure OptionFound where
  letter : Char
  /-- The value of the variable `OPTARG`, unless it has none. -/
  value : Option Chars
  mark : OptionMark
  /-- What is written on the error stream. -/
  message : Chars := []

/-- Read the option at `mark` among `args`, of those that `known` lists. -/
def nextOption (known : Chars) (args : List Chars) (mark : OptionMark) : Option OptionFound × OptionMark :=
  let silent := known.head? = some ':'
  let index := mark.index
  let inWord := match mark.offset with
    | some k => if index ≤ 1 then [] else ((args[index - 2]?).getD []).drop k
    | none => []
  let start : Option (Chars × Nat) :=
    if !inWord.isEmpty then some (inWord, index)
    else
      match args[index - 1]? with
      | some ('-' :: c :: cs) => some (c :: cs, index + 1)
      | _ => none
  match start with
  | none => (none, { index := index })
  | some (word, index') =>
    if inWord.isEmpty && word = ['-'] then (none, { index := index' })
    else
      let c := word.headD '?'
      let rest := word.tail
      let current := (args[index' - 2]?).getD []
      let inside : OptionMark := { index := index', offset := some (current.length - rest.length) }
      let failure (letter : Char) (message : String) (mark : OptionMark) : OptionFound :=
        if silent then { letter := letter, value := some [c], mark := mark }
        else { letter := '?', value := none, mark := mark, message := ofString message }
      match optionKind c known with
      | none => (some (failure '?' s!"Illegal option -{c}\n" inside), inside)
      | some false => (some { letter := c, value := some [], mark := inside }, inside)
      | some true =>
        if !rest.isEmpty then
          (some { letter := c, value := some rest, mark := { index := index' } }, { index := index' })
        else
          match args[index' - 1]? with
          | some v =>
            let mark : OptionMark := { index := index' + 1 }
            (some { letter := c, value := some v, mark := mark }, mark)
          | none =>
            let mark : OptionMark := { index := index' }
            (some (failure ':' s!"No arg for -{c} option\n" mark), mark)

/-- Read an option of the script. -/
def runGetopts (args : List Chars) : ScriptM Nat := do
  match args with
  | known :: name :: words =>
    let s ← get
    let among := if words.isEmpty then s.args else words
    let mark := if s.optionMark.index > among.length + 1 then {} else s.optionMark
    let (found, mark) := nextOption known among mark
    match found with
    | some f =>
      ScriptM.writeError f.message
      match f.value with
      | some v => ScriptM.setVariable "OPTARG".toList v
      | none => ScriptM.unsetVariable "OPTARG".toList
    | none => pure ()
    let index := "OPTIND".toList
    ScriptM.changing index fun s => s.set index (ofNat mark.index)
    demandName name
    ScriptM.setVariable name [(found.map (·.letter)).getD '?']
    modify fun s => { s with optionMark := mark }
    return if found.isSome then 0 else 1
  | _ => ScriptM.fail (ofString "Usage: getopts optstring var [arg...]")

/-- A line that is being read: its stretches, last one first. -/
structure LineDraft where
  stretches : List Stretch := []
  /-- The characters of the stretch in progress, last one first. -/
  current : Chars := []
  /-- How many bytes have been read. -/
  count : Nat := 0

namespace LineDraft

/-- End the stretch in progress. -/
def close (d : LineDraft) : LineDraft :=
  if d.current.isEmpty then d
  else
    { d with
      stretches := ⟨.atSeparators, d.current.reverse.map .plain⟩ :: d.stretches
      current := [] }

/-- Read a line; a backslash takes the meaning of the next character away, unless `raw`, and `escaped`
tells that one stands before this character. The result tells whether there was a newline. -/
def read (raw escaped : Bool) (d : LineDraft) : Chars → LineDraft × Bool
  | [] => (d.close, false)
  | c :: cs =>
    let d := { d with count := d.count + 1 }
    if c = '\x00' then read raw escaped d cs
    else if escaped then
      if c = '\n' then read raw false d cs
      else read raw false { d with stretches := ⟨.never, [.plain c]⟩ :: d.stretches } cs
    else if c = '\n' then (d.close, true)
    else if c = '\\' && !raw then read raw true d.close cs
    else read raw false { d with current := c :: d.current } cs

end LineDraft

/-- Give the variables `names` the fields `fields`; those left over are empty. -/
def setFields : List Chars → List (List Glyph) → ScriptM Unit
  | [], _ => return
  | name :: names, fields => do
    demandName name
    ScriptM.setVariable name (Glyph.text (fields.headD []))
    setFields names fields.tail

/-- Read a line of input into variables. -/
def runRead (args : List Chars) : ScriptM Nat := do
  let (options, names) ← readOptions "p:r" args
  if names.isEmpty then ScriptM.fail (ofString "arg count")
  let raw := options.any (·.letter = 'r')
  let s ← get
  let rest ← ScriptM.ofStep (s.process.unread 0)
  let (line, ended) := LineDraft.read raw false {} (ofBytes (rest.toOption.getD []))
  match s.opened? 0 with
  | some i => ScriptM.ofStep (modify fun m => m.skip i line.count)
  | none => pure ()
  setFields names (fieldsOf s.separators (some names.length) line.stretches.reverse)
  return if ended then 0 else 1

end Builtin

end LineShell.Script
