import LineShell.Machine.Tool.Task

/-!
# Writing files one after the other

The program `cat` writes the contents of files to its output, as they are or with numbered lines and
visible marks for what cannot be seen.
-/

namespace LineShell

namespace Tool

namespace Cat

/-- How contents are shown. -/
structure Showing where
  /-- Lines are numbered. -/
  number : Bool := false
  /-- Empty lines are not. -/
  skipEmpty : Bool := false
  /-- Of several empty lines only one is shown. -/
  squeeze : Bool := false
  ends : Bool := false
  tabs : Bool := false
  /-- Bytes that cannot be seen are shown as marks. -/
  others : Bool := false
deriving DecidableEq, Repr

/-- Nothing is changed. -/
def Showing.isPlain (s : Showing) : Bool := s = {}

/-- The options. -/
def options : OptionTable :=
  .ofLetters "AbensEtTuv" ""
    [{ name := "number-nonblank", letter := 'b' }, { name := "number", letter := 'n' },
      { name := "squeeze-blank", letter := 's' }, { name := "show-nonprinting", letter := 'v' },
      { name := "show-ends", letter := 'E' }, { name := "show-tabs", letter := 'T' },
      { name := "show-all", letter := 'A' }]

/-- What options mean. -/
def showing (p : Parsed) : Showing where
  number := p.has "bn"
  skipEmpty := p.has "b"
  squeeze := p.has "s"
  ends := p.has "AEe"
  tabs := p.has "ATt"
  others := p.has "Aevt"

/-- The state between files: what has been written of the current line. -/
structure Progress where
  /-- How many lines have been numbered. -/
  line : Nat := 0
  /-- How many newlines have just been written. -/
  newlines : Nat := 1

/-- A byte of seven bits as it is shown. -/
def shownSeven (b : Nat) : Bytes :=
  if b < 32 then [0x5E, (b + 64).toUInt8] else if b = 127 then text "^?" else [b.toUInt8]

/-- A byte of a line as it is shown. -/
def shownByte (s : Showing) (b : UInt8) : Bytes :=
  if b = 0x09 then (if s.tabs then text "^I" else [b])
  else if !s.others then [b]
  else if b < 128 then shownSeven b.toNat
  else text "M-" ++ shownSeven (b.toNat - 128)

/-- The number of a line, as it stands before it. -/
def numberText (n : Nat) : Bytes :=
  let digits := toString n
  text (String.ofList (List.replicate (6 - digits.length) ' ') ++ digits ++ "\t")

/-- Show bytes. -/
def shown (s : Showing) (p : Progress) : Bytes → Bytes × Progress
  | [] => ([], p)
  | b :: bs =>
    let begins := p.newlines > 0
    if b = 0x0A then
      let p := { p with newlines := p.newlines + 1 }
      if s.squeeze && p.newlines > 2 then shown s { p with newlines := 2 } bs
      else
        let numbered := begins && s.number && !s.skipEmpty
        let p := if numbered then { p with line := p.line + 1 } else p
        let here := (if numbered then numberText p.line else []) ++
          (if s.ends then [0x24] else []) ++ [b]
        let (rest, p) := shown s p bs
        (here ++ rest, p)
    else
      let numbered := begins && s.number
      let p := if numbered then { p with line := p.line + 1 } else p
      let returns := b = 0x0D && s.ends && !s.others && bs.head? = some 0x0A
      let here := (if numbered then numberText p.line else []) ++
        (if returns then text "^M" else shownByte s b)
      let (rest, p) := shown s { p with newlines := 0 } bs
      (here ++ rest, p)

/-- Write the file behind the open file `i`, which is called `label`. -/
def copyOut (s : Showing) (label : Bytes) (i : Nat) (p : Progress) : Task Progress := do
  let process ← Task.process
  let m ← Task.ofStep get
  let input := m.opened[i]?
  let sink := (process.opened? 1).bind fun k => m.opened[k]?
  let regular (f : OpenFile) : Option FileId := match f.channel with
    | .file id => if (m.tree.node? id).any Node.isRegular then some id else none
    | _ => none
  let source := input.bind regular
  if source.isSome && source = sink.bind regular &&
      (input.map (·.offset)).getD 0 < (source.map m.tree.size).getD 0 then
    Task.complain [Quoted.ifNeeded label, text ": input file is output file"]
    return p
  match m.unread i process.argv with
  | .error e =>
    Task.complain [Quoted.ifNeeded label, text s!": {e.text}"]
    return p
  | .ok bytes =>
    let (_, m) := m.read i bytes.length process.argv
    Task.ofStep (set m)
    let (out, p) := if s.isPlain then (bytes, p) else shown s p bytes
    Task.print out
    Task.flush
    return p

/-- Write the files `names`; the result tells whether the input was one of them. -/
def writeAll (s : Showing) (p : Progress) (readInput : Bool) : List Bytes → Task Bool
  | [] => return readInput
  | name :: names => do
    let process ← Task.process
    if name = text "-" then
      match process.opened? 0 with
      | some i =>
        let p ← copyOut s name i p
        writeAll s p true names
      | none =>
        Task.complain [text s!"-: {Errno.badDescriptor.text}"]
        writeAll s p true names
    else
      let (_, v) ← Task.scene
      match ← Task.ofStep fun m => m.openFile v ⟨name⟩ .reading with
      | .error e =>
        Task.complain [Quoted.ifNeeded name, text s!": {e.text}"]
        writeAll s p readInput names
      | .ok i =>
        let p ← copyOut s name i p
        writeAll s p readInput names

/-- What the program does. -/
def body : Task Unit :=
  Task.withOptions options (pure ()) fun parsed => do
    let process ← Task.process
    if (process.opened? 1).isNone then
      Task.die [text s!"standard output: {Errno.badDescriptor.text}"]
    let operands := if parsed.operands.isEmpty then [text "-"] else parsed.operands
    if (← writeAll (showing parsed) {} false operands) && (process.opened? 0).isNone then
      Task.die [text s!"closing standard input: {Errno.badDescriptor.text}"]

end Cat

end Tool

end LineShell
