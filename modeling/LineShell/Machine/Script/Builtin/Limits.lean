import LineShell.Machine.Script.Operands

/-!
# Limits

The builtin command `ulimit` shows and changes how much a process and those that it starts may use.
Every limit has a soft value, which holds, and a hard one, which the soft one may be raised to; the
hard one may only be lowered.
-/

namespace LineShell.Script

/-- Something that is limited. -/
structure LimitKind where
  letter : Char
  title : String
  /-- How many units make one of those that are shown. -/
  factor : Nat
  /-- The limit of a process that has changed nothing. -/
  start : Limit := ⟨none, none⟩

namespace LimitKind

/-- Everything that is limited. -/
def all : List LimitKind :=
  [ ⟨'t', "time(seconds)", 1, ⟨none, none⟩⟩,
    ⟨'f', "file(blocks)", 512, ⟨none, none⟩⟩,
    ⟨'d', "data(kbytes)", 1024, ⟨none, none⟩⟩,
    ⟨'s', "stack(kbytes)", 1024, ⟨some 8388608, none⟩⟩,
    ⟨'c', "coredump(blocks)", 512, ⟨none, none⟩⟩,
    ⟨'m', "memory(kbytes)", 1024, ⟨none, none⟩⟩,
    ⟨'l', "locked memory(kbytes)", 1024, ⟨some 8388608, some 8388608⟩⟩,
    ⟨'p', "process", 1, ⟨none, none⟩⟩,
    ⟨'n', "nofiles", 1, ⟨some 1048576, some 1048576⟩⟩,
    ⟨'v', "vmemory(kbytes)", 1024, ⟨none, none⟩⟩,
    ⟨'w', "locks", 1, ⟨none, none⟩⟩,
    ⟨'r', "rtprio", 1, ⟨some 0, some 0⟩⟩ ]

/-- The limit of a process. -/
def limitIn (k : LimitKind) (p : Process) : Limit :=
  (p.limits.lookup k.letter).getD k.start

/-- A value as it is shown. -/
def valueText (k : LimitKind) (value : Option Nat) : Chars :=
  match value with
  | none => ofString "unlimited\n"
  | some v => ofString s!"{v / k.factor}\n"

end LimitKind

/-- The value `a` is greater than `b`. -/
def exceeds : Option Nat → Option Nat → Bool
  | _, none => false
  | none, some _ => true
  | some a, some b => a > b

/-- The value that an argument writes, in units of the given size. -/
def limitValue? (factor : Nat) (cs : Chars) : Option (Option Nat) :=
  if cs = ofString "unlimited" then some none
  else if !cs.all Char.isDigit then none
  else
    let v := ofDigits 10 cs * factor % (Number.greatestUnsigned + 1)
    some (if v = Number.greatestUnsigned then none else some v)

namespace Builtin

/-- Show or change limits. -/
def runUlimit (args : List Chars) : ScriptM Nat := do
  let (options, operands) ← readOptions "HSatfdscmlpnvwr" args
  let letters := options.map (·.letter)
  let side := letters.reverse.find? ['H', 'S'].contains
  let all := letters.contains 'a'
  let letter := (letters.reverse.find? fun c => !(['H', 'S', 'a'].contains c)).getD 'f'
  let p := (← get).process
  let shown (l : Limit) : Option Nat := if side = some 'H' then l.hard else l.soft
  match LimitKind.all.find? (·.letter = letter), operands with
  | some kind, value :: others =>
    if all || !others.isEmpty then ScriptM.fail (ofString "too many arguments")
    match limitValue? kind.factor value with
    | none => ScriptM.fail (ofString "bad number")
    | some value =>
      let old := kind.limitIn p
      let limit : Limit :=
        ⟨if side = some 'H' then old.soft else value, if side = some 'S' then old.hard else value⟩
      let refusal := if exceeds limit.soft limit.hard then some Errno.invalidArgument
        else if exceeds limit.hard old.hard then some Errno.notPermitted else none
      match refusal with
      | some e => ScriptM.fail (ofString s!"error setting limit ({e.text})")
      | none =>
        modify fun s => { s with process := { p with limits := (letter, limit) :: p.limits } }
        return 0
  | kind?, _ =>
    if all then
      for kind in LimitKind.all do
        let title := ofString kind.title
        ScriptM.print (title ++ List.replicate (20 - title.length) ' ' ++ [' '])
        ScriptM.print (kind.valueText (shown (kind.limitIn p)))
    else
      for kind in kind?.toList do
        ScriptM.print (kind.valueText (shown (kind.limitIn p)))
    return 0

end Builtin

end LineShell.Script
