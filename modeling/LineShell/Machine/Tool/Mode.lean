import LineShell.Text.Utf8

/-!
# Changes of permission bits

Permission bits are given as an octal number, or as clauses such as `u+x,g=u` that say for whom what
is added, taken away or set. A change without users is for all, but spares the bits that new files do
not get.
-/

namespace LineShell

namespace Tool

/-- What a clause takes its bits from. -/
inductive BitSource where
  | given
  /-- The permission to start a program, if the file is a directory or someone has it already. -/
  | ifStartable
  /-- The bits that users have. -/
  | copied
deriving DecidableEq, Repr

/-- One change of permission bits. -/
structure ModeChange where
  /-- The sign: bits are set, added or taken away. -/
  sign : Char
  source : BitSource
  /-- The bits of the users whom the change is for; 0 if none are named. -/
  affected : Nat
  value : Nat
  /-- The bits that are changed though the file is a directory. -/
  mentioned : Nat
deriving DecidableEq, Repr

namespace ModeChange

/-- All permission bits. -/
def allBits : Nat := 0o7777

/-- The bits of users. -/
def userBits : List (Char × Nat) :=
  [('u', 0o4700), ('g', 0o2070), ('o', 0o1007), ('a', allBits)]

/-- The bits of letters. -/
def letterBits : List (Char × Nat) :=
  [('r', 0o444), ('w', 0o222), ('x', 0o111), ('X', 0), ('s', 0o6000), ('t', 0o1000)]

/-- The bits of `a` that are not in `b`. -/
def without (a b : Nat) : Nat := a - (a &&& b)

/-- The number that octal digits write, if it does not stand for too many bits. -/
def octal? (ds : List Char) : Option Nat :=
  let v := ds.foldl (fun v d => v * 8 + (d.toNat - '0'.toNat)) 0
  if v > allBits then none else some v

/-- The character is an octal digit. -/
def isOctal (c : Char) : Bool := '0' ≤ c && c ≤ '7'

/-- Read users at the front of `cs`. -/
def takeUsers (affected : Nat) : List Char → Nat × List Char
  | [] => (affected, [])
  | c :: cs =>
    match userBits.lookup c with
    | some b => takeUsers (affected ||| b) cs
    | none => (affected, c :: cs)

/-- Read the letters of permissions at the front of `cs`. -/
def takeLetters (value : Nat) (source : BitSource) : List Char → Nat × BitSource × List Char
  | [] => (value, source, [])
  | c :: cs =>
    match letterBits.lookup c with
    | some b => takeLetters (value ||| b) (if c = 'X' then .ifStartable else source) cs
    | none => (value, source, c :: cs)

/-- Read what follows a sign. -/
def takeValue (sign : Char) (affected : Nat) (cs : List Char) : Option (ModeChange × List Char) :=
  let ds := cs.takeWhile isOctal
  let rest := cs.drop ds.length
  if !ds.isEmpty then
    if affected ≠ 0 || rest.head?.any (· ≠ ',') then none
    else (octal? ds).map fun v => (⟨sign, .given, allBits, v, allBits⟩, rest)
  else
    let copied := cs.head?.bind fun c => [('u', 0o700), ('g', 0o070), ('o', 0o007)].lookup c
    let (value, source, rest) := match copied with
      | some v => (v, .copied, cs.tail)
      | none => takeLetters 0 .given cs
    some (⟨sign, source, affected, value, if affected = 0 then value else affected &&& value⟩, rest)

/-- Read the changes of a clause, of which there are at most `n`. -/
def takeChanges (n : Nat) (affected : Nat) (cs : List Char) : Option (List ModeChange × List Char) :=
  match n, cs with
  | n + 1, c :: cs =>
    if !(['=', '+', '-'].contains c) then some ([], c :: cs)
    else do
      let (change, rest) ← takeValue c affected cs
      let (more, rest) ← takeChanges n affected rest
      return (change :: more, rest)
  | _, cs => some ([], cs)

/-- Read clauses, of which there are at most `n`. -/
def takeClauses (n : Nat) (cs : List Char) : Option (List ModeChange) :=
  match n with
  | 0 => none
  | n + 1 => do
    let (affected, rest) := takeUsers 0 cs
    let (changes, rest) ← takeChanges cs.length affected rest
    if changes.isEmpty then none
    match rest with
    | [] => return changes
    | ',' :: rest => return changes ++ (← takeClauses n rest)
    | _ => none

/-- Read changes of permission bits. -/
def read (spec : Bytes) : Option (List ModeChange) :=
  let cs := spec.map fun b => Char.ofNat b.toNat
  if cs.head?.any isOctal then
    if !cs.all isOctal then none
    else
      (octal? cs).map fun v =>
        [⟨'=', .given, allBits, v, if cs.length < 5 then (v &&& 0o6000) ||| 0o1777 else allBits⟩]
  else takeClauses (cs.length + 1) cs

/-- The change to exactly the bits `mode`. -/
def exactly (mode : Nat) : List ModeChange :=
  [⟨'=', .given, allBits, mode, allBits⟩]

/-- The bits that a bit for one kind of user stands for, copied to all users. -/
def copiedToAll (value : Nat) : Nat :=
  [0o444, 0o222, 0o111].foldl (fun v bits => if value &&& bits = 0 then v else v ||| bits) value

/-- Apply a change to the permission bits `mode`; `mask` are the bits that new files do not get. -/
def apply (isDirectory : Bool) (mask : Nat) (mode : Nat) (c : ModeChange) : Nat :=
  let spared := if isDirectory then without 0o6000 c.mentioned else 0
  let value := match c.source with
    | .given => c.value
    | .copied => copiedToAll (c.value &&& mode)
    | .ifStartable => if isDirectory || mode &&& 0o111 ≠ 0 then c.value ||| 0o111 else c.value
  let value := without (if c.affected = 0 then without value mask else value &&& c.affected) spared
  if c.sign = '+' then mode ||| value
  else if c.sign = '-' then without mode value
  else
    let kept := (if c.affected = 0 then 0 else without allBits c.affected) ||| spared
    (mode &&& kept) ||| value

/-- Apply changes to permission bits. -/
def applyAll (isDirectory : Bool) (mask : Nat) (changes : List ModeChange) (mode : Nat) : Nat :=
  changes.foldl (apply isDirectory mask) mode

end ModeChange

/-- The letters of permission bits. -/
def permissionLetters (mode : Nat) : String :=
  let has (b : Nat) : Bool := mode &&& b ≠ 0
  let start (execute special : Nat) (both only : Char) : Char :=
    if has special then (if has execute then both else only) else if has execute then 'x' else '-'
  let one (shift special : Nat) (both only : Char) : List Char :=
    [if has (4 <<< shift) then 'r' else '-', if has (2 <<< shift) then 'w' else '-',
      start (1 <<< shift) special both only]
  String.ofList (one 6 0o4000 's' 'S' ++ one 3 0o2000 's' 'S' ++ one 0 0o1000 't' 'T')

/-- Permission bits as four octal digits. -/
def octalText (mode : Nat) : String :=
  let ds := Nat.toDigits 8 mode
  String.ofList (List.replicate (4 - ds.length) '0' ++ ds)

end Tool

end LineShell
