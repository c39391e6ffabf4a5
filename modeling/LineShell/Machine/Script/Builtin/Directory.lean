import LineShell.Machine.Script.Operands
import LineShell.Machine.Script.Search

/-!
# The directory and the mask

The builtin commands about where a script works and what its new files are like: `cd`, `pwd` and
`umask`. A script knows the path name by which it came to its directory, which may lead over links.
-/

namespace LineShell.Script

namespace Builtin

/-- The absolute path name of the directory of the script, links resolved; without one there is a
complaint, and the path name is empty. -/
def realDirectory : ScriptM Chars := do
  let s ← get
  match (← ScriptM.machine).tree.pathTo s.process.dir with
  | some p => return ofBytes p.bytes
  | none =>
    ScriptM.complain (ofString s!"getcwd() failed: {Errno.noEntry.text}")
    return []

/-- Let the script know its directory by `known`, or by its real name. -/
def nameDirectory (known : Option Chars) : ScriptM Unit := do
  let here ← match known with
    | some p => pure p
    | none => realDirectory
  modify fun s => { s with here := here }
  ScriptM.assign "PWD".toList here true

/-- The last name of a path name is taken away; `least` is what always stays. -/
def dropName (least : Nat) (path : Chars) : Chars :=
  let kept := ((path.reverse.drop 1).dropWhile (· ≠ '/')).reverse
  if path.length ≤ least then path else if kept.length < least then path.take least else kept

/-- The path name of `dir` as seen from `here`, in which `.` and `..` are resolved by their names
only; none if there is no telling. -/
def pathFrom (here dir : Chars) : Option Chars :=
  let isAbsolute := dir.head? = some '/'
  if !isAbsolute && here.isEmpty then none
  else
    let twice := isAbsolute && dir[1]? = some '/' && dir[2]? ≠ some '/'
    let start := if isAbsolute then (if twice then ['/', '/'] else ['/'])
      else if here.getLast? = some '/' then here else here ++ ['/']
    let least := if isAbsolute then start.length
      else if start.length > 1 && start[1]? = some '/' then 2 else 1
    let names := (splitAt '/' dir).filter (!·.isEmpty)
    let path := names.foldl (fun path name =>
      if name = ['.'] then path
      else if name = ['.', '.'] then dropName least path
      else path ++ name ++ ['/']) start
    some (if path.length > least then path.dropLast else path)

/-- Go to the directory `dest`; the result tells whether that worked. -/
def enter (resolved : Bool) (dest : Chars) : ScriptM Bool := do
  let s ← get
  let known := if resolved then none else pathFrom s.here dest
  let v ← ScriptM.viewer
  match (← ScriptM.machine).tree.findNode v ⟨toBytes (known.getD dest)⟩ true with
  | .error _ => return false
  | .ok (id, n) =>
    if !n.isDirectory || !n.allows v.user .execute then return false
    set { s with process := { s.process with dir := id } }
    ScriptM.assign "OLDPWD".toList s.here true
    nameDirectory known
    modify fun s => s.doubtKnown
    return true

/-- The option that asks for path names without links is the last one given. -/
def wantsResolved (options : List OptionRead) : Bool :=
  (options.getLast?.map (·.letter)) = some 'P'

/-- The path name starts with its own directory or the one above. -/
def startsAtDots (cs : Chars) : Bool :=
  match cs with
  | '.' :: rest => rest.isEmpty || rest.head? = some '/' ||
      (rest.head? = some '.' && (rest.length = 1 || rest[1]? = some '/'))
  | _ => false

/-- Change the directory. -/
def runCd (args : List Chars) : ScriptM Nat := do
  let (options, operands) ← readOptions "LP" args
  let resolved := wantsResolved options
  let s ← get
  let back := operands.head? = some ['-']
  let dest := match operands with
    | [] => s.text "HOME"
    | d :: _ => if back then s.text "OLDPWD" else d
  let dest? := if dest.isEmpty then ['.'] else dest
  let searched := dest.head? ≠ some '/' && !startsAtDots dest
  let places := if searched then (s.get? "CDPATH".toList).elim [] (splitAt ':') else []
  let v ← ScriptM.viewer
  let t := (← ScriptM.machine).tree
  let place := places.findSome? fun dir =>
    let p := if dir.isEmpty then dest? else dir ++ '/' :: dest?
    match t.findNode v ⟨toBytes p⟩ true with
    | .ok (_, n) => if n.isDirectory then some (p, !dir.isEmpty) else none
    | .error _ => none
  let (p, told) := place.getD (dest?, false)
  if !(← enter resolved p) then ScriptM.fail (ofString "can't cd to " ++ dest?)
  if told || back then ScriptM.print ((← get).here ++ ['\n'])
  return 0

/-- Show the directory. -/
def runPwd (args : List Chars) : ScriptM Nat := do
  let (options, _) ← readOptions "LP" args
  let here ← if wantsResolved options then realDirectory else pure (← get).here
  ScriptM.print (here ++ ['\n'])
  return 0

/-- The users whom permission bits are for, each as the bit that stands for it. -/
def userBits : List (Char × Nat) :=
  [('a', 0o111), ('u', 0o100), ('g', 0o010), ('o', 0o001)]

/-- Whom a change is for: the bits of the users at the front of `cs`, and what follows. -/
def takeUsers (users : Nat) : Chars → Nat × Chars
  | [] => (users, [])
  | c :: cs =>
    match userBits.lookup c with
    | some b => takeUsers (users ||| b) cs
    | none => (users, c :: cs)

/-- The permissions at the front of `cs`, and what follows; `allowed` are those of now. -/
def takePermissions (allowed value : Nat) : Chars → Nat × Chars
  | [] => (value, [])
  | c :: cs =>
    let bits := [('r', 4), ('w', 2), ('x', 1), ('u', allowed >>> 6), ('g', allowed >>> 3),
      ('o', allowed), ('X', if allowed &&& 0o111 = 0 then 0 else 1), ('s', 0)].lookup c
    match bits with
    | some b => takePermissions allowed (value ||| b) cs
    | none => (value, c :: cs)

/-- The bits of `a` that are not in `b`. -/
def without (a b : Nat) : Nat := a - (a &&& b)

/-- Change the permissions of new files, which are `value`, as `cs` says; `allowed` are those of the
beginning. The result has what could not be read. -/
def changePermissions (allowed : Nat) (n users value : Nat) (cs : Chars) : Nat × Chars :=
  match n with
  | 0 => (value, [])
  | n + 1 =>
    if cs.isEmpty then (value, [])
    else
      let (users, rest) := takeUsers users cs
      let users := if users = 0 then 0o111 else users
      match rest with
      | [] => changePermissions allowed n users value []
      | op :: after =>
        if !(['=', '+', '-'].contains op) then (value, rest)
        else
          let (bits, rest) := takePermissions allowed 0 after
          let bits := (bits &&& 7) * users
          let value :=
            if op = '-' then without value bits
            else if op = '+' then value ||| bits
            else bits ||| without value (users * 7)
          match rest with
          | [] => (value, [])
          | c :: more =>
            if c = ',' then changePermissions allowed n 0 value more
            else if ['=', '+', '-'].contains c then changePermissions allowed n users value rest
            else (value, rest)

/-- Permissions as they are written in letters. -/
def permissionText (allowed : Nat) : Chars :=
  let one (c : Char) (shift : Nat) : Chars :=
    c :: '=' :: ([('r', 4), ('w', 2), ('x', 1)].filterMap fun (l, b) =>
      if (allowed >>> shift) &&& b = 0 then none else some l)
  [','].intercalate [one 'u' 6, one 'g' 3, one 'o' 0]

/-- Show or change the permission bits that new files do not get. -/
def runUmask (args : List Chars) : ScriptM Nat := do
  let (options, operands) ← readOptions "S" args
  let s ← get
  let mask := s.process.mask
  let change (mask : Nat) : ScriptM Nat := do
    set { s with process := { s.process with mask := mask &&& 0o777 } }
    return 0
  match operands with
  | [] =>
    if !options.isEmpty then ScriptM.print (permissionText (0o777 - mask) ++ ['\n'])
    else
      let digits := Nat.toDigits 8 mask
      ScriptM.print (List.replicate (4 - digits.length) '0' ++ digits ++ ['\n'])
    return 0
  | text :: _ =>
    if text.head?.any Char.isDigit then
      if !text.all isOctal then ScriptM.illegalNumber text
      change (ofDigits 8 text)
    else
      let allowed := 0o777 - mask
      let (value, rest) := changePermissions allowed (text.length + 1) 0 allowed text
      if !rest.isEmpty then ScriptM.fail (ofString "Illegal mode: " ++ text)
      change (without 0o777 value)

end Builtin

end LineShell.Script
