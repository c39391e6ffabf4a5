import LineShell.Machine.Tool.Mode
import LineShell.Machine.Tool.Task

/-!
# Copying files

The program `cp` copies files, and with `-r` directories with everything in them. Files that are not
there are made with the permission bits of their sources; files that are there keep their own.
-/

namespace LineShell

namespace Tool

namespace Cp

/-- The options. -/
def options : OptionTable :=
  .ofLetters "abdfHilLnprsuvxPRTZ" "St"
    [{ name := "archive", letter := 'a' }, { name := "attributes-only", letter := '\x03' },
      { name := "backup", letter := 'b', value := .optional },
      { name := "copy-contents", letter := '\x04' }, { name := "dereference", letter := 'L' },
      { name := "force", letter := 'f' }, { name := "interactive", letter := 'i' },
      { name := "link", letter := 'l' }, { name := "no-clobber", letter := 'n' },
      { name := "no-dereference", letter := 'P' },
      { name := "no-preserve", letter := '\x05', value := .required },
      { name := "no-target-directory", letter := 'T' }, { name := "one-file-system", letter := 'x' },
      { name := "parents", letter := '\x06' },
      { name := "preserve", letter := '\x07', value := .optional },
      { name := "recursive", letter := 'R' }, { name := "remove-destination", letter := '\x08' },
      { name := "sparse", letter := '\x0b', value := .required },
      { name := "reflink", letter := '\x0c', value := .optional },
      { name := "strip-trailing-slashes", letter := '\x0e' },
      { name := "suffix", letter := 'S', value := .required },
      { name := "symbolic-link", letter := 's' },
      { name := "target-directory", letter := 't', value := .required },
      { name := "update", letter := 'u' }, { name := "verbose", letter := 'v' },
      { name := "context", letter := 'Z', value := .optional }]

/-- Which links are followed. -/
inductive Following where
  | all
  /-- Those that are operands. -/
  | operands
  | none
deriving DecidableEq, Repr

/-- What is done about files that are there. -/
inductive Overwriting where
  | always
  | never
  | ask
deriving DecidableEq, Repr

/-- What is to be done. -/
structure Job where
  recursive : Bool
  following : Following
  overwriting : Overwriting
  /-- A file that cannot be written is removed first. -/
  force : Bool
  /-- Every file is removed before another one takes its name. -/
  removeFirst : Bool
  verbose : Bool
  /-- Permission bits and times are copied, too. -/
  preserve : Bool
  /-- Only files that are newer are copied. -/
  update : Bool
  /-- Links are made instead of copies. -/
  hardLinks : Bool
  symbolicLinks : Bool
  /-- Nothing is copied but what preserving copies. -/
  onlyAttributes : Bool
  /-- The ending that is added to the name of a file in the way, if it is kept. -/
  backup : Option Bytes

/-- A copy of one operand: its path names, and the directories that were made for it. -/
structure Operand where
  source : Bytes
  target : Bytes
  /-- The operand is one of several. -/
  amongOthers : Bool

/-- What has been done. -/
structure Progress where
  /-- The first directory that was made for the operand. -/
  filled : Option FileId := none
  /-- The files that were made, and the sources that were copied. -/
  made : List FileId := []
  copied : List FileId := []

/-- Steps of copying. -/
abbrev Copying := StateT Progress Task

/-- A step of the program. -/
def ofTask {α : Type} (x : Task α) : Copying α := liftM x

/-- Two path names call one name in one directory. -/
def sameName (a b : Bytes) : Task Bool := do
  let (t, v) ← Task.scene
  return match t.nameOf v ⟨a⟩, t.nameOf v ⟨b⟩ with
    | .ok x, .ok y => x = y
    | _, _ => false

/-- The file is a symbolic link. -/
def isLink (n : Node) : Bool :=
  match n.content with
  | .link _ => true
  | _ => false

/-- Whether the target, which is there, may be overwritten though it may be the source; the second
tells that there is nothing to do. -/
def isOther (job : Job) (source target : Bytes) (id id' : FileId) (n n' : Node) :
    Task (Bool × Bool) := do
  let same := id = id'
  if same && job.hardLinks then return (true, true)
  if job.following = .none then
    if isLink n && isLink n' then
      if ← sameName source target then return (false, false)
      return (true, same && job.backup.isNone)
    if same then
      if job.backup.isSome then return (!(← sameName source target), false)
      if job.removeFirst && !(← sameName source target) then return (true, false)
      return (false, false)
    if !isLink n && !isLink n' then return (true, false)
    if job.removeFirst && isLink n' then return (true, false)
    if job.symbolicLinks && isLink n' then return (true, false)
    let followed := (← Task.look source true).toOption.map (·.1)
    let followed' := (← Task.look target true).toOption.map (·.1)
    return (followed.isNone || followed'.isNone || followed ≠ followed', false)
  else
    if !same then return (true, false)
    let link := (← Task.look source false).toOption
    let link' := (← Task.look target false).toOption
    match link, link' with
    | some (i, m), some (i', m') =>
      if isLink m && isLink m' && job.removeFirst then return (true, false)
      if job.backup.isSome then return (!(← sameName source target), false)
      if job.removeFirst then
        if isLink m' then return (true, false)
        if i = i' && !(← sameName source target) then return (true, false)
      if !isLink m && !isLink m' && i ≠ i' then return (true, false)
      if job.symbolicLinks && isLink m' then return (true, false)
      return (false, false)
    | _, _ => return (true, false)

/-- Ask whether the target may be overwritten. -/
def mayOverwrite (job : Job) (target : Bytes) (n : Node) : Task Bool := do
  let (_, v) ← Task.scene
  if n.allows v.user .write then Task.ask [text "overwrite ", Quoted.always target]
  else if job.force || job.removeFirst then
    let mode := s!"{octalText n.mode} ({permissionLetters n.mode})"
    Task.ask [text "replace ", Quoted.always target, text s!", overriding mode {mode}"]
  else
    let mode := s!"(mode {octalText n.mode}, {permissionLetters n.mode})"
    Task.ask [text "unwritable ", Quoted.always target, text s!" {mode}; try anyway"]

/-- Say that a file is copied. -/
def announce (job : Job) (source target : Bytes) (kept : Option Bytes) : Task Unit := do
  if job.verbose then
    let backup := match kept with
      | some b => text " (backup: " ++ Quoted.always b ++ text ")"
      | none => []
    Task.print (Quoted.always source ++ text " -> " ++ Quoted.always target ++ backup ++ [0x0A])

/-- Remove the target; the result tells whether it is gone. -/
def clear (job : Job) (target : Bytes) : Task Bool := do
  match ← Task.change fun t v => t.unlink v ⟨target⟩ with
  | .ok () =>
    if job.verbose then Task.printOf "removed " target ""
    return true
  | .error e =>
    if e = .noEntry then return true
    Task.refuse "cannot remove" target e
    return false

/-- Open the target for writing: the file, and whether it was made. There is a message if that cannot
be done. -/
def openTarget (job : Job) (target : Bytes) (mode : Nat) (isNew : Bool) :
    Task (Option (Nat × Bool)) := do
  let (_, v) ← Task.scene
  let refuse (e : Errno) : Task (Option (Nat × Bool)) := do
    Task.refuse "cannot create regular file" target e
    return none
  let create : Task (Option (Nat × Bool)) := do
    let opening : FileTree.Opening :=
      { write := true, create := true, isNew := true, mode := mode &&& 0o777 }
    match ← Task.ofStep fun m => m.openFile v ⟨target⟩ opening with
    | .ok i => return some (i, true)
    | .error e =>
      if e = .fileExists && ((← Task.look target false).toOption.any fun f => isLink f.2) then
        Task.complainOf "not writing through dangling symlink " target ""
        return none
      if e = .isDirectory && target.getLast? = some Path.slash then refuse .notDirectory
      else refuse e
  if isNew then create
  else
    match ← Task.ofStep fun m => m.openFile v ⟨target⟩ { write := true, truncate := !job.onlyAttributes } with
    | .ok i => return some (i, false)
    | .error e =>
      if e = .noEntry then create
      else if job.force then
        if ← clear job target then create else return none
      else refuse e

/-- Copy the contents of `source`, which is `n`, to `target`. -/
def copyContents (job : Job) (source target : Bytes) (n : Node) (isNew : Bool) : Task Unit := do
  let (_, v) ← Task.scene
  let process ← Task.process
  match ← Task.ofStep fun m => m.openFile v ⟨source⟩ .reading with
  | .error e =>
    Task.complainOf "cannot open " source s!" for reading: {e.text}"
  | .ok i =>
    match ← Task.ofStep fun m => (m.unread i process.argv, m) with
    | .error e => Task.refuse "error reading" source e
    | .ok bytes =>
      match ← openTarget job target n.mode isNew with
      | none => return
      | some (k, _) =>
        let program := match n.content with
          | .program t => some t
          | _ => none
        match ← Task.ofStep fun m => m.write k (if job.onlyAttributes then [] else bytes) with
        | .error e => Task.refuse "error writing" target e
        | .ok () =>
          Task.ofStep (modify fun m =>
            let id? := (m.opened[k]?).bind fun f => match f.channel with
              | .file id => some id
              | _ => none
            match id? with
            | none => m
            | some id =>
              let tree := match program with
                | some t => m.tree.setContent id (.program t)
                | none => m.tree
              let tree := if job.preserve then
                  tree.modify id fun old => { old with mode := n.mode, time := n.time }
                else tree
              { m with tree := tree })

/-- Copy `source` to `target`, at most `depth` directories deep; `top` tells that the source is the
operand, and `absent` what is known about the target: that it is not there. -/
def copy (job : Job) (o : Operand) (depth : Nat) (top absent : Bool) (above : List FileId)
    (source target : Bytes) : Copying Unit := do
  match depth with
  | 0 => return
  | depth + 1 =>
    let follow := job.following = .all || (job.following = .operands && top)
    match ← ofTask (Task.look source follow) with
    | .error e => ofTask (Task.refuse "cannot stat" source e)
    | .ok (id, n) =>
      if n.isDirectory && !job.recursive then
        ofTask (Task.complainOf "-r not specified; omitting directory " source "")
        return
      let progress ← get
      if top && o.amongOthers then
        if !n.isDirectory && job.backup.isNone && progress.copied.contains id then
          ofTask (Task.tell [text "warning: source file ", Quoted.always source,
            text " specified more than once"])
          return
        set { progress with copied := id :: progress.copied }
      let asRegular := n.isRegular || (!job.recursive && !n.isDirectory && !isLink n)
      let useLink := !asRegular || job.symbolicLinks || job.hardLinks || job.backup.isSome ||
        job.removeFirst
      let there? ← if absent && !useLink then pure (.error Errno.noEntry)
        else ofTask (Task.look target (!useLink))
      let mut isNew := false
      let mut kept : Option Bytes := none
      match there? with
      | .error e =>
        if e = .tooManyLinks && job.force then isNew := false
        else if e ≠ .noEntry then
          ofTask (Task.refuse "cannot stat" target e)
          return
        else isNew := true
      | .ok (id', n') =>
        if job.overwriting ≠ .never then
          let (other, done) ← ofTask (isOther job source target id id' n n')
          if !other then
            ofTask (Task.complain [Quoted.always source, text " and ", Quoted.always target,
              text " are the same file"])
            return
          if job.update && !n.isDirectory && n.time ≤ n'.time then return
          if !n.isDirectory && job.overwriting = .ask then
            if !(← ofTask (mayOverwrite job target n')) then return
          if done then return
        else if !n.isDirectory then return
        if !n'.isDirectory then
          if n.isDirectory then
            ofTask (Task.complain [text "cannot overwrite non-directory ", Quoted.always target,
              text " with directory ", Quoted.always source])
            return
          if top && o.amongOthers && (← get).made.contains id' then
            ofTask (Task.complain [text "will not overwrite just-created ", Quoted.always target,
              text " with ", Quoted.always source])
            return
        else if !n.isDirectory then
          ofTask (Task.complain [text "cannot overwrite directory ", Quoted.always target,
            text " with non-directory"])
          return
        if !n'.isDirectory then
          if job.backup.isSome && !endsInDots source then
            let name := target ++ job.backup.getD []
            match ← ofTask (Task.change fun t v => t.rename v ⟨target⟩ ⟨name⟩) with
            | .ok () =>
              kept := some name
              isNew := true
            | .error e =>
              ofTask (Task.refuse "cannot backup" target e)
              return
          else if job.removeFirst || (job.following = .none && !n.isRegular) then
            if !(← ofTask (clear job target)) then return
            isNew := true
      if !n.isDirectory then ofTask (announce job source target kept)
      match n.content with
      | .directory .. =>
        if (← get).filled = some id then
          ofTask (Task.complain [text "cannot copy a directory, ", Quoted.always o.source,
            text ", into itself, ", Quoted.always o.target])
          return
        if above.contains id then
          ofTask (Task.complainOf "cannot copy cyclic symbolic link " source "")
          return
        let mask := (← ofTask Task.process).mask
        if isNew then
          match ← ofTask (Task.change fun t v => t.makeDirectory v ⟨target⟩ (n.mode ||| 0o700)) with
          | .error e =>
            ofTask (Task.refuse "cannot create directory" target e)
            return
          | .ok () =>
            let id' := (← ofTask (Task.look target false)).toOption.map (·.1)
            modify fun p => { p with filled := p.filled <|> id' }
            ofTask (announce job source target none)
        let (t, v) ← ofTask Task.scene
        match t.list v ⟨source⟩ with
        | .error e => ofTask (Task.refuse "cannot access" source e)
        | .ok names =>
          names.forM fun name =>
            copy job o depth false isNew (id :: above) (inside source name) (inside target name)
        if isNew || job.preserve then
          let mode := if job.preserve then n.mode else FileTree.unmasked n.mode mask
          let _ ← ofTask (Task.change fun t v => t.changeMode v ⟨target⟩ fun _ => mode)
      | _ =>
        if job.symbolicLinks then
          let elsewhere := source.head? ≠ some Path.slash &&
            (FileTree.withoutEndSlashes ⟨target⟩).bytes.contains Path.slash
          if elsewhere then
            ofTask (Task.complain [Quoted.ifNeeded target,
              text ": can make relative symbolic links only in current directory"])
          else
            if job.force && !isNew then let _ ← ofTask (Task.change fun t v => t.unlink v ⟨target⟩)
            match ← ofTask (Task.change fun t v => t.makeLink v ⟨source⟩ ⟨target⟩) with
            | .ok () => pure ()
            | .error e =>
              ofTask (Task.complain [text "cannot create symbolic link ", Quoted.always target,
                text " to ", Quoted.always source, text s!": {e.text}"])
        else if job.hardLinks then
          if !isNew && (job.force || job.overwriting = .ask) then
            let _ ← ofTask (Task.change fun t v => t.unlink v ⟨target⟩)
          match ← ofTask (Task.change fun t v =>
              let p : Path := if follow then (t.canonical v ⟨source⟩).toOption.getD ⟨source⟩ else ⟨source⟩
              t.hardLink v p ⟨target⟩) with
          | .ok () => pure ()
          | .error e =>
            ofTask (Task.complain [text "cannot create hard link ", Quoted.always target,
              text " to ", Quoted.always source, text s!": {e.text}"])
        else
          match n.content with
          | .link dest =>
            if job.force && !isNew then let _ ← ofTask (Task.change fun t v => t.unlink v ⟨target⟩)
            match ← ofTask (Task.change fun t v => t.makeLink v dest ⟨target⟩) with
            | .ok () => pure ()
            | .error e => ofTask (Task.refuse "cannot create symbolic link" target e)
          | .device _ =>
            if asRegular then ofTask (copyContents job source target n isNew)
            else
              ofTask (Task.refuse "cannot create special file" target .notPermitted)
          | _ => ofTask (copyContents job source target n isNew)
      if top && o.amongOthers then
        match ← ofTask (Task.look target false) with
        | .ok (id', _) => modify fun p => { p with made := id' :: p.made }
        | .error _ => pure ()

/-- Copy operands into the directory `dir`. -/
def copyInto (job : Job) (stripped : Bool) (dir : Bytes) (sources : List Bytes) : Task Unit := do
  let several := sources.length > 1
  let all : Copying Unit := sources.forM fun source => do
    let source := if stripped then (FileTree.withoutEndSlashes ⟨source⟩).bytes else source
    let name := baseName source
    let target := if name = FileTree.dotDot then dir else inside dir name
    modify fun p => { p with filled := none }
    copy job ⟨source, target, several⟩ depthLimit true false [] source target
  let _ ← all.run {}

/-- What is to be done, as the options say. -/
def jobOf (p : Parsed) : Job :=
  let recursive := p.has "aRr"
  let chosen := (p.last "adHLP").map (·.letter)
  let following := match chosen with
    | some 'L' => Following.all
    | some 'H' => .operands
    | some _ => .none
    | none => if recursive && !p.has "l" then .none else .all
  let overwriting := match (p.last "in").map (·.letter) with
    | some 'i' => Overwriting.ask
    | some _ => .never
    | none => .always
  { recursive := recursive
    following := following
    overwriting := overwriting
    force := p.has "f"
    removeFirst := p.has "\x08"
    verbose := p.has "v"
    preserve := p.has "ap\x07"
    update := p.has "u"
    hardLinks := p.has "l"
    symbolicLinks := p.has "s"
    onlyAttributes := p.has "\x03"
    backup := if p.has "bS" then some ((p.value 'S').getD (text "~")) else none }

/-- What the program does. -/
def body : Task Unit :=
  Task.withOptions options (pure ()) fun parsed => do
    let job := jobOf parsed
    let files := parsed.operands
    let target := parsed.value 't'
    if job.overwriting = .never && job.backup.isSome then
      Task.misuse [text "options --backup and --no-clobber are mutually exclusive"]
    if job.hardLinks && job.symbolicLinks then
      Task.misuse [text "cannot make both hard and symbolic links"]
    match files, target with
    | [], _ => Task.misuse [text "missing file operand"]
    | [one], none =>
      Task.misuse [text "missing destination file operand after ", Quoted.always one]
    | _, _ => pure ()
    let stripped := parsed.has "\x0e"
    let single (source dest : Bytes) (absent : Bool) : Task Unit := do
      let source := if stripped then (FileTree.withoutEndSlashes ⟨source⟩).bytes else source
      let _ ← (copy job ⟨source, dest, false⟩ depthLimit true absent [] source dest).run {}
    let asDirectory (path : Bytes) : Task (Except Errno Unit) := do
      match ← Task.look path true with
      | .error e => return .error e
      | .ok (_, n) => return if n.isDirectory then .ok () else .error .notDirectory
    if parsed.has "T" then
      if target.isSome then
        Task.die [text "cannot combine --target-directory (-t) and --no-target-directory (-T)"]
      match files with
      | [source, dest] => single source dest false
      | _ => Task.misuse [text "extra operand ", Quoted.always ((files[2]?).getD [])]
    else
      match target with
      | some dir =>
        match ← asDirectory dir with
        | .ok () => copyInto job stripped dir files
        | .error e => Task.die [text "target directory ", Quoted.always dir, text s!": {e.text}"]
      | none =>
        let dest := files.getLastD []
        match ← asDirectory dest with
        | .ok () => copyInto job stripped dest files.dropLast
        | .error e =>
          match files with
          | [source, dest] => single source dest (e = .noEntry)
          | _ => Task.die [text "target ", Quoted.always dest, text s!": {e.text}"]

end Cp

end Tool

end LineShell
