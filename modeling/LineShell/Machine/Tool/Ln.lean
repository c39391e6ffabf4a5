import LineShell.Machine.Tool.Task

/-!
# Making links

The program `ln` gives files further names, or makes symbolic links to them.
-/

namespace LineShell

namespace Tool

namespace Ln

/-- The options. -/
def options : OptionTable :=
  .ofLetters "bdfinrsvFLPT" "St"
    [{ name := "backup", letter := 'b', value := .optional }, { name := "directory", letter := 'F' },
      { name := "no-dereference", letter := 'n' }, { name := "no-target-directory", letter := 'T' },
      { name := "force", letter := 'f' }, { name := "interactive", letter := 'i' },
      { name := "suffix", letter := 'S', value := .required },
      { name := "target-directory", letter := 't', value := .required },
      { name := "logical", letter := 'L' }, { name := "physical", letter := 'P' },
      { name := "relative", letter := 'r' }, { name := "symbolic", letter := 's' },
      { name := "verbose", letter := 'v' }]

/-- What is to be done. -/
structure Job where
  symbolic : Bool
  /-- A file that has the name of the link loses it. -/
  replace : Bool
  ask : Bool
  verbose : Bool
  /-- A link is made to what a symbolic link leads to, not to the symbolic link. -/
  logical : Bool
  /-- The ending that is added to the name of a file in the way, if it is kept. -/
  backup : Option Bytes

/-- Make the link. -/
def link (job : Job) (source dest : Bytes) : Task (Except Errno Unit) :=
  Task.change fun t v =>
    if job.symbolic then t.makeLink v ⟨source⟩ ⟨dest⟩
    else if job.logical then
      match t.canonical v ⟨source⟩ with
      | .ok p => t.hardLink v p ⟨dest⟩
      | .error e => .error e
    else t.hardLink v ⟨source⟩ ⟨dest⟩

/-- Refuse to make the link. -/
def refuse (job : Job) (source dest : Bytes) (e : Errno) : Task Unit := do
  let kind := if job.symbolic then "symbolic" else "hard"
  let toSource := if job.symbolic then
      (if e = .nameTooLong || source.isEmpty then [text " -> ", Quoted.always source] else [])
    else if e = .fileExists || e = .noSpace then []
    else [text " => ", Quoted.always source]
  Task.complain ([text s!"failed to create {kind} link ", Quoted.always dest] ++ toSource ++
    [text s!": {e.text}"])

/-- Say that the link is made. -/
def announce (job : Job) (source dest : Bytes) (backup : Option Bytes) : Task Unit := do
  if job.verbose then
    let before := match backup with
      | some b => Quoted.always b ++ text " ~ "
      | none => []
    let arrow := if job.symbolic then " -> " else " => "
    Task.print (before ++ Quoted.always dest ++ text arrow ++ Quoted.always source ++ [0x0A])

/-- The two path names call one name in one directory. -/
def sameName (a b : Bytes) : Task Bool := do
  let (t, v) ← Task.scene
  return match t.nameOf v ⟨a⟩, t.nameOf v ⟨b⟩ with
    | .ok x, .ok y => x = y
    | _, _ => false

/-- How many names the file `id` has. -/
def nameCount (t : FileTree) (id : FileId) : Nat :=
  t.nodes.foldl (fun n node => n + (node.entries.filter (·.2 = id)).length) 0

/-- Whether the file `dest` may be replaced by the link; `none` if the link is made as if nothing were
there, and an error if there is a message already or nothing is to be done. -/
def clearWay (job : Job) (source dest : Bytes) (e : Errno) : Task (Except Unit (Option FileId)) := do
  match ← Task.look dest false with
  | .error e' =>
    if e' = .noEntry then return .ok none
    Task.refuse "failed to access" dest e'
    return .error ()
  | .ok (id, n) =>
    if n.isDirectory then
      Task.complain [Quoted.ifNeeded dest, text ": cannot overwrite directory"]
      return .error ()
    let source? := (← Task.look source (job.symbolic || job.logical)).toOption.map (·.1)
    let (t, _) ← Task.scene
    let compared := job.backup.isNone || !job.symbolic
    if compared && source? = some id && (nameCount t id = 1 || (← sameName source dest)) then
      Task.complain [Quoted.always source, text " and ", Quoted.always dest,
        text " are the same file"]
      return .error ()
    if e = .fileExists && job.ask then
      if !(← Task.ask [text "replace ", Quoted.always dest]) then return .error ()
    return .ok (some id)

/-- Make a link called `dest` to `source`. -/
def makeOne (job : Job) (source dest : Bytes) : Task Unit := do
  match ← link job source dest with
  | .ok () => announce job source dest none
  | .error e =>
    if !job.symbolic then
      match ← Task.look source job.logical with
      | .error e =>
        Task.refuse "failed to access" source e
        return
      | .ok (_, n) =>
        if n.isDirectory then
          Task.complain [Quoted.ifNeeded source, text ": hard link not allowed for directory"]
          return
    if !job.replace && !job.ask && job.backup.isNone then
      refuse job source dest e
      return
    match ← clearWay job source dest e with
    | .error () => return
    | .ok none => refuse job source dest e
    | .ok (some _) =>
      if e ≠ .fileExists then
        refuse job source dest e
        return
      let kept := job.backup.map (dest ++ ·)
      let cleared ← Task.change fun t v => match kept with
        | some b => t.rename v ⟨dest⟩ ⟨b⟩
        | none => t.unlink v ⟨dest⟩
      match cleared with
      | .error e => refuse job source dest e
      | .ok () =>
        match ← link job source dest with
        | .ok () => announce job source dest kept
        | .error e => refuse job source dest e

/-- Whether `path` is a directory that links are made in. -/
def targetDirectory (followed : Bool) (path : Bytes) : Task (Except Errno Unit) := do
  match ← Task.look path followed with
  | .error e => return .error e
  | .ok (_, n) =>
    return if n.isDirectory then .ok () else .error .notDirectory

/-- The name of a link to `source` in the directory `dir`. -/
def nameIn (dir source : Bytes) : Bytes :=
  inside dir (baseName source)

/-- What the program does. -/
def body : Task Unit :=
  Task.withOptions options (pure ()) fun parsed => do
    let files := parsed.operands
    if files.isEmpty then Task.misuse [text "missing file operand"]
    let asking := (parsed.last "fi").map (·.letter)
    let job : Job :=
      { symbolic := parsed.has "s"
        replace := asking = some 'f'
        ask := asking = some 'i'
        verbose := parsed.has "v"
        logical := (parsed.last "LP").map (·.letter) = some 'L'
        backup := if parsed.has "bS" then some ((parsed.value 'S').getD (text "~")) else none }
    if parsed.has "r" && !job.symbolic then
      Task.die [text "cannot do --relative without --symbolic"]
    let followed := !parsed.has "n"
    let target := parsed.value 't'
    let intoDirectory (dir : Bytes) (files : List Bytes) : Task Unit :=
      files.forM fun source => makeOne job source (nameIn dir source)
    if parsed.has "T" then
      if target.isSome then
        Task.die [text "cannot combine --target-directory and --no-target-directory"]
      match files with
      | [source, dest] => makeOne job source dest
      | [one] => Task.misuse [text "missing destination file operand after ", Quoted.always one]
      | _ => Task.misuse [text "extra operand ", Quoted.always ((files[2]?).getD [])]
    else
      match target, files with
      | some dir, files =>
        match ← targetDirectory followed dir with
        | .ok () => intoDirectory dir files
        | .error e => Task.die [text "target ", Quoted.always dir, text s!": {e.text}"]
      | none, [one] => intoDirectory FileTree.dot [one]
      | none, [source, dest] =>
        match ← targetDirectory followed dest with
        | .ok () => intoDirectory dest [source]
        | .error _ => makeOne job source dest
      | none, files =>
        let dir := files.getLastD []
        match ← targetDirectory followed dir with
        | .ok () => intoDirectory dir files.dropLast
        | .error e => Task.die [text "target ", Quoted.always dir, text s!": {e.text}"]

end Ln

end Tool

end LineShell
