import LineShell.Machine.Tool.Mode
import LineShell.Machine.Tool.Task

/-!
# Changing permission bits

The program `chmod` gives files other permission bits, and with `-R` those in directories, too.
-/

namespace LineShell

namespace Tool

namespace Chmod

/-- The letters that begin a change of permission bits where an option is expected. -/
def modeLetters : List Char := "rwxXstugoa,+=01234567".toList

/-- The options. -/
def options : OptionTable :=
  let t := OptionTable.ofLetters "Rcfv" ""
    [{ name := "changes", letter := 'c' }, { name := "recursive", letter := 'R' },
      { name := "no-preserve-root", letter := '\x04' }, { name := "preserve-root", letter := '\x05' },
      { name := "quiet", letter := 'f' },
      { name := "reference", letter := '\x03', value := .required },
      { name := "silent", letter := 'f' }, { name := "verbose", letter := 'v' }]
  { t with letters := t.letters ++ modeLetters.map (·, .optional) }

/-- What is to be done. -/
structure Job where
  changes : List ModeChange
  recursive : Bool := false
  silent : Bool := false
  /-- Every file is reported, or only those that change. -/
  verbose : Bool := false
  reportsChanges : Bool := false
  /-- Bits that were spared though they were asked for are an error. -/
  strict : Bool := false

/-- Permission bits as digits and letters. -/
def shownMode (mode : Nat) : String :=
  s!"{octalText mode} ({permissionLetters mode})"

/-- Complain, unless nothing is to be said. -/
def object (job : Job) (parts : List Bytes) : Task Unit := do
  if !job.silent then Task.tell parts
  Task.fail

/-- Change the permission bits of the file `path`, which is `n`. -/
def changeOne (job : Job) (path : Bytes) (n : Node) : Task Unit := do
  let mask := (← Task.process).mask
  let mode := ModeChange.applyAll n.isDirectory mask job.changes n.mode
  match ← Task.change fun t v => t.changeMode v ⟨path⟩ fun _ => mode with
  | .error e =>
    object job [text "changing permissions of ", Quoted.always path, text s!": {e.text}"]
    if job.verbose then
      Task.print (text "failed to change mode of " ++ Quoted.always path ++
        text s!" from {shownMode n.mode} to {shownMode mode}\n")
  | .ok () =>
    if mode ≠ n.mode then
      if job.verbose || job.reportsChanges then
        Task.print (text "mode of " ++ Quoted.always path ++
          text s!" changed from {shownMode n.mode} to {shownMode mode}\n")
    else if job.verbose then
      Task.printOf "mode of " path s!" retained as {shownMode mode}"
    if job.strict then
      let naive := ModeChange.applyAll n.isDirectory 0 job.changes n.mode
      if ModeChange.without mode naive ≠ 0 then
        Task.complain [Quoted.ifNeeded path,
          text s!": new permissions are {permissionLetters mode}, not {permissionLetters naive}"]

/-- Change the permission bits of a file, and with `recursive` of those in it, at most `depth`
directories deep. Only links at the `top` are followed. -/
def changeAll (job : Job) (depth : Nat) (top : Bool) (path : Bytes) : Task Unit := do
  match depth with
  | 0 => return
  | depth + 1 =>
    match ← Task.look path top with
    | .error e =>
      match ← Task.look path false with
      | .ok _ =>
        if e = .noEntry then
          object job [text "cannot operate on dangling symlink ", Quoted.always path]
        else object job [text "cannot access ", Quoted.always path, text s!": {e.text}"]
      | .error e => object job [text "cannot access ", Quoted.always path, text s!": {e.text}"]
      if job.verbose then Task.printOf "" path " could not be accessed"
    | .ok (_, n) =>
      match n.content with
      | .link _ =>
        if job.verbose then
          Task.printOf "neither symbolic link " path " nor referent has been changed"
      | _ =>
        changeOne job path n
        if job.recursive && n.isDirectory then
          let (t, v) ← Task.scene
          match t.list v ⟨path⟩ with
          | .error e =>
            object job [text "cannot read directory ", Quoted.always path, text s!": {e.text}"]
          | .ok names => names.forM fun name => changeAll job depth false (inside path name)

/-- What the program does. -/
def body : Task Unit :=
  Task.withOptions options (pure ()) fun parsed => do
    let given := parsed.options.filter fun o => modeLetters.contains o.letter
    let mode? := if given.isEmpty then none
      else some ((text ",").intercalate (given.map (·.argument)))
    let reference := parsed.value '\x03'
    if reference.isSome && mode?.isSome then
      Task.misuse [text "cannot combine mode and --reference options"]
    let (mode?, files) := match reference, mode?, parsed.operands with
      | none, none, mode :: files => (some mode, files)
      | _, mode?, files => (mode?, files)
    if files.isEmpty then
      match given, reference, mode? with
      | [], none, some mode =>
        Task.misuse [text "missing operand after ", Quoted.withBackslashes mode]
      | _, _, _ => Task.misuse [text "missing operand"]
    let changes ← match reference, mode? with
      | some file, _ => do
        match ← Task.look file true with
        | .ok (_, n) => pure (ModeChange.exactly n.mode)
        | .error e =>
          Task.die [text "failed to get attributes of ", Quoted.always file, text s!": {e.text}"]
      | none, mode? => do
        let mode := mode?.getD []
        match ModeChange.read mode with
        | some changes => pure changes
        | none => Task.misuse [text "invalid mode: ", Quoted.withBackslashes mode]
    let loud := (parsed.last "cv").map (·.letter)
    let job : Job :=
      { changes := changes
        recursive := parsed.has "R"
        silent := parsed.has "f"
        verbose := loud = some 'v'
        reportsChanges := loud = some 'c'
        strict := !given.isEmpty }
    files.forM fun file => changeAll job depthLimit true (oneEndSlash file)

end Chmod

end Tool

end LineShell
