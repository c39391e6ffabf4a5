import LineShell.Machine.Tool.Task

/-!
# Removing files

The program `rm` removes files, and with `-r` directories with everything in them. It can ask before
it removes something.
-/

namespace LineShell

namespace Tool

namespace Rm

/-- The options. -/
def options : OptionTable :=
  .ofLetters "dfirvIR" ""
    [{ name := "force", letter := 'f' },
      { name := "interactive", letter := '\x03', value := .optional },
      { name := "one-file-system", letter := '\x04' },
      { name := "no-preserve-root", letter := '\x05' },
      { name := "preserve-root", letter := '\x06', value := .optional },
      { name := "recursive", letter := 'r' }, { name := "dir", letter := 'd' },
      { name := "verbose", letter := 'v' }]

/-- When questions are asked. -/
inductive Asking where
  | always
  | once
  | never
deriving DecidableEq, Repr

/-- What is to be done. -/
structure Job where
  recursive : Bool
  emptyDirectories : Bool
  verbose : Bool
  /-- Files that are not there are no failure. -/
  lenient : Bool
  asking : Asking

/-- What has become of a file. -/
inductive Outcome where
  | done
  /-- It was not to be removed. -/
  | kept
  | failed
deriving DecidableEq, Repr

/-- Outcomes after which a directory cannot be removed. -/
def Outcome.and : Outcome → Outcome → Outcome
  | .failed, _ | _, .failed => .failed
  | .kept, _ | _, .kept => .kept
  | .done, .done => .done

/-- The words for a kind of file. -/
def kindText (n : Node) : String :=
  match n.content with
  | .directory .. => "directory"
  | .link _ => "symbolic link"
  | .device _ => "character special file"
  | .regular [] => "regular empty file"
  | _ => "regular file"

/-- Refuse to remove the file `path`. -/
def refuse (path : Bytes) (e : Errno) : Task Outcome := do
  Task.refuse "cannot remove" path e
  return .failed

/-- Ask whether the file `path`, which is `n`, is to be removed. -/
def mayRemove (job : Job) (path : Bytes) (n : Node) : Task Bool := do
  if job.asking ≠ .always then return true
  Task.ask [text s!"remove {kindText n} ", Quoted.always path]

/-- Remove a file that is empty, if it is a directory. -/
def removeOne (job : Job) (path : Bytes) (isDirectory : Bool) : Task (Except Errno Unit) := do
  let removed ← Task.change fun t v =>
    if isDirectory then t.removeDirectory v ⟨path⟩ else t.unlink v ⟨path⟩
  match removed with
  | .ok () =>
    if job.verbose then Task.printOf (if isDirectory then "removed directory " else "removed ") path ""
    return .ok ()
  | .error e => return .error e

/-- Remove a file as told by `removeOne`, or say why that cannot be done. -/
def takeAway (job : Job) (path : Bytes) (isDirectory : Bool) (instead : Option Errno) :
    Task Outcome := do
  match ← removeOne job path isDirectory with
  | .ok () => return .done
  | .error e =>
    if job.lenient && (e = .noEntry || e = .notDirectory) then return .done
    let unclear := e = .notEmpty || e = .isDirectory || e = .notDirectory || e = .fileExists
    refuse path (if unclear then instead.getD e else e)

/-- Remove a file, and with `recursive` what is in it, at most `depth` directories deep. -/
def remove (job : Job) (depth : Nat) (top : Bool) (path : Bytes) : Task Outcome := do
  match depth with
  | 0 => return .failed
  | depth + 1 =>
    match ← Task.look path false with
    | .error e =>
      if job.lenient && (e = .noEntry || e = .notDirectory) then return .done else refuse path e
    | .ok (id, n) =>
      if !n.isDirectory then
        if !(← mayRemove job path n) then return .kept
        takeAway job path false none
      else
        let (t, v) ← Task.scene
        let listed := t.list v ⟨path⟩
        let isEmpty := match listed with
          | .ok names => names.isEmpty
          | .error _ => false
        if !job.recursive && !(job.emptyDirectories && isEmpty) then
          return ← refuse path (if job.emptyDirectories then .notEmpty else .isDirectory)
        if top && endsInDots path then
          Task.complainOf "refusing to remove '.' or '..' directory: skipping " path ""
          return .failed
        if top && id = FileTree.rootId then
          let same := if path = [Path.slash] then [] else text " (same as '/')"
          Task.complain ([text "it is dangerous to operate recursively on ", Quoted.always path, same])
          Task.tell [text "use --no-preserve-root to override this failsafe"]
          return .failed
        if isEmpty then
          if !(← mayRemove job path n) then return .kept
          takeAway job path true none
        else
          if job.asking = .always then
            if !(← Task.ask [text "descend into directory ", Quoted.always path]) then return .kept
          match listed with
          | .error e => takeAway job path true (some e)
          | .ok names =>
            let outcomes ← names.mapM fun name => remove job depth false (inside path name)
            match outcomes.foldl Outcome.and .done with
            | .done =>
              if !(← mayRemove job path n) then return .kept
              takeAway job path true none
            | o => return o

/-- Where an argument that was taken for options is the name of a file, tell how to call it. -/
def pointToFile : Task Unit := do
  let p ← Task.process
  let looksLikeOption (a : Bytes) : Bool :=
    match a with
    | 0x2D :: _ :: _ => true
    | _ => false
  let named ← (p.argv.tail.filter looksLikeOption).filterM fun a =>
    return (← Task.look a false).isOk
  match named with
  | [] => return
  | a :: _ =>
    Task.writeError (text "Try '" ++ (← Task.name) ++ text " ./" ++ Quoted.ifNeeded a ++
      text "' to remove the file " ++ Quoted.always a ++ text ".\n")

/-- The words that tell when questions are asked. -/
def askingWords : List (String × Asking) :=
  [("never", .never), ("no", .never), ("none", .never), ("once", .once), ("always", .always),
    ("yes", .always)]

/-- When questions are asked, by the value of the option for it. -/
def askingOf (value : Option Bytes) : Task Asking := do
  match value with
  | none => return .always
  | some v =>
    let exact := askingWords.filter fun w => text w.1 = v
    let fits := if exact.isEmpty then askingWords.filter fun w => v.isPrefixOf (text w.1) else exact
    match fits with
    | [] =>
      Task.tell [text "invalid argument ", Quoted.always v, text " for '--interactive'"]
      Task.writeError (text ("Valid arguments are:\n  - 'never', 'no', 'none'\n  - 'once'\n" ++
        "  - 'always', 'yes'\n"))
      Task.pointToHelp
    | (_, a) :: others =>
      if others.any fun o => o.2 ≠ a then
        Task.tell [text "ambiguous argument ", Quoted.always v, text " for '--interactive'"]
        Task.writeError (text ("Valid arguments are:\n  - 'never', 'no', 'none'\n  - 'once'\n" ++
          "  - 'always', 'yes'\n"))
        Task.pointToHelp
      return a

/-- When questions are asked, and whether files that are not there are no failure, as the options say
one after the other. -/
def readAsking : Asking × Bool → List Given → Task (Asking × Bool)
  | state, [] => return state
  | (asking, lenient), o :: os => do
    let state ← match o.letter with
      | 'f' => pure (Asking.never, true)
      | 'i' => pure (.always, false)
      | 'I' => pure (.once, false)
      | '\x03' => do
        let a ← askingOf o.value
        pure (a, if a = .never then lenient else false)
      | _ => pure (asking, lenient)
    readAsking state os

/-- What the program does. -/
def body : Task Unit :=
  Task.withOptions options pointToFile fun parsed => do
    let (asking, lenient) ← readAsking (.never, false) parsed.options
    let recursive := parsed.has "rR"
    let files := parsed.operands
    if files.isEmpty then
      if lenient then return
      Task.misuse [text "missing operand"]
    if asking = .once && (recursive || files.length > 3) then
      let what := if files.length = 1 then "argument" else "arguments"
      let how := if recursive then " recursively" else ""
      if !(← Task.ask [text s!"remove {files.length} {what}{how}"]) then return
    let job : Job := ⟨recursive, parsed.has "d", parsed.has "v", lenient, asking⟩
    files.forM fun file => do
      let _ ← remove job depthLimit true (oneEndSlash file)

end Rm

end Tool

end LineShell
