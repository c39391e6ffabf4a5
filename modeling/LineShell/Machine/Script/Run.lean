import LineShell.Machine.Script.Builtin.Directory
import LineShell.Machine.Script.Builtin.Limits
import LineShell.Machine.Script.Builtin.Names
import LineShell.Machine.Script.Builtin.Output
import LineShell.Machine.Script.Builtin.Signals
import LineShell.Machine.Script.Builtin.Variables
import LineShell.Machine.Script.Grammar
import LineShell.Machine.Script.Redirect

/-!
# Running scripts

What the statements of a script do. Every statement yields an exit code. Some are run as processes of
their own, which see everything that the script sees but cannot change it; since a script waits for
them, they are run to their ends one after the other.
-/

namespace LineShell.Script

/-- How a statement is run. -/
structure RunMode where
  /-- The process ends with the statement. -/
  isLast : Bool := false
  /-- Someone looks at whether the statement succeeds. -/
  tested : Bool := false

namespace RunMode

/-- The mode of a statement inside, after which the process goes on. -/
def inside (m : RunMode) : RunMode := { m with isLast := false }

end RunMode

/-- The exit code of an ending. -/
def codeOf : Ending → Nat
  | .exited code => code % 256
  | .killed signal => 128 + signal

/-- What is told of an ending. -/
def messageOf : Ending → Chars
  | .exited _ => []
  | .killed signal => if signal = 2 || signal = Signal.pipe then [] else Signal.text signal ++ ['\n']

namespace ScriptM

/-- Use up the innermost of what is left out at the end of a round; the result tells whether the loop
is over. -/
def endRound : ScriptM Bool := do
  let s ← get
  match s.skip with
  | .nothing => return false
  | .leaveFunction _ => return true
  | .leaveLoops k =>
    set { s with skip := if k ≤ 1 then .nothing else .leaveLoops (k - 1) }
    return true
  | .nextRound k =>
    set { s with skip := if k ≤ 1 then .nothing else .nextRound (k - 1) }
    return k > 1

/-- Nothing is left out. -/
def goesOn : ScriptM Bool := do
  match (← get).skip with
  | .nothing => return true
  | _ => return false

/-- Set the exit code. -/
def setStatus (code : Nat) : ScriptM Unit :=
  modify fun s => { s with status := code }

/-- Run `x` in a loop. -/
def inLoop {α : Type} (x : ScriptM α) : ScriptM α := do
  modify fun s => { s with loops := s.loops + 1 }
  let a ← x
  modify fun s => { s with loops := s.loops - 1 }
  return a

/-- Wait for a process that has come to its end; the result is its exit code. -/
def wait (e : Ending) : ScriptM Nat := do
  receiveAll
  writeError (messageOf e)
  return codeOf e

/-- Run `x` as a process of its own, which begins with `start`. -/
def fork (start : Scope → Scope) (x : ScriptM Ending) : ScriptM (Nat × Ending) := do
  let id ← ofStep fun m => m.newProcess
  let s ← get
  let child : Scope :=
    { s with
      process := s.childOf id s.process
      traps := s.traps.filter (·.2.isEmpty)
      arrived := []
      jobs := []
      aside := []
      output := [] }
  let (result, _) ← ofStep (StateT.run (ExceptT.run x) (start child))
  match result with
  | .ok e | .error (.replaced e) => return (id, e)
  | .error (.killed signal) => return (id, .killed signal)
  | .error _ => return (id, .exited 0)

/-- An input without anything in it. -/
def nullInput : ScriptM Nat := do
  let v ← viewer
  return (← ofStep fun m => m.openFile v (Path.ofString "/dev/null") .reading).toOption.getD 0

/-- Remember a statement that runs in the background. -/
def addJob (id : Nat) (e : Ending) : ScriptM Unit :=
  modify fun s => { s with
    lastJob := some id
    jobs := { process := id, status := codeOf e, message := messageOf e } :: s.jobs }

/-- Write the lines that have been read since `rest` of the input was left, if the script is to show
what it reads. -/
def showRead (before : Chars) : ScriptM Unit := do
  let s ← get
  match s.input.source with
  | .text => return
  | _ =>
    let start := s.input.shown
    let reached := before.length - s.input.rest.length
    let more := s.input.rest.takeWhile (· ≠ '\n')
    let inLine := reached > 0 && before[reached - 1]? ≠ some '\n'
    let stop := if inLine then min before.length (reached + more.length + 1) else reached
    if s.option 'v' && stop > start then
      writeError ((before.take stop).drop start)
    set { s with input := { s.input with shown := max stop start - reached } }

/-- The open file that commands are read from. -/
def inputFile : ScriptM (Option Nat) := do
  let s ← get
  match s.input.source with
  | .text => return none
  | .file i => return some i
  | .stream => return s.opened? 0

/-- Read the next block of the script. -/
def readBlock : ScriptM Unit := do
  let block ← match ← inputFile with
    | none => pure []
    | some i => do
      let s ← get
      pure ((← ofStep fun m => m.read i 8192 s.process.argv).toOption.getD [])
  modify fun s => { s with input := { s.input with
    rest := s.input.rest ++ ofBytes (block.filter (· ≠ 0))
    complete := s.input.complete || block.isEmpty } }

/-- The reader of the rest of the script. -/
def readerOf (s : Scope) : Reader :=
  { insertions := s.input.insertions
    rest := s.input.rest
    complete := s.input.complete
    back := s.input.back
    line := s.input.line
    documents := s.documents
    aliases := s.aliases }

/-- Read a line of commands, and tell whether the script ends right after it. Blocks are read as long
as they are needed. -/
def readCommands (n : Nat) : ScriptM (Parser.LineRead × Bool) := do
  match n with
  | 0 => return (.ended, true)
  | n + 1 =>
    let s ← get
    let before := s.input.rest
    let (result, r) := (ExceptT.run Parser.readLine).run (readerOf s)
    let keep : ScriptM Unit := do
      modify fun s => { s with
        documents := r.documents
        input := { s.input with
          insertions := r.insertions
          rest := r.rest
          back := r.back
          line := r.line } }
      showRead before
    match result with
    | .error .starved =>
      readBlock
      readCommands n
    | .error (.fault line message) =>
      keep
      modify fun s => { s with line := line }
      fail (ofString message)
    | .ok line =>
      keep
      return (line, r.tokenBack && r.token = .endOfFile)

/-- Read from another script, and go back to this one afterwards. -/
def readingFrom {α : Type} (input : ScriptInput) (x : ScriptM α) : ScriptM α := do
  let before := (← get).input
  modify fun s => { s with input := input }
  andThen x (modify fun s => { s with input := before })

/-- Read a text as if it stood in double quotes. -/
def readQuoted (text : Chars) : ScriptM Word := do
  let s ← get
  let inner : Parser.CommandReaders := ⟨Parser.readInParentheses readingLimit, Parser.readInText readingLimit⟩
  let never : AwaitedDocument := { number := 0, mark := ['\x00'], stripTabs := false, expanded := true }
  let body : Parser Word := do
    let (d, _) ← Parser.readWhole inner (some never) .double (← Parser.nextChar)
    return d.parts.reverse
  let r : Reader := { readerOf s with insertions := [], rest := text, complete := true, back := [], line := 1 }
  match (ExceptT.run body).run r with
  | (.ok word, r) =>
    set { s with documents := r.documents }
    return word
  | (.error (.fault line message), _) =>
    modify fun s => { s with line := line }
    fail (ofString message)
  | (.error .starved, _) => return []

end ScriptM

/-- The words of a command, as far as they have been expanded. -/
structure CommandWords where
  /-- All words of the command. -/
  all : List Chars := []
  /-- The words from the one on that says what is done. -/
  own : List Chars := []
  /-- The words that have not been expanded. -/
  rest : List Word

/-- What is known about a command before it is searched. -/
structure CommandPlan where
  words : CommandWords
  /-- How the command is searched. -/
  search : SearchMode := { complains := true }
  /-- Failing ends the script. -/
  special : Bool := false
  /-- Assignments stay with the command. -/
  keepsApart : Bool := false
  /-- The builtin command that has been found. -/
  early : Option BuiltinEntry := none
  /-- It has been decided whether the command is special. -/
  decided : Bool := false

namespace CommandWords

/-- Expand words until there is one more. -/
def fill (x : Expander) (all own : List Chars) : List Word → ScriptM (Option CommandWords)
  | [] => return none
  | w :: ws => do
    match ← x.fields w with
    | [] => fill x all own ws
    | fs => return some ⟨all ++ fs, own ++ fs, ws⟩

/-- Expand the rest of the words. -/
def finish (x : Expander) (assigns : Bool) (c : CommandWords) : ScriptM CommandWords := do
  let more ← c.rest.mapM fun w =>
    if assigns && w.assigned?.isSome then return [← x.text .assigning w] else x.fields w
  let more := more.flatten
  return ⟨c.all ++ more, c.own ++ more, []⟩

/-- The words with one more, if there is one. -/
def ensure (x : Expander) (k : Nat) (c : CommandWords) : ScriptM (Option CommandWords) := do
  if k < c.own.length then return some c
  else fill x c.all c.own c.rest

/-- Read the options of `command`, the word `k` on: the words from the command on that it is about and
whether the search path is the standard one. There is no such command if it only asks. The other
words that have been expanded are in the result all the same. -/
def afterOptions (x : Expander) (n k : Nat) (standard : Bool) (c : CommandWords) :
    ScriptM (CommandWords × Option (CommandWords × Bool)) := do
  match n with
  | 0 => return (c, none)
  | n + 1 =>
    match ← c.ensure x k with
    | none => return (c, none)
    | some c =>
      let from_ (k : Nat) (c : CommandWords) : CommandWords := { c with own := c.own.drop k }
      match c.own[k]? with
      | some ['-', '-'] =>
        match ← c.ensure x (k + 1) with
        | none => return (c, none)
        | some c => return (c, some (from_ (k + 1) c, standard))
      | some ('-' :: o :: os) =>
        if (o :: os).all (· = 'p') then afterOptions x n (k + 1) true c else return (c, none)
      | _ => return (c, some (from_ k c, standard))

end CommandWords

namespace CommandPlan

/-- Find out what is done, at most `n` times `command` before it. -/
def decide (x : Expander) (n : Nat) (p : CommandPlan) : ScriptM CommandPlan := do
  match n with
  | 0 => return p
  | n + 1 =>
    match p.words.own with
    | [] => return p
    | name :: _ =>
      let p := { p with early := none }
      match ← findEarly p.search.noFunctions name with
      | .builtin entry =>
        let p := if p.decided then { p with early := some entry, keepsApart := true }
          else { p with early := some entry, decided := true, special := entry.special, keepsApart := !entry.special }
        if entry.name ≠ "command" then return p
        let (words, what) ← p.words.afterOptions x (p.words.rest.length + p.words.own.length + 1) 1 false
        match what with
        | none => return { p with words := words }
        | some (words, standard) =>
          let path := if standard then some standardPath else p.search.path
          decide x n { p with words := words, search := { p.search with noFunctions := true, path := path } }
      | _ => return { p with keepsApart := true }

/-- What is known about a command with the given words. -/
def ofWords (x : Expander) (words : List Word) : ScriptM CommandPlan := do
  match ← CommandWords.fill x [] [] words with
  | none => return { words := { rest := [] } }
  | some c =>
    let p ← decide x (words.length + c.own.length + 1) { words := c }
    let assigns := p.early.any (·.assigns)
    return { p with words := ← p.words.finish x assigns }

end CommandPlan

/-- The builtin commands that need nothing but their arguments. -/
def simpleBuiltin (name : String) (args : List Chars) : ScriptM Nat :=
  match name with
  | "alias" => Builtin.runAlias args
  | "bg" | "fg" => Builtin.runContinue args
  | "cd" | "chdir" => Builtin.runCd args
  | "command" => Builtin.runCommand args
  | "echo" => Builtin.runEcho args
  | "export" => Builtin.runExport args
  | "false" => return 1
  | "getopts" => Builtin.runGetopts args
  | "hash" => Builtin.runHash args
  | "jobs" => Builtin.runJobs args
  | "kill" => Builtin.runKill args
  | "local" => Builtin.runLocal args
  | "printf" => Builtin.runPrintf args
  | "pwd" => Builtin.runPwd args
  | "read" => Builtin.runRead args
  | "readonly" => Builtin.runReadonly args
  | "set" => Builtin.runSet args
  | "shift" => Builtin.runShift args
  | "test" => Builtin.runTest false args
  | "[" => Builtin.runTest true args
  | "times" => Builtin.runTimes
  | "trap" => Builtin.runTrap args
  | "type" => Builtin.runType args
  | "ulimit" => Builtin.runUlimit args
  | "umask" => Builtin.runUmask args
  | "unalias" => Builtin.runUnalias args
  | "unset" => Builtin.runUnset args
  | "wait" => Builtin.runWait args
  | _ => return 0

/-- Leave loops, or begin their next round. -/
def leaveLoops (again : Bool) (args : List Chars) : ScriptM Nat := do
  let n ← match args with
    | a :: _ => do
      let n ← countOf a
      if n = 0 then ScriptM.illegalNumber a
      pure n
    | [] => pure 1
  let s ← get
  let n := min n s.loops
  if n > 0 then set { s with skip := if again then .nextRound n else .leaveLoops n }
  return 0

/-- Leave a function. -/
def leaveFunction (args : List Chars) : ScriptM Nat := do
  let code ← match args with
    | a :: _ => countOf a
    | [] => pure (← get).status
  modify fun s => { s with skip := .leaveFunction (!args.isEmpty) }
  return code

/-- End the script. -/
def leaveScript (args : List Chars) : ScriptM Nat := do
  match args with
  | a :: _ =>
    let code ← countOf a
    modify fun s => { s with keptStatus := some code }
  | [] => pure ()
  throw .exit

/-- How deep functions may call each other. -/
def callLimit : Nat := 1000

/-- The file that a script is to be read from: a path name, or a name that is searched. -/
def scriptPlace (name : Chars) : ScriptM Chars := do
  if name.contains '/' then return name
  let v ← ScriptM.viewer
  let t := (← ScriptM.machine).tree
  let place := (candidates (← get).searchPath name).find? fun p =>
    (t.findNode v ⟨toBytes p⟩ true).toOption.any (·.2.isRegular)
  match place with
  | some p => return p
  | none => ScriptM.fail (name ++ ofString ": not found")

mutual

/-- Run a statement; the result is its exit code. -/
def run (x : Programs) (n : Nat) (mode : RunMode) (statement : Statement) : ScriptM Nat := do
  match n with
  | 0 => return 0
  | n + 1 =>
    let inside := mode.inside
    if !(← get).option 'n' then
      runTraps x n
      let counts := !mode.tested && match statement with
        | .simple .. | .subshell .. | .background .. | .pipeline .. => true
        | _ => false
      let code ← match statement with
        | .simple line assignments words redirects =>
          runSimple x n mode line assignments words redirects
        | .pipeline inBackground commands => runPipeline x n mode inBackground commands
        | .background line body redirects => runBackground x n line body redirects
        | .subshell line body redirects => runSubshell x n mode line body redirects
        | .redirected line body redirects => do
          modify fun s => { s with line := line }
          let cs ← redirects.mapM (Redirect.expand (expander x n))
          modify Scope.beginRedirections
          let made ← Redirect.connectAll (expander x n) cs
          let code ← if made then run x n inside body else pure 2
          modify fun s => s.endRedirections false
          pure code
        | .sequence first second => do
          let code ← run x n inside first
          if ← ScriptM.goesOn then run x n mode second else pure code
        | .both first second => do
          let code ← run x n { tested := true } first
          if code = 0 && (← ScriptM.goesOn) then run x n mode second else pure code
        | .either first second => do
          let code ← run x n { tested := true } first
          if code ≠ 0 && (← ScriptM.goesOn) then run x n mode second else pure code
        | .negation body => do
          let code ← run x n { tested := true } body
          pure (if code = 0 then 1 else 0)
        | .choice condition yes no => do
          let code ← run x n { tested := true } condition
          if !(← ScriptM.goesOn) then pure code
          else if code = 0 then run x n mode yes
          else
            match no with
            | some no => run x n mode no
            | none => pure 0
        | .loop whileFails condition body =>
          ScriptM.inLoop (runLoop x n inside whileFails condition body 0)
        | .each line name words body => do
          modify fun s => { s with line := line }
          let values ← (expander x n).allFields words
          ScriptM.inLoop (runEach x n inside name body 0 values)
        | .select line word branches => do
          modify fun s => { s with line := line }
          let text ← (expander x n).text .single word
          runBranches x n mode text branches
        | .define _ name body => do
          modify fun s => { s with
            functions := (name, body) :: s.functions.filter (·.1 ≠ name) }
          pure 0
      ScriptM.setStatus code
      runTraps x n
      if counts && code ≠ 0 && (← get).option 'e' then throw .finished
    else runTraps x n
    if mode.isLast then throw .finished
    return (← get).status

/-- Run a loop, whose exit code so far is `code`. -/
def runLoop (x : Programs) (n : Nat) (mode : RunMode) (whileFails : Bool)
    (condition body : Statement) (code : Nat) : ScriptM Nat := do
  match n with
  | 0 => return code
  | n + 1 =>
    let tested ← run x n { tested := true } condition
    let skip := (← get).skip
    let ended ← ScriptM.endRound
    match skip with
    | .leaveFunction _ => return tested
    | .leaveLoops _ => return code
    | .nextRound _ =>
      if ended then return code else runLoop x n mode whileFails condition body code
    | .nothing =>
      if (tested = 0) = whileFails then return code
      let code ← run x n mode body
      if ← ScriptM.endRound then return code
      runLoop x n mode whileFails condition body code

/-- Run `body` once for each of the values of a variable. -/
def runEach (x : Programs) (n : Nat) (mode : RunMode) (name : Chars) (body : Statement) (code : Nat)
    (values : List Chars) : ScriptM Nat := do
  match n, values with
  | n + 1, value :: values =>
    ScriptM.setVariable name value
    let code ← run x n mode body
    if ← ScriptM.endRound then return code
    runEach x n mode name body code values
  | _, _ => return code

/-- Run the first branch of which a pattern matches `text`. -/
def runBranches (x : Programs) (n : Nat) (mode : RunMode) (text : Chars) (branches : List Branch) :
    ScriptM Nat := do
  match n, branches with
  | n + 1, .mk patterns body :: branches =>
    if !(← ScriptM.goesOn) then return 0
    if ← anyMatches x n text patterns then
      match body with
      | some body => if ← ScriptM.goesOn then run x n mode body else return 0
      | none => return 0
    else runBranches x n mode text branches
  | _, _ => return 0

/-- Whether one of the patterns matches `text`. -/
def anyMatches (x : Programs) (n : Nat) (text : Chars) (patterns : List Word) : ScriptM Bool := do
  match n, patterns with
  | n + 1, p :: ps =>
    if matchesPattern (← (expander x n).pattern p) text then return true
    anyMatches x n text ps
  | _, _ => return false

/-- How words are expanded. -/
def expander (x : Programs) (n : Nat) : Expander :=
  match n with
  | 0 => ⟨fun _ => return []⟩
  | n + 1 => ⟨fun body => substitute x n body⟩

/-- The output of a command. -/
def substitute (x : Programs) (n : Nat) (body : Option Statement) : ScriptM Chars := do
  match n, body with
  | n + 1, some body =>
    let (source, sink) ← ScriptM.ofStep fun m => m.addPipe
    let (_, e) ← ScriptM.fork (fun s => s.connect 1 (some sink)) (runToEnd x n {} body)
    let output := (← ScriptM.ofStep fun m => m.read source Machine.pipeLimit []).toOption.getD []
    let code ← ScriptM.wait e
    modify fun s => { s with substituted := code }
    return ofBytes output
  | _, _ => return []

/-- Run a statement with which the process ends. -/
def runToEnd (x : Programs) (n : Nat) (mode : RunMode) (body : Statement) : ScriptM Ending := do
  match n with
  | 0 => return .exited 0
  | n + 1 => finish x n (run x n { mode with isLast := true } body)

/-- Run `body`, with which the process ends, and then what is to be done at the end. -/
def finish (x : Programs) (n : Nat) (body : ScriptM Nat) : ScriptM Ending := do
  match n with
  | 0 => return .exited 0
  | n + 1 =>
    let settle (h : Halt) : ScriptM Unit :=
      modify fun s => { s with
        status := if h = .exit then s.keptStatus.getD s.status else s.status
        keptStatus := none
        skip := .nothing
        loops := 0
        tracing := false
        running := none
        output := [] }
    let (result, s) ← ScriptM.isolated body
    set s
    let halt := match result with
      | .ok _ => Halt.finished
      | .error h => h
    match halt with
    | .killed signal => return .killed signal
    | .replaced e => return e
    | _ => pure ()
    modify fun s => s.undoRedirections 0
    settle halt
    match (← get).traps.lookup 0 with
    | none => pure ()
    | some action =>
      modify fun s => { s with keptStatus := some s.status }
      Builtin.setTrap none 0
      let (result, s) ← ScriptM.isolated (runText x n {} action)
      set s
      match result with
      | .error (.killed signal) => return .killed signal
      | .error (.replaced e) => return e
      | .error h =>
        modify fun s => s.undoRedirections 0
        settle h
      | .ok _ => settle .exit
    return .exited ((← get).status % 256)

/-- Do what is to be done about signals that have arrived. -/
def runTraps (x : Programs) (n : Nat) : ScriptM Unit := do
  let s ← get
  if s.arrived.isEmpty then return
  match n with
  | 0 => return
  | n + 1 =>
    let base := s.keptStatus.getD s.status
    modify fun s => { s with keptStatus := some base }
    for signal in s.arrived.mergeSort do
      if ← ScriptM.goesOn then
        modify fun s => { s with arrived := s.arrived.filter (· ≠ signal) }
        match (← get).traps.lookup signal with
        | none => pure ()
        | some action =>
          let _ ← runText x n {} action
          match (← get).skip with
          | .leaveFunction true => pure ()
          | _ => ScriptM.setStatus base
    modify fun t => { t with keptStatus := s.keptStatus }

/-- Run the commands of the script that is being read; the result is the exit code of the last. With
`atTop` the script may say that it is not to end where its text ends. -/
def runInput (x : Programs) (n : Nat) (mode : RunMode) (atTop : Bool) (ends code : Nat) :
    ScriptM Nat := do
  match n with
  | 0 => return code
  | n + 1 =>
    match ← ScriptM.readCommands readingLimit with
    | (.ended, _) =>
      if atTop && (← get).option 'I' && ends < 50 then
        ScriptM.writeError (ofString "\nUse \"exit\" to leave shell.\n")
        runInput x n mode atTop (ends + 1) code
      else return code
    | (.statement statement?, atEnd) =>
      let code ← match statement? with
        | some statement => run x n { mode with isLast := mode.isLast && atEnd } statement
        | none => do
          runTraps x n
          pure code
      if ← ScriptM.goesOn then runInput x n mode atTop 0 code
      else return code

/-- Run the commands in a text. -/
def runText (x : Programs) (n : Nat) (mode : RunMode) (text : Chars) : ScriptM Nat := do
  match n with
  | 0 => return 0
  | n + 1 =>
    ScriptM.readingFrom { source := .text, rest := text, complete := true }
      (runInput x n mode false 0 0)

/-- Run the commands in a file. -/
def runFile (x : Programs) (n : Nat) (name : Chars) : ScriptM Nat := do
  match n with
  | 0 => return 0
  | n + 1 =>
    let place ← scriptPlace name
    let i ← Redirect.openFile place .reading
    modify fun s => { s with running := some place }
    let code ← ScriptM.readingFrom { source := .file i } (runInput x n {} false 0 0)
    modify fun s => { s with skip := match s.skip with
      | .leaveFunction _ => .nothing
      | other => other }
    return code

/-- Run commands one after the other that are joined by pipes. -/
def runPipeline (x : Programs) (n : Nat) (mode : RunMode) (inBackground : Bool)
    (commands : List Statement) : ScriptM Nat := do
  match n with
  | 0 => return 0
  | n + 1 =>
    let input ← if inBackground then some <$> ScriptM.nullInput else pure none
    let endings ← runPiped x n mode input commands
    match endings.getLast? with
    | none => return 0
    | some (id, e) =>
      if inBackground then
        ScriptM.addJob id e
        return 0
      else
        ScriptM.receiveAll
        for (_, e) in endings do
          ScriptM.writeError (messageOf e)
        return codeOf e
/-- Run commands each of which reads what the one before has written; the first reads `input?`. -/
def runPiped (x : Programs) (n : Nat) (mode : RunMode) (input? : Option Nat)
    (commands : List Statement) : ScriptM (List (Nat × Ending)) := do
  match n, commands with
  | n + 1, command :: commands =>
    match command with
    | .simple _ _ (word :: _) _ =>
      match Word.literal? word with
      | some name => if isName name then let _ ← find {} name
      | none => pure ()
    | _ => pure ()
    let withInput (s : Scope) : Scope := if input?.isSome then s.connect 0 input? else s
    if commands.isEmpty then return [← ScriptM.fork withInput (runToEnd x n mode command)]
    let (source, sink) ← ScriptM.ofStep fun m => m.addPipe
    let here ← ScriptM.fork (fun s => (withInput s).connect 1 (some sink)) (runToEnd x n mode command)
    return here :: (← runPiped x n mode (some source) commands)
  | _, _ => return []

/-- Run a statement that the script does not wait for. -/
def runBackground (x : Programs) (n : Nat) (line : Nat) (body : Statement)
    (redirects : List Redirect) : ScriptM Nat := do
  match n with
  | 0 => return 0
  | n + 1 =>
    modify fun s => { s with line := line }
    let cs ← redirects.mapM (Redirect.expand (expander x n))
    let null ← ScriptM.nullInput
    let (id, e) ← ScriptM.fork (fun s => s.connect 0 (some null)) (runRedirected x n {} cs body)
    ScriptM.addJob id e
    return 0

/-- Run a statement as a process of its own. -/
def runSubshell (x : Programs) (n : Nat) (mode : RunMode) (line : Nat) (body : Statement)
    (redirects : List Redirect) : ScriptM Nat := do
  match n with
  | 0 => return 0
  | n + 1 =>
    modify fun s => { s with line := line }
    let cs ← redirects.mapM (Redirect.expand (expander x n))
    if mode.isLast && !(← get).hasTraps then
      cs.forM (Redirect.connect (expander x n))
      run x n mode body
    else
      let (_, e) ← ScriptM.fork id (runRedirected x n mode cs body)
      ScriptM.wait e

/-- Make connections, and run a statement with which the process ends. -/
def runRedirected (x : Programs) (n : Nat) (mode : RunMode) (cs : List Connection)
    (body : Statement) : ScriptM Ending := do
  match n with
  | 0 => return .exited 0
  | n + 1 =>
    finish x n do
      cs.forM (Redirect.connect (expander x n))
      run x n { mode with isLast := true } body

/-- Run a simple command. -/
def runSimple (x : Programs) (n : Nat) (mode : RunMode) (line : Nat) (assignments words : List Word)
    (redirects : List Redirect) : ScriptM Nat := do
  match n with
  | 0 => return 0
  | n + 1 =>
    modify fun s => { s with line := line, substituted := 0 }
    let plan ← CommandPlan.ofWords (expander x n) words
    let args := plan.words.own
    let builtin? := plan.early
    let isExec := builtin?.any fun e => e.name = "exec"
    let localDepth := (← get).locals.length
    if plan.keepsApart then modify Scope.beginLocals
    let cs ← redirects.mapM (Redirect.expand (expander x n))
    let depth := (← get).aside.length
    if !redirects.isEmpty then modify Scope.beginRedirections
    let leave (code : Nat) : ScriptM Nat := do
      modify fun s => if redirects.isEmpty then s
        else (s.undoRedirections (depth + 1)).endRedirections isExec
      modify fun s => (s.undoRedirections depth).undoLocals localDepth
      return code
    if !(← Redirect.connectAll (expander x n) cs) then
      ScriptM.setStatus 2
      if plan.special then throw .failure
      return ← leave 2
    let assigned ← assignments.mapM fun w => do
      let text ← (expander x n).text .assigning w
      if plan.keepsApart then Builtin.makeLocal true text
      else
        let (name, value) := Builtin.assignment text
        ScriptM.assign name (value.getD []) (isExec && args.length > 1)
      return text
    if (← get).option 'x' && !(← get).tracing then
      trace x n (!redirects.isEmpty) (assigned ++ plan.words.all)
    match args with
    | [] => leave (← get).substituted
    | name :: _ =>
      let found ← match builtin? with
        | some e => if e.early then pure (Found.builtin e) else find plan.search name
        | none => find plan.search name
      match found with
      | .nothing =>
        ScriptM.setStatus 127
        if plan.special then throw .failure
        leave 127
      | .program index => leave (← runProgram x n mode plan args index)
      | .builtin e => leave (← runBuiltin x n mode plan e args)
      | .function body => leave (← runFunction x n mode body args.tail)

/-- Write a command to where the script shows what it does; with `redirected`, that is not where the
command's own messages go. -/
def trace (x : Programs) (n : Nat) (redirected : Bool) (words : List Chars) : ScriptM Unit := do
  match n with
  | 0 => return
  | n + 1 =>
    modify fun s => { s with tracing := true }
    let mark := (← get).text "PS4"
    let attempt : ScriptM Chars := do
      let word ← ScriptM.readQuoted mark
      (expander x n).text .document word
    let (result, s) ← ScriptM.isolated attempt
    set s
    let mark ← match result with
      | .ok cs => pure cs
      | .error .failure => pure mark
      | .error h => throw h
    modify fun s => { s with tracing := false }
    let s ← get
    let kept := if redirected then (s.aside.head?.bind (·.lookup 2)).join else none
    let target := match kept with
      | some i => some i
      | none => s.opened? 2
    let _ ← ScriptM.writeOpened target (mark ++ joined words ++ ['\n'])

/-- Run a program. -/
def runProgram (x : Programs) (n : Nat) (mode : RunMode) (plan : CommandPlan) (args : List Chars)
    (index : Option Nat) : ScriptM Nat := do
  match n with
  | 0 => return 0
  | n + 1 =>
    let name := args.headD []
    let path := plan.search.path.getD (← get).searchPath
    if mode.isLast && !(← get).hasTraps then replace x n path args index
    else
      let id ← ScriptM.ofStep fun m => m.newProcess
      let s ← get
      match ← ScriptM.ofStep (x.launch (s.childOf id (s.programProcess args)) path name index) with
      | .ok e => ScriptM.wait e
      | .error e =>
        ScriptM.complain (name ++ ofString ": " ++ commandReason e)
        return Programs.refusalCode e

/-- Put a program in the place of the script. -/
def replace (x : Programs) (n : Nat) (path : Chars) (args : List Chars) (index : Option Nat) :
    ScriptM Nat := do
  match n with
  | 0 => return 0
  | _ + 1 =>
    let name := args.headD []
    let s ← get
    match ← ScriptM.ofStep (x.launch (s.programProcess args) path name index) with
    | .ok e => throw (.replaced e)
    | .error e =>
      ScriptM.complain (name ++ ofString ": " ++ commandReason e)
      ScriptM.setStatus (Programs.refusalCode e)
      throw .finished

/-- Run a builtin command. -/
def runBuiltin (x : Programs) (n : Nat) (mode : RunMode) (plan : CommandPlan) (e : BuiltinEntry)
    (args : List Chars) : ScriptM Nat := do
  match n with
  | 0 => return 0
  | n + 1 =>
    let before := (← get).running
    let name := args.headD []
    let args := args.tail
    let body : ScriptM Nat := match e.name with
      | ":" | "true" => return 0
      | "break" => leaveLoops false args
      | "continue" => leaveLoops true args
      | "return" => leaveFunction args
      | "exit" => leaveScript args
      | "eval" => do
        match ← operandsOf args with
        | [] => return 0
        | words => runText x n { tested := mode.tested } (joined words)
      | "." => do
        match ← operandsOf args with
        | [] => return 0
        | file :: _ => runFile x n file
      | "exec" => do
        if args.isEmpty then return 0
        replace x n (← get).searchPath args none
      | _ => simpleBuiltin e.name args
    modify fun s => { s with running := some name }
    let (result, s) ← ScriptM.isolated do
      let code ← body
      let flushed ← ScriptM.flush
      if !flushed then ScriptM.complain (name ++ ofString ": I/O error")
      return code ||| (if flushed then 0 else 1)
    set { s with running := before, output := [] }
    match result with
    | .ok code =>
      ScriptM.setStatus code
      return code
    | .error .failure => if plan.special then throw .failure else return (← get).status
    | .error h => throw h

/-- Call a function. -/
def runFunction (x : Programs) (n : Nat) (mode : RunMode) (body : Statement) (args : List Chars) :
    ScriptM Nat := do
  match n with
  | 0 => return 0
  | n + 1 =>
    let s ← get
    if s.depth ≥ callLimit then throw (.killed 11)
    set { s with args := args, optionMark := {}, loops := 0, depth := s.depth + 1 }
    ScriptM.andThen (run x n mode.inside body) (modify fun t => { t with
      args := s.args
      optionMark := s.optionMark
      loops := s.loops
      depth := s.depth
      skip := match t.skip with
        | .leaveFunction _ => .nothing
        | other => other })

end

end LineShell.Script
