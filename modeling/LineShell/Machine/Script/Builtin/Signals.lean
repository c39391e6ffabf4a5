import LineShell.Machine.Script.Operands

/-!
# Signals and jobs

The builtin commands about signals and about statements in the background: `trap`, `kill`, `wait`,
`jobs`, `fg` and `bg`.
-/

namespace LineShell.Script

namespace ScriptM

/-- A signal arrives. -/
def receive (signal : Nat) : ScriptM Unit := do
  let s ← get
  if signal = Signal.kill then throw (.killed signal)
  if s.deaf.contains signal then return
  match s.traps.lookup signal with
  | some action =>
    if !action.isEmpty && !s.arrived.contains signal then
      set { s with arrived := signal :: s.arrived }
  | none => if !Signal.harmless.contains signal then throw (.killed signal)

/-- Receive the signals that are on their way. -/
def receiveAll : ScriptM Unit := do
  let s ← get
  let signals ← ofStep fun m => m.takeSignals s.process.id
  signals.forM receive

end ScriptM

namespace Builtin

/-- Say what is done when a signal arrives; without an action, what is usual. -/
def setTrap (action : Option Chars) (signal : Nat) : ScriptM Unit :=
  modify fun s =>
    let others := s.traps.filter (·.1 ≠ signal)
    { s with traps := (action.map (signal, ·)).toList ++ others }

/-- Set the traps of signals that are called by `names`. -/
def setTraps (action : Option Chars) : List Chars → ScriptM Nat
  | [] => return 0
  | name :: names => do
    match Signal.ofText? name 0 with
    | none =>
      ScriptM.writeError (ofString "trap: " ++ name ++ ofString ": bad trap\n")
      return 1
    | some signal =>
      setTrap action signal
      setTraps action names

/-- Show or set what is done when signals arrive. -/
def runTrap (args : List Chars) : ScriptM Nat := do
  match ← operandsOf args with
  | [] =>
    let traps := (← get).traps.mergeSort fun a b => a.1 ≤ b.1
    for (signal, action) in traps do
      ScriptM.print (ofString "trap -- " ++ quotedText action ++ ' ' :: Signal.name signal ++ ['\n'])
    return 0
  | first :: more =>
    if more.isEmpty || (Signal.ofNumber? first).isSome then setTraps none (first :: more)
    else setTraps (if first = ['-'] then none else some first) more

/-- Refuse the way in which signals are sent. -/
def refuseKill {α : Type} : ScriptM α :=
  ScriptM.fail (ofString ("Usage: kill [-s sigspec | -signum | -sigspec] [pid | job]... or\n" ++
    "kill -l [exitstatus]"))

/-- Refuse a job that there is not. -/
def refuseJob {α : Type} (name : Chars) : ScriptM α :=
  ScriptM.fail (ofString "No such job: " ++ name)

/-- Send a signal to the process that `target` calls. -/
def sendSignal (signal : Nat) (target : Chars) : ScriptM Nat := do
  if target.head? = some '%' then refuseJob target
  let id ← countOf (if target.head? = some '-' then target.tail else target)
  let s ← get
  let refuse (e : Errno) : ScriptM Nat := do
    ScriptM.complain (ofString e.text ++ ['\n'])
    return 1
  if target.head? ≠ some '-' && id = s.process.id then
    if signal ≠ 0 then ScriptM.receive signal
    return 0
  else if target.head? ≠ some '-' && s.process.ancestors.contains id then
    if signal ≠ 0 then
      ScriptM.ofStep (modify fun m => { m with signals := m.signals ++ [(id, signal)] })
    return 0
  else if s.jobs.any (·.process = id) then return 0
  else if id = 1 then refuse .notPermitted
  else refuse .noProcess

/-- Send a signal to processes. -/
def sendSignals (signal : Nat) (targets : List Chars) : ScriptM Nat := do
  match targets with
  | [] => return 0
  | t :: ts =>
    let here ← sendSignal signal t
    let rest ← sendSignals signal ts
    return max here rest

/-- List signals, or name the one that an exit code stands for. -/
def listSignals (operands : List Chars) : ScriptM Nat := do
  match operands with
  | [] =>
    ScriptM.print (ofString "0\n")
    for k in List.range (Signal.count - 1) do
      ScriptM.print (Signal.name (k + 1) ++ ['\n'])
  | code :: _ =>
    let n ← countOf code
    let n := if n > 128 then n - 128 else n
    if 0 < n && n < Signal.count then ScriptM.print (Signal.name n ++ ['\n'])
    else ScriptM.fail (ofString "invalid signal number or exit status: " ++ code)
  return 0

/-- Send or list signals. -/
def runKill (args : List Chars) : ScriptM Nat := do
  match args with
  | [] => refuseKill
  | first :: more =>
    let early := if first.head? = some '-' then Signal.ofText? first.tail 1 else none
    let (listed, signal, operands) ← match early with
      | some n => pure (false, n, more)
      | none =>
        if first.head? ≠ some '-' then pure (false, Signal.terminate, args)
        else do
          let (options, operands) ← readOptions "ls:" args
          let listed := options.any (·.letter = 'l')
          let named := options.filter (·.letter = 's')
          for o in named do
            if (Signal.ofText? o.value 1).isNone then
              ScriptM.fail (ofString "invalid signal number or name: " ++ o.value)
          let signal := (named.getLast?.bind fun o => Signal.ofText? o.value 1)
          if listed && signal.isSome && operands.isEmpty then pure (true, 0, operands)
          else if listed && signal.isSome then refuseKill
          else pure (listed, signal.getD Signal.terminate, operands)
    if listed then listSignals operands
    else if operands.isEmpty then refuseKill
    else sendSignals signal operands

/-- Take the job that `name` calls away, and yield its exit code. -/
def waitFor (name : Chars) : ScriptM Nat := do
  if name.head? = some '%' then refuseJob name
  let id ← countOf name
  let s ← get
  match s.jobs.find? (·.process = id) with
  | none => return 127
  | some job =>
    if job.message ≠ [] then ScriptM.writeError job.message
    let told : Job := { job with message := [] }
    set { s with jobs := told :: s.jobs.filter (·.process ≠ id) }
    return job.status

/-- Wait for statements in the background. -/
def runWait (args : List Chars) : ScriptM Nat := do
  let rec waitAll (code : Nat) : List Chars → ScriptM Nat
    | [] => return code
    | name :: names => do waitAll (← waitFor name) names
  waitAll 0 (← operandsOf args)

/-- Show the statements in the background. -/
def runJobs (args : List Chars) : ScriptM Nat := do
  let _ ← readOptions "lp" args
  return 0

/-- Continue a statement that was stopped, of which there are none. -/
def runContinue (args : List Chars) : ScriptM Nat := do
  match ← operandsOf args with
  | [] => ScriptM.fail (ofString "No current job")
  | name :: _ => refuseJob name

end Builtin

end LineShell.Script
