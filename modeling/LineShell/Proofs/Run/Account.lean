import LineShell.Proofs.Run.Reply

/-!
# Accounts

An *account* tells what happened on a line: which targets were kept, which line the command had to say,
which errors there were. `Shell.attempt` runs a command up to its last report and gives the account;
`Account.conclude` is the last report.

* `Shell.runCommand_eq_attempt`: an attempt and its conclusion are the whole of running a command.
* `Shell.handleAll_eq_recount`: the accounts of a session are told by a run of that session.
-/

namespace LineShell

/-- What happened on a line, up to the report of the command's failure. -/
structure Account extends Deed where
  command : Command
  /-- The directory that the line was run in. -/
  dir : Path
  /-- The targets that could be created. -/
  kept : Redirection
  /-- Why the others could not. -/
  dropped : List ShellError

namespace Account

/-- The sink that the command's lines went to. -/
def sink (a : Account) : Sink :=
  a.kept.over Sink.console

/-- The lines that were handed to that sink, the report of the failure last. -/
def sent (a : Account) : List (Stream × String) :=
  a.lines ++ a.failure.toList.map ShellError.line

/-- All lines that were written: the reports of the targets that could not be created come first. -/
def told (a : Account) : List (Stream × String) :=
  a.dropped.map ShellError.line ++ a.sent

/-- Report what the command failed with. -/
def conclude (a : Account) : Action Unit :=
  match a.failure with
  | none => return
  | some e => report a.sink e

end Account

namespace Shell

/-- Carry out a command whose targets are there, but for the report of its failure. -/
def carryOut (sh : Shell) (c : Command) (kept : Redirection) : Action (State × Deed) :=
  if c.isEmpty then return (sh.state, {})
  else do
    let (state, reply) ← sh.reply c
    return (state, ← reply.carryOut kept sh (kept.over Sink.console))

/-- Run a command up to the report of its failure. -/
def attempt (sh : Shell) (c : Command) : Action (Shell × Account) := do
  let (kept, dropped) ← c.redirection.prepare sh.state.currentDir
  reportAll Sink.console dropped
  let (state, deed) ← sh.carryOut c kept
  return ({ sh with state := state },
    { deed with command := c, dir := sh.state.currentDir, kept := kept, dropped := dropped })

/-- Run one line and give an account of it. -/
def recountLine (sh : Shell) (line : String) : Action (Shell × Account) := do
  let (sh', a) ← sh.attempt (Command.parse line)
  a.conclude
  return (sh', a)

/-- Run lines one after the other and give an account of each. -/
def recount (sh : Shell) : List String → Action (Shell × List Account)
  | [] => return (sh, [])
  | line :: lines => do
    let (sh, a) ← sh.recountLine line
    let (sh, as) ← sh.recount lines
    return (sh, a :: as)

/-- **Running a command is attempting it and reporting its failure.** -/
theorem runCommand_eq_attempt (sh : Shell) (c : Command) :
    sh.runCommand c = do
      let (sh', a) ← sh.attempt c
      a.conclude
      return sh' := by
  simp only [runCommand, runOver, attempt, carryOut, bind_assoc]
  refine bind_congr fun prepared => bind_congr fun _ => ?_
  by_cases hempty : c.isEmpty = true
  · simp [hempty, Account.conclude]
  · simp only [hempty, if_false, Bool.false_eq_true, performOver, dispatch_eq_reply, Reply.settle, bind_assoc]
    refine bind_congr fun replied => ?_
    simp only [pure_bind]
    refine bind_congr fun deed => ?_
    obtain ⟨said, unopened, failure⟩ := deed
    cases failure <;> rfl

/-- What a command asks for is what its attempt asks for, and then its last report. -/
theorem trace_runCommand_eq_attempt {σ : Type} (sys : System σ) (w : σ) (sh : Shell) (c : Command) :
    (sh.runCommand c).trace sys w = (sh.attempt c).trace sys w ++
      ((sh.attempt c).run sys w).1.2.conclude.trace sys ((sh.attempt c).run sys w).2 := by
  simp only [runCommand_eq_attempt, Action.trace_bind, Action.pure_def, Action.trace_done, List.append_nil]

theorem handle_eq_recountLine (sh : Shell) (line : String) :
    sh.handle line = Prod.fst <$> sh.recountLine line := by
  rw [handle_eq_runCommand, runCommand_eq_attempt, recountLine]
  simp only [map_bind, map_pure]

theorem handleAll_eq_recount (sh : Shell) (lines : List String) :
    sh.handleAll lines = Prod.fst <$> sh.recount lines := by
  induction lines generalizing sh with
  | nil => rfl
  | cons line lines ih =>
    simp only [handleAll, recount, handle_eq_recountLine, bind_map_left, map_bind, map_pure]
    refine bind_congr fun x => ?_
    rw [ih, map_eq_pure_bind]

end Shell

end LineShell
