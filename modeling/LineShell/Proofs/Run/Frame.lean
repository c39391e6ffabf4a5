import LineShell.Proofs.Run.Creation
import LineShell.Proofs.Run.Directory

/-!
# What lines leave alone

A line changes no more of a shell than its name allows. Only `cd` changes the current directory, and only `exit` sets
the exit flag, which no line takes back; environment and search path stay as they were made. This holds of one line
whatever the world answers, and so of every session, also of one that goes on after the flag was set.

A line with the name `exit` has nothing to write. All that it asks for is the creation of its targets, and the reports
of those that could not be created.

* `Shell.yields_handleAll`: what many lines leave of a shell.
* `Shell.runCommand_exit`: all that a line with the name `exit` does.
* `Shell.frame_handleAll`: a session, line by line.
-/

namespace LineShell

open LineShell.Action

variable {σ : Type}

namespace Shell

variable (sh : Shell)

/-! ## Many lines -/

/-- What `lines` may have changed of the shell `sh` when it is `sh'` afterwards. -/
structure FollowsAll (lines : List String) (sh' : Shell) : Prop where
  env : sh'.env = sh.env
  searchPath : sh'.searchPath = sh.searchPath
  exitRequested : sh'.state.exitRequested = true ↔
    sh.state.exitRequested = true ∨ ∃ line ∈ lines, (Command.parse line).name = Builtin.exit.name

variable {sh} in
theorem Follows.cons {c : Command} {line : String} {lines : List String} {sh' sh'' : Shell}
    (hline : sh.Follows c sh') (hc : Command.parse line = c) (hlines : sh'.FollowsAll lines sh'') :
    sh.FollowsAll (line :: lines) sh'' := by
  subst hc
  refine ⟨hlines.env.trans hline.env, hlines.searchPath.trans hline.searchPath, ?_⟩
  rw [hlines.exitRequested, hline.exitRequested, Bool.or_eq_true, beq_iff_eq, or_assoc]
  simp only [List.mem_cons, exists_eq_or_imp]

/-- **What many lines leave of a shell**, whatever the answers are. -/
theorem yields_handleAll (lines : List String) : (sh.handleAll lines).Yields (sh.FollowsAll lines) := by
  induction lines generalizing sh with
  | nil =>
    refine ⟨rfl, rfl, ?_⟩
    simp only [List.not_mem_nil, false_and, exists_false, or_false]
  | cons line lines ih =>
    rw [handleAll, handle_eq_runCommand]
    generalize hc : Command.parse line = c
    refine yields_bind (sh.yields_runCommand c) fun sh' hline => ?_
    -- The lines that are left are run by the shell that this line leaves.
    exact (ih sh').mono fun sh'' hlines => hline.cons hc hlines

/-! ## A line that ends the shell -/

/-- **All that a line with the name `exit` does**: it creates its targets, reports those that could not be created,
and sets the exit flag. -/
theorem runCommand_exit {c : Command} (hname : c.name = Builtin.exit.name) :
    sh.runCommand c = do
      let (_, errors) ← c.redirection.prepare sh.state.currentDir
      reportAll Sink.console errors
      return { sh with state := { sh.state with exitRequested := true } } := by
  have hempty : c.isEmpty = false := by
    rw [Command.isEmpty, hname]
    rfl
  have hlookup : Builtin.lookup c.name = some .exit := by
    rw [hname]
    exact Builtin.lookup_name .exit
  simp only [runCommand, runOver, performOver, dispatch, hempty, hlookup, Builtin.execute]
  rfl

theorem trace_runCommand_exit (sys : System σ) (w : σ) {c : Command} (hname : c.name = Builtin.exit.name) :
    (sh.runCommand c).trace sys w = (c.redirection.prepare sh.state.currentDir).trace sys w ++
      (reportAll Sink.console ((c.redirection.prepare sh.state.currentDir).run sys w).1.2).trace sys
        ((c.redirection.prepare sh.state.currentDir).run sys w).2 := by
  rw [sh.runCommand_exit hname]
  simp only [trace_bind, pure_def, trace_done, List.append_nil]

/-! ## A session -/

/-- **What a session leaves alone.** After any number of lines, environment and search path are what they were at the
start, and the exit flag is set exactly where it was at the start or one of these lines has the name `exit`. A line
after which the current directory is another one has the name `cd`. A line with the name `exit` creates its targets
and reports on the console each of those that could not be created; it asks for nothing else, so that no target is
written to, and where all targets could be created the console is not either. -/
theorem frame_handleAll (lines : List String) (sys : System σ) (w : σ) :
    (∀ i, sh.FollowsAll (lines.take i) (sh.reached sys w lines i).1) ∧
    ∀ i line, lines[i]? = some line →
      let c := Command.parse line
      let before := sh.reached sys w lines i
      let after := sh.reached sys w lines (i + 1)
      let create := c.redirection.prepare before.1.state.currentDir
      let es := (before.1.handle line).trace sys before.2
      let created := create.trace sys before.2
      let errors := (create.run sys before.2).1.2
      (after.1.state.currentDir ≠ before.1.state.currentDir → c.name = "cd") ∧
      (c.name = "exit" →
        after.1 = { before.1 with state := { before.1.state with exitRequested := true } } ∧
        ∃ reports, es = created ++ reports ∧
          (∀ e ∈ created, ∃ t ∈ (c.redirection.resolve before.1.state.currentDir).targets, e.request = .create t) ∧
          (∀ e ∈ reports, e.request.IsReport) ∧
          marks reports = errors.map (fun e => .print .stderr e.message) ∧ (errors = [] → reports = [])) := by
  refine ⟨fun i => (sh.yields_handleAll (lines.take i)).run sys w, fun i line hline => ?_⟩
  have hnext := sh.reached_succ sys w hline
  simp only [hnext, handle_eq_runCommand]
  generalize sh.reached sys w lines i = before
  have hfollows := (before.1.yields_runCommand (Command.parse line)).run sys before.2
  refine ⟨hfollows.currentDir, fun hname => ?_⟩
  have htrace := before.1.trace_runCommand_exit sys before.2 hname
  refine ⟨?_, _, htrace, ?_, ?_, ?_, ?_⟩
  · rw [before.1.runCommand_exit hname]
    simp only [run_bind, pure_def, run_done]
  · intro e he
    exact ((Command.parse line).redirection.only_prepare _).of_mem_trace he
  · intro e he
    exact (only_reportAll _).of_mem_trace he
  · exact marks_reportAll _ _
  · intro herrors
    rw [herrors]
    rfl

end Shell

/-- A session that goes on after its second line. This line has its name in quotes behind two redirections, and one of
its targets cannot be created. -/
theorem Shell.frame_handleAll_guarded :
    let sh := Shell.start (Environment.ofList [("PATH", "/bin")]) { currentDir := .root }
    let last := "> /locked 2> err 'ex'it now"
    let lines := ["cd srv > log", last, "echo exit", "cd /home"]
    let reached := sh.reached .guarded (fun _ => none) lines
    let states := (List.range 5).map fun i => (reached i).1.state
    let create := (Command.parse last).redirection.prepare (reached 1).1.state.currentDir
    let es := ((reached 1).1.handle last).trace .guarded (reached 1).2
    states = [⟨.root, false⟩, ⟨Path.ofString "/srv", false⟩, ⟨Path.ofString "/srv", true⟩,
        ⟨Path.ofString "/srv", true⟩, ⟨Path.ofString "/home", true⟩] ∧
      (∃ line ∈ lines.take 2, (Command.parse line).name = "exit") ∧ (Command.parse "cd /home").name = "cd" ∧
      ∃ reports, es = create.trace .guarded (reached 1).2 ++ reports ∧
        marks reports = [.print .stderr "/locked: Permission denied (os error 13)"] := by
  intro sh last lines reached states create es
  obtain ⟨hall, hline⟩ := sh.frame_handleAll lines .guarded fun _ => none
  have hstates : states = [⟨.root, false⟩, ⟨Path.ofString "/srv", false⟩, ⟨Path.ofString "/srv", true⟩,
      ⟨Path.ofString "/srv", true⟩, ⟨Path.ofString "/home", true⟩] := by
    decide +kernel
  have hflag := (hall 2).exitRequested.1 (by decide +kernel)
  have hmove := (hline 3 "cd /home" rfl).1 (by decide +kernel)
  obtain ⟨-, reports, hes, -, -, hmarks, -⟩ := (hline 1 last rfl).2 (by decide +kernel)
  have hmessages : (create.run .guarded (reached 1).2).1.2.map ShellError.message =
      ["/locked: Permission denied (os error 13)"] := by
    decide +kernel
  have hreports := congrArg (List.map (Request.print .stderr)) hmessages
  simp only [create, reached, List.map_map, Function.comp_def] at hreports
  exact ⟨hstates, hflag.resolve_left (by decide), hmove, reports, hes, hmarks.trans hreports⟩

end LineShell
