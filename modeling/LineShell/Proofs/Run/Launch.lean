import LineShell.Proofs.Run.Delivery
import LineShell.Proofs.Run.Dropped
import LineShell.Proofs.Run.Image

/-!
# The program that a line starts

A line whose name is that of no builtin and can be resolved starts one program. By then all its targets
have been created. Each of the two streams of the program is connected by itself: to its target, if that was
kept and can be opened once more, and to the stream of the shell otherwise. A target that can be created but
not opened again is told of by one message. No other line starts a program.

* `External.Connected`: how a stream of a program is connected, and what is asked for on the way.
* `Shell.trace_runCommand`: the parts of a line, one after the other.
* `Shell.started_handle`: the program that a line starts.
-/

namespace LineShell

open LineShell.Action

variable {σ : Type} {sys : System σ} {w : σ}

/-! ## Requests that start nothing -/

theorem started_eq_nil_of_forall {es : List Event} (h : ∀ e ∈ es, e.request.started = none) :
    started es = [] :=
  List.filterMap_eq_nil_iff.2 h

namespace Request

variable {q : Request}

theorem IsLook.started_eq_none (h : q.IsLook) : q.started = none := by
  cases q <;> first | rfl | exact h.elim

theorem IsReport.started_eq_none (h : q.IsReport) : q.started = none := by
  cases q <;> first | rfl | exact h.elim

theorem IsOutput.started_eq_none {r : Redirection} (h : q.IsOutput r) : q.started = none := by
  cases q <;> first | rfl | exact h.elim

end Request

/-! ## Targets that are kept -/

namespace Redirection

/-- In the run `es` the stream `s` was left with the target `kept?`: its own in `r`, as it is seen from `base`,
where that could be created, and none otherwise. -/
def LeavesWith (r : Redirection) (base : Path) (es : List Event) (s : Stream) (kept? : Option Target) : Prop :=
  (r.target s = none ∧ kept? = none) ∨
    ∃ t created, r.target s = some t ∧ ⟨.create (t.resolve base), created⟩ ∈ es ∧
      kept? = if created.isOk then some (t.resolve base) else none

variable {r : Redirection} {base : Path} {s : Stream} {es : List Event}

theorem LeavesWith.mono {kept? : Option Target} {es' : List Event} (hes : es ⊆ es')
    (h : r.LeavesWith base es s kept?) : r.LeavesWith base es' s kept? := by
  rcases h with hnone | ⟨t, created, ht, hmem, hkept⟩
  · exact .inl hnone
  · exact .inr ⟨t, created, ht, hes hmem, hkept⟩

theorem Fate.leavesWith {x : (Option Target × List ShellError) × σ} (h : Fate sys base w (r.target s) x es) :
    r.LeavesWith base es s x.1.1 := by
  generalize htarget : r.target s = t? at h
  cases h with
  | absent => exact .inl ⟨htarget, rfl⟩
  | kept t w' hcreate => exact .inr ⟨t, .ok (), htarget, List.mem_singleton_self _, rfl⟩
  | lost t fault w' hcreate => exact .inr ⟨t, .error fault, htarget, List.mem_singleton_self _, rfl⟩

variable (sys) in
theorem leavesWith_prepare (r : Redirection) (base : Path) (w : σ) (s : Stream) :
    r.LeavesWith base ((r.prepare base).trace sys w) s (((r.prepare base).run sys w).1.1.target s) := by
  have hout : Fate sys base w (r.target .stdout) _ _ := fate_prepareTarget sys base r.stdout w
  have herr : Fate sys base _ (r.target .stderr) _ _ :=
    fate_prepareTarget sys base r.stderr ((prepareTarget base r.stdout).run sys w).2
  simp only [prepare, run_bind, trace_bind, pure_def, run_done, trace_done, List.append_nil]
  cases s with
  | stdout => exact hout.leavesWith.mono (List.subset_append_left ..)
  | stderr => exact herr.leavesWith.mono (List.subset_append_right ..)

end Redirection

/-! ## Streams -/

namespace External

/-- How a stream with the target `t?` is connected, where lines of the command go to the sink over `r`: the
outlet of the program, why its target could not be opened, the world that is left, and all that was asked. -/
inductive Connected (sys : System σ) (r : Redirection) (w : σ) :
    Option Target → (Outlet × List ShellError) × σ → List Event → Prop
  | inherited : Connected sys r w none ((.inherited, []), w) []
  | opened (t : Target) (handle : Handle) (w' : σ) (h : sys (.openAppend t.path) w = (.ok handle, w')) :
      Connected sys r w (some t) ((.file handle, []), w') [⟨.openAppend t.path, .ok handle⟩]
  | refused (t : Target) (fault : Fault) (w' : σ) (h : sys (.openAppend t.path) w = (.error fault, w')) :
      Connected sys r w (some t)
        ((.inherited, [.redirect t.path fault]),
          ((r.over Sink.console .stderr (ShellError.redirect t.path fault).message).run sys w').2)
        (⟨.openAppend t.path, .error fault⟩ ::
          (r.over Sink.console .stderr (ShellError.redirect t.path fault).message).trace sys w')

variable (sys) in
theorem connected_outletTold (r : Redirection) (t? : Option Target) (w : σ) :
    Connected sys r w t? ((outletTold t? (r.over Sink.console)).run sys w)
      ((outletTold t? (r.over Sink.console)).trace sys w) := by
  cases t? with
  | none => exact .inherited
  | some t =>
    rw [outletTold_some, run_ask, trace_ask]
    cases hopen : sys (.openAppend t.path) w with
    | mk opened w' =>
      rcases opened with fault | handle
      · simp only [run_bind, trace_bind, run_done, trace_done, List.append_nil]
        exact .refused t fault w' hopen
      · exact .opened t handle w' hopen

theorem Connected.started_eq_nil {r : Redirection} {t? : Option Target} {x : (Outlet × List ShellError) × σ}
    {es : List Event} (h : Connected sys r w t? x es) : started es = [] := by
  cases h with
  | inherited | opened t handle w' hopen => rfl
  | refused t fault w' hopen => exact (r.only_over _ _).started_eq_nil sys w'

/-- A target that cannot be opened again is told of by one message, and nothing else is. -/
theorem Connected.delivered (hsys : sys.PrintsAll) {r : Redirection} {t? : Option Target}
    {x : (Outlet × List ShellError) × σ} {es : List Event} (h : Connected sys r w t? x es) :
    List.Forall₂ r.Shown (x.1.2.map ShellError.line) (deliveries es) := by
  cases h with
  | inherited => exact .nil
  | opened t handle w' hopen => exact .nil
  | refused t fault w' hopen =>
    obtain ⟨d, hshown, hd⟩ := r.delivered_over hsys .stderr (ShellError.redirect t.path fault).message w'
    have hopening : deliveries (⟨.openAppend t.path, .error fault⟩ ::
        (r.over Sink.console .stderr (ShellError.redirect t.path fault).message).trace sys w') = [d] := hd
    rw [hopening]
    exact .cons hshown .nil

end External

/-- The trace of a reply that starts a program. -/
theorem Reply.trace_carryOut_start (sh : Shell) (r : Redirection) (c : External) (w : σ) :
    ∃ out err outEvents errEvents ended,
      External.Connected sys r w r.stdout out outEvents ∧
        External.Connected sys r out.2 r.stderr err errEvents ∧
        ((Reply.start c).carryOut r sh (r.over Sink.console)).trace sys w =
          outEvents ++ (errEvents ++ [⟨.start (c.child sh.state sh.env out.1.1 err.1.1), ended⟩]) := by
  have hout := External.connected_outletTold sys r r.stdout w
  have herr := External.connected_outletTold sys r r.stderr
    ((External.outletTold r.stdout (r.over Sink.console)).run sys w).2
  simp only [Reply.carryOut, trace_bind]
  generalize (External.outletTold r.stdout (r.over Sink.console)).run sys w = out at hout herr ⊢
  generalize (External.outletTold r.stderr (r.over Sink.console)).run sys out.2 = err at herr ⊢
  exact ⟨out, err, _, _, (sys (.start (c.child sh.state sh.env out.1.1 err.1.1)) err.2).1, hout, herr, rfl⟩

/-- A reply that starts no program asks for its line to be written, at most. -/
theorem Reply.only_carryOut_of_program?_eq_none (sh : Shell) (r : Redirection) {reply : Reply}
    (h : reply.program? = none) : (reply.carryOut r sh (r.over Sink.console)).Only (Request.IsOutput r) := by
  cases reply with
  | silent | fail e => trivial
  | say s line => exact only_bind (r.only_over s line) fun _ => trivial
  | start program => cases h

/-! ## The parts of a line -/

namespace Shell

variable (sh : Shell) (c : Command)

/-- The targets that a line keeps, and the world in which its command is carried out: all targets have been
created, and those that could not be are reported. -/
def ready (sys : System σ) (w : σ) : Redirection × σ :=
  let prepared := (c.redirection.prepare sh.state.currentDir).run sys w
  (prepared.1.1, ((reportAll Sink.console prepared.1.2).run sys prepared.2).2)

theorem ready_fst (sys : System σ) (w : σ) :
    (sh.ready c sys w).1 = ((c.redirection.prepare sh.state.currentDir).run sys w).1.1 := by
  rw [ready]

variable (sys w) in
/-- What an attempt asks for: its targets are created, the others are reported, and the command is carried out. -/
theorem trace_attempt :
    (sh.attempt c).trace sys w =
      (c.redirection.prepare sh.state.currentDir).trace sys w ++
        ((reportAll Sink.console ((c.redirection.prepare sh.state.currentDir).run sys w).1.2).trace sys
            ((c.redirection.prepare sh.state.currentDir).run sys w).2 ++
          (sh.carryOut c (sh.ready c sys w).1).trace sys (sh.ready c sys w).2) := by
  simp only [attempt, ready, trace_bind, pure_def, trace_done, List.append_nil]

variable (sys w) in
/-- The account that an attempt gives is that of its command, carried out where all targets are there. -/
theorem run_attempt :
    (sh.attempt c).run sys w =
      let carried := (sh.carryOut c (sh.ready c sys w).1).run sys (sh.ready c sys w).2
      (({ sh with state := carried.1.1 },
        { carried.1.2 with
          command := c, dir := sh.state.currentDir, kept := (sh.ready c sys w).1,
          dropped := ((c.redirection.prepare sh.state.currentDir).run sys w).1.2 }), carried.2) := by
  simp only [attempt, ready, run_bind]
  rfl

variable (sys w) in
theorem kept_attempt : ((sh.attempt c).run sys w).1.2.kept = (sh.ready c sys w).1 := by
  rw [sh.run_attempt sys w c]

variable (sys w) in
/-- **The parts of a line**: its targets are created, then come the reports of those that could not be, then the
command is carried out, and what comes last is the report of its failure. -/
theorem trace_runCommand :
    ∃ reports after, (∀ e ∈ reports, e.request.IsReport) ∧
      (∀ e ∈ after, e.request.IsOutput (sh.ready c sys w).1) ∧
      (sh.runCommand c).trace sys w =
        (c.redirection.prepare sh.state.currentDir).trace sys w ++ (reports ++
          ((sh.carryOut c (sh.ready c sys w).1).trace sys (sh.ready c sys w).2 ++ after)) := by
  refine ⟨_, _, fun e he => (only_reportAll _).of_mem_trace he, ?_,
    by rw [sh.trace_runCommand_eq_attempt, sh.trace_attempt sys w, List.append_assoc, List.append_assoc]⟩
  rw [sh.run_attempt sys w]
  exact fun e he => (Account.only_conclude _).of_mem_trace he

variable {sh c}

theorem run_reply_start {program : External} (hlookup : Builtin.lookup c.name = none)
    (hfound : ((External.resolve sh.state sh.searchPath c.name c.args).run sys w).1 = .ok program) :
    (sh.reply c).run sys w = ((sh.state, .start program),
      ((External.resolve sh.state sh.searchPath c.name c.args).run sys w).2) := by
  simp only [reply, hlookup, run_bind, hfound]
  rfl

theorem program?_reply_of_builtin (h : (Builtin.lookup c.name).isSome = true) :
    ((sh.reply c).run sys w).1.2.program? = none := by
  obtain ⟨b, hb⟩ := Option.isSome_iff_exists.1 h
  rw [reply, hb]
  exact ((b.yields_reply sh.env sh.searchPath sh.state c.joinedArgs).run sys w).1

theorem program?_reply_of_error {e : ShellError}
    (h : ((External.resolve sh.state sh.searchPath c.name c.args).run sys w).1 = .error e) :
    ((sh.reply c).run sys w).1.2.program? = none := by
  cases hlookup : Builtin.lookup c.name with
  | some b => exact program?_reply_of_builtin (Option.isSome_iff_exists.2 ⟨b, hlookup⟩)
  | none =>
    simp only [reply, hlookup, run_bind, h]
    rfl

/-- A command that comes to a program looks at files, connects the two streams of the program and starts it. -/
theorem trace_carryOut_start (kept : Redirection) {program : External} (hlookup : Builtin.lookup c.name = none)
    (hfound : ((External.resolve sh.state sh.searchPath c.name c.args).run sys w).1 = .ok program) :
    ∃ looks out err outEvents errEvents ended, (∀ e ∈ looks, e.request.IsLook) ∧
      External.Connected sys kept ((External.resolve sh.state sh.searchPath c.name c.args).run sys w).2
        kept.stdout out outEvents ∧
      External.Connected sys kept out.2 kept.stderr err errEvents ∧
      (sh.carryOut c kept).trace sys w = looks ++ (outEvents ++ (errEvents ++
        [⟨.start (program.child sh.state sh.env out.1.1 err.1.1), ended⟩])) := by
  have hname : c.isEmpty = false := by
    -- The empty name is looked for nowhere.
    cases hempty : c.isEmpty with
    | false => rfl
    | true =>
      rw [Command.isEmpty, String.isEmpty_iff] at hempty
      rw [hempty] at hfound
      cases hfound
  have hreply := run_reply_start hlookup hfound
  obtain ⟨out, err, outEvents, errEvents, ended, hout, herr, hcarry⟩ := Reply.trace_carryOut_start sh kept program
    ((External.resolve sh.state sh.searchPath c.name c.args).run sys w).2
  refine ⟨(sh.reply c).trace sys w, out, err, outEvents, errEvents, ended,
    fun e he => (sh.only_reply c).of_mem_trace he, hout, herr, ?_⟩
  rw [carryOut, hname]
  simp only [Bool.false_eq_true, if_false, trace_bind, hreply, hcarry, pure_def, trace_done, List.append_nil]

/-- A command that is empty, a builtin, or not found starts nothing. -/
theorem started_carryOut_eq_nil {kept : Redirection}
    (h : c.isEmpty = true ∨ ((sh.reply c).run sys w).1.2.program? = none) :
    started ((sh.carryOut c kept).trace sys w) = [] := by
  unfold carryOut
  split
  · rfl
  · rename_i hempty
    have hprogram := h.resolve_left hempty
    simp only [trace_bind, started_append, pure_def, trace_done, List.append_nil]
    rw [started_eq_nil_of_forall fun e he => ((sh.only_reply c).of_mem_trace he).started_eq_none,
      (Reply.only_carryOut_of_program?_eq_none sh kept hprogram).started_eq_nil]
    rfl

variable (sh c) in
theorem started_created : started ((c.redirection.prepare sh.state.currentDir).trace sys w) = [] := by
  refine started_eq_nil_of_forall fun e he => ?_
  obtain ⟨t, -, hrequest⟩ := (c.redirection.only_prepare sh.state.currentDir).of_mem_trace he
  rw [hrequest]
  rfl

/-- What a line starts is what its command starts, once its targets are there. -/
theorem started_runCommand :
    started ((sh.runCommand c).trace sys w) =
      started ((sh.carryOut c (sh.ready c sys w).1).trace sys (sh.ready c sys w).2) := by
  obtain ⟨reports, after, hreports, hafter, hes⟩ := sh.trace_runCommand sys w c
  have hbefore := started_eq_nil_of_forall fun e he => (hreports e he).started_eq_none
  have hbehind := started_eq_nil_of_forall fun e he => (hafter e he).started_eq_none
  rw [hes, started_append, started_append, started_append, sh.started_created c, hbefore, hbehind]
  simp only [List.nil_append, List.append_nil]

/-- **A line whose command comes to a program** creates its targets, connects the streams of the program, and starts
it once. -/
theorem launch_runCommand {program : External} (hlookup : Builtin.lookup c.name = none)
    (hfound : ((External.resolve sh.state sh.searchPath c.name c.args).run sys (sh.ready c sys w).2).1 =
      .ok program) :
    ∃ reports looks out err outEvents errEvents ended after,
      let child : Child := { image := program.image, argv := c.name :: c.args, environment := sh.env,
                             directory := sh.state.currentDir, stdout := out.1.1, stderr := err.1.1 }
      (sh.runCommand c).trace sys w = (c.redirection.prepare sh.state.currentDir).trace sys w ++
        (reports ++ (looks ++ (outEvents ++ (errEvents ++ ⟨.start child, ended⟩ :: after)))) ∧
      ((∀ e ∈ reports, e.request.IsReport) ∧ (∀ e ∈ looks, e.request.IsLook) ∧
        ∀ e ∈ after, e.request.IsOutput (sh.ready c sys w).1) ∧
      External.Connected sys (sh.ready c sys w).1
        ((External.resolve sh.state sh.searchPath c.name c.args).run sys (sh.ready c sys w).2).2
        (sh.ready c sys w).1.stdout out outEvents ∧
      External.Connected sys (sh.ready c sys w).1 out.2 (sh.ready c sys w).1.stderr err errEvents ∧
      started ((sh.runCommand c).trace sys w) = [child] := by
  obtain ⟨reports, after, hreports, hafter, hes⟩ := sh.trace_runCommand sys w c
  obtain ⟨looks, out, err, outEvents, errEvents, ended, hlooks, hout, herr, hcarry⟩ :=
    trace_carryOut_start (sh.ready c sys w).1 hlookup hfound
  have hchild : program.child sh.state sh.env out.1.1 err.1.1 =
      { image := program.image, argv := c.name :: c.args, environment := sh.env,
        directory := sh.state.currentDir, stdout := out.1.1, stderr := err.1.1 } := by
    obtain ⟨hname, hargs, -⟩ := (External.yields_resolve _ _ _ _).run sys _ program hfound
    rw [External.child, hname, hargs]
  rw [hchild] at hcarry
  refine ⟨reports, looks, out, err, outEvents, errEvents, ended, after, ?_, ⟨hreports, hlooks, hafter⟩,
    hout, herr, ?_⟩
  · rw [hes, hcarry]
    simp only [List.append_assoc, List.singleton_append]
  · rw [started_runCommand, hcarry, started_append, started_append, started_append, hout.started_eq_nil,
      herr.started_eq_nil, started_eq_nil_of_forall fun e he => (hlooks e he).started_eq_none]
    rfl

end Shell

namespace Command

variable {line : String}

theorem parse_of_words {name : String} {args : List String}
    (h : (Redirection.extract (splitWords line)).1 = name :: args) :
    (parse line).name = name ∧ (parse line).args = args := by
  rw [parse_eq, h]
  exact ⟨rfl, rfl⟩

theorem isEmpty_parse_of_no_words (h : (Redirection.extract (splitWords line)).1 = []) :
    (parse line).isEmpty = true := by
  rw [isEmpty, parse_eq, h]
  rfl

end Command

/-- **The program that a line starts.** Let a line be run, let `created` be what is asked for to create its
targets, and `kept` the targets that are left. If its words are the name of a program that can be resolved and
arguments, then one program is started, after all targets have been created: the program that was resolved, with
these very words, in the current directory. Each of its streams is connected by itself. Over a console that takes
what it is told, each target that cannot be opened again is told of by one message. A line without words, with
the name of a builtin, or with a name that cannot be resolved starts no program. -/
theorem Shell.started_handle (sh : Shell) (line : String) (sys : System σ) (w : σ) :
    let c := Command.parse line
    let words := (Redirection.extract (splitWords line)).1
    let created := (c.redirection.prepare sh.state.currentDir).trace sys w
    let kept := (sh.ready c sys w).1
    let found name args := (External.resolve sh.state sh.searchPath name args).run sys (sh.ready c sys w).2
    let es := (sh.handle line).trace sys w
    (∀ s, c.redirection.LeavesWith sh.state.currentDir created s (kept.target s)) ∧
    (∀ name args program, words = name :: args → Builtin.lookup name = none → (found name args).1 = .ok program →
      ∃ reports looks out err outEvents errEvents ended after,
        let child : Child := { image := program.image, argv := name :: args, environment := sh.env,
                               directory := sh.state.currentDir, stdout := out.1.1, stderr := err.1.1 }
        es = created ++ (reports ++ (looks ++ (outEvents ++ (errEvents ++ ⟨.start child, ended⟩ :: after)))) ∧
        ((∀ e ∈ reports, e.request.IsReport) ∧ (∀ e ∈ looks, e.request.IsLook) ∧
          ∀ e ∈ after, e.request.IsOutput kept) ∧
        External.Connected sys kept (found name args).2 kept.stdout out outEvents ∧
        External.Connected sys kept out.2 kept.stderr err errEvents ∧
        (sys.PrintsAll → List.Forall₂ kept.Shown ((out.1.2 ++ err.1.2).map ShellError.line)
          (deliveries (outEvents ++ errEvents))) ∧
        started es = [child]) ∧
    ((words = [] ∨ ∃ name args, words = name :: args ∧
      ((Builtin.lookup name).isSome = true ∨ ∃ e, (found name args).1 = .error e)) → started es = []) := by
  intro c words created kept found es
  have hkept (s : Stream) : c.redirection.LeavesWith sh.state.currentDir created s (kept.target s) := by
    rw [show kept = _ from sh.ready_fst c sys w]
    exact c.redirection.leavesWith_prepare sys sh.state.currentDir w s
  refine ⟨hkept, ?_, ?_⟩
  · intro name args program hwords hlookup hfound
    obtain ⟨rfl, rfl⟩ := Command.parse_of_words hwords
    obtain ⟨reports, looks, out, err, outEvents, errEvents, ended, after, hes, honly, hout, herr, hstarted⟩ :=
      launch_runCommand (c := c) hlookup hfound
    refine ⟨reports, looks, out, err, outEvents, errEvents, ended, after, hes, honly, hout, herr,
      fun hsys => ?_, hstarted⟩
    rw [List.map_append, deliveries_append]
    exact List.rel_append (hout.delivered hsys) (herr.delivered hsys)
  · intro hother
    have hnone : c.isEmpty = true ∨ ((sh.reply c).run sys (sh.ready c sys w).2).1.2.program? = none := by
      rcases hother with hwords | ⟨name, args, hwords, hbuiltin | ⟨e, hfound⟩⟩
      · exact .inl (Command.isEmpty_parse_of_no_words hwords)
      · obtain ⟨rfl, -⟩ := Command.parse_of_words hwords
        exact .inr (program?_reply_of_builtin hbuiltin)
      · obtain ⟨rfl, rfl⟩ := Command.parse_of_words hwords
        exact .inr (program?_reply_of_error hfound)
    exact (started_runCommand (c := c)).trans (started_carryOut_eq_nil hnone)

/-- A system with one program, `/bin/tool`. All targets can be created, but no file takes a line, and only `/work/out`
can be opened again. -/
def System.oneWay : System Unit := fun r w =>
  match r with
  | .openAppend p => (if p = Path.ofString "/work/out" then .ok ⟨3⟩ else .error (.system .accessDenied), w)
  | .appendLine _ _ => (.error (.system .accessDenied), w)
  | r => System.withTool r w

/-- A program with quoted arguments: its output goes to the target, its errors to the shell, which is told once why.
A builtin and a name that is not found start nothing. -/
theorem Shell.started_handle_oneWay :
    let sh := Shell.start (Environment.ofList [("PATH", "/usr:/bin")]) { currentDir := Path.ofString "/work" }
    let es := (sh.handle "tool 'a  b' > out c\\ d 2> err").trace .oneWay ()
    System.oneWay.PrintsAll ∧
      (∃ child, started es = [child] ∧ child.image = Path.ofString "/bin/tool" ∧
        child.argv = ["tool", "a  b", "c d"] ∧ child.directory = Path.ofString "/work" ∧
        child.stdout = .file ⟨3⟩ ∧ child.stderr = .inherited) ∧
      deliveries es = [(.console .stderr, "/work/err: Permission denied (os error 13)")] ∧
      started ((sh.handle "echo tool > out").trace .oneWay ()) = [] ∧
      started ((sh.handle "'tool '").trace .oneWay ()) = [] := by
  intro sh es
  obtain ⟨-, hlaunch, -⟩ := sh.started_handle "tool 'a  b' > out c\\ d 2> err" .oneWay ()
  obtain ⟨reports, looks, out, err, outEvents, errEvents, ended, after, -, -, -, -, -, hstarted⟩ :=
    hlaunch "tool" ["a  b", "c d"] ⟨"tool", Path.ofString "/bin/tool", ["a  b", "c d"]⟩
      (by decide +kernel) (by decide +kernel) (by decide +kernel)
  have hstreams : (started es).map (fun child => (child.stdout, child.stderr)) = [(.file ⟨3⟩, .inherited)] := by
    decide +kernel
  rw [show started es = _ from hstarted] at hstreams
  obtain ⟨hout, herr⟩ := Prod.mk.inj (List.singleton_inj.1 hstreams)
  obtain ⟨-, -, hbuiltin⟩ := sh.started_handle "echo tool > out" .oneWay ()
  obtain ⟨-, -, hmissing⟩ := sh.started_handle "'tool '" .oneWay ()
  refine ⟨fun _ _ _ => rfl, ⟨_, hstarted, rfl, rfl, rfl, hout, herr⟩, by decide +kernel, hbuiltin (.inr ?_),
    hmissing (.inr ?_)⟩
  · exact ⟨"echo", ["tool"], by decide +kernel, .inl (by decide +kernel)⟩
  · exact ⟨"tool ", [], by decide +kernel, .inr ⟨.commandNotFound "tool ", by decide +kernel⟩⟩

end LineShell
