import LineShell.Proofs.Run.Requests
import Mathlib.Data.List.Forall2

/-!
# Targets that are given up

A target that cannot be created is given up: its stream is inherited from the shell, as if the line had no
redirection for it. So a line does the same as a line with the same name and the same arguments that has only
the redirections whose targets can be created, once the others have been reported on the console.

The two differ in the order of their requests only. A line creates all its targets first; the reports come
next. The order makes no difference as long as the reports are not shown in one of the targets; it does where
they are, since then a report is written before or after its file is emptied.

* `Action.swap`: actions that do not interfere can be run in either order.
* `Redirection.run_prepare_restrict`: creating only the targets that can be created.
* `Shell.runOver_restrict`: the line without the targets that are given up.
* `Shell.reportsApart_transcribed`: over a console that keeps its lines, reports and targets are apart.
* `Shell.runCommand_ne_degraded_logged`: a target that takes the reports.
-/

namespace LineShell

open LineShell.Action

variable {α β σ : Type} {sys : System σ}

/-! ## Requests that do not interfere -/

/-- The requests `q` and `q'` do not interfere in the world `w`: each gets the same answer whether the other one comes
first or not, and the world is left the same in either order. -/
structure System.CommuteAt (sys : System σ) (q q' : Request) (w : σ) : Prop where
  answer_left : (sys q (sys q' w).2).1 = (sys q w).1
  answer_right : (sys q' (sys q w).2).1 = (sys q' w).1
  world : (sys q (sys q' w).2).2 = (sys q' (sys q w).2).2

/-- The worlds to which requests that satisfy `P` lead from `w`. -/
inductive System.Reaches (sys : System σ) (P : Request → Prop) (w : σ) : σ → Prop
  | start : Reaches sys P w w
  | step {w' : σ} {q : Request} (h : Reaches sys P w w') (hq : P q) : Reaches sys P w (sys q w').2

namespace Action

variable {P : Request → Prop} {x : Action α} {y : Action β} {w₀ w : σ}

theorem swap_request {q : Request} (hw : sys.Reaches P w₀ w) (hy : ∀ e ∈ y.trace sys w, P e.request)
    (h : ∀ e ∈ y.trace sys w, ∀ w, sys.Reaches P w₀ w → sys.CommuteAt q e.request w) :
    (sys q (y.run sys w).2).1 = (sys q w).1 ∧
      (sys q (y.run sys w).2).2 = (y.run sys (sys q w).2).2 ∧
      y.trace sys (sys q w).2 = y.trace sys w := by
  induction y generalizing w with
  | done b => exact ⟨rfl, rfl, rfl⟩
  | ask q' k ih =>
    obtain ⟨hfirst, hrest⟩ := List.forall_mem_cons.1 hy
    obtain ⟨hcommutes, hlater⟩ := List.forall_mem_cons.1 h
    have hcommute := hcommutes w hw
    obtain ⟨hanswer, hworld, htrace⟩ := ih (sys q' w).1 (hw.step hfirst) hrest hlater
    rw [run_ask, run_ask, trace_ask, trace_ask, hcommute.answer_right, ← hcommute.world, htrace]
    exact ⟨hanswer.trans hcommute.answer_left, hworld, rfl⟩

/-- **Actions that do not interfere can be run in either order.** -/
theorem swap (hw : sys.Reaches P w₀ w) (hx : ∀ d ∈ x.trace sys w, P d.request)
    (hy : ∀ e ∈ y.trace sys w, P e.request)
    (h : ∀ d ∈ x.trace sys w, ∀ e ∈ y.trace sys w, ∀ w, sys.Reaches P w₀ w →
      sys.CommuteAt d.request e.request w) :
    x.run sys (y.run sys w).2 = ((x.run sys w).1, (y.run sys (x.run sys w).2).2) ∧
      x.trace sys (y.run sys w).2 = x.trace sys w ∧
      y.trace sys (x.run sys w).2 = y.trace sys w := by
  -- The requests of `x` are moved past the whole of `y` one by one.
  induction x generalizing w with
  | done a => exact ⟨rfl, rfl, rfl⟩
  | ask q k ih =>
    obtain ⟨hfirst, hrest⟩ := List.forall_mem_cons.1 hx
    obtain ⟨hcommutes, hlater⟩ := List.forall_mem_cons.1 h
    obtain ⟨hanswer, hworld, htrace⟩ := swap_request hw hy hcommutes
    rw [← htrace] at hy hlater
    obtain ⟨hrun, hxTrace, hyTrace⟩ := ih (sys q w).1 (hw.step hfirst) hrest hy hlater
    simp only [run_ask, trace_ask, hanswer, hworld]
    exact ⟨hrun, congrArg _ hxTrace, hyTrace.trans htrace⟩

end Action

/-! ## Reports -/

/-- Each report is shown to the console once, and written to no file. -/
theorem marks_reportAll (es : List ShellError) (w : σ) :
    marks ((reportAll Sink.console es).trace sys w) = es.map fun e => .print .stderr e.message := by
  induction es generalizing w with
  | nil => rfl
  | cons e es ih =>
    rw [reportAll, trace_bind, marks_append, ih, List.map_cons, report_eq, Sink.console_eq]
    refine congrArg (· ++ _) (?_ : _ = [Request.print .stderr e.message])
    simp only [ask_bind, done_bind, trace_ask]
    rcases (sys (.print .stderr e.message) w).1 with fault | ⟨⟩ <;> rfl

/-! ## Creating targets -/

/-- The event is not a target that could not be created. -/
def Event.granted : Event → Bool
  | ⟨.create _, answer⟩ => answer.isOk
  | _ => true

/-- A target that cannot be created leaves the world as it is. -/
def System.FailsClean (sys : System σ) : Prop :=
  ∀ t w fault, (sys (.create t) w).1 = .error fault → (sys (.create t) w).2 = w

namespace Redirection

variable {base : Path} {t? : Option Target}

/-- What becomes of the target of one stream: the run of `prepareTarget`, and its trace. -/
inductive Fate (sys : System σ) (base : Path) (w : σ) :
    Option Target → (Option Target × List ShellError) × σ → List Event → Prop
  | absent : Fate sys base w none ((none, []), w) []
  | kept (t : Target) (w' : σ) (h : sys (.create (t.resolve base)) w = (.ok (), w')) :
      Fate sys base w (some t) ((some (t.resolve base), []), w') [⟨.create (t.resolve base), .ok ()⟩]
  | lost (t : Target) (fault : Fault) (w' : σ) (h : sys (.create (t.resolve base)) w = (.error fault, w')) :
      Fate sys base w (some t) ((none, [.redirect (t.resolve base).path fault]), w')
        [⟨.create (t.resolve base), .error fault⟩]

variable (sys) in
theorem fate_prepareTarget (base : Path) (t? : Option Target) (w : σ) :
    Fate sys base w t? ((prepareTarget base t?).run sys w) ((prepareTarget base t?).trace sys w) := by
  cases t? with
  | none => exact .absent
  | some t =>
    rw [prepareTarget_some, run_ask, trace_ask]
    cases hcreate : sys (.create (t.resolve base)) w with
    | mk created w' =>
      rcases created with fault | ⟨⟩
      · exact .lost t fault w' hcreate
      · exact .kept t w' hcreate

/-- Without a target that cannot be created the rest is as it was. -/
theorem Fate.restrict (hclean : sys.FailsClean) {w : σ} {x : (Option Target × List ShellError) × σ}
    {es : List Event} (h : Fate sys base w t? x es) :
    (prepareTarget base (t?.filter fun _ => x.1.1.isSome)).run sys w = ((x.1.1, []), x.2) ∧
      (prepareTarget base (t?.filter fun _ => x.1.1.isSome)).trace sys w = es.filter Event.granted := by
  cases h with
  | absent => exact ⟨rfl, rfl⟩
  | kept t w' hcreate =>
    simp only [Option.isSome_some, Option.filter_some, if_true, prepareTarget_some, run_ask, trace_ask, hcreate]
    exact ⟨rfl, rfl⟩
  | lost t fault w' hcreate =>
    have hworld := hclean (t.resolve base) w fault (congrArg Prod.fst hcreate)
    rw [hcreate] at hworld
    exact ⟨congrArg _ hworld.symm, rfl⟩

/-- `r` without the targets of the streams that have none in `kept`. -/
def restrict (r kept : Redirection) : Redirection :=
  ⟨r.stdout.filter fun _ => kept.stdout.isSome, r.stderr.filter fun _ => kept.stderr.isSome⟩

/-- The streams whose target in `r` is given up where `kept` is what is left, the output stream first. -/
def lost (r kept : Redirection) : List Stream :=
  [.stdout, .stderr].filter fun s => (r.target s).isSome && (kept.target s).isNone

theorem mem_lost {r kept : Redirection} {s : Stream} :
    s ∈ r.lost kept ↔ (r.target s).isSome = true ∧ kept.target s = none := by
  cases s <;> simp [lost]

theorem target_restrict (r kept : Redirection) (s : Stream) :
    (r.restrict kept).target s = if s ∈ r.lost kept then none else r.target s := by
  have hfilter (t? kept? : Option Target) :
      (t?.filter fun _ => kept?.isSome) = if t?.isSome && kept?.isNone then none else t? := by
    cases t? <;> cases kept? <;> rfl
  cases s <;> simp [restrict, lost, target, hfilter]

theorem targets_restrict {r kept : Redirection} {base : Path}
    (hkept : ∀ s, ∀ t ∈ kept.target s, t ∈ (r.resolve base).target s) :
    ∀ t ∈ ((r.restrict kept).resolve base).targets, t ∈ kept.targets := by
  intro t ht
  obtain ⟨s, hs⟩ := mem_targets.1 ht
  refine mem_targets.2 ⟨s, ?_⟩
  have hsame (t? kept? : Option Target) (h : ∀ t ∈ kept?, t ∈ t?.map (·.resolve base)) :
      t ∈ (t?.filter fun _ => kept?.isSome).map (·.resolve base) → t ∈ kept? := by
    cases kept? with
    | none => simp
    | some t' =>
      obtain ⟨t'', rfl, rfl⟩ := Option.map_eq_some_iff.1 (h t' rfl)
      exact fun ht => ht
  cases s
  · exact hsame r.stdout kept.stdout (hkept .stdout) hs
  · exact hsame r.stderr kept.stderr (hkept .stderr) hs

/-- The stream `s` loses its target in the run `es`, for the reason `e`: the target could not be created. -/
def LosesFor (r : Redirection) (base : Path) (es : List Event) (s : Stream) (e : ShellError) : Prop :=
  ∃ t fault, r.target s = some t ∧ e = .redirect (t.resolve base).path fault ∧
    ⟨.create (t.resolve base), .error fault⟩ ∈ es

/-- The stream `s` keeps its target in the run `es`, if it has one: the target was created. -/
def Keeps (r : Redirection) (base : Path) (es : List Event) (s : Stream) : Prop :=
  ∀ t ∈ r.target s, ⟨.create (t.resolve base), .ok ()⟩ ∈ es

section Fate

variable {r kept : Redirection} {s : Stream} {w : σ} {x : (Option Target × List ShellError) × σ}
  {es : List Event}

/-- Of a target that is given up there is one error. -/
theorem Fate.forall₂_errors (h : Fate sys base w (r.target s) x es) (hkept : kept.target s = x.1.1)
    {R : Stream → ShellError → Prop}
    (hlost : ∀ t fault, r.target s = some t → (sys (.create (t.resolve base)) w).1 = .error fault →
      ⟨.create (t.resolve base), .error fault⟩ ∈ es → R s (.redirect (t.resolve base).path fault)) :
    List.Forall₂ R ([s].filter fun s => (r.target s).isSome && (kept.target s).isNone) x.1.2 := by
  generalize htarget : r.target s = t? at h
  cases h with
  | absent => simp [htarget]
  | kept t w' hcreate => simp [hkept]
  | lost t fault w' hcreate =>
    simp only [List.filter, htarget, hkept, Option.isSome_some, Option.isNone_none, Bool.and_self]
    exact .cons (hlost t fault htarget (congrArg Prod.fst hcreate) (List.mem_singleton_self _)) .nil

theorem Fate.losesFor (h : Fate sys base w (r.target s) x es) (hkept : kept.target s = x.1.1) :
    List.Forall₂ (r.LosesFor base es)
      ([s].filter fun s => (r.target s).isSome && (kept.target s).isNone) x.1.2 :=
  h.forall₂_errors hkept fun t fault ht _ hmem => ⟨t, fault, ht, rfl, hmem⟩

theorem Fate.keeps (h : Fate sys base w (r.target s) x es) (hkept : kept.target s = x.1.1)
    (hs : s ∉ r.lost kept) : r.Keeps base es s := by
  intro t ht
  rw [Option.mem_def.1 ht] at h
  cases h with
  | kept t w' hcreate => exact List.mem_singleton_self _
  | lost t fault w' hcreate => exact absurd (mem_lost.2 ⟨Option.isSome_of_mem ht, hkept⟩) hs

end Fate

variable (r : Redirection) (base : Path) (w : σ)

/-- **Creating the targets that can be created** is all that creating all of them does. -/
theorem run_prepare_restrict (hclean : sys.FailsClean) :
    let x := (r.prepare base).run sys w
    ((r.restrict x.1.1).prepare base).run sys w = ((x.1.1, []), x.2) ∧
      ((r.restrict x.1.1).prepare base).trace sys w =
        ((r.prepare base).trace sys w).filter Event.granted := by
  have hout := (fate_prepareTarget sys base r.stdout w).restrict hclean
  have herr := (fate_prepareTarget sys base r.stderr ((prepareTarget base r.stdout).run sys w).2).restrict hclean
  simp only [prepare, restrict, run_bind, trace_bind, pure_def, run_done, trace_done, List.append_nil,
    hout.1, hout.2, herr.1, herr.2, List.filter_append]
  exact ⟨trivial, trivial⟩

variable {r base} in
theorem LosesFor.mono {es es' : List Event} {s : Stream} {e : ShellError} (hes : es ⊆ es')
    (h : r.LosesFor base es s e) : r.LosesFor base es' s e := by
  obtain ⟨t, fault, ht, he, hmem⟩ := h
  exact ⟨t, fault, ht, he, hes hmem⟩

/-- **The streams that lose their targets** have one error each, in their order; the other targets are
created. -/
theorem losesFor_prepare :
    let x := (r.prepare base).run sys w
    let es := (r.prepare base).trace sys w
    List.Forall₂ (r.LosesFor base es) (r.lost x.1.1) x.1.2 ∧ ∀ s ∉ r.lost x.1.1, r.Keeps base es s := by
  have hout : Fate sys base w (r.target .stdout) _ _ := fate_prepareTarget sys base r.stdout w
  have herr : Fate sys base _ (r.target .stderr) _ _ :=
    fate_prepareTarget sys base r.stderr ((prepareTarget base r.stdout).run sys w).2
  simp only [prepare, run_bind, trace_bind, pure_def, run_done, trace_done, List.append_nil]
  generalize (prepareTarget base r.stdout).run sys w = out at hout herr ⊢
  generalize (prepareTarget base r.stdout).trace sys w = outEvents at hout ⊢
  generalize (prepareTarget base r.stderr).run sys out.2 = err at herr ⊢
  generalize (prepareTarget base r.stderr).trace sys out.2 = errEvents at herr ⊢
  have hleft : outEvents ⊆ outEvents ++ errEvents := List.subset_append_left ..
  have hright : errEvents ⊆ outEvents ++ errEvents := List.subset_append_right ..
  refine ⟨?_, fun s hs => ?_⟩
  · rw [lost, ← List.singleton_append, List.filter_append]
    exact List.rel_append
      ((hout.losesFor rfl).imp fun _ _ => LosesFor.mono hleft)
      ((herr.losesFor rfl).imp fun _ _ => LosesFor.mono hright)
  · cases s with
    | stdout => exact fun t ht => hleft (hout.keeps rfl hs t ht)
    | stderr => exact fun t ht => hright (herr.keeps rfl hs t ht)

end Redirection

/-! ## A line -/

namespace Shell

variable (sh : Shell) (console : Sink) (c : Command)

/-- What is left to be done for a command, once its targets are created and all others are reported. -/
def finish (kept : Redirection) : Action Shell :=
  if c.isEmpty then return sh else sh.performOver console c kept

variable (sys : System σ) (w : σ)

theorem run_runOver :
    let x := (c.redirection.prepare sh.state.currentDir).run sys w
    let w' := ((reportAll console x.1.2).run sys x.2).2
    (sh.runOver console c).run sys w = (sh.finish console c x.1.1).run sys w' ∧
      (sh.runOver console c).trace sys w = (c.redirection.prepare sh.state.currentDir).trace sys w ++
        ((reportAll console x.1.2).trace sys x.2 ++ (sh.finish console c x.1.1).trace sys w') := by
  simp only [runOver, run_bind, trace_bind]
  exact ⟨rfl, rfl⟩

/-- No target that is kept is where the reports of the others are shown: wherever the creation of the kept targets and
these reports lead, a target is created alike before and after a report. A file that takes the reports of the console
as well would lose them when it is emptied after them. -/
def ReportsApart : Prop :=
  let x := (c.redirection.prepare sh.state.currentDir).run sys w
  let creations := x.1.1.targets.map Request.create
  let reports := ((reportAll console x.1.2).trace sys w).map Event.request
  ∀ w', sys.Reaches (fun q => q ∈ creations ∨ q ∈ reports) w w' →
    ∀ q ∈ creations, ∀ q' ∈ reports, sys.CommuteAt q q' w'

/-- **A line whose targets cannot all be created** does the same as the line without those that cannot, after a report
of each on the console, unless the reports go into one of its targets. Let `kept` be the targets that are left. The
streams that lose their targets have one error each, and the redirection of `c'` lacks just these streams. On the
console of the process the errors are shown one by one, and they are written to no file. Then all that comes is the
same, and so is the shell that is left: `rest` is what the command does, and before it only the targets are created
that can be. -/
theorem runOver_restrict (hclean : sys.FailsClean) (hapart : sh.ReportsApart console c sys w) :
    let create := c.redirection.prepare sh.state.currentDir
    let created := create.trace sys w
    let kept := (create.run sys w).1.1
    let errors := (create.run sys w).1.2
    let lost := c.redirection.lost kept
    let c' := { c with redirection := c.redirection.restrict kept }
    let reports := (reportAll console errors).trace sys w
    let degraded := reportAll console errors >>= fun _ => sh.runOver console c'
    (List.Forall₂ (c.redirection.LosesFor sh.state.currentDir created) lost errors ∧
      ∀ s ∉ lost, c.redirection.Keeps sh.state.currentDir created s) ∧
    (∀ s, c'.redirection.target s = if s ∈ lost then none else c.redirection.target s) ∧
    ((∀ e ∈ (reportAll Sink.console errors).trace sys w, e.request.IsReport) ∧
      marks ((reportAll Sink.console errors).trace sys w) = errors.map fun e => .print .stderr e.message) ∧
    (sh.runOver console c).run sys w = degraded.run sys w ∧
    ∃ rest, (sh.runOver console c).trace sys w = created ++ (reports ++ rest) ∧
      degraded.trace sys w = reports ++ (created.filter Event.granted ++ rest) := by
  intro create created kept errors lost c' reports degraded
  refine ⟨c.redirection.losesFor_prepare _ w, c.redirection.target_restrict kept,
    ⟨fun e he => (only_reportAll errors).of_mem_trace he, marks_reportAll errors w⟩, ?_⟩
  -- The targets that `c` creates before the reports are those that `c'` creates after them.
  obtain ⟨hrun, htrace⟩ := c.redirection.run_prepare_restrict sh.state.currentDir w hclean
  have hkept := (c.redirection.yields_prepare sh.state.currentDir).run sys w
  have hcreation : ∀ d ∈ (c'.redirection.prepare sh.state.currentDir).trace sys w,
      d.request ∈ kept.targets.map Request.create := by
    intro d hd
    obtain ⟨t, ht, heq⟩ := (c'.redirection.only_prepare sh.state.currentDir).of_mem_trace hd
    exact List.mem_map.2 ⟨t, Redirection.targets_restrict hkept t ht, heq.symm⟩
  have hreport : ∀ e ∈ reports, e.request ∈ reports.map Event.request := fun e he => List.mem_map_of_mem he
  obtain ⟨hswap, hcreateTrace, hreportTrace⟩ :=
    swap .start (fun d hd => .inl (hcreation d hd)) (fun e he => .inr (hreport e he))
      fun d hd e he w' hw' => hapart w' hw' _ (hcreation d hd) _ (hreport e he)
  rw [hrun] at hswap hreportTrace
  obtain ⟨hfull, hfullTrace⟩ := sh.run_runOver console c sys w
  obtain ⟨hless, hlessTrace⟩ := sh.run_runOver console c' sys ((reportAll console errors).run sys w).2
  rw [hswap] at hless hlessTrace
  rw [hcreateTrace, htrace] at hlessTrace
  simp only [degraded, run_bind, trace_bind]
  refine ⟨hfull.trans hless.symm, _, hfullTrace.trans ?_, congrArg _ hlessTrace⟩
  exact congrArg (fun es => created ++ (es ++ _)) hreportTrace

end Shell
/-! ## Consoles that keep their lines -/

/-- A console that keeps the lines it is told takes every report, so that none is told to the process. -/
theorem exists_print_of_mem_reportAll {sys : System σ} {es : List ShellError} {w : σ × Transcript} {e : Event}
    (he : e ∈ (reportAll Sink.console es).trace sys.transcribed w) : ∃ text, e.request = .print .stderr text := by
  induction es generalizing w with
  | nil => exact absurd he List.not_mem_nil
  | cons error es ih =>
    rw [reportAll, trace_bind, report_eq, Sink.console_eq] at he
    rcases List.mem_append.1 he with hfirst | hrest
    · obtain rfl := List.mem_singleton.1 hfirst
      exact ⟨error.message, rfl⟩
    · exact ih hrest

/-- So its reports are shown in no target. -/
theorem Shell.reportsApart_transcribed (sh : Shell) (c : Command) (sys : System σ) (w : σ × Transcript) :
    sh.ReportsApart Sink.console c sys.transcribed w := by
  intro w' _ q hq q' hq'
  obtain ⟨t, -, rfl⟩ := List.mem_map.1 hq
  obtain ⟨e, he, rfl⟩ := List.mem_map.1 hq'
  obtain ⟨text, htext⟩ := exists_print_of_mem_reportAll he
  rw [htext]
  exact ⟨rfl, rfl, rfl⟩

theorem System.failsClean_transcribed {sys : System σ} (h : sys.FailsClean) : sys.transcribed.FailsClean :=
  fun t w fault hfault => congrArg (·, w.2) (h t w.1 fault hfault)

/-- A system with a single file, `/err`: no other can be made, and there are no programs. -/
def System.oneFile : System (Option Bytes) := fun r held =>
  match r with
  | .create t =>
    if t.path = Path.ofString "/err" then (.ok (), some (if t.append then held.getD [] else []))
    else (.error (.system .accessDenied), held)
  | .appendLine p line =>
    if p = Path.ofString "/err" then (.ok (), some (held.getD [] ++ Bytes.ofString (line ++ "\n")))
    else (.error (.system .accessDenied), held)
  | r => System.bare r held

/-- The target of the output stream cannot be created, which is told on the console; the target of the error
stream takes the error of the command. -/
theorem Shell.runOver_restrict_oneFile :
    let sys := System.oneFile.transcribed
    let sh := Shell.start {} { currentDir := .root }
    let c := Command.parse "nope > out 2> err"
    let prepared := ((c.redirection.prepare .root).run sys (none, {})).1
    let degraded := reportAll Sink.console prepared.2 >>= fun _ => sh.runCommand (Command.parse "nope 2> err")
    sys.FailsClean ∧ sh.ReportsApart Sink.console c sys (none, {}) ∧
      (sh.runCommand c).run sys (none, {}) = degraded.run sys (none, {}) ∧
      ((sh.runCommand c).run sys (none, {})).2 =
        (some (Bytes.ofString "nope: command not found\n"),
          ⟨[(.stderr, "/out: Permission denied (os error 13)")]⟩) := by
  intro sys sh c prepared degraded
  have hclean : sys.FailsClean := by
    refine System.failsClean_transcribed fun t held fault hfault => ?_
    by_cases ht : t.path = Path.ofString "/err" <;> simp [System.oneFile, ht] at hfault ⊢
  have hapart := sh.reportsApart_transcribed c System.oneFile (none, {})
  obtain ⟨-, -, -, hsame, -⟩ := sh.runOver_restrict Sink.console c sys (none, {}) hclean hapart
  have hless : { c with redirection := c.redirection.restrict prepared.1 } = Command.parse "nope 2> err" := by
    decide +kernel
  have hdegraded : (reportAll Sink.console prepared.2 >>= fun _ =>
      sh.runCommand { c with redirection := c.redirection.restrict prepared.1 }) = degraded := by
    rw [hless]
  exact ⟨hclean, hapart, hsame.trans (congrArg (fun x => x.run sys (none, {})) hdegraded), by decide +kernel⟩

/-! ## Reports that go into a target -/

/-- A system whose error stream goes into the file `/log`. The file `/full` takes no line, and no other can be made. -/
def System.logged : System Bytes := fun r held =>
  match r with
  | .create t =>
    if t.path = Path.ofString "/log" then (.ok (), if t.append then held else [])
    else if t.path = Path.ofString "/full" then (.ok (), held)
    else (.error (.system .noEntry), held)
  | .appendLine p line =>
    if p = Path.ofString "/log" then (.ok (), held ++ Bytes.ofString (line ++ "\n"))
    else (.error (.system .noSpace), held)
  | .print .stderr line | .complain line => (.ok (), held ++ Bytes.ofString (line ++ "\n"))
  | r => System.bare r held

theorem System.failsClean_logged : System.logged.FailsClean := by
  intro t held fault hfault
  simp only [System.logged] at hfault ⊢
  split at hfault
  · cases hfault
  · split at hfault
    · cases hfault
    · simp [*]

/-- Where the error stream of the process goes into a target, the line empties it before the report of the other
target is shown there. The line without that other target, run after the report, empties it of the report. -/
theorem Shell.runCommand_ne_degraded_logged :
    let sh := Shell.start {} { currentDir := .root }
    let c := Command.parse "pwd > missing/x 2> log"
    let prepared := ((c.redirection.prepare .root).run System.logged []).1
    let c' := { c with redirection := c.redirection.restrict prepared.1 }
    let degraded := reportAll Sink.console prepared.2 >>= fun _ => sh.runCommand c'
    System.logged.FailsClean ∧
      ((sh.runCommand c).run System.logged []).2 =
        Bytes.ofString "/missing/x: No such file or directory (os error 2)\n" ∧
      (degraded.run System.logged []).2 = [] ∧
      (sh.runCommand c).run System.logged [] ≠ degraded.run System.logged [] := by
  intro sh c prepared c' degraded
  have hreported : ((sh.runCommand c).run System.logged []).2 =
      Bytes.ofString "/missing/x: No such file or directory (os error 2)\n" := by
    decide +kernel
  have hemptied : (degraded.run System.logged []).2 = [] := by decide +kernel
  refine ⟨System.failsClean_logged, hreported, hemptied, fun hsame => ?_⟩
  rw [hsame, hemptied] at hreported
  exact absurd hreported (by decide +kernel)

end LineShell
