import LineShell.Proofs.Run.Account
import LineShell.Proofs.Run.Sink
import Mathlib.Data.List.Forall2

/-!
# Deliveries

A line of text is *delivered* where it is written without a fault: to a file, to a stream of the console,
or to the error stream of the process. Over a console that takes what it is told, a line that the shell
runs delivers each of its lines and each of its error messages once, with one exception: the message of a
failed command that the target of the error stream refuses is delivered by the console, and by the
process again.

* `Redirection.delivered_over`: a line handed to the sink of a command is delivered once.
* `Account.deliveries_conclude`: the last report delivers once or, where `Account.repeats` says so, twice.
* `Shell.deliveries_handle`: what a line delivers, and that it is once for each message exactly where the
  last report is not repeated.
-/

namespace LineShell

variable {σ : Type}

/-! ## Deliveries -/

/-- Where a line of text can be delivered. -/
inductive Receiver where
  | file (p : Path)
  | console (s : Stream)
  | process
deriving DecidableEq, Repr

/-- The line that an event delivers. -/
def Event.delivery : Event → Option (Receiver × String)
  | ⟨.appendLine p line, .ok ()⟩ => some (.file p, line)
  | ⟨.print s line, .ok ()⟩ => some (.console s, line)
  | ⟨.complain line, .ok ()⟩ => some (.process, line)
  | _ => none

/-- All that a run delivers. -/
def deliveries (es : List Event) : List (Receiver × String) :=
  es.filterMap Event.delivery

@[simp] theorem deliveries_nil : deliveries [] = [] := rfl

@[simp] theorem deliveries_append (es es' : List Event) :
    deliveries (es ++ es') = deliveries es ++ deliveries es' :=
  List.filterMap_append

/-- A request that writes no line. -/
def Request.IsQuiet : Request → Prop
  | .appendLine _ _ | .print _ _ | .complain _ => False
  | _ => True

theorem Request.IsLook.isQuiet {r : Request} (h : r.IsLook) : r.IsQuiet := by
  cases r <;> simp_all [IsLook, IsQuiet]

theorem Event.delivery_of_isQuiet {e : Event} (h : e.request.IsQuiet) : e.delivery = none := by
  obtain ⟨r, a⟩ := e
  cases r <;> first | rfl | exact h.elim

open LineShell.Action

theorem Action.Only.deliveries_eq_nil {α : Type} {x : Action α} (hx : x.Only Request.IsQuiet)
    (sys : System σ) (s : σ) : deliveries (x.trace sys s) = [] := by
  refine List.filterMap_eq_nil_iff.2 fun e he => ?_
  exact Event.delivery_of_isQuiet (hx.of_mem_trace he)

/-- The line `l` for a stream is delivered as `d`: on that stream of the console, or in the file that `r`
sends the stream to. -/
def Redirection.Shown (r : Redirection) (l : Stream × String) (d : Receiver × String) : Prop :=
  d.2 = l.2 ∧ (d.1 = .console l.1 ∨ ∃ t, r.target l.1 = some t ∧ d.1 = .file t.path)

theorem Redirection.shown_console (r : Redirection) (s : Stream) (line : String) :
    r.Shown (s, line) (.console s, line) :=
  ⟨rfl, .inl rfl⟩

/-! ## A line, and a report -/

/-- The console takes every line that it is told. -/
def System.PrintsAll (sys : System σ) : Prop :=
  ∀ s line w, (sys (.print s line) w).1 = .ok ()

variable {sys : System σ}

theorem deliveries_console (hsys : sys.PrintsAll) (s : Stream) (line : String) (w : σ) :
    deliveries ((Sink.console s line).trace sys w) = [(.console s, line)] := by
  rw [Sink.console_eq, trace_ask, hsys s line w]
  rfl

/-- **A line handed to the sink of a command is delivered once**, whether its target takes it or not. -/
theorem Redirection.delivered_over (hsys : sys.PrintsAll) (r : Redirection) (s : Stream) (line : String)
    (w : σ) :
    ∃ d, r.Shown (s, line) d ∧ deliveries ((r.over Sink.console s line).trace sys w) = [d] := by
  cases htarget : r.target s with
  | none =>
    rw [over_of_none htarget]
    exact ⟨_, r.shown_console s line, deliveries_console hsys s line w⟩
  | some t =>
    rw [over_of_some htarget, trace_ask]
    rcases (sys (.appendLine t.path line) w).1 with fault | ⟨⟩
    · refine ⟨_, r.shown_console s line, ?_⟩
      simp only [trace_ask, hsys s line]
      rfl
    · exact ⟨(.file t.path, line), ⟨rfl, .inr ⟨t, htarget, rfl⟩⟩, rfl⟩

theorem deliveries_report (hsys : sys.PrintsAll) (e : ShellError) (w : σ) :
    deliveries ((report Sink.console e).trace sys w) = [(.console .stderr, e.message)] := by
  rw [report_eq, Sink.console_eq]
  simp only [ask_bind, trace_ask, hsys .stderr e.message]
  rfl

theorem deliveries_reportAll (hsys : sys.PrintsAll) (es : List ShellError) (w : σ) :
    deliveries ((reportAll Sink.console es).trace sys w) =
      es.map fun e => (.console .stderr, e.message) := by
  induction es generalizing w with
  | nil => rfl
  | cons e es ih =>
    rw [reportAll, trace_bind, deliveries_append, deliveries_report hsys, ih]
    rfl

/-! ## A command -/

theorem Redirection.isQuiet_prepareTarget (base : Path) (t? : Option Target) :
    (prepareTarget base t?).Only Request.IsQuiet := by
  cases t? with
  | none => trivial
  | some t =>
    refine only_bind (only_map _ (only_request trivial)) fun created => ?_
    rcases created with e | ⟨⟩ <;> trivial

theorem Redirection.isQuiet_prepare (r : Redirection) (base : Path) :
    (r.prepare base).Only Request.IsQuiet :=
  only_bind (isQuiet_prepareTarget base _) fun _ =>
    only_bind (isQuiet_prepareTarget base _) fun _ => trivial

theorem Shell.isQuiet_reply (sh : Shell) (c : Command) : (sh.reply c).Only Request.IsQuiet :=
  (sh.only_reply c).mono fun _ => Request.IsLook.isQuiet

variable (r : Redirection)

/-- An outlet that cannot be opened is told of once. -/
theorem External.delivered_outletTold (hsys : sys.PrintsAll) (t? : Option Target) (w : σ) :
    let x := outletTold t? (r.over Sink.console)
    List.Forall₂ r.Shown ((x.run sys w).1.2.map ShellError.line) (deliveries (x.trace sys w)) := by
  intro x
  cases t? with
  | none => exact .nil
  | some t =>
    rw [show x = _ from outletTold_some t _, run_ask, trace_ask]
    rcases (sys (.openAppend t.path) w).1 with fault | handle
    · obtain ⟨d, hshown, hd⟩ := r.delivered_over hsys .stderr (ShellError.redirect t.path fault).message
        (sys (.openAppend t.path) w).2
      rw [trace_bind, run_bind]
      show List.Forall₂ r.Shown [_] (deliveries (_ ++ []))
      rw [List.append_nil, hd]
      exact .cons hshown .nil
    · exact .nil

/-- While a reply is carried out each of its lines is delivered once. -/
theorem Reply.delivered_carryOut (hsys : sys.PrintsAll) (sh : Shell) (reply : Reply) (w : σ) :
    let x := reply.carryOut r sh (r.over Sink.console)
    List.Forall₂ r.Shown (x.run sys w).1.lines (deliveries (x.trace sys w)) := by
  intro x
  cases reply with
  | silent => exact .nil
  | fail e => exact .nil
  | say s line =>
    obtain ⟨d, hshown, hd⟩ := r.delivered_over hsys s line w
    simp only [x, carryOut, trace_bind, run_bind, deliveries_append, hd]
    exact .cons hshown .nil
  | start c =>
    simp only [x, carryOut, trace_bind, run_bind, deliveries_append, Deed.lines]
    have hout := External.delivered_outletTold r hsys r.stdout w
    have herr := External.delivered_outletTold r hsys r.stderr
      ((External.outletTold r.stdout (r.over Sink.console)).run sys w).2
    show List.Forall₂ _ (List.map _ (_ ++ _)) (_ ++ (_ ++ ([] ++ [])))
    rw [List.map_append, List.append_nil, List.append_nil]
    exact List.rel_append hout herr

namespace Account

/-- The target of the error stream refuses the report of the failure, and the process takes it: then the
message is delivered a second time. -/
def repeats (a : Account) (sys : System σ) (w : σ) : Bool :=
  match a.failure, a.kept.stderr with
  | some e, some t =>
    let appended := sys (.appendLine t.path e.message) w
    let printed := sys (.print .stderr e.message) appended.2
    let complained := sys (.complain e.message) printed.2
    !appended.1.isOk && complained.1.isOk
  | _, _ => false

/-- What is delivered a second time. -/
def again (a : Account) (sys : System σ) (w : σ) : List (Receiver × String) :=
  if a.repeats sys w then a.failure.toList.map fun e => (.process, e.message) else []

theorem again_eq_nil (a : Account) (w : σ) : a.again sys w = [] ↔ a.repeats sys w = false := by
  cases hfailure : a.failure with
  | none => simp [again, repeats, hfailure]
  | some e => simp [again, hfailure]

/-- **The last report delivers its message once, and once more where it is repeated.** -/
theorem deliveries_conclude (hsys : sys.PrintsAll) (a : Account) (w : σ) :
    ∃ ds, List.Forall₂ a.kept.Shown (a.failure.toList.map ShellError.line) ds ∧
      deliveries (a.conclude.trace sys w) = ds ++ a.again sys w := by
  cases hfailure : a.failure with
  | none => exact ⟨[], .nil, by simp [conclude, hfailure, again]⟩
  | some e =>
    rw [conclude, hfailure]
    show ∃ ds, List.Forall₂ _ [e.line] ds ∧ deliveries ((report a.sink e).trace sys w) = _
    rw [report_eq, sink]
    cases htarget : a.kept.stderr with
    | none =>
      rw [Redirection.over_of_none (show a.kept.target .stderr = none from htarget), Sink.console_eq]
      refine ⟨_, .cons (a.kept.shown_console .stderr e.message) .nil, ?_⟩
      simp only [ask_bind, trace_ask, hsys .stderr e.message, again, repeats, hfailure, htarget]
      rfl
    | some t =>
      rw [Redirection.over_of_some (show a.kept.target .stderr = some t from htarget)]
      simp only [ask_bind, trace_ask, again, repeats, hfailure, htarget]
      rcases (sys (.appendLine t.path e.message) w).1 with fault | ⟨⟩
      · refine ⟨_, .cons (a.kept.shown_console .stderr e.message) .nil, ?_⟩
        simp only [ask_bind, done_bind, trace_ask, hsys .stderr e.message]
        rcases (sys (.complain e.message) _).1 with fault' | ⟨⟩ <;> rfl
      · exact ⟨[(.file t.path, e.message)], .cons ⟨rfl, .inr ⟨t, htarget, rfl⟩⟩ .nil, rfl⟩

end Account

/-! ## A line -/

theorem Shell.delivered_carryOut (hsys : sys.PrintsAll) (sh : Shell) (c : Command) (w : σ) :
    let x := sh.carryOut c r
    List.Forall₂ r.Shown (x.run sys w).1.2.lines (deliveries (x.trace sys w)) := by
  intro x
  by_cases hempty : c.isEmpty = true
  · rw [show x = _ from if_pos hempty]
    exact .nil
  · rw [show x = _ from if_neg hempty]
    simp only [trace_bind, run_bind, deliveries_append, (sh.isQuiet_reply c).deliveries_eq_nil,
      List.nil_append]
    simpa using Reply.delivered_carryOut r hsys sh _ _

/-- An attempt delivers each of its lines once, those about targets that were not created first. -/
theorem Shell.delivered_attempt (hsys : sys.PrintsAll) (sh : Shell) (c : Command) (w : σ) :
    let a := ((sh.attempt c).run sys w).1.2
    List.Forall₂ a.kept.Shown (a.dropped.map ShellError.line ++ a.lines)
      (deliveries ((sh.attempt c).trace sys w)) := by
  have hdropped (kept : Redirection) (es : List ShellError) :
      List.Forall₂ kept.Shown (es.map ShellError.line)
        (es.map fun e => (.console .stderr, e.message)) := by
    simp only [List.forall₂_map_left_iff, List.forall₂_map_right_iff, List.forall₂_same]
    exact fun e _ => kept.shown_console .stderr e.message
  simp only [attempt, trace_bind, run_bind, deliveries_append, deliveries_reportAll hsys,
    (c.redirection.isQuiet_prepare sh.state.currentDir).deliveries_eq_nil, List.nil_append]
  refine List.rel_append (hdropped _ _) ?_
  simpa using Shell.delivered_carryOut _ hsys sh c _

/-- **What a line delivers**, over a console that takes what it is told: each of the lines that it was to
write, the reports of its errors included, once, and nothing else but the report that is repeated. So each
report is delivered once exactly where the last one is not repeated. -/
theorem Shell.deliveries_handle (hsys : sys.PrintsAll) (sh : Shell) (line : String) (w : σ) :
    let attempted := (sh.attempt (Command.parse line)).run sys w
    let a := attempted.1.2
    let delivered := deliveries ((sh.handle line).trace sys w)
    (∃ ds, List.Forall₂ a.kept.Shown a.told ds ∧ delivered = ds ++ a.again sys attempted.2) ∧
      (List.Forall₂ a.kept.Shown a.told delivered ↔ a.repeats sys attempted.2 = false) := by
  have hattempt := sh.delivered_attempt hsys (Command.parse line) w
  have hhandle : (sh.handle line).trace sys w = (sh.attempt (Command.parse line)).trace sys w ++
      (((sh.attempt (Command.parse line)).run sys w).1.2.conclude).trace sys
        ((sh.attempt (Command.parse line)).run sys w).2 := by
    simp only [handle_eq_runCommand, runCommand_eq_attempt, trace_bind, pure_def, trace_done, List.append_nil]
  generalize (sh.attempt (Command.parse line)).run sys w = attempted at hattempt hhandle ⊢
  obtain ⟨⟨sh', a⟩, w'⟩ := attempted
  obtain ⟨ds, hds, hconclude⟩ := a.deliveries_conclude hsys w'
  have hshown : List.Forall₂ a.kept.Shown a.told
      (deliveries ((sh.attempt (Command.parse line)).trace sys w) ++ ds) := by
    rw [Account.told, Account.sent, ← List.append_assoc]
    exact List.rel_append hattempt hds
  simp only [hhandle, deliveries_append, hconclude, ← List.append_assoc]
  refine ⟨⟨_, hshown, rfl⟩, fun h => ?_, fun h => ?_⟩
  · rw [← Account.again_eq_nil, List.eq_nil_iff_length_eq_zero]
    have hlength := h.length_eq
    rw [List.length_append, ← hshown.length_eq] at hlength
    omega
  · rw [Account.again, h]
    simpa using hshown

/-- A system on which files can be created but take no line, and which has no programs. -/
def System.fullDisk : System Unit := fun r w =>
  match r with
  | .appendLine _ _ => (.error (.system .noSpace), w)
  | r => System.bare r w

/-- On a full disk a command that is not found is reported twice. -/
theorem Shell.deliveries_handle_fullDisk :
    let sh := Shell.start {} { currentDir := .root }
    let line := "nope 2> /dev/full"
    let a := ((sh.attempt (Command.parse line)).run .fullDisk ()).1.2
    let delivered := deliveries ((sh.handle line).trace .fullDisk ())
    System.fullDisk.PrintsAll ∧ a.told = [(.stderr, "nope: command not found")] ∧
      delivered = [(.console .stderr, "nope: command not found"), (.process, "nope: command not found")] ∧
      ¬ List.Forall₂ a.kept.Shown a.told delivered := by
  intro sh line a delivered
  have hprints : System.fullDisk.PrintsAll := fun _ _ _ => rfl
  have hrepeats : a.repeats .fullDisk () = true := by decide +kernel
  refine ⟨hprints, by decide +kernel, by decide +kernel, fun hshown => ?_⟩
  have honce := (deliveries_handle hprints sh line ()).2
  rw [honce.1 hshown] at hrepeats
  exact Bool.false_ne_true hrepeats

end LineShell
