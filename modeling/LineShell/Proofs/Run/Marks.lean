import LineShell.Proofs.Run.Account
import LineShell.Proofs.Run.Sink

/-!
# Marks

The requests that leave a mark, on a file or on the console, on a run that goes *smoothly*: every file is
opened and written, and no program is started. Then a line creates its targets, hands each of its lines
to a target or to the console, and does no more to a file than to open a target once more.

* `Account.WellKept`: what is known of an account of a smooth run.
* `Shell.marks_recountLine`: the marks of a line.
-/

namespace LineShell

variable {α σ : Type}

/-! ## Smooth runs -/

/-- The event went well: files are opened and written, no program is started, and the line editor, which may write
what it likes, is left alone. -/
def Event.Smooth : Event → Prop
  | ⟨.create _, answer⟩ => answer = .ok ()
  | ⟨.appendLine _ _, answer⟩ => answer = .ok ()
  | ⟨.openAppend _, answer⟩ => ∃ handle, answer = .ok handle
  | ⟨.start _, answer⟩ => ∃ fault, answer = .error (.spawn fault)
  | ⟨.editor _, _⟩ => False
  | _ => True

/-- All events of the run went well. -/
def Smooth (es : List Event) : Prop :=
  ∀ e ∈ es, e.Smooth

theorem smooth_append {es es' : List Event} : Smooth (es ++ es') ↔ Smooth es ∧ Smooth es' :=
  List.forall_mem_append

theorem smooth_cons {e : Event} {es : List Event} : Smooth (e :: es) ↔ e.Smooth ∧ Smooth es :=
  List.forall_mem_cons

/-! ## Marks -/

/-- The request leaves a mark on a file or on the console. -/
def Request.marks : Request → Bool
  | .create _ | .appendLine _ _ | .openAppend _ | .print _ _ => true
  | _ => false

/-- The requests of a run that leave a mark. -/
def marks (es : List Event) : List Request :=
  (es.map Event.request).filter Request.marks

@[simp] theorem marks_nil : marks [] = [] := rfl

@[simp] theorem marks_append (es es' : List Event) : marks (es ++ es') = marks es ++ marks es' := by
  simp only [marks, List.map_append, List.filter_append]

open LineShell.Action

theorem Action.Only.marks_eq_nil {x : Action α} (hx : x.Only Request.IsLook) (sys : System σ) (w : σ) :
    marks (x.trace sys w) = [] := by
  refine List.filter_eq_nil_iff.2 fun r hr => ?_
  obtain ⟨e, he, rfl⟩ := List.mem_map.1 hr
  have hlook := hx.of_mem_trace he
  revert hlook
  cases e.request <;> simp [Request.IsLook, Request.marks]

variable {sys : System σ} {w : σ}

/-! ## Lines and targets -/

namespace Redirection

/-- The request that a line of a stream becomes. -/
def request (r : Redirection) (l : Stream × String) : Request :=
  match r.target l.1 with
  | none => .print l.1 l.2
  | some t => .appendLine t.path l.2

/-- The targets as seen from the directory `base`. -/
def resolve (r : Redirection) (base : Path) : Redirection :=
  ⟨r.stdout.map (·.resolve base), r.stderr.map (·.resolve base)⟩

/-- The targets, that of the output stream first. -/
def targets (r : Redirection) : List Target :=
  r.stdout.toList ++ r.stderr.toList

theorem mem_targets {r : Redirection} {t : Target} : t ∈ r.targets ↔ ∃ s, r.target s = some t := by
  rw [targets, List.mem_append, Option.mem_toList, Option.mem_toList]
  constructor
  · rintro (h | h)
    · exact ⟨.stdout, h⟩
    · exact ⟨.stderr, h⟩
  · rintro ⟨s, h⟩
    cases s
    · exact .inl h
    · exact .inr h

theorem marks_over (r : Redirection) (s : Stream) (line : String)
    (h : Smooth ((r.over Sink.console s line).trace sys w)) :
    marks ((r.over Sink.console s line).trace sys w) = [r.request (s, line)] := by
  unfold request
  cases htarget : r.target s with
  | none =>
    rw [over_of_none htarget, Sink.console_eq]
    rfl
  | some t =>
    rw [over_of_some htarget, trace_ask, smooth_cons] at h
    rw [over_of_some htarget, trace_ask, show (sys (.appendLine t.path line) w).1 = .ok () from h.1]
    rfl

theorem marks_report (r : Redirection) (e : ShellError)
    (h : Smooth ((report (r.over Sink.console) e).trace sys w)) :
    marks ((report (r.over Sink.console) e).trace sys w) = [r.request e.line] := by
  rw [report_eq, trace_bind] at h ⊢
  rw [marks_append, marks_over r _ _ (smooth_append.1 h).1]
  rcases ((r.over Sink.console .stderr e.message).run sys w).1 with fault | ⟨⟩ <;> rfl

theorem run_prepareTarget (base : Path) (t? : Option Target)
    (h : Smooth ((prepareTarget base t?).trace sys w)) :
    ((prepareTarget base t?).run sys w).1 = (t?.map (·.resolve base), []) ∧
      marks ((prepareTarget base t?).trace sys w) = (t?.map (·.resolve base)).toList.map .create := by
  cases t? with
  | none => exact ⟨rfl, rfl⟩
  | some t =>
    rw [prepareTarget_some, trace_ask, smooth_cons] at h
    rw [prepareTarget_some, run_ask, trace_ask, show (sys (.create (t.resolve base)) w).1 = .ok () from h.1]
    exact ⟨rfl, rfl⟩

/-- On a smooth run all targets are kept, and each is created once. -/
theorem run_prepare (r : Redirection) (base : Path) (h : Smooth ((r.prepare base).trace sys w)) :
    ((r.prepare base).run sys w).1 = (r.resolve base, []) ∧
      marks ((r.prepare base).trace sys w) = (r.resolve base).targets.map .create := by
  simp only [prepare, trace_bind, smooth_append] at h
  obtain ⟨hout, herr, -⟩ := h
  obtain ⟨hrunOut, hmarksOut⟩ := run_prepareTarget base r.stdout hout
  obtain ⟨hrunErr, hmarksErr⟩ := run_prepareTarget base r.stderr herr
  simp only [prepare, trace_bind, run_bind, marks_append, hmarksOut, hmarksErr, hrunOut, hrunErr]
  rw [targets, List.map_append]
  exact ⟨rfl, congrArg _ (List.append_nil _)⟩

end Redirection

/-! ## A command -/

variable (r : Redirection)

/-- Nothing but targets of `r` that are opened once more. -/
def Redirection.Openings (rs : List Request) : Prop :=
  ∀ request ∈ rs, ∃ t ∈ r.targets, request = .openAppend t.path

theorem Redirection.openings_targets : r.Openings (r.targets.map fun t => .openAppend t.path) := by
  intro request hmem
  obtain ⟨t, ht, rfl⟩ := List.mem_map.1 hmem
  exact ⟨t, ht, rfl⟩

theorem External.run_outletTold (t? : Option Target) (errors : Sink)
    (h : Smooth ((outletTold t? errors).trace sys w)) :
    ((outletTold t? errors).run sys w).1.2 = [] ∧
      marks ((outletTold t? errors).trace sys w) = t?.toList.map fun t => .openAppend t.path := by
  cases t? with
  | none => exact ⟨rfl, rfl⟩
  | some t =>
    rw [outletTold_some, trace_ask, smooth_cons] at h
    obtain ⟨⟨handle, hopen⟩, -⟩ := h
    rw [outletTold_some, run_ask, trace_ask, show (sys (.openAppend t.path) w).1 = .ok handle from hopen]
    exact ⟨rfl, rfl⟩

/-- On a smooth run no stream of a program is inherited for want of its target, and a reply writes the line
that it has to say, if any. -/
theorem Reply.run_carryOut (sh : Shell) (reply : Reply)
    (h : Smooth ((reply.carryOut r sh (r.over Sink.console)).trace sys w)) :
    let deed := ((reply.carryOut r sh (r.over Sink.console)).run sys w).1
    deed.unopened = [] ∧ ∃ opened, r.Openings opened ∧
      marks ((reply.carryOut r sh (r.over Sink.console)).trace sys w) =
        deed.said.toList.map r.request ++ opened := by
  cases reply with
  | silent => exact ⟨rfl, [], List.forall_mem_nil _, rfl⟩
  | fail e => exact ⟨rfl, [], List.forall_mem_nil _, rfl⟩
  | say s line =>
    simp only [carryOut, trace_bind, smooth_append] at h
    simp only [carryOut, trace_bind, run_bind, marks_append, r.marks_over s line h.1]
    exact ⟨rfl, [], List.forall_mem_nil _, rfl⟩
  | start c =>
    simp only [carryOut, trace_bind, smooth_append] at h
    obtain ⟨hout, herr, -⟩ := h
    obtain ⟨hrunOut, hmarksOut⟩ := External.run_outletTold _ _ hout
    obtain ⟨hrunErr, hmarksErr⟩ := External.run_outletTold _ _ herr
    simp only [carryOut, trace_bind, run_bind, marks_append, hmarksOut, hmarksErr]
    refine ⟨by simp [hrunOut, hrunErr], _, r.openings_targets, ?_⟩
    show _ ++ (_ ++ ([] ++ [])) = [] ++ _
    rw [Redirection.targets, List.map_append, List.append_nil, List.append_nil, List.nil_append]

/-! ## A line -/

theorem Shell.run_carryOut (sh : Shell) (c : Command) (h : Smooth ((sh.carryOut c r).trace sys w)) :
    let deed := ((sh.carryOut c r).run sys w).1.2
    deed.unopened = [] ∧ ∃ opened, r.Openings opened ∧
      marks ((sh.carryOut c r).trace sys w) = deed.said.toList.map r.request ++ opened := by
  unfold Shell.carryOut at h ⊢
  split
  · exact ⟨rfl, [], List.forall_mem_nil _, rfl⟩
  · rename_i hempty
    rw [if_neg hempty] at h
    simp only [trace_bind, smooth_append] at h
    obtain ⟨-, hcarry, -⟩ := h
    obtain ⟨hunopened, opened, hopened, hmarks⟩ := Reply.run_carryOut r sh _ hcarry
    simp only [trace_bind, run_bind, marks_append, (sh.only_reply c).marks_eq_nil, hmarks]
    exact ⟨hunopened, opened, hopened, by simp⟩

namespace Account

/-- The targets of the line, as seen from the directory it was run in. -/
def active (a : Account) : Redirection :=
  a.command.redirection.resolve a.dir

/-- All targets were created and opened. -/
structure WellKept (a : Account) : Prop where
  kept : a.kept = a.active
  dropped : a.dropped = []
  unopened : a.unopened = []

/-- What the line sent, where nothing had to be said about its targets. -/
theorem WellKept.sent_eq {a : Account} (h : a.WellKept) :
    a.sent = a.said.toList ++ a.failure.toList.map ShellError.line := by
  simp [sent, Deed.lines, h.unopened]

theorem marks_conclude (a : Account) (h : Smooth (a.conclude.trace sys w)) :
    marks (a.conclude.trace sys w) = (a.failure.toList.map ShellError.line).map a.kept.request := by
  unfold conclude at h ⊢
  cases hfailure : a.failure with
  | none => rfl
  | some e =>
    rw [hfailure] at h
    exact a.kept.marks_report e h

end Account

namespace Shell

theorem marks_attempt (sh : Shell) (c : Command) (h : Smooth ((sh.attempt c).trace sys w)) :
    let a := ((sh.attempt c).run sys w).1.2
    a.WellKept ∧ ∃ opened, a.active.Openings opened ∧
      marks ((sh.attempt c).trace sys w) =
        a.active.targets.map .create ++ (a.said.toList.map a.active.request ++ opened) := by
  simp only [attempt, trace_bind, smooth_append] at h
  obtain ⟨hprepare, -, hcarry, -⟩ := h
  obtain ⟨hrun, hmarks⟩ := c.redirection.run_prepare _ hprepare
  simp only [hrun, reportAll, pure_def, run_done] at hcarry
  obtain ⟨hunopened, opened, hopened, hmarksCarry⟩ := run_carryOut _ sh c hcarry
  simp only [attempt, trace_bind, run_bind, marks_append, hrun, hmarks, reportAll, pure_def, run_done,
    trace_done, List.nil_append, List.append_nil]
  exact ⟨⟨rfl, rfl, hunopened⟩, opened, hopened, congrArg _ hmarksCarry⟩

/-- **The marks of a line** on a smooth run: its targets are created, then each line that it sends goes to
the target of its stream, or to the console. Between the lines targets may be opened once more. -/
theorem marks_recountLine (sh : Shell) (line : String) (h : Smooth ((sh.recountLine line).trace sys w)) :
    let a := ((sh.recountLine line).run sys w).1.2
    a.WellKept ∧ ∃ opened, a.active.Openings opened ∧
      marks ((sh.recountLine line).trace sys w) = a.active.targets.map .create ++ (a.said.toList.map a.active.request ++
        opened ++ (a.failure.toList.map ShellError.line).map a.active.request) := by
  simp only [recountLine, trace_bind, smooth_append] at h
  obtain ⟨hattempt, hconclude, -⟩ := h
  obtain ⟨hkept, opened, hopened, hmarks⟩ := sh.marks_attempt _ hattempt
  simp only [recountLine, trace_bind, run_bind, marks_append, hmarks, Account.marks_conclude _ hconclude,
    pure_def, run_done, trace_done, List.append_nil, List.append_assoc]
  refine ⟨hkept, opened, hopened, ?_⟩
  rw [hkept.kept]

end Shell

end LineShell
