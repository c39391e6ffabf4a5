import LineShell.Proofs.Run.Creation
import LineShell.Proofs.Run.Delivery
import LineShell.Proofs.Run.Launch

/-!
# Which stream a line is written on

Results go to the output stream, and everything that the shell has to say about a line goes to the error stream. All
that the shell writes for a line is cut into groups, one for each line of text that it has to write: a line is written
once on its own stream, to the target or to the console, and once more on that stream of the console where the target
refuses it. So the stream of a line of text decides where it can be seen. On the output stream there is at most one,
the answer of `echo`, `pwd` or `type`.

* `Redirection.Voiced`: the writes of one line of text, `Redirection.Utters`: those of several, one after the other.
* `Builtin.said_reply`: what a builtin has to say, and on which stream.
* `Utters.additions_eq_nil`: a file that is the target of another stream gets none of the lines.
* `Shell.contents_runCommand`: a file that a target denotes gets the lines that are appended to it.
* `Shell.streams_handle`: the streams of a line, and the target of the output stream of a command that fails.
-/

namespace LineShell

open LineShell.Action

variable {σ F : Type} [DecidableEq F] {sys : System σ} {w : σ}

/-! ## Writes -/

/-- The text that a request writes as a line. -/
def Request.text? : Request → Option String
  | .appendLine _ line | .print _ line | .complain line => some line
  | _ => none

/-- The events of a run in which a line is written. -/
def writes (es : List Event) : List Event :=
  es.filter fun e => e.request.text?.isSome

theorem writes_append (es es' : List Event) : writes (es ++ es') = writes es ++ writes es' :=
  List.filter_append _ _

theorem Action.Only.writes_eq_nil {α : Type} {x : Action α} (hx : x.Only Request.IsQuiet) (sys : System σ) (w : σ) :
    writes (x.trace sys w) = [] := by
  refine List.filter_eq_nil_iff.2 fun e he => ?_
  have hquiet := hx.of_mem_trace he
  revert hquiet
  cases e.request <;> simp [Request.IsQuiet, Request.text?]

namespace Redirection

/-- The line `l` is written on its stream. -/
inductive Written (r : Redirection) : Stream × String → List Event → Prop
  | console {s : Stream} {line : String} {answer : Except Fault Unit} (htarget : r.target s = none) :
      Written r (s, line) [⟨.print s line, answer⟩]
  | target {s : Stream} {line : String} {t : Target} (htarget : r.target s = some t) :
      Written r (s, line) [⟨.appendLine t.path line, .ok ()⟩]
  | refused {s : Stream} {line : String} {t : Target} {fault : Fault} {answer : Except Fault Unit}
      (htarget : r.target s = some t) :
      Written r (s, line) [⟨.appendLine t.path line, .error fault⟩, ⟨.print s line, answer⟩]

/-- The line `l` is written on its stream. A line for the error stream may be written to the error stream of the
process at last. -/
def Voiced (r : Redirection) (l : Stream × String) (es : List Event) : Prop :=
  ∃ written last, es = written ++ last ∧ r.Written l written ∧
    (last = [] ∨ l.1 = .stderr ∧ ∃ answer, last = [⟨.complain l.2, answer⟩])

/-- The writes of the run `es` are those of the lines `ls`, one after the other. -/
def Utters (r : Redirection) (ls : List (Stream × String)) (es : List Event) : Prop :=
  ∃ groups, writes es = groups.flatten ∧ List.Forall₂ r.Voiced ls groups

variable {r : Redirection} {l : Stream × String} {ls : List (Stream × String)} {es : List Event}

theorem Written.text?_eq (h : r.Written l es) : ∀ e ∈ es, e.request.text? = some l.2 := by
  cases h with
  | console htarget | target htarget => simp [Request.text?]
  | refused htarget => simp [Request.text?]

theorem Voiced.text?_eq (h : r.Voiced l es) : ∀ e ∈ es, e.request.text? = some l.2 := by
  obtain ⟨written, last, rfl, hwritten, hlast⟩ := h
  refine List.forall_mem_append.2 ⟨hwritten.text?_eq, ?_⟩
  rcases hlast with rfl | ⟨-, answer, rfl⟩
  · exact List.forall_mem_nil _
  · simp [Request.text?]

theorem Voiced.utters (h : r.Voiced l es) : r.Utters [l] es := by
  have hwrites : writes es = es := by
    refine List.filter_eq_self.2 fun e he => ?_
    rw [h.text?_eq e he]
    rfl
  exact ⟨[es], by rw [hwrites, List.flatten_singleton], .cons h .nil⟩

theorem Utters.append {ls' : List (Stream × String)} {es' : List Event} (h : r.Utters ls es)
    (h' : r.Utters ls' es') : r.Utters (ls ++ ls') (es ++ es') := by
  obtain ⟨groups, hwrites, hvoiced⟩ := h
  obtain ⟨groups', hwrites', hvoiced'⟩ := h'
  refine ⟨groups ++ groups', ?_, List.rel_append hvoiced hvoiced'⟩
  rw [writes_append, hwrites, hwrites', List.flatten_append]

theorem utters_of_writes_eq_nil (h : writes es = []) : r.Utters [] es :=
  ⟨[], h, .nil⟩

theorem Utters.append_of_writes_eq_nil (h : r.Utters ls es) {es' : List Event} (h' : writes es' = []) :
    r.Utters ls (es ++ es') := by
  have happend := h.append (utters_of_writes_eq_nil h')
  rwa [List.append_nil] at happend

/-- Each line that is written is one of those that were to be. -/
theorem Utters.exists_of_text? (h : r.Utters ls es) {e : Event} (he : e ∈ es) {text : String}
    (htext : e.request.text? = some text) : ∃ l ∈ ls, ∃ group, e ∈ group ∧ r.Voiced l group := by
  obtain ⟨groups, hwrites, hvoiced⟩ := h
  have hmem : e ∈ groups.flatten := by
    rw [← hwrites]
    exact List.mem_filter.2 ⟨he, by rw [htext]; rfl⟩
  clear hwrites
  induction hvoiced with
  | nil => exact absurd hmem List.not_mem_nil
  | cons hfirst _ ih =>
    rcases List.mem_append.1 hmem with hmem | hmem
    · exact ⟨_, List.mem_cons_self, _, hmem, hfirst⟩
    · obtain ⟨l, hl, hgroup⟩ := ih hmem
      exact ⟨l, List.mem_cons_of_mem _ hl, hgroup⟩

/-- What is appended to a file is a line for a stream with this target. -/
theorem Utters.exists_of_appendLine (h : r.Utters ls es) {p : Path} {text : String} {answer : Except Fault Unit}
    (he : ⟨.appendLine p text, answer⟩ ∈ es) : ∃ l ∈ ls, ∃ t, r.target l.1 = some t ∧ p = t.path := by
  obtain ⟨l, hl, group, hmem, written, last, rfl, hwritten, hlast⟩ := h.exists_of_text? he rfl
  rcases List.mem_append.1 hmem with hmem | hmem
  · cases hwritten with
    | console htarget => simp at hmem
    | target htarget | refused htarget => exact ⟨_, hl, _, htarget, by simp_all⟩
  · rcases hlast with rfl | ⟨-, answer, rfl⟩
    · cases hmem
    · simp at hmem

/-! ## Sinks and reports -/

section Sinks

variable (sys : System σ)

theorem over_empty (below : Sink) : ({} : Redirection).over below = below := by
  funext s line
  exact over_of_none (by cases s <;> rfl) below line

theorem written_over (r : Redirection) (s : Stream) (line : String) (w : σ) :
    r.Written (s, line) ((r.over Sink.console s line).trace sys w) := by
  cases htarget : r.target s with
  | none =>
    rw [over_of_none htarget, Sink.console_eq]
    exact .console htarget
  | some t =>
    rw [over_of_some htarget, trace_ask]
    rcases (sys (.appendLine t.path line) w).1 with fault | ⟨⟩
    · simp only [trace_ask]
      rcases (sys (.print s line) _).1 with below | ⟨⟩
      · exact .refused htarget
      · exact .refused htarget
    · exact .target htarget

theorem utters_over (r : Redirection) (s : Stream) (line : String) (w : σ) :
    r.Utters [(s, line)] ((r.over Sink.console s line).trace sys w) :=
  Voiced.utters ⟨_, [], (List.append_nil _).symm, r.written_over sys s line w, .inl rfl⟩

theorem utters_report (r : Redirection) (e : ShellError) (w : σ) :
    r.Utters [e.line] ((report (r.over Sink.console) e).trace sys w) := by
  refine Voiced.utters ?_
  rw [report_eq, trace_bind]
  refine ⟨_, _, rfl, r.written_over sys .stderr e.message w, ?_⟩
  rcases ((r.over Sink.console .stderr e.message).run sys w).1 with fault | ⟨⟩
  · exact .inr ⟨rfl, _, rfl⟩
  · exact .inl rfl

theorem utters_reportAll (es : List ShellError) (w : σ) :
    ({} : Redirection).Utters (es.map ShellError.line) ((reportAll Sink.console es).trace sys w) := by
  induction es generalizing w with
  | nil => exact utters_of_writes_eq_nil rfl
  | cons e es ih =>
    have hfirst := utters_report sys {} e w
    rw [over_empty] at hfirst
    rw [reportAll, trace_bind]
    exact hfirst.append (ih _)

end Sinks

end Redirection

/-! ## Commands -/

section Command

variable (sys : System σ) (r : Redirection)

theorem External.utters_outletTold (t? : Option Target) (w : σ) :
    let x := outletTold t? (r.over Sink.console)
    r.Utters ((x.run sys w).1.2.map ShellError.line) (x.trace sys w) := by
  intro x
  cases t? with
  | none => exact Redirection.utters_of_writes_eq_nil rfl
  | some t =>
    rw [show x = _ from outletTold_some t _, run_ask, trace_ask]
    have hopening (answer : Except Fault Handle) : r.Utters [] [⟨.openAppend t.path, answer⟩] :=
      Redirection.utters_of_writes_eq_nil rfl
    rcases (sys (.openAppend t.path) w).1 with fault | handle
    · simp only [trace_bind, run_bind, run_done, trace_done, List.append_nil]
      exact (hopening _).append (r.utters_over sys .stderr _ _)
    · exact hopening _

theorem Reply.utters_carryOut (sh : Shell) (reply : Reply) (w : σ) :
    let x := reply.carryOut r sh (r.over Sink.console)
    r.Utters (x.run sys w).1.lines (x.trace sys w) := by
  intro x
  cases reply with
  | silent | fail e => exact Redirection.utters_of_writes_eq_nil rfl
  | say s line =>
    have hline := r.utters_over sys s line w
    simp only [x, carryOut, trace_bind, run_bind, pure_def, trace_done, List.append_nil]
    exact hline
  | start c =>
    have hout := External.utters_outletTold sys r r.stdout w
    have herr := External.utters_outletTold sys r r.stderr
      ((External.outletTold r.stdout (r.over Sink.console)).run sys w).2
    simp only [x, carryOut, trace_bind, run_bind, Deed.lines]
    show r.Utters (List.map _ (_ ++ _)) (_ ++ (_ ++ ([_] ++ [])))
    rw [List.map_append, List.append_nil]
    exact hout.append (herr.append_of_writes_eq_nil rfl)

theorem Shell.utters_carryOut (sh : Shell) (c : Command) (w : σ) :
    let x := sh.carryOut c r
    r.Utters (x.run sys w).1.2.lines (x.trace sys w) := by
  intro x
  by_cases hempty : c.isEmpty = true
  · rw [show x = _ from if_pos hempty]
    exact Redirection.utters_of_writes_eq_nil rfl
  · rw [show x = _ from if_neg hempty]
    simp only [trace_bind, run_bind, pure_def, run_done, trace_done, List.append_nil]
    exact (Redirection.utters_of_writes_eq_nil ((sh.isQuiet_reply c).writes_eq_nil sys w)).append
      (Reply.utters_carryOut sys r sh _ _)

theorem Shell.utters_attempt (sh : Shell) (c : Command) (w : σ) :
    let a := ((sh.attempt c).run sys w).1.2
    ∃ before after, (sh.attempt c).trace sys w = before ++ after ∧
      ({} : Redirection).Utters (a.dropped.map ShellError.line) before ∧ a.kept.Utters a.lines after := by
  rw [sh.run_attempt sys w c, sh.trace_attempt sys w c, ← List.append_assoc]
  have hcreate := Redirection.utters_of_writes_eq_nil (r := {})
    ((c.redirection.isQuiet_prepare sh.state.currentDir).writes_eq_nil sys w)
  exact ⟨_, _, rfl, hcreate.append (Redirection.utters_reportAll sys _ _), sh.utters_carryOut sys _ c _⟩

theorem Account.utters_conclude (a : Account) (w : σ) :
    a.kept.Utters (a.failure.toList.map ShellError.line) (a.conclude.trace sys w) := by
  unfold conclude
  cases a.failure with
  | none => exact Redirection.utters_of_writes_eq_nil rfl
  | some e => exact a.kept.utters_report sys e w

/-- **The writes of a line**: the reports of targets that could not be created, then all lines for its sinks. -/
theorem Shell.utters_runCommand (sh : Shell) (c : Command) (w : σ) :
    let a := ((sh.attempt c).run sys w).1.2
    ∃ before after, (sh.runCommand c).trace sys w = before ++ after ∧
      ({} : Redirection).Utters (a.dropped.map ShellError.line) before ∧ a.kept.Utters a.sent after := by
  intro a
  obtain ⟨before, after, htrace, hbefore, hafter⟩ := sh.utters_attempt sys c w
  have hconclude := a.utters_conclude sys ((sh.attempt c).run sys w).2
  refine ⟨before, _, ?_, hbefore, hafter.append hconclude⟩
  rw [sh.trace_runCommand_eq_attempt sys w, htrace, List.append_assoc]

end Command

/-! ## What there is to say -/

/-- The line that a reply has to say. -/
def Reply.said? : Reply → Option (Stream × String)
  | .say s line => some (s, line)
  | _ => none

theorem Reply.said_carryOut (r : Redirection) (sh : Shell) (sink : Sink) (reply : Reply) (w : σ) :
    ((reply.carryOut r sh sink).run sys w).1.said = reply.said? := by
  cases reply with
  | silent | fail e => rfl
  | say s line => simp only [carryOut, run_bind]; rfl
  | start c => simp only [carryOut, run_bind]; rfl

namespace Builtin

/-- The line that a builtin answers, when this is what the search path has for its argument. -/
def answer? (state : State) (args : String) (program : Option Path) : Builtin → Option String
  | .echo => some args
  | .pwd => some state.currentDir.display
  | .type =>
    if args.isEmpty then none
    else if (lookup args).isSome then some s!"{args} is a shell builtin"
    else program.map fun p => s!"{args} is {p.display}"
  | .exit | .cd => none

/-- The builtin objects to its argument with the line, when this is what the search path has for it. -/
inductive Objects (args : String) (program : Option Path) : Builtin → String → Prop
  | unknown (hargs : args.isEmpty = false) (hlookup : lookup args = none) (hprogram : program = none) :
      Objects args program .type s!"{args}: not found"
  | homeless : Objects args program .cd "cd: ~: HOME not set"
  | refused (shown : String) (fault : DirectoryFault) :
      Objects args program .cd s!"cd: {shown}: {fault.message}"

/-- The builtin has nothing to say but its answer, which is for the output stream, or an objection, which is for
the error stream. -/
def Says (state : State) (args : String) (program : Option Path) (b : Builtin) (said? : Option (Stream × String)) :
    Prop :=
  said? = (b.answer? state args program).map (.stdout, ·) ∨
    b.answer? state args program = none ∧ ∃ text, b.Objects args program text ∧ said? = some (.stderr, text)

variable (sys : System σ) (env : Environment) (sp : SearchPath) (state : State) (args : String)

theorem says_type (w : σ) :
    Says state args ((sp.find args).run sys w).1 .type ((replyDescribe sp args).run sys w).1.said? := by
  unfold replyDescribe Says answer?
  by_cases hempty : args.isEmpty = true
  · simp only [hempty, if_true]
    exact .inl rfl
  by_cases hbuiltin : (lookup args).isSome = true
  · simp only [hempty, hbuiltin, if_true, if_false, Bool.false_eq_true]
    exact .inl rfl
  simp only [hempty, hbuiltin, if_false, Bool.false_eq_true, run_bind]
  cases hprogram : ((sp.find args).run sys w).1 with
  | some p => exact .inl rfl
  | none =>
    have hlookup : lookup args = none := Option.not_isSome_iff_eq_none.1 hbuiltin
    exact .inr ⟨rfl, _, .unknown (Bool.eq_false_iff.2 hempty) hlookup rfl, rfl⟩

/-- **What a builtin has to say**: its answer on the output stream, an objection on the error stream, or nothing. -/
theorem says_reply (b : Builtin) (w : σ) :
    Says state args ((sp.find args).run sys w).1 b ((b.reply env sp state args).run sys w).1.2.said? := by
  cases b with
  | echo | exit | pwd => exact .inl rfl
  | type =>
    simp only [reply, run_bind]
    exact says_type sys sp state args w
  | cd =>
    unfold reply replyChangeDirectory
    cases destination env args with
    | stay => exact .inl rfl
    | homeless => exact .inr ⟨rfl, _, .homeless, rfl⟩
    | go dir shown =>
      simp only [replyEnter, run_bind]
      cases ((directoryFault _).run sys _).1 with
      | none => exact .inl rfl
      | some fault => exact .inr ⟨rfl, _, .refused shown fault, rfl⟩

end Builtin

namespace Shell

variable (sys : System σ) (sh : Shell) (c : Command)

/-- The line that a command answers, when this is what the search path has for its arguments. -/
def answer? (program : Option Path) : Option String :=
  (Builtin.lookup c.name).bind (·.answer? sh.state c.joinedArgs program)

/-- What a command has to say is its answer, an objection, or nothing. -/
theorem said_carryOut (kept : Redirection) (w : σ) :
    let program := ((sh.searchPath.find c.joinedArgs).run sys w).1
    let said? := ((sh.carryOut c kept).run sys w).1.2.said
    said? = (sh.answer? c program).map (.stdout, ·) ∨
      sh.answer? c program = none ∧ ∃ b text, Builtin.lookup c.name = some b ∧
        b.Objects c.joinedArgs program text ∧ said? = some (.stderr, text) := by
  intro program said?
  by_cases hempty : c.isEmpty = true
  · have hlookup : Builtin.lookup c.name = none := by
      rw [String.isEmpty_iff.1 hempty]
      rfl
    have hcarry : sh.carryOut c kept = .done (sh.state, {}) := if_pos hempty
    refine .inl ?_
    rw [show said? = none from congrArg (fun x => (x.run sys w).1.2.said) hcarry, answer?, hlookup]
    rfl
  have hsaid : said? = ((sh.reply c).run sys w).1.2.said? := by
    have hcarry : sh.carryOut c kept = _ := if_neg hempty
    simp only [said?, hcarry, run_bind, Reply.said_carryOut, pure_def, run_done]
  rw [hsaid, answer?, reply]
  cases hlookup : Builtin.lookup c.name with
  | some b =>
    rcases b.says_reply sys sh.env sh.searchPath sh.state c.joinedArgs w with
      hanswer | ⟨hnone, text, hobjects, hsay⟩
    · exact .inl hanswer
    · exact .inr ⟨hnone, b, text, rfl, hobjects, hsay⟩
  | none =>
    refine .inl ?_
    simp only [run_bind]
    cases ((External.resolve sh.state sh.searchPath c.name c.args).run sys w).1 with
    | ok program => rfl
    | error e => rfl

theorem said_attempt (w : σ) :
    let program := ((sh.searchPath.find c.joinedArgs).run sys (sh.ready c sys w).2).1
    let said? := ((sh.attempt c).run sys w).1.2.said
    said? = (sh.answer? c program).map (.stdout, ·) ∨
      sh.answer? c program = none ∧ ∃ b text, Builtin.lookup c.name = some b ∧
        b.Objects c.joinedArgs program text ∧ said? = some (.stderr, text) := by
  rw [sh.run_attempt sys w c]
  exact sh.said_carryOut sys c _ _

/-- A command that is neither a builtin nor found fails. -/
theorem failure_of_unknown (w : σ) (e : ShellError) (hname : c.name ≠ "") (hlookup : Builtin.lookup c.name = none)
    (hfound : ((External.resolve sh.state sh.searchPath c.name c.args).run sys (sh.ready c sys w).2).1 = .error e) :
    ((sh.attempt c).run sys w).1.2.failure = some e := by
  rw [sh.run_attempt sys w c]
  have hempty : ¬ c.isEmpty = true := by
    rw [Command.isEmpty, String.isEmpty_iff]
    exact hname
  simp only [carryOut, hempty, if_false, Bool.false_eq_true, reply, hlookup, run_bind, hfound]
  rfl

/-- Only `echo`, `pwd` and `type` answer, and `type` only where there is a builtin or a program to tell of. -/
theorem name_of_answer? {program : Option Path} {text : String} (h : sh.answer? c program = some text) :
    c.name = "echo" ∨ c.name = "pwd" ∨
      c.name = "type" ∧ ((Builtin.lookup c.joinedArgs).isSome = true ∨ program.isSome = true) := by
  obtain ⟨b, hlookup, hanswer⟩ := Option.bind_eq_some_iff.1 h
  have hname := Builtin.eq_of_lookup hlookup
  cases b with
  | echo => exact .inl hname
  | pwd => exact .inr (.inl hname)
  | exit | cd => cases hanswer
  | type =>
    refine .inr (.inr ⟨hname, ?_⟩)
    simp only [Builtin.answer?] at hanswer
    split_ifs at hanswer with hempty hbuiltin
    · exact .inl hbuiltin
    · obtain ⟨p, hp, -⟩ := Option.map_eq_some_iff.1 hanswer
      exact .inr (Option.isSome_of_mem hp)

end Shell

/-! ## Errors are for the error stream -/

theorem ShellError.stderr_of_mem_lines {es : List ShellError} : ∀ l ∈ es.map ShellError.line, l.1 = .stderr := by
  intro l hl
  obtain ⟨e, -, rfl⟩ := List.mem_map.1 hl
  rfl

/-- A command has a line for the output stream, or everything that is written for it is on the error stream. -/
theorem Deed.lines_cases (d : Deed) :
    (∃ text, d.said = some (.stdout, text)) ∨ ∀ l ∈ d.lines, l.1 = .stderr := by
  obtain ⟨said, unopened, failure⟩ := d
  rcases said with - | ⟨s, text⟩
  · exact .inr ShellError.stderr_of_mem_lines
  · cases s with
    | stdout => exact .inl ⟨text, rfl⟩
    | stderr => exact .inr (List.forall_mem_cons.2 ⟨rfl, ShellError.stderr_of_mem_lines⟩)

/-- What is told on the output stream is the line that the command has to say. -/
theorem Account.told_filter (a : Account) :
    a.told.filter (·.1 = .stdout) = a.said.toList.filter (·.1 = .stdout) := by
  have hnone (es : List ShellError) : (es.map ShellError.line).filter (·.1 = .stdout) = [] := by
    refine List.filter_eq_nil_iff.2 fun l hl => ?_
    rw [ShellError.stderr_of_mem_lines l hl]
    decide
  simp only [told, sent, Deed.lines, List.filter_append, hnone, List.nil_append, List.append_nil]

/-! ## Files -/

/-- No program has run: those that were to be started could not be. -/
def Childless (es : List Event) : Prop :=
  ∀ e ∈ es, ∀ child, e.request = .start child → e.Smooth

/-- The request neither empties a file nor replaces what it holds, as far as is known. -/
def Request.Additive : Request → Prop
  | .create _ | .editor _ => False
  | _ => True

namespace Request

variable {q : Request}

theorem IsOutput.additive {r : Redirection} (h : q.IsOutput r) : q.Additive := by
  cases q <;> trivial

theorem IsReport.additive (h : q.IsReport) : q.Additive := by
  cases q <;> trivial

theorem OfCommand.additive {sh : Shell} {c : Command} {r : Redirection} (h : q.OfCommand sh c r) : q.Additive := by
  cases q <;> trivial

end Request

theorem FileSystem.spares_of_additive {fs : FileSystem sys F} {f : F} {e : Event} (hrequest : e.request.Additive)
    (hchildless : ∀ child, e.request = .start child → e.Smooth)
    (hrefused : ∀ p text fault, e = ⟨.appendLine p text, .error fault⟩ → fs.file p = some f → fs.AllOrNothing) :
    fs.Spares f e := by
  obtain ⟨q, answer⟩ := e
  cases q with
  | create t | editor q => exact hrequest.elim
  | start child => exact hchildless child rfl
  | appendLine p text =>
    rcases answer with fault | ⟨⟩
    · exact hrefused p text fault rfl
    · trivial
  | _ => trivial

theorem FileSystem.firm_linked : FileSystem.linked.Firm := by
  intro r w f hfailed _ hwrites
  cases r with
  | editor q => exact absurd trivial hwrites
  | _ =>
    refine absurd ?_ hfailed
    simp [Event.Smooth, System.linked, System.bare]

namespace Redirection

section Files

variable {r : Redirection} {ls : List (Stream × String)} {es : List Event} {file : Path → Option F} {f : F}

omit [DecidableEq F] in
theorem not_feeds_empty (s : Stream) : ¬ ({} : Redirection).Feeds file f s := by
  rintro ⟨t, ht, -⟩
  cases s <;> cases ht

/-- A file that none of the lines is for gets none of them. -/
theorem Utters.additions_eq_nil (h : r.Utters ls es) (hls : ∀ l ∈ ls, ¬ r.Feeds file f l.1) :
    additions file f es = [] := by
  refine List.filterMap_eq_nil_iff.2 fun e he => ?_
  obtain ⟨q, answer⟩ := e
  cases q with
  | appendLine p text =>
    obtain ⟨l, hl, t, ht, rfl⟩ := h.exists_of_appendLine he
    have hother : file t.path ≠ some f := fun hfile => hls l hl ⟨t, ht, hfile⟩
    rcases answer with fault | ⟨⟩
    · rfl
    · exact if_neg hother
  | _ => rfl

/-- A line that is not written as it should be is in no file. -/
theorem additions_over_of_error (r : Redirection) (s : Stream) (line : String) (file : Path → Option F) (f : F)
    (h : ((r.over Sink.console s line).run sys w).1.error? ≠ none) :
    additions file f ((r.over Sink.console s line).trace sys w) = [] := by
  cases htarget : r.target s with
  | none =>
    rw [over_of_none htarget, Sink.console_eq]
    rfl
  | some t =>
    rw [over_of_some htarget, run_ask] at h
    rw [over_of_some htarget, trace_ask]
    cases happend : (sys (.appendLine t.path line) w).1 with
    | error fault =>
      simp only [trace_ask]
      rcases (sys (.print s line) _).1 with below | ⟨⟩
      · rfl
      · rfl
    | ok taken =>
      rw [happend] at h
      exact absurd rfl h

end Files

end Redirection

/-- Once a command has failed its line is not in a file. -/
theorem Reply.additions_carryOut_of_failure (r : Redirection) (sh : Shell) (reply : Reply) (file : Path → Option F)
    (f : F) {l : Stream × String} (hsaid : reply.said? = some l)
    (hfailure : ((reply.carryOut r sh (r.over Sink.console)).run sys w).1.failure ≠ none) :
    additions file f ((reply.carryOut r sh (r.over Sink.console)).trace sys w) = [] := by
  cases reply with
  | silent | fail e | start program => cases hsaid
  | say s line =>
    simp only [carryOut, run_bind, pure_def, run_done] at hfailure
    simp only [carryOut, trace_bind, pure_def, trace_done, List.append_nil]
    exact r.additions_over_of_error s line file f hfailure

namespace Shell

variable {sh : Shell} {c : Command} {file : Path → Option F} {f : F}

theorem additions_carryOut_of_failure {kept : Redirection} {l : Stream × String}
    (hsaid : ((sh.carryOut c kept).run sys w).1.2.said = some l)
    (hfailure : ((sh.carryOut c kept).run sys w).1.2.failure ≠ none) :
    additions file f ((sh.carryOut c kept).trace sys w) = [] := by
  by_cases hempty : c.isEmpty = true
  · rw [show sh.carryOut c kept = _ from if_pos hempty] at hsaid
    cases hsaid
  · rw [show sh.carryOut c kept = _ from if_neg hempty] at hsaid hfailure ⊢
    simp only [run_bind, pure_def, run_done, Reply.said_carryOut] at hsaid hfailure
    simp only [trace_bind, pure_def, trace_done, List.append_nil, additions_append]
    rw [Reply.additions_carryOut_of_failure kept sh _ file f hsaid hfailure, List.append_nil]
    have hlooks := Redirection.utters_of_writes_eq_nil (r := kept) ((sh.isQuiet_reply c).writes_eq_nil sys w)
    exact hlooks.additions_eq_nil (List.forall_mem_nil _)

variable (sh c)

/-- **A file that a target denotes** is as the creation of targets left it, and gets the lines that are appended to
it. Nothing else happens to it, where no program runs and the lines that it may refuse leave nothing in it. -/
theorem contents_runCommand {fs : FileSystem sys F} (hfirm : fs.Firm) (haims : (sh.ready c sys w).1.Aims fs.file f)
    (hchildless : Childless ((sh.runCommand c).trace sys w))
    (hrefused : ∀ p text fault, ⟨.appendLine p text, .error fault⟩ ∈ (sh.runCommand c).trace sys w →
      fs.file p = some f → fs.AllOrNothing) :
    fs.contents ((sh.runCommand c).run sys w).2 f =
      some ((if (sh.ready c sys w).1.Truncates fs.file f then [] else (fs.contents w f).getD []) ++
        Bytes.ofLines (additions fs.file f ((sh.runCommand c).trace sys w))) := by
  obtain ⟨reports, after, hreports, hafter, htrace⟩ := sh.trace_runCommand sys w c
  obtain ⟨rest, hrest⟩ : ∃ rest, sh.runCommand c = c.redirection.prepare sh.state.currentDir >>= rest := ⟨_, rfl⟩
  have hcreated := Redirection.utters_of_writes_eq_nil (r := {})
    ((c.redirection.isQuiet_prepare sh.state.currentDir).writes_eq_nil sys w)
  rw [hrest, trace_bind] at htrace hchildless hrefused ⊢
  have hevents := List.append_cancel_left htrace
  rw [run_bind, additions_append, hcreated.additions_eq_nil (List.forall_mem_nil _), List.nil_append]
  refine FileSystem.contents_run_of_spares hfirm _
    (c.redirection.contents_prepare_of_firm sh.state.currentDir hfirm haims) fun e he => ?_
  have hmem := List.mem_append_right ((c.redirection.prepare sh.state.currentDir).trace sys w) he
  have hrequest : e.request.Additive := by
    rw [hevents, List.mem_append, List.mem_append] at he
    rcases he with he | he | he
    · exact (hreports e he).additive
    · exact ((sh.only_carryOut c _).of_mem_trace he).additive
    · exact (hafter e he).additive
  exact FileSystem.spares_of_additive hrequest (hchildless e hmem)
    fun p text fault heq => hrefused p text fault (heq ▸ hmem)

variable {sh c}

section Fails

variable {a : Account} (ha : ((sh.attempt c).run sys w).1.2 = a)

include ha

omit [DecidableEq F] in
/-- What is appended to a file that the error stream does not go to is the line for the output stream. -/
theorem said_of_appendLine (hother : ¬ a.kept.Feeds file f .stderr) {p : Path} {text : String}
    {answer : Except Fault Unit} (he : ⟨.appendLine p text, answer⟩ ∈ (sh.runCommand c).trace sys w)
    (hfile : file p = some f) : ∃ text, a.said = some (.stdout, text) := by
  subst ha
  obtain ⟨before, after, htrace, hbefore, hafter⟩ := sh.utters_runCommand sys c w
  rw [htrace, List.mem_append] at he
  rcases he with he | he
  · obtain ⟨l, -, t, ht, rfl⟩ := hbefore.exists_of_appendLine he
    exact absurd ⟨t, ht, hfile⟩ (Redirection.not_feeds_empty l.1)
  · obtain ⟨⟨s, text'⟩, hl, t, ht, rfl⟩ := hafter.exists_of_appendLine he
    cases s with
    | stderr => exact absurd ⟨t, ht, hfile⟩ hother
    | stdout =>
      have htold : (.stdout, text') ∈ ((sh.attempt c).run sys w).1.2.told.filter (·.1 = .stdout) :=
        List.mem_filter.2 ⟨List.mem_append_right _ hl, rfl⟩
      rw [Account.told_filter] at htold
      exact ⟨text', Option.mem_toList.1 (List.mem_of_mem_filter htold)⟩

/-- A command that fails adds nothing to a file that the error stream does not go to. -/
theorem additions_runCommand_of_fails (hother : ¬ a.kept.Feeds file f .stderr)
    (hfails : a.failure ≠ none ∨ ∃ text, a.said = some (.stderr, text)) :
    additions file f ((sh.runCommand c).trace sys w) = [] := by
  rw [trace_runCommand_eq_attempt, sh.trace_attempt sys w c]
  rw [sh.run_attempt sys w c] at ha ⊢
  subst ha
  have hstderr {ls : List (Stream × String)} (hls : ∀ l ∈ ls, l.1 = .stderr) :
      ∀ l ∈ ls, ¬ (sh.ready c sys w).1.Feeds file f l.1 := fun l hl => hls l hl ▸ hother
  have hcreated := Redirection.utters_of_writes_eq_nil (r := {})
    ((c.redirection.isQuiet_prepare sh.state.currentDir).writes_eq_nil sys w)
  have hcarried : additions file f ((sh.carryOut c (sh.ready c sys w).1).trace sys (sh.ready c sys w).2) = [] := by
    have hutters := sh.utters_carryOut sys (sh.ready c sys w).1 c (sh.ready c sys w).2
    rcases Deed.lines_cases _ with ⟨text, hsaid⟩ | hlines
    · -- The line for the output stream was refused, so it is not in the file.
      refine additions_carryOut_of_failure hsaid (hfails.resolve_right ?_)
      rintro ⟨text', hsaid'⟩
      exact nomatch hsaid.symm.trans hsaid'
    · exact hutters.additions_eq_nil (hstderr hlines)
  rw [additions_append, additions_append, additions_append, hcreated.additions_eq_nil (List.forall_mem_nil _),
    (Redirection.utters_reportAll sys _ _).additions_eq_nil fun l _ => Redirection.not_feeds_empty l.1, hcarried,
    (Account.utters_conclude sys _ _).additions_eq_nil (hstderr ShellError.stderr_of_mem_lines)]
  rfl

/-- The target of the output stream of a command that fails is as its creation left it. -/
theorem contents_of_fails {fs : FileSystem sys F} (hfirm : fs.Firm) {t : Target} {f : F}
    (hchildless : Childless ((sh.runCommand c).trace sys w)) (hkept : a.kept.stdout = some t)
    (hfile : fs.file t.path = some f) (hother : ¬ a.kept.Feeds fs.file f .stderr)
    (hfails : a.failure ≠ none ∨ ∃ text, a.said = some (.stderr, text))
    (hrefused : (∃ text, a.said = some (.stdout, text)) → fs.AllOrNothing) :
    fs.contents ((sh.runCommand c).run sys w).2 f =
      fs.contents ((c.redirection.prepare sh.state.currentDir).run sys w).2 f := by
  have haims : (sh.ready c sys w).1.Aims fs.file f := by
    rw [← sh.kept_attempt sys w c, ha]
    exact ⟨t, Redirection.mem_targets.2 ⟨.stdout, hkept⟩, hfile⟩
  have hrefusals (p : Path) (text : String) (fault : Fault)
      (he : ⟨.appendLine p text, .error fault⟩ ∈ (sh.runCommand c).trace sys w) (hp : fs.file p = some f) :
      fs.AllOrNothing := hrefused (said_of_appendLine ha hother he hp)
  rw [sh.contents_runCommand c hfirm haims hchildless hrefusals, additions_runCommand_of_fails ha hother hfails,
    c.redirection.contents_prepare_of_firm sh.state.currentDir hfirm haims]
  exact congrArg some (List.append_nil _)

end Fails

/-- **The streams of a line.** All writes of a line are those of the lines of text that it has to tell: the reports of
targets that could not be created, which go to the console, then what the command has to say, then its errors. Each is
written on its own stream. On the output stream there is the answer of the command and nothing else, so that it is one
line at most, and only `echo`, `pwd`, and `type` with a builtin or a program to tell of give one. What a builtin objects
to, and every error, is on the error stream. So the target of the output stream of a command that fails is as its
creation left it, when no program runs, neither the error stream of the command nor the console goes there, and a line
that the target refuses leaves nothing in it. -/
theorem streams_handle (sh : Shell) (line : String) (sys : System σ) (w : σ) :
    let c := Command.parse line
    let a := ((sh.attempt c).run sys w).1.2
    let es := (sh.handle line).trace sys w
    let world := (sh.ready c sys w).2
    let program := ((sh.searchPath.find c.joinedArgs).run sys world).1
    (∃ before after, es = before ++ after ∧ ({} : Redirection).Utters (a.dropped.map ShellError.line) before ∧
      a.kept.Utters a.sent after) ∧
    a.sent = a.said.toList ++ (a.unopened ++ a.failure.toList).map ShellError.line ∧
    a.told.filter (·.1 = .stdout) = (sh.answer? c program).toList.map (.stdout, ·) ∧
    (∀ text, (.stdout, text) ∈ a.told → c.name = "echo" ∨ c.name = "pwd" ∨
      c.name = "type" ∧ ((Builtin.lookup c.joinedArgs).isSome = true ∨ program.isSome = true)) ∧
    (∀ text, a.said = some (.stderr, text) →
      ∃ b, Builtin.lookup c.name = some b ∧ b.Objects c.joinedArgs program text) ∧
    (∀ e, c.name ≠ "" → Builtin.lookup c.name = none →
      ((External.resolve sh.state sh.searchPath c.name c.args).run sys world).1 = .error e → a.failure = some e) ∧
    ∀ {F : Type} [DecidableEq F] (fs : FileSystem sys F) (t : Target) (f : F), fs.Firm → Childless es →
      a.kept.stdout = some t → fs.file t.path = some f → ¬ a.kept.Feeds fs.file f .stderr →
      (a.failure ≠ none ∨ ∃ text, a.said = some (.stderr, text)) →
      ((∃ text, a.said = some (.stdout, text)) → fs.AllOrNothing) →
      fs.contents ((sh.handle line).run sys w).2 f =
        fs.contents ((c.redirection.prepare sh.state.currentDir).run sys w).2 f := by
  intro c a es world program
  have hsent : a.sent = a.said.toList ++ (a.unopened ++ a.failure.toList).map ShellError.line := by
    rw [Account.sent, Deed.lines, List.map_append, List.append_assoc]
  have hanswers : a.told.filter (·.1 = .stdout) = (sh.answer? c program).toList.map (.stdout, ·) := by
    rw [a.told_filter]
    rcases sh.said_attempt sys c w with hanswer | ⟨hnone, b, text, -, -, hsay⟩
    · rw [hanswer]
      cases sh.answer? c program <;> rfl
    · rw [hsay, hnone]
      rfl
  refine ⟨sh.utters_runCommand sys c w, hsent, hanswers, fun text htext => ?_, fun text hsay => ?_,
    sh.failure_of_unknown sys c w, fun fs t f hfirm hchildless hkept hfile hother hfails hrefused =>
      contents_of_fails (a := a) rfl hfirm hchildless hkept hfile hother hfails hrefused⟩
  · have hmem : (.stdout, text) ∈ a.told.filter (·.1 = .stdout) := List.mem_filter.2 ⟨htext, rfl⟩
    rw [hanswers] at hmem
    obtain ⟨answer, hanswer, -⟩ := List.mem_map.1 hmem
    exact sh.name_of_answer? c (Option.mem_toList.1 hanswer)
  · rcases sh.said_attempt sys c w with hanswer | ⟨-, b, text', hlookup, hobjects, hsaid⟩
    · obtain ⟨answer, -, heq⟩ := Option.map_eq_some_iff.1 (hanswer.symm.trans hsay)
      cases heq
    · cases hsaid.symm.trans hsay
      exact ⟨b, hlookup, hobjects⟩

/-- An unknown command leaves what the target of its output stream held, and its error is in the other target. -/
theorem streams_handle_linked :
    let held (p : Path) := if p = Path.ofString "/out" then some (Bytes.ofString "old") else none
    let sh := Shell.start {} { currentDir := .root }
    let line := "nope >> out 2> err"
    let left := ((sh.handle line).run .linked held).2
    Childless ((sh.handle line).trace .linked held) ∧
      ((sh.attempt (Command.parse line)).run .linked held).1.2.told = [(.stderr, "nope: command not found")] ∧
      left (Path.ofString "/out") = some (Bytes.ofString "old") ∧
      left (Path.ofString "/err") = some (Bytes.ofString "nope: command not found\n") := by
  intro held sh line left
  have hsmooth := System.smooth_linked (sh.only_handle_forEditor line) held
  have hchildless : Childless ((sh.handle line).trace .linked held) := fun e he _ _ => hsmooth e he
  obtain ⟨-, -, -, -, -, hunknown, hcontents⟩ := sh.streams_handle line .linked held
  have hfailure := hunknown (.commandNotFound "nope") (by decide +kernel) (by decide +kernel) (by decide +kernel)
  have hsilent : ((sh.attempt (Command.parse line)).run .linked held).1.2.said = none := by decide +kernel
  have hkept := hcontents FileSystem.linked ⟨Path.ofString "/out", true⟩ (Path.ofString "/out")
    FileSystem.firm_linked hchildless (by decide +kernel) (by decide +kernel) (by decide +kernel)
    (.inl (by rw [hfailure]; exact Option.some_ne_none _)) fun ⟨text, hsaid⟩ => nomatch hsilent.symm.trans hsaid
  dsimp only [FileSystem.linked, id_eq] at hkept
  refine ⟨hchildless, by decide +kernel, ?_, by decide +kernel⟩
  dsimp only [left]
  rw [hkept]
  decide +kernel

end Shell

/-! ## Targets that do change -/

/-- A system whose only file has room for four bytes. It takes what fits of a line. -/
def System.cramped : System Bytes := fun r held =>
  match r with
  | .appendLine _ line =>
    let bytes := held ++ Bytes.ofString (line ++ "\n")
    (if bytes.length ≤ 4 then .ok () else .error (.system .noSpace), bytes.take 4)
  | r => System.bare r held

/-- The target of the output stream of a command that fails need not be as its creation left it. Where the error stream
of the process goes there, an error that the other target refuses is shown in it; and a target that refuses a line may
have taken a part of it. -/
theorem Shell.stdoutTarget_changed :
    let sh := Shell.start {} { currentDir := .root }
    let shown := "nope > log 2> full"
    let cut := "echo hello > out"
    let attempted (line : String) (sys : System Bytes) := ((sh.attempt (Command.parse line)).run sys []).1.2
    let created (line : String) (sys : System Bytes) := (((Command.parse line).redirection.prepare .root).run sys []).2
    let left (line : String) (sys : System Bytes) := ((sh.handle line).run sys []).2
    (Childless ((sh.handle shown).trace .logged []) ∧
      (attempted shown .logged).failure = some (.commandNotFound "nope") ∧
      (attempted shown .logged).kept = ⟨some ⟨Path.ofString "/log", false⟩, some ⟨Path.ofString "/full", false⟩⟩ ∧
      created shown .logged = [] ∧ left shown .logged ≠ created shown .logged) ∧
    Childless ((sh.handle cut).trace .cramped []) ∧
      (attempted cut .cramped).failure = some (.redirect (Path.ofString "/out") (.system .noSpace)) ∧
      (attempted cut .cramped).kept = ⟨some ⟨Path.ofString "/out", false⟩, none⟩ ∧
      created cut .cramped = [] ∧ left cut .cramped = Bytes.ofString "hell" := by
  intro sh shown cut attempted created left
  have hchildless {es : List Event} (h : started es = []) : Childless es := by
    intro e he child hchild
    have hmem : child ∈ started es := List.mem_filterMap.2 ⟨e, he, by rw [hchild]; rfl⟩
    rw [h] at hmem
    exact absurd hmem List.not_mem_nil
  refine ⟨⟨hchildless ?_, ?_, ?_, ?_, ?_⟩, hchildless ?_, ?_, ?_, ?_, ?_⟩
  all_goals decide +kernel

end LineShell
