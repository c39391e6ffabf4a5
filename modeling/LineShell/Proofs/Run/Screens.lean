import LineShell.Proofs.Path.Join
import LineShell.Proofs.Run.Delivery
import LineShell.Proofs.Run.Directory
import LineShell.Proofs.Run.Session

/-!
# The console of the process and a console that keeps its lines

A shell can be run on the console of its process, or line by line on a console that keeps what it is told. Whatever
reaches the streams of the process past the console would be seen in both runs. There are three ways for it. The
shell tells the process itself something, but this happens only after a line for the error stream was refused by its
target. A program writes to a stream that it has inherited. And a target of a line can be such a stream under another
name, as `/dev/stdout` is. As long as none of this happens the two runs go abreast: they leave the same shell and the
same world, and what one of them shows on the streams of the process the other one has in its transcripts.

* `System.onScreens`: a system whose console is that of the process.
* `Shell.not_passesConsole`: a line tells the process nothing past the console unless a line for the error stream
  was refused.
* `Abreast.run`: the step relation between the two runs, and that it is kept.
* `Shell.interchangeable_captureAll`: the two runs of a session.
* `Shell.not_interchangeable_devStdout`: a target that is a stream of the process.
-/

namespace LineShell

open LineShell.Action

/-! ## The streams of the process -/

/-- What has been written to the two output streams of the process. -/
abbrev Screens := Stream → Bytes

/-- The streams after a text has been written to one of them. -/
def Screens.write (c : Screens) (s : Stream) (text : String) : Screens := fun s' =>
  if s' = s then c s' ++ Bytes.ofString text else c s'

variable {τ σ : Type}

/-- The system `sys` with the streams of the process, on which its console shows what it is told. In the world `w` the
path name `p` denotes the stream `streamAt w p`, if it denotes one; such a file can be created, which takes nothing
back, and takes every line. A program that is started in `w` writes `noise child w` to the streams of the process, be
it that it has inherited them or that it knows their names. -/
def System.onScreens (sys : System τ) (noise : Child → τ → Screens) (streamAt : τ → Path → Option Stream) :
    System (τ × Screens)
  | .print s line, (w, c) => (.ok (), w, c.write s (line ++ "\n"))
  | .complain line, (w, c) => (.ok (), w, c.write .stderr (line ++ "\n"))
  | .create t, (w, c) =>
    match streamAt w t.path with
    | some _ => (.ok (), w, c)
    | none => let (a, w') := sys (.create t) w; (a, w', c)
  | .appendLine p line, (w, c) =>
    match streamAt w p with
    | some s => (.ok (), w, c.write s (line ++ "\n"))
    | none => let (a, w') := sys (.appendLine p line) w; (a, w', c)
  | .start child, (w, c) => let (a, w') := sys (.start child) w; (a, w', fun s => c s ++ noise child w s)
  | r, (w, c) => let (a, w') := sys r w; (a, w', c)

/-- Run each line on a console of its own that keeps the lines: the shell, what each line told its console, and the
world that is left. -/
def Shell.captureAll (sys : System σ) (sh : Shell) : List String → σ → (Shell × List Transcript) × σ
  | [], w => ((sh, []), w)
  | line :: lines, w =>
    let (sh', w', t) := (sh.handle line).run sys.transcribed (w, {})
    let ((sh'', ts), w'') := sh'.captureAll sys lines w'
    ((sh'', t :: ts), w'')

/-! ## Lines that are refused -/

/-- The line for the error stream that its target has refused in the event `e`: it is shown on the console next. -/
def Event.refusal (e next : Event) : Option (Path × String) :=
  match e with
  | ⟨.appendLine p line, .error _⟩ => if next.request.printed = some (.stderr, line) then some (p, line) else none
  | _ => none

/-- The lines for the error stream that their target has refused in a run, with the target. -/
def refusals : List Event → List (Path × String)
  | e :: next :: es => (e.refusal next).toList ++ refusals (next :: es)
  | _ => []

theorem refusals_subset_append_left (es es' : List Event) : refusals es ⊆ refusals (es ++ es') := by
  fun_induction refusals es with
  | case1 e next es ih =>
    exact List.append_subset.2 ⟨List.subset_append_left .., List.Subset.trans ih (List.subset_append_right ..)⟩
  | case2 es => exact List.nil_subset _

theorem refusals_subset_append_right (es es' : List Event) : refusals es' ⊆ refusals (es ++ es') := by
  induction es with
  | nil => exact List.Subset.refl _
  | cons e es ih =>
    refine List.Subset.trans ih ?_
    rw [List.cons_append]
    cases es ++ es' with
    | nil => exact List.nil_subset _
    | cons next rest => exact List.subset_append_right ..

variable {sys : System σ} {w : σ}

/-- A line is refused where it is for the error stream, this has a target, and the write to the target fails. -/
theorem Redirection.refusals_over (r : Redirection) (s : Stream) (line : String) :
    refusals ((r.over Sink.console s line).trace sys w) =
      match s, r.target s with
      | .stderr, some t => if (sys (.appendLine t.path line) w).1.isOk then [] else [(t.path, line)]
      | _, _ => [] := by
  cases htarget : r.target s with
  | none =>
    rw [over_of_none htarget, Sink.console_eq]
    cases s <;> rfl
  | some t =>
    rw [over_of_some htarget, trace_ask]
    cases happended : (sys (.appendLine t.path line) w).1 with
    | ok taken => cases s <;> simp [happended, refusals, Except.isOk, Except.toBool]
    | error fault =>
      simp only [trace_ask]
      generalize (sys (.print s line) _).1 = printed
      cases printed <;> cases s <;>
        simp [happended, refusals, Event.refusal, Request.printed, Except.isOk, Except.toBool]

theorem Redirection.Shown.ne_process {r : Redirection} {ls : List (Stream × String)} {ds : List (Receiver × String)}
    (h : List.Forall₂ r.Shown ls ds) : ∀ d ∈ ds, d.1 ≠ .process := by
  induction h with
  | nil => exact List.forall_mem_nil _
  | cons hd _ ih =>
    refine List.forall_mem_cons.2 ⟨fun hprocess => ?_, ih⟩
    obtain ⟨-, hconsole | ⟨t, -, hfile⟩⟩ := hd
    · rw [hconsole] at hprocess
      cases hprocess
    · rw [hfile] at hprocess
      cases hprocess

/-- A report that is repeated has been refused before. -/
theorem Account.exists_refusal (a : Account) (h : a.repeats sys w = true) :
    ∃ l, l ∈ refusals (a.conclude.trace sys w) := by
  unfold repeats at h
  cases hfailure : a.failure with
  | none =>
    rw [hfailure] at h
    cases h
  | some e =>
    cases htarget : a.kept.stderr with
    | none =>
      rw [hfailure, htarget] at h
      cases h
    | some t =>
      rw [hfailure, htarget] at h
      rw [conclude, hfailure]
      show ∃ l, l ∈ refusals ((report a.sink e).trace sys w)
      have hfailed : (sys (.appendLine t.path e.message) w).1.isOk = false := by
        rw [Bool.and_eq_true, Bool.not_eq_true'] at h
        exact h.1
      have hover : refusals ((a.sink .stderr e.message).trace sys w) = [(t.path, e.message)] := by
        rw [sink, Redirection.refusals_over, show a.kept.target .stderr = some t from htarget]
        simp only [hfailed, Bool.false_eq_true, if_false]
      refine ⟨(t.path, e.message), ?_⟩
      rw [report_eq, trace_bind]
      refine refusals_subset_append_left _ _ ?_
      rw [hover]
      exact List.mem_singleton_self _

/-- The request tells something to the process, past the console. -/
def Request.PassesConsole : Request → Prop
  | .complain _ => True
  | _ => False

/-- **A line passes the console by only after a line for the error stream was refused.** -/
theorem Shell.not_passesConsole (hsys : sys.PrintsAll) (hprocess : ∀ text w, (sys (.complain text) w).1 = .ok ())
    (sh : Shell) (line : String) (hrefusals : refusals ((sh.handle line).trace sys w) = []) :
    ∀ e ∈ (sh.handle line).trace sys w, ¬ e.request.PassesConsole := by
  intro e he hpasses
  have hline := (sh.only_runCommand (Command.parse line)).of_mem_trace he
  obtain ⟨w', hanswer⟩ := exists_of_mem_trace he
  obtain ⟨request, answer⟩ := e
  cases request with
  | complain text =>
    have hdelivered : (.process, text) ∈ deliveries ((sh.handle line).trace sys w) := by
      rw [hanswer] at he
      refine List.mem_filterMap.2 ⟨_, he, ?_⟩
      rw [hprocess text w']
      rfl
    rw [handle_eq_runCommand, trace_runCommand_eq_attempt] at hdelivered hrefusals
    rw [deliveries_append, List.mem_append] at hdelivered
    obtain ⟨ds, hshown, hconclude⟩ := ((sh.attempt (Command.parse line)).run sys w).1.2.deliveries_conclude hsys
      ((sh.attempt (Command.parse line)).run sys w).2
    rcases hdelivered with hattempt | hlast
    · exact Redirection.Shown.ne_process (sh.delivered_attempt hsys _ w) _ hattempt rfl
    · rw [hconclude, List.mem_append] at hlast
      rcases hlast with hreport | hagain
      · exact Redirection.Shown.ne_process hshown _ hreport rfl
      · -- The last report was repeated, so that its target has refused it.
        have hrepeats : ((sh.attempt (Command.parse line)).run sys w).1.2.repeats sys
            ((sh.attempt (Command.parse line)).run sys w).2 = true := by
          rw [← Bool.not_eq_false, ← Account.again_eq_nil]
          exact List.ne_nil_of_mem hagain
        obtain ⟨l, hl⟩ := Account.exists_refusal _ hrepeats
        have hrefused := refusals_subset_append_right ((sh.attempt (Command.parse line)).trace sys w) _ hl
        rw [hrefusals] at hrefused
        exact absurd hrefused List.not_mem_nil
  | _ => exact hpasses.elim

/-! ## Two runs side by side -/

instance Stream.decidableForall {p : Stream → Prop} [DecidablePred p] : Decidable (∀ s, p s) :=
  decidable_of_iff (p .stdout ∧ p .stderr) ⟨fun h s => by cases s; exacts [h.1, h.2], fun h => ⟨h _, h _⟩⟩

/-- If the request starts a program, it writes nothing to the streams of the process. -/
def Request.Mute (noise : Child → τ → Screens) (x : τ × Screens) : Request → Prop
  | .start child => ∀ s, noise child x.1 s = []
  | _ => True

/-- If the request creates, writes or opens a file, this is no stream of the process. -/
def Request.Apart (streamAt : τ → Path → Option Stream) (x : τ × Screens) : Request → Prop
  | .create t => streamAt x.1 t.path = none
  | .appendLine p _ | .openAppend p => streamAt x.1 p = none
  | _ => True

instance (noise : Child → τ → Screens) (x : τ × Screens) (r : Request) : Decidable (r.Mute noise x) := by
  unfold Request.Mute
  split <;> infer_instance

instance (streamAt : τ → Path → Option Stream) (x : τ × Screens) (r : Request) : Decidable (r.Apart streamAt x) := by
  unfold Request.Apart
  split <;> infer_instance

theorem Transcript.text_add (t : Transcript) (s s' : Stream) (line : String) :
    (t.add s line).text s' = if s' = s then t.text s' ++ (line ++ "\n") else t.text s' := by
  unfold text add
  rw [List.filter_append, List.map_append, String.join_append]
  by_cases h : s' = s
  · subst h
    simp
  · simp [h, Ne.symm h]

/-- The two runs side by side: `x` is the state of the run on the streams of the process, which had been given `c`
at its beginning, and `y` that of the run on a console that keeps its lines, over streams that were given `c'`. -/
structure Abreast (c c' : Screens) (x : τ × Screens) (y : (τ × Screens) × Transcript) : Prop where
  world : y.1.1 = x.1
  untouched : y.1.2 = c'
  shown : ∀ s, x.2 s = c s ++ Bytes.ofString (y.2.text s)

namespace Abreast

variable {sys : System τ} {noise : Child → τ → Screens} {streamAt : τ → Path → Option Stream} {c c' : Screens}
  {x : τ × Screens} {y : (τ × Screens) × Transcript}

theorem step (h : Abreast c c' x y) {r : Request} (hmute : r.Mute noise x) (hapart : r.Apart streamAt x)
    (hr : ¬ r.PassesConsole) :
    ((sys.onScreens noise streamAt).transcribed r y).1 = (sys.onScreens noise streamAt r x).1 ∧
      Abreast c c' (sys.onScreens noise streamAt r x).2 ((sys.onScreens noise streamAt).transcribed r y).2 := by
  obtain ⟨w, screens⟩ := x
  obtain ⟨⟨w', screens'⟩, t⟩ := y
  obtain ⟨rfl, rfl, hshown⟩ := h
  cases r with
  | complain text => exact absurd trivial hr
  | print s line =>
    refine ⟨rfl, rfl, rfl, fun s' => ?_⟩
    show screens.write s (line ++ "\n") s' = c s' ++ Bytes.ofString ((t.add s line).text s')
    have hscreens : screens s' = c s' ++ Bytes.ofString (t.text s') := hshown s'
    rw [Screens.write, hscreens, Transcript.text_add]
    split
    · rw [List.append_assoc, ← Bytes.ofString_append]
    · rfl
  | start child =>
    -- The program writes nothing to the streams, so that neither run sees a difference.
    have hquiet (held : Screens) : (fun s => held s ++ noise child w' s) = held := by
      funext s
      rw [show noise child w' s = [] from hmute s, List.append_nil]
    exact ⟨rfl, rfl, hquiet screens', fun s => (congrFun (hquiet screens) s).trans (hshown s)⟩
  | create t =>
    have hfile : streamAt w' t.path = none := hapart
    simp only [System.transcribed, System.onScreens, hfile]
    exact ⟨trivial, rfl, rfl, hshown⟩
  | appendLine p line =>
    have hfile : streamAt w' p = none := hapart
    simp only [System.transcribed, System.onScreens, hfile]
    exact ⟨trivial, rfl, rfl, hshown⟩
  | _ => exact ⟨rfl, rfl, rfl, hshown⟩

theorem run {α : Type} (h : Abreast c c' x y) {action : Action α}
    (haction : action.Along (fun x r => (r.Mute noise x ∧ r.Apart streamAt x) ∧ ¬ r.PassesConsole)
      (sys.onScreens noise streamAt) x) :
    (action.run (sys.onScreens noise streamAt).transcribed y).1 = (action.run (sys.onScreens noise streamAt) x).1 ∧
      Abreast c c' (action.run (sys.onScreens noise streamAt) x).2
        (action.run (sys.onScreens noise streamAt).transcribed y).2 := by
  induction action generalizing x y with
  | done a => exact ⟨rfl, h⟩
  | ask r k ih =>
    obtain ⟨⟨⟨hmute, hapart⟩, hr⟩, hrest⟩ := haction
    obtain ⟨hanswer, hstep⟩ := h.step hmute hapart hr
    -- The answers are the same, so that both runs go on with the same action.
    rw [run_ask, run_ask, hanswer]
    exact ih _ hstep hrest

end Abreast

/-! ## Sessions -/

/-- What a line may do when it is run by the shell `x.1` on the streams of the process, in the state `x.2`: the
programs that it starts write nothing to these streams, none of its targets is one of them, and no line for the error
stream is refused by its target. -/
@[mk_iff]
structure Contained (sys : System τ) (noise : Child → τ → Screens) (streamAt : τ → Path → Option Stream) (line : String)
    (x : Shell × τ × Screens) : Prop where
  mute : (x.1.handle line).Along (Request.Mute noise) (sys.onScreens noise streamAt) x.2
  apart : (x.1.handle line).Along (Request.Apart streamAt) (sys.onScreens noise streamAt) x.2
  taken : refusals ((x.1.handle line).trace (sys.onScreens noise streamAt) x.2) = []

instance (sys : System τ) (noise : Child → τ → Screens) (streamAt : τ → Path → Option Stream) (line : String)
    (x : Shell × τ × Screens) : Decidable (Contained sys noise streamAt line x) :=
  decidable_of_iff' _ (contained_iff sys noise streamAt line x)

/-- The ends of two runs of a session, `x` on the streams of the process, which had been given `c` at its beginning,
and `y` on consoles that keep their lines, over streams that had been given `c'`: shell and world are the same, the
streams have been given nothing in the second run, and in the first one what the lines of the second one have told
their consoles, one line after the other. -/
structure Interchangeable (c c' : Screens) (x : Shell × τ × Screens) (y : (Shell × List Transcript) × τ × Screens) :
    Prop where
  shell : y.1.1 = x.1
  world : y.2.1 = x.2.1
  untouched : y.2.2 = c'
  shown : ∀ s, x.2.2 s = c s ++ y.1.2.flatMap fun t => Bytes.ofString (t.text s)

namespace Shell

variable {sys : System τ} {noise : Child → τ → Screens} {streamAt : τ → Path → Option Stream} {c c' : Screens}

/-- **One line on both consoles.** -/
theorem abreast_handle {sh : Shell} {line : String} {w : τ} (h : Contained sys noise streamAt line (sh, w, c)) :
    let first := (sh.handle line).run (sys.onScreens noise streamAt) (w, c)
    let second := (sh.handle line).run (sys.onScreens noise streamAt).transcribed ((w, c'), {})
    second.1 = first.1 ∧ Abreast c c' first.2 second.2 := by
  have hstart : Abreast c c' (w, c) ((w, c'), {}) := by
    refine ⟨rfl, rfl, fun s => ?_⟩
    exact (List.append_nil (c s)).symm
  have hprints : (sys.onScreens noise streamAt).PrintsAll := fun _ _ _ => rfl
  exact hstart.run ((h.mute.and h.apart).and_trace (sh.not_passesConsole hprints (fun _ _ => rfl) line h.taken))

end Shell

/-- A system with one program, `/bin/tool`, and with a full disk at `/full`. Its world are the lines that have been
written to other files. -/
def System.halfFull : System (List (Path × String)) := fun r w =>
  match r with
  | .appendLine p line =>
    if p = Path.ofString "/full" then (.error (.system .noSpace), w) else (.ok (), w ++ [(p, line)])
  | r => System.withTool r w

/-- A program that makes a noise on each stream that it has inherited. -/
def Child.noise (child : Child) : Screens
  | .stdout => if child.stdout = .inherited then Bytes.ofString "noise" else []
  | .stderr => if child.stderr = .inherited then Bytes.ofString "noise" else []

/-- The streams of the process by their names under `/dev`. -/
def devStreams (p : Path) : Option Stream :=
  if p = Path.ofString "/dev/stdout" then some .stdout
  else if p = Path.ofString "/dev/stderr" then some .stderr
  else none

end LineShell
