import LineShell.Proofs.Run.Launch

/-!
# Lines that nobody hears

What a line does does not depend on who takes its output. Two runs of a line from the same world, over any two consoles
of which each may refuse whatever it is told, leave the same shell, create the same targets and start the same program.
They differ in the lines that are told, and in the last request of all: a command whose output was refused has failed,
and its error is appended to the target of the error stream, if there is one.

Both runs are compared with a third one, that of the *silenced* line, which asks for the same but tells nothing. It is a
line over a sink that takes everything, up to its last report.

* `System.heardBy`: a system where lines are taken by a listener.
* `Action.Silenced`: an action without its lines, with a rule for `bind` and what it says of runs.
* `Shell.silenced_attemptOver`: a line up to its last report.
* `Shell.handleOver_indifferent`: the two runs.
-/

namespace LineShell

open LineShell.Action

/-! ## Consoles -/

/-- The request tells a line, to the console or to the process past it. -/
def Request.isSpeech : Request → Bool
  | .print _ _ | .complain _ => true
  | _ => false

/-- A sink that tells its lines and does nothing else. Whether it fails, and with which error, may depend on all that it
is answered. -/
structure Console where
  sink : Sink
  only_speech : ∀ s line, (sink s line).Only (·.isSpeech = true)

/-- The console of the process. -/
def Console.process : Console where
  sink := Sink.console
  only_speech s line := by
    rw [Sink.console_eq]
    exact ⟨rfl, fun _ => trivial⟩

/-- The sink that takes every line and tells it to nobody. -/
def Sink.silent : Sink := fun _ _ => return .ok ()

variable {α β γ δ σ κ : Type}

/-- How lines are taken. A listener takes or refuses each of them as it likes: it sees the world, and has a memory of
type `κ` for what it was told. -/
structure Listener (σ κ : Type) where
  print : Stream → String → σ → κ → Except Fault Unit × κ
  complain : String → σ → κ → Except Fault Unit × κ

/-- The system `sys` where lines are taken by the listener `l`, and none of them reaches the world. This leaves out the
consoles whose lines land in a file that the line reads or writes as well: what such a console has taken changes the
world for all that comes after it, so that two of them need not leave the same. -/
def System.heardBy (sys : System σ) (l : Listener σ κ) : System (σ × κ)
  | .print s line, (w, k) => let (a, k') := l.print s line w k; (a, w, k')
  | .complain line, (w, k) => let (a, k') := l.complain line w k; (a, w, k')
  | r, (w, k) => let (a, w') := sys r w; (a, w', k)

/-- The events of a run without the lines that are told. -/
def quiet (es : List Event) : List Event :=
  es.filter fun e => !e.request.isSpeech

section Heard

variable {sys : System σ} {l : Listener σ κ} {r : Request} {w : σ} {k : κ}

theorem System.heardBy_of_isSpeech (hr : r.isSpeech = true) : (sys.heardBy l r (w, k)).2.1 = w := by
  cases r with
  | print s line | complain line => rfl
  | _ => cases hr

theorem System.heardBy_of_not_isSpeech (hr : r.isSpeech = false) :
    sys.heardBy l r (w, k) = ((sys r w).1, (sys r w).2, k) := by
  cases r with
  | print s line | complain line => cases hr
  | _ => rfl

theorem quiet_append (es es' : List Event) : quiet (es ++ es') = quiet es ++ quiet es' :=
  List.filter_append ..

theorem quiet_cons_of_isSpeech (hr : r.isSpeech = true) (a : r.Answer) (es : List Event) :
    quiet (⟨r, a⟩ :: es) = quiet es :=
  List.filter_cons_of_neg (by simp [hr])

theorem quiet_cons_of_not_isSpeech (hr : r.isSpeech = false) (a : r.Answer) (es : List Event) :
    quiet (⟨r, a⟩ :: es) = ⟨r, a⟩ :: quiet es :=
  List.filter_cons_of_pos (by simp [hr])

theorem started_quiet (es : List Event) : started (quiet es) = started es := by
  have hspeech (e : Event) :
      (if (!e.request.isSpeech) = true then e.request.started else none) = e.request.started := by
    cases e.request <;> rfl
  rw [started, quiet, List.filterMap_filter, funext hspeech, started]

theorem Request.IsLook.isSpeech_eq_false (h : r.IsLook) : r.isSpeech = false := by
  cases r with
  | print s line | complain line => exact h.elim
  | _ => rfl

end Heard

/-! ## Actions without their lines -/

namespace Action

/-- The action `y` is `x` without the lines that `x` tells. It asks for everything else that `x` asks for, and whatever
is answered to the lines, `R` holds between what `x` yields and what `y` does. -/
inductive Silenced (R : α → β → Prop) : Action α → Action β → Prop
  | done {a : α} {b : β} (h : R a b) : Silenced R (.done a) (.done b)
  | ask {r : Request} {f : r.Answer → Action α} {g : r.Answer → Action β} (hr : r.isSpeech = false)
      (h : ∀ a, Silenced R (f a) (g a)) : Silenced R (.ask r f) (.ask r g)
  | speak {r : Request} {f : r.Answer → Action α} {y : Action β} (hr : r.isSpeech = true)
      (h : ∀ a, Silenced R (f a) y) : Silenced R (.ask r f) y

variable {R : α → β → Prop} {x : Action α} {y : Action β}

theorem Silenced.bind {S : γ → δ → Prop} {f : α → Action γ} {g : β → Action δ} (hx : Silenced R x y)
    (hf : ∀ a b, R a b → Silenced S (f a) (g b)) : Silenced S (x >>= f) (y >>= g) := by
  induction hx with
  | done h => exact hf _ _ h
  | ask hr _ ih => exact .ask hr ih
  | speak hr _ ih => exact .speak hr ih

/-- **A run and the run without its lines**, whoever takes the lines of the first one. -/
theorem Silenced.run (h : Silenced R x y) (sys : System σ) (l : Listener σ κ) (w : σ) (k : κ) :
    R (x.run (sys.heardBy l) (w, k)).1 (y.run sys w).1 ∧
      (x.run (sys.heardBy l) (w, k)).2.1 = (y.run sys w).2 ∧
      quiet (x.trace (sys.heardBy l) (w, k)) = y.trace sys w := by
  induction h generalizing w k with
  | done h => exact ⟨h, rfl, rfl⟩
  | @ask r f g hr _ ih =>
    have hanswer : sys.heardBy l r (w, k) = ((sys r w).1, (sys r w).2, k) := System.heardBy_of_not_isSpeech hr
    obtain ⟨hresult, hworld, htrace⟩ := ih (sys r w).1 (sys r w).2 k
    rw [run_ask, run_ask, trace_ask, trace_ask, hanswer, quiet_cons_of_not_isSpeech hr, htrace]
    exact ⟨hresult, hworld, rfl⟩
  | @speak r f y hr _ ih =>
    -- Only the memory of the listener has changed, and `y` has not moved.
    have hworld : (sys.heardBy l r (w, k)).2 = (w, (sys.heardBy l r (w, k)).2.2) :=
      Prod.ext (System.heardBy_of_isSpeech hr) rfl
    rw [run_ask, trace_ask, quiet_cons_of_isSpeech hr, hworld]
    exact ih _ w _

/-- The same for an action `g` that has to know what `x` has yielded. -/
theorem Silenced.run_bind {S : α → γ → δ → Prop} {f : α → Action γ} {g : α → Action δ} (hx : Silenced R x y)
    (hf : ∀ a, Silenced (S a) (f a) (g a)) (sys : System σ) (l : Listener σ κ) (w : σ) (k : κ) :
    ∃ a, R a (y.run sys w).1 ∧
      S a ((x >>= f).run (sys.heardBy l) (w, k)).1 ((g a).run sys (y.run sys w).2).1 ∧
      ((x >>= f).run (sys.heardBy l) (w, k)).2.1 = ((g a).run sys (y.run sys w).2).2 ∧
      quiet ((x >>= f).trace (sys.heardBy l) (w, k)) = y.trace sys w ++ (g a).trace sys (y.run sys w).2 := by
  obtain ⟨hresult, hworld, htrace⟩ := hx.run sys l w k
  rw [Action.run_bind, trace_bind, quiet_append, htrace, ← hworld]
  generalize x.run (sys.heardBy l) (w, k) = loud at *
  obtain ⟨hlast, hlastWorld, hlastTrace⟩ := (hf loud.1).run sys l loud.2.1 loud.2.2
  exact ⟨loud.1, hresult, hlast, hlastWorld, by rw [← hlastTrace]⟩

theorem Only.silenced (hx : x.Only (·.isSpeech = false)) : Silenced Eq x x := by
  induction x with
  | done a => exact .done rfl
  | ask r f ih => exact .ask hx.1 fun a => ih a (hx.2 a)

theorem Only.silenced_done {b : β} (hx : x.Only (·.isSpeech = true)) (h : ∀ a, R a b) : Silenced R x (.done b) := by
  induction x with
  | done a => exact .done (h a)
  | ask r f ih => exact .speak hx.1 fun a => ih a (hx.2 a)

end Action

/-! ## Lines and targets -/

/-- Nothing is known of two results. -/
abbrev Unrelated (_ : α) (_ : β) : Prop := True

namespace Console

variable (c : Console)

theorem only_speech_report (e : ShellError) : (report c.sink e).Only (·.isSpeech = true) := by
  rw [report_eq]
  refine only_bind (c.only_speech .stderr e.message) fun outcome => ?_
  cases outcome with
  | ok _ => trivial
  | error _ => exact ⟨rfl, fun _ => trivial⟩

theorem only_speech_reportAll (es : List ShellError) : (reportAll c.sink es).Only (·.isSpeech = true) := by
  induction es with
  | nil => trivial
  | cons e es ih => exact only_bind (c.only_speech_report e) fun _ => ih

end Console

theorem reportAll_silent (es : List ShellError) : reportAll Sink.silent es = .done () := by
  induction es with
  | nil => rfl
  | cons e es ih => exact ih

section Targets

variable (c : Console) (r : Redirection)

theorem Redirection.silenced_over (s : Stream) (line : String) :
    Silenced Unrelated (r.over c.sink s line) (r.over Sink.silent s line) := by
  cases htarget : r.target s with
  | none =>
    rw [over_of_none htarget, over_of_none htarget]
    exact (c.only_speech s line).silenced_done fun _ => trivial
  | some t =>
    rw [over_of_target htarget, over_of_target htarget]
    refine .ask rfl fun appended => ?_
    rcases appended with fault | ⟨⟩
    · have htold : Silenced Unrelated (c.sink s line) (Sink.silent s line) :=
        (c.only_speech s line).silenced_done fun _ => trivial
      exact htold.bind fun _ _ _ => .done trivial
    · exact .done trivial

theorem External.silenced_outletTold (t? : Option Target) :
    Silenced Eq (outletTold t? (r.over c.sink)) (outletTold t? (r.over Sink.silent)) := by
  cases t? with
  | none => exact .done rfl
  | some t =>
    rw [outletTold_some, outletTold_some]
    refine .ask rfl fun opened => ?_
    rcases opened with fault | handle
    · exact (r.silenced_over c _ _).bind fun _ _ _ => .done rfl
    · exact .done rfl

theorem Reply.silenced_carryOut (sh : Shell) (reply : Reply) :
    Silenced Unrelated (reply.carryOut r sh (r.over c.sink)) (reply.carryOut r sh (r.over Sink.silent)) := by
  cases reply with
  | silent | fail e => exact .done trivial
  | say s line => exact (r.silenced_over c s line).bind fun _ _ _ => .done trivial
  | start program =>
    refine (External.silenced_outletTold c r r.stdout).bind fun out _ hout => ?_
    refine (External.silenced_outletTold c r r.stderr).bind fun err _ herr => ?_
    subst hout herr
    -- With the same outlets it is the same program that is started.
    exact .ask rfl fun _ => .done trivial

end Targets

/-! ## A line -/

namespace Shell

variable (sh : Shell)

/-- Run a command up to the report of its failure: the shell, the targets that were kept, and how the command ended. -/
def attemptOver (console : Sink) (c : Command) : Action (Shell × Redirection × Outcome) := do
  let (kept, errors) ← c.redirection.prepare sh.state.currentDir
  reportAll console errors
  if c.isEmpty then return (sh, kept, .ok ())
  else
    let (state, outcome) ← sh.dispatch c kept (kept.over console)
    return ({ sh with state := state }, kept, outcome)

/-- Report how a command ended, if it failed. -/
def concludeOver (console : Sink) (kept : Redirection) : Outcome → Action Unit
  | .ok () => return
  | .error e => report (kept.over console) e

/-- What is left of such a report in files. -/
def lastWord (kept : Redirection) : Outcome → Action Unit
  | .ok () => return
  | .error e =>
    match kept.stderr with
    | none => return
    | some t => do
      let _ ← t.appendLine e.message

theorem handleOver_eq_attemptOver (console : Sink) (line : String) :
    sh.handleOver console line = sh.attemptOver console (Command.parse line) >>= fun x =>
      concludeOver console x.2.1 x.2.2 >>= fun _ => .done x.1 := by
  simp only [handleOver, runOver, performOver, attemptOver, bind_assoc]
  refine bind_congr fun prepared => bind_congr fun _ => ?_
  split
  · rfl
  · simp only [bind_assoc, pure_bind]
    refine bind_congr fun dispatched => ?_
    rcases dispatched.2 with e | ⟨⟩ <;> rfl

section Silenced

variable (console : Console) (c : Command) (kept : Redirection)

theorem silenced_dispatch :
    Silenced (fun x y => x.1 = y.1) (sh.dispatch c kept (kept.over console.sink))
      (sh.dispatch c kept (kept.over Sink.silent)) := by
  rw [dispatch_eq_reply, dispatch_eq_reply]
  have hreply : Silenced Eq (sh.reply c) (sh.reply c) :=
    ((sh.only_reply c).mono fun _ => Request.IsLook.isSpeech_eq_false).silenced
  refine hreply.bind fun replied _ hreplied => ?_
  subst hreplied
  exact (Reply.silenced_carryOut console kept sh replied.2).bind fun _ _ _ => .done rfl

/-- **A line up to its last report** leaves the same shell and keeps the same targets, whoever hears of it. -/
theorem silenced_attemptOver :
    Silenced (fun x y => x.1 = y.1 ∧ x.2.1 = y.2.1) (sh.attemptOver console.sink c)
      (sh.attemptOver Sink.silent c) := by
  have hprepare : Silenced Eq (c.redirection.prepare sh.state.currentDir)
      (c.redirection.prepare sh.state.currentDir) := by
    refine ((c.redirection.only_prepare _).mono fun q hq => ?_).silenced
    obtain ⟨t, -, rfl⟩ := hq
    rfl
  refine hprepare.bind fun prepared _ hprepared => ?_
  subst hprepared
  have hreports : Silenced Unrelated (reportAll console.sink prepared.2) (reportAll Sink.silent prepared.2) := by
    rw [reportAll_silent]
    exact (console.only_speech_reportAll prepared.2).silenced_done fun _ => trivial
  refine hreports.bind fun _ _ _ => ?_
  cases c.isEmpty with
  | true => exact .done ⟨rfl, rfl⟩
  | false =>
    refine (sh.silenced_dispatch console c prepared.1).bind fun dispatched _ hstate => ?_
    exact .done ⟨congrArg (fun state => { sh with state := state }) hstate, rfl⟩

theorem lastWord_error (e : ShellError) :
    lastWord kept (.error e) = kept.over Sink.silent .stderr e.message >>= fun _ => .done () := by
  cases htarget : kept.stderr with
  | none =>
    rw [Redirection.over_of_none (show kept.target .stderr = none from htarget), lastWord, htarget]
    rfl
  | some t =>
    rw [Redirection.over_of_target (show kept.target .stderr = some t from htarget), lastWord, htarget]
    simp only [Target.appendLine, bind_map_left]
    refine congrArg (Action.ask _) (funext fun appended => ?_)
    rcases appended with fault | ⟨⟩ <;> rfl

theorem silenced_concludeOver (outcome : Outcome) :
    Silenced Unrelated (concludeOver console.sink kept outcome) (lastWord kept outcome) := by
  rcases outcome with e | ⟨⟩
  · rw [lastWord_error, concludeOver, report_eq]
    refine (kept.silenced_over console .stderr e.message).bind fun outcome _ _ => ?_
    cases outcome with
    | ok _ => exact .done trivial
    | error _ => exact .speak rfl fun _ => .done trivial
  · exact .done trivial

end Silenced

variable {κ₁ κ₂ : Type}

/-- A line over any console is the silenced line up to its last report, and what is left of this report. -/
theorem handleOver_eq_silent (line : String) (console : Console) (sys : System σ) (l : Listener σ κ) (w : σ) (k : κ)
    {tried : (Shell × Redirection × Outcome) × σ}
    (htried : (sh.attemptOver Sink.silent (Command.parse line)).run sys w = tried) :
    ((sh.handleOver console.sink line).run (sys.heardBy l) (w, k)).1 = tried.1.1 ∧ ∃ outcome,
      quiet ((sh.handleOver console.sink line).trace (sys.heardBy l) (w, k)) =
        (sh.attemptOver Sink.silent (Command.parse line)).trace sys w ++
          (lastWord tried.1.2.1 outcome).trace sys tried.2 ∧
      ((sh.handleOver console.sink line).run (sys.heardBy l) (w, k)).2.1 =
        ((lastWord tried.1.2.1 outcome).run sys tried.2).2 := by
  -- The last report depends on how the command has ended over this console, of which the silenced line knows nothing.
  have hlast (x : Shell × Redirection × Outcome) : Silenced (fun sh' _ => sh' = x.1)
      (concludeOver console.sink x.2.1 x.2.2 >>= fun _ => .done x.1) (lastWord x.2.1 x.2.2) := by
    have hconclude := (silenced_concludeOver console x.2.1 x.2.2).bind
      (S := fun sh' _ => sh' = x.1) (f := fun _ => .done x.1) (g := .done) fun _ _ _ => .done rfl
    rwa [bind_done] at hconclude
  obtain ⟨x, ⟨hshell, hkept⟩, hresult, hworld, htrace⟩ :=
    (sh.silenced_attemptOver console (Command.parse line)).run_bind hlast sys l w k
  rw [htried] at hshell hkept hworld htrace
  rw [hkept] at hworld htrace
  rw [handleOver_eq_attemptOver]
  exact ⟨hresult.trans hshell, x.2.2, htrace, hworld⟩

/-- The silenced line creates its targets first, and keeps those that can be created. -/
theorem attemptOver_silent (c : Command) (sys : System σ) (w : σ) :
    let create := c.redirection.prepare sh.state.currentDir
    ((sh.attemptOver Sink.silent c).run sys w).1.2.1 = (create.run sys w).1.1 ∧
      ∃ rest, (sh.attemptOver Sink.silent c).trace sys w = create.trace sys w ++ rest := by
  refine ⟨?_, _, trace_bind ..⟩
  simp only [attemptOver, run_bind]
  cases c.isEmpty with
  | true => rfl
  | false =>
    simp only [Bool.false_eq_true, if_false, run_bind]
    rfl

theorem started_lastWord (kept : Redirection) (outcome : Outcome) (sys : System σ) (w : σ) :
    started ((lastWord kept outcome).trace sys w) = [] := by
  rcases outcome with e | ⟨⟩
  · rw [lastWord]
    cases kept.stderr <;> rfl
  · rfl

/-- **A line is indifferent to who takes its output.** Run a line from the same world over two consoles, with any two
listeners that take or refuse its lines; both runs come to an end, as all do. The same shell is left, so that directory
and exit flag are the same, and the same program is started or none, with the same arguments, directory and outlets. But
for the lines that are told, both runs first create the same targets, with the same answers, and then ask for the same
`rest` with the same answers, which leaves the same world `w'`. What may come after it is one line of a failed command
for the target of the error stream. -/
theorem handleOver_indifferent (line : String) (console₁ console₂ : Console) (sys : System σ) (l₁ : Listener σ κ₁)
    (l₂ : Listener σ κ₂) (w : σ) (k₁ : κ₁) (k₂ : κ₂) :
    let create := (Command.parse line).redirection.prepare sh.state.currentDir
    let kept := (create.run sys w).1.1
    let after₁ := (sh.handleOver console₁.sink line).run (sys.heardBy l₁) (w, k₁)
    let after₂ := (sh.handleOver console₂.sink line).run (sys.heardBy l₂) (w, k₂)
    let es₁ := (sh.handleOver console₁.sink line).trace (sys.heardBy l₁) (w, k₁)
    let es₂ := (sh.handleOver console₂.sink line).trace (sys.heardBy l₂) (w, k₂)
    after₁.1 = after₂.1 ∧ started es₁ = started es₂ ∧
      ∃ rest w' outcome₁ outcome₂,
        quiet es₁ = create.trace sys w ++ rest ++ (lastWord kept outcome₁).trace sys w' ∧
        quiet es₂ = create.trace sys w ++ rest ++ (lastWord kept outcome₂).trace sys w' ∧
        after₁.2.1 = ((lastWord kept outcome₁).run sys w').2 ∧
        after₂.2.1 = ((lastWord kept outcome₂).run sys w').2 := by
  obtain ⟨hkept, rest, hrest⟩ := sh.attemptOver_silent (Command.parse line) sys w
  generalize htried : (sh.attemptOver Sink.silent (Command.parse line)).run sys w = tried at hkept
  obtain ⟨hshell₁, outcome₁, hes₁, hworld₁⟩ := sh.handleOver_eq_silent line console₁ sys l₁ w k₁ htried
  obtain ⟨hshell₂, outcome₂, hes₂, hworld₂⟩ := sh.handleOver_eq_silent line console₂ sys l₂ w k₂ htried
  rw [hkept, hrest] at hes₁ hes₂
  rw [hkept] at hworld₁ hworld₂
  dsimp only
  refine ⟨hshell₁.trans hshell₂.symm, ?_, rest, tried.2, outcome₁, outcome₂, hes₁, hes₂, hworld₁, hworld₂⟩
  rw [← started_quiet (trace _ _ (w, k₁)), ← started_quiet (trace _ _ (w, k₂)), hes₁, hes₂]
  simp only [started_append, started_lastWord]

end Shell

/-- The listener that takes every line. -/
def Listener.attentive : Listener σ Unit where
  print _ _ _ k := (.ok (), k)
  complain _ _ k := (.ok (), k)

/-- The listener that refuses the first `k` lines that are told to the console. -/
def Listener.deaf : Listener σ Nat where
  print _ _ _ k := if k = 0 then (.ok (), 0) else (.error (.other "broken pipe"), k - 1)
  complain _ _ k := (.ok (), k)

/-- The output of `echo` is told to the console. If it is refused, this is written to the target of the error stream. -/
example :
    let echo := (Shell.start {} { currentDir := .root }).handleOver Console.process.sink "echo hi 2> err"
    (echo.run (System.oneFile.heardBy .attentive) (none, ())).2.1 = some [] ∧
      (echo.run (System.oneFile.heardBy .deaf) (none, 1)).2.1 = some (Bytes.ofString "write error: broken pipe\n") := by
  decide +kernel

end LineShell
