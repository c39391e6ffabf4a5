import LineShell.Proofs.Run.Marks

/-!
# What a line may ask for, and what it leaves

Whatever a system answers, a line asks for no more than its command needs: its targets as they are seen
from the current directory, files to be looked at, lines to be written, and at most the program that its
name stands for. Of the shell it changes no more than the state, the exit flag only through `exit` and the
directory only through `cd`.

* `External.yields_resolve`: the places where a program can be found.
* `Shell.only_runCommand`: the requests of a line.
* `Shell.yields_runCommand`: the shell after a line.
* `Shell.only_handleAll_of`: from the requests of a line to those of a session.
-/

namespace LineShell

open LineShell.Action

/-! ## Places of programs -/

namespace SearchPath

theorem yields_keepPrograms (ps : List Path) :
    (keepPrograms ps).Yields fun found => ∀ p ∈ found, p ∈ ps := by
  induction ps with
  | nil => exact List.forall_mem_nil _
  | cons p ps ih =>
    refine yields_bind (yields_trivial _) fun isProgram _ => yields_bind ih fun found hfound => ?_
    have hrest : ∀ q ∈ found, q ∈ p :: ps := fun q hq => List.mem_cons_of_mem _ (hfound q hq)
    cases isProgram with
    | false => exact hrest
    | true => exact List.forall_mem_cons.2 ⟨List.mem_cons_self, hrest⟩

theorem yields_find (sp : SearchPath) (name : String) :
    (sp.find name).Yields fun found => ∀ p ∈ found, ∃ d ∈ sp.dirs, p = d.join (Path.ofString name) := by
  have hsearch : (sp.search name).Yields fun found =>
      ∀ p ∈ found, p ∈ sp.dirs.map (·.join (Path.ofString name)) := by
    unfold search
    split
    · exact yields_keepPrograms _
    · exact List.forall_mem_nil _
  refine yields_bind hsearch fun found hfound => ?_
  intro p hp
  obtain ⟨d, hd, rfl⟩ := List.mem_map.1 (hfound p (List.mem_of_head? hp))
  exact ⟨d, hd, rfl⟩

end SearchPath

namespace External

/-- The path name under which the program `name` is looked for: a name with a slash is one itself, any other
name is a name in a directory of the search path. -/
def Place (state : State) (sp : SearchPath) (name : String) (p : Path) : Prop :=
  if hasSeparator name then p = state.resolve (Path.ofString name)
  else ∃ d ∈ sp.dirs, p = d.join (Path.ofString name)

variable (state : State) (sp : SearchPath) (name : String)

theorem yields_locate :
    (locate state sp name).Yields fun found => ∀ p ∈ found, Place state sp name p := by
  unfold locate Place
  split
  · refine yields_bind (yields_trivial _) fun isProgram _ => ?_
    cases isProgram with
    | false => exact fun p hp => nomatch hp
    | true => exact fun p hp => (Option.some.inj hp).symm
  · exact sp.yields_find name

/-- **A program that is found has the name and the arguments that were given, and is in its place.** -/
theorem yields_resolve (args : List String) :
    (resolve state sp name args).Yields fun found =>
      ∀ c, found = .ok c → c.name = name ∧ c.args = args ∧ Place state sp name c.image := by
  refine yields_bind (yields_locate state sp name) fun found hfound => ?_
  cases found with
  | none => exact fun c hc => nomatch hc
  | some image =>
    intro c hc
    obtain rfl : ⟨name, image, args⟩ = c := Except.ok.inj hc
    exact ⟨rfl, rfl, hfound image rfl⟩

end External

/-! ## Requests -/

/-- The request shows a line, or writes or opens a target of `r` for it. -/
def Request.IsOutput (r : Redirection) : Request → Prop
  | .appendLine p _ | .openAppend p => ∃ t ∈ r.targets, p = t.path
  | .print _ _ | .complain _ => True
  | _ => False

/-- The request shows a report to the console, or to the process. -/
def Request.IsReport : Request → Prop
  | .print .stderr _ | .complain _ => True
  | _ => False

/-- The request belongs to the command `c` of the shell `sh`, when its targets are among those of `r`. -/
def Request.OfCommand (sh : Shell) (c : Command) (r : Redirection) : Request → Prop
  | .inspect _ | .canonicalize _ | .canList _ => True
  | .start child => ∃ program : External, program.name = c.name ∧ program.args = c.args ∧
      External.Place sh.state sh.searchPath c.name program.image ∧
      ∃ out err, child = program.child sh.state sh.env out err
  | q => q.IsOutput r

/-- The request belongs to a line with the command `c` of the shell `sh`. -/
def Request.OfLine (sh : Shell) (c : Command) : Request → Prop
  | .create t => t ∈ (c.redirection.resolve sh.state.currentDir).targets
  | q => q.OfCommand sh c (c.redirection.resolve sh.state.currentDir)

/-- The request is one to the line editor. -/
def Request.forEditor : Request → Bool
  | .editor _ => true
  | _ => false

namespace Request

variable {sh : Shell} {c : Command} {r : Redirection} {q : Request}

theorem OfLine.forEditor (h : q.OfLine sh c) : q.forEditor = false := by
  cases q with
  | editor request => exact h.elim
  | _ => rfl

theorem IsOutput.mono {r' : Redirection} (h : ∀ t ∈ r.targets, t ∈ r'.targets) (hq : q.IsOutput r) :
    q.IsOutput r' := by
  cases q with
  | appendLine p line | openAppend p =>
    obtain ⟨t, ht, hp⟩ := hq
    exact ⟨t, h t ht, hp⟩
  | print s line | complain line => trivial
  | _ => exact hq.elim

theorem IsOutput.ofCommand (hq : q.IsOutput r) : q.OfCommand sh c r := by
  cases q with
  | start child | inspect p | canonicalize p | canList p => exact hq.elim
  | _ => exact hq

theorem IsReport.isOutput (hq : q.IsReport) : q.IsOutput r := by
  cases q with
  | print s line | complain line => trivial
  | _ => exact hq.elim

theorem IsLook.ofCommand (hq : q.IsLook) : q.OfCommand sh c r := by
  cases q with
  | inspect p | canonicalize p | canList p => trivial
  | _ => exact hq.elim

theorem OfCommand.mono {r' : Redirection} (h : ∀ t ∈ r.targets, t ∈ r'.targets)
    (hq : q.OfCommand sh c r) : q.OfCommand sh c r' := by
  cases q with
  | start child | inspect p | canonicalize p | canList p => exact hq
  | _ => exact IsOutput.ofCommand (IsOutput.mono h hq)

theorem OfCommand.ofLine (hq : q.OfCommand sh c (c.redirection.resolve sh.state.currentDir)) :
    q.OfLine sh c := by
  cases q with
  | create t => exact hq.elim
  | _ => exact hq

end Request

/-! ### Lines and targets -/

theorem only_reportAll (es : List ShellError) : (reportAll Sink.console es).Only Request.IsReport := by
  induction es with
  | nil => trivial
  | cons e es ih =>
    refine only_bind ?_ fun _ => ih
    rw [report_eq, Sink.console_eq]
    refine ⟨trivial, fun printed => ?_⟩
    cases printed with
    | ok _ => trivial
    | error fault => exact ⟨trivial, fun _ => trivial⟩

namespace Redirection

theorem only_over (r : Redirection) (s : Stream) (line : String) :
    (r.over Sink.console s line).Only (Request.IsOutput r) := by
  cases htarget : r.target s with
  | none =>
    rw [over_of_none htarget, Sink.console_eq]
    exact ⟨trivial, fun _ => trivial⟩
  | some t =>
    rw [over_of_some htarget]
    refine ⟨⟨t, mem_targets.2 ⟨s, htarget⟩, rfl⟩, fun appended => ?_⟩
    cases appended with
    | ok _ => trivial
    | error fault => exact ⟨trivial, fun printed => by cases printed <;> trivial⟩

theorem only_report (r : Redirection) (e : ShellError) :
    (report (r.over Sink.console) e).Only (Request.IsOutput r) := by
  rw [report_eq]
  refine only_bind (r.only_over _ _) fun outcome => ?_
  cases outcome with
  | ok _ => trivial
  | error fault => exact ⟨trivial, fun _ => trivial⟩

theorem only_prepareTarget (base : Path) (t? : Option Target) :
    (prepareTarget base t?).Only fun q => ∃ t ∈ t?, q = .create (t.resolve base) := by
  cases t? with
  | none => trivial
  | some t =>
    rw [prepareTarget_some]
    refine ⟨⟨t, rfl, rfl⟩, fun created => ?_⟩
    rcases created with fault | ⟨⟩ <;> trivial

theorem yields_prepareTarget (base : Path) (t? : Option Target) :
    (prepareTarget base t?).Yields fun x => ∀ t ∈ x.1, t ∈ t?.map (·.resolve base) := by
  cases t? with
  | none => exact fun t ht => ht
  | some t =>
    rw [prepareTarget_some]
    intro created
    rcases created with fault | ⟨⟩
    · exact fun t ht => nomatch ht
    · exact fun t ht => ht

theorem only_prepare (r : Redirection) (base : Path) :
    (r.prepare base).Only fun q => ∃ t ∈ (r.resolve base).targets, q = .create t := by
  have hslot {s : Stream} {q : Request} (hq : ∃ t ∈ r.target s, q = .create (t.resolve base)) :
      ∃ t ∈ (r.resolve base).targets, q = .create t := by
    obtain ⟨t, ht, rfl⟩ := hq
    refine ⟨t.resolve base, mem_targets.2 ⟨s, ?_⟩, rfl⟩
    cases s <;> exact congrArg (Option.map (·.resolve base)) ht
  refine only_bind ((only_prepareTarget base r.stdout).mono fun _ => hslot (s := .stdout)) fun _ => ?_
  exact only_bind ((only_prepareTarget base r.stderr).mono fun _ => hslot (s := .stderr)) fun _ => trivial

/-- The targets that are kept are among those that were asked for. -/
theorem yields_prepare (r : Redirection) (base : Path) :
    (r.prepare base).Yields fun x => ∀ s, ∀ t ∈ x.1.target s, t ∈ (r.resolve base).target s := by
  refine yields_bind (yields_prepareTarget base r.stdout) fun out hout => ?_
  refine yields_bind (yields_prepareTarget base r.stderr) fun err herr => ?_
  intro s
  cases s
  · exact hout
  · exact herr

end Redirection

/-- The last report of a line goes where the lines of its command went. -/
theorem Account.only_conclude (a : Account) : a.conclude.Only (Request.IsOutput a.kept) := by
  unfold conclude
  cases a.failure with
  | none => trivial
  | some e => exact a.kept.only_report e

/-! ### A command -/

section Command

variable {r : Redirection}

theorem External.only_outletTold {t? : Option Target} (ht : ∀ t ∈ t?, t ∈ r.targets) :
    (outletTold t? (r.over Sink.console)).Only (Request.IsOutput r) := by
  cases t? with
  | none => trivial
  | some t =>
    rw [outletTold_some]
    refine ⟨⟨t, ht t rfl, rfl⟩, fun opened => ?_⟩
    cases opened with
    | ok handle => trivial
    | error fault => exact only_bind (r.only_over _ _) fun _ => trivial

/-- The program that a reply starts. -/
def Reply.program? : Reply → Option External
  | .start program => some program
  | _ => none

theorem Reply.only_carryOut (sh : Shell) (c : Command) {reply : Reply}
    (hstart : ∀ program ∈ reply.program?, program.name = c.name ∧ program.args = c.args ∧
      External.Place sh.state sh.searchPath c.name program.image) :
    (reply.carryOut r sh (r.over Sink.console)).Only (Request.OfCommand sh c r) := by
  cases reply with
  | silent | fail e => trivial
  | say s line =>
    exact only_bind ((r.only_over s line).mono fun _ => Request.IsOutput.ofCommand) fun _ => trivial
  | start program =>
    obtain ⟨hname, hargs, hplace⟩ := hstart program rfl
    have htold {s : Stream} : (External.outletTold (r.target s) (r.over Sink.console)).Only
        (Request.OfCommand sh c r) :=
      (External.only_outletTold fun t ht => Redirection.mem_targets.2 ⟨s, ht⟩).mono
        fun _ => Request.IsOutput.ofCommand
    refine only_bind (htold (s := .stdout)) fun out => only_bind (htold (s := .stderr)) fun err => ?_
    exact only_bind (only_request ⟨program, hname, hargs, hplace, out.1, err.1, rfl⟩) fun _ => trivial

end Command

/-! ## What a command leaves -/

namespace Builtin

theorem eq_of_lookup {name : String} {b : Builtin} (h : lookup name = some b) : name = b.name := by
  have hname := List.find?_some h
  exact (beq_iff_eq.1 hname).symm

theorem lookup_name (b : Builtin) : lookup b.name = some b := by
  cases b <;> decide

/-- Only `exit` sets the exit flag, only `cd` changes the directory, and then it has nothing to say. -/
theorem yields_reply (b : Builtin) (env : Environment) (sp : SearchPath) (state : State) (args : String) :
    (b.reply env sp state args).Yields fun x =>
      x.2.program? = none ∧ x.1.exitRequested = (state.exitRequested || b == .exit) ∧
        (x.1.currentDir ≠ state.currentDir → b = .cd ∧ x.2 = .silent) := by
  have hsame {reply : Reply} {b : Builtin} (hreply : reply.program? = none) (hb : (b == .exit) = false) :
      reply.program? = none ∧ state.exitRequested = (state.exitRequested || b == .exit) ∧
        (state.currentDir ≠ state.currentDir → b = .cd ∧ reply = .silent) :=
    ⟨hreply, by rw [hb, Bool.or_false], fun h => absurd rfl h⟩
  cases b with
  | echo | pwd => exact hsame rfl rfl
  | exit => exact ⟨rfl, (Bool.or_true _).symm, fun h => absurd rfl h⟩
  | type =>
    refine yields_bind (Q := fun reply => reply.program? = none) ?_ fun reply hreply => hsame hreply rfl
    unfold replyDescribe
    split_ifs
    · rfl
    · rfl
    · refine yields_bind (yields_trivial _) fun found _ => ?_
      cases found <;> rfl
  | cd =>
    unfold reply replyChangeDirectory
    cases destination env args with
    | stay | homeless => exact hsame rfl rfl
    | go dir shown =>
      refine yields_bind (yields_trivial _) fun real? _ => yields_bind (yields_trivial _) fun fault? _ => ?_
      cases fault? with
      | some fault => exact hsame rfl rfl
      | none => exact ⟨rfl, (Bool.or_false _).symm, fun _ => ⟨rfl, rfl⟩⟩

end Builtin

namespace Shell

variable (sh : Shell) (c : Command)

theorem yields_reply :
    (sh.reply c).Yields fun x =>
      (∀ program ∈ x.2.program?, program.name = c.name ∧ program.args = c.args ∧
        External.Place sh.state sh.searchPath c.name program.image) ∧
      x.1.exitRequested = (sh.state.exitRequested || c.name == Builtin.exit.name) ∧
      (x.1.currentDir ≠ sh.state.currentDir → c.name = Builtin.cd.name ∧ x.2 = .silent) := by
  unfold Shell.reply
  cases hlookup : Builtin.lookup c.name with
  | some b =>
    have hname := Builtin.eq_of_lookup hlookup
    refine (b.yields_reply sh.env sh.searchPath sh.state c.joinedArgs).mono fun x hx => ?_
    obtain ⟨hprogram, hexit, hdir⟩ := hx
    refine ⟨fun program h => by simp [hprogram] at h, ?_, fun h => ?_⟩
    · rw [hexit, hname]
      cases b <;> rfl
    · obtain ⟨rfl, hsilent⟩ := hdir h
      exact ⟨hname, hsilent⟩
  | none =>
    have hexit : sh.state.exitRequested = (sh.state.exitRequested || c.name == Builtin.exit.name) := by
      have hname : c.name ≠ Builtin.exit.name := by
        intro hname
        rw [hname, Builtin.lookup_name] at hlookup
        cases hlookup
      rw [beq_eq_false_iff_ne.2 hname, Bool.or_false]
    refine yields_bind (External.yields_resolve sh.state sh.searchPath c.name c.args) fun found hfound => ?_
    cases found with
    | error e => exact ⟨fun program h => absurd h (Option.not_mem_none program), hexit, fun h => absurd rfl h⟩
    | ok program =>
      refine ⟨fun program' h => ?_, hexit, fun h => absurd rfl h⟩
      obtain rfl := Option.some.inj h
      exact hfound program rfl

theorem only_carryOut (r : Redirection) :
    (sh.carryOut c r).Only (Request.OfCommand sh c r) := by
  unfold carryOut
  split
  · trivial
  · refine only_bind_of_yields ((sh.only_reply c).mono fun _ => Request.IsLook.ofCommand)
      (sh.yields_reply c) fun x hx => ?_
    exact only_bind (Reply.only_carryOut sh c hx.1) fun _ => trivial

/-- What the command `c` may have changed of the shell `sh` when it is `sh'` afterwards. -/
structure Follows (sh' : Shell) : Prop where
  env : sh'.env = sh.env
  searchPath : sh'.searchPath = sh.searchPath
  exitRequested : sh'.state.exitRequested = (sh.state.exitRequested || c.name == Builtin.exit.name)
  currentDir : sh'.state.currentDir ≠ sh.state.currentDir → c.name = Builtin.cd.name

theorem yields_carryOut (r : Redirection) :
    (sh.carryOut c r).Yields fun x => sh.Follows c { sh with state := x.1 } := by
  unfold carryOut
  split
  · rename_i hempty
    have hexit : (c.name == Builtin.exit.name) = false := by
      rw [String.isEmpty_iff.1 hempty]
      rfl
    exact ⟨rfl, rfl, by rw [hexit, Bool.or_false], fun h => absurd rfl h⟩
  · refine yields_bind (sh.yields_reply c) fun x hx => yields_bind (yields_trivial _) fun _ _ => ?_
    exact ⟨rfl, rfl, hx.2.1, fun h => (hx.2.2 h).1⟩

/-- The targets that an attempt keeps are among those that were asked for. -/
theorem yields_attempt :
    (sh.attempt c).Yields fun x => sh.Follows c x.1 ∧
      ∀ t ∈ x.2.kept.targets, t ∈ (c.redirection.resolve sh.state.currentDir).targets := by
  refine yields_bind (c.redirection.yields_prepare _) fun prepared hkept => ?_
  refine yields_bind (yields_trivial _) fun _ _ => yields_bind (sh.yields_carryOut c _) fun x hx => ?_
  refine ⟨hx, fun t ht => ?_⟩
  obtain ⟨s, hs⟩ := Redirection.mem_targets.1 ht
  exact Redirection.mem_targets.2 ⟨s, hkept s t hs⟩

theorem only_attempt : (sh.attempt c).Only (Request.OfLine sh c) := by
  refine only_bind_of_yields ((c.redirection.only_prepare _).mono fun q hq => ?_)
    (c.redirection.yields_prepare _) fun prepared hkept => ?_
  · obtain ⟨t, ht, rfl⟩ := hq
    exact ht
  · refine only_bind ((only_reportAll _).mono fun q hq => hq.isOutput.ofCommand.ofLine) fun _ =>
      only_bind ((sh.only_carryOut c prepared.1).mono fun q hq => ?_) fun _ => trivial
    refine (hq.mono fun t ht => ?_).ofLine
    obtain ⟨s, hs⟩ := Redirection.mem_targets.1 ht
    exact Redirection.mem_targets.2 ⟨s, hkept s t hs⟩

/-- **All requests of a line belong to its command**: its targets as they are seen from the current
directory, files to be looked at, lines for its sinks, and the program that its name stands for. -/
theorem only_runCommand : (sh.runCommand c).Only (Request.OfLine sh c) := by
  rw [runCommand_eq_attempt]
  refine only_bind_of_yields (sh.only_attempt c) (sh.yields_attempt c) fun x hx => ?_
  refine only_bind ?_ fun _ => trivial
  exact x.2.only_conclude.mono fun q hq => (hq.mono hx.2).ofCommand.ofLine

/-- **What a line leaves of the shell**: environment and search path as they were, the exit flag set where it
was or the name is `exit`, and the directory as it was unless the name is `cd`. -/
theorem yields_runCommand : (sh.runCommand c).Yields fun sh' => sh.Follows c sh' := by
  rw [runCommand_eq_attempt]
  exact yields_bind (sh.yields_attempt c) fun x hx => yields_bind (yields_trivial _) fun _ _ => hx.1

/-! ## A session -/

/-- **What its lines may ask for, a session asks for**: where `I` holds of a shell, its lines ask for nothing but `P`,
and they leave shells of which `I` holds again. -/
theorem only_handleAll_of {I : Shell → Prop} {P : Request → Prop} (hask : ∀ sh c q, I sh → q.OfLine sh c → P q)
    (hkeep : ∀ sh c sh', I sh → sh.Follows c sh' → I sh') {sh : Shell} (hsh : I sh) (lines : List String) :
    (sh.handleAll lines).Only P := by
  induction lines generalizing sh with
  | nil => trivial
  | cons line lines ih =>
    have hline := (sh.only_runCommand (Command.parse line)).mono fun q hq => hask sh _ q hsh hq
    have hfollows := sh.yields_runCommand (Command.parse line)
    rw [handleAll, handle_eq_runCommand]
    -- What the line does is of no matter any more.
    generalize sh.runCommand (Command.parse line) = x at hline hfollows ⊢
    exact only_bind_of_yields hline hfollows fun sh' hsh' => ih (hkeep sh _ sh' hsh hsh')

/-- The lines of a session ask nothing of the line editor. -/
theorem only_handleAll_forEditor (sh : Shell) (lines : List String) :
    (sh.handleAll lines).Only fun r => r.forEditor = false :=
  only_handleAll_of (I := fun _ => True) (fun _ _ _ _ hq => hq.forEditor) (fun _ _ _ _ _ => trivial) trivial lines

theorem only_handle_forEditor (sh : Shell) (line : String) : (sh.handle line).Only fun r => r.forEditor = false :=
  (sh.only_runCommand (Command.parse line)).mono fun _ hq => hq.forEditor

end Shell

end LineShell
