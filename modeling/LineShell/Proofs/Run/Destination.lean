import LineShell.Proofs.Command.Remainder
import LineShell.Proofs.Run.Move
import LineShell.Proofs.Run.Streams
import LineShell.Proofs.Word.Layout

/-!
# Ways to one directory

A line with `cd` first looks at the place that its argument asks for, and only then something is written or the shell
moves. So two lines that ask for the same place see the same, and end in the same directory, or are refused for the same
reason; they differ only in what the message calls the place. The home directory can be asked for in three ways. Any
directory can be asked for by the text that `pwd` prints, however it is quoted.

* `Shell.run_silent`, `Shell.run_say`: a command that has nothing to say, and one with a line to say.
* `Builtin.run_replyEnter_cases`: a directory that is entered, and one that is refused.
* `Shell.handle_homeward`: the ways home.
* `Shell.handle_pwd_cd`: the way back to a directory that `pwd` has shown.
-/

namespace LineShell

open LineShell.Action

variable {σ : Type} {sys : System σ} {w w' : σ}

/-! ## Commands that have looked at files -/

namespace Shell

/-- What a line with the redirections `r` asks for before its command is carried out: its targets are created, and the
others are reported. -/
def preliminaries (sh : Shell) (r : Redirection) (sys : System σ) (w : σ) : List Event :=
  (r.prepare sh.state.currentDir).trace sys w ++
    (reportAll Sink.console ((r.prepare sh.state.currentDir).run sys w).1.2).trace sys
      ((r.prepare sh.state.currentDir).run sys w).2

theorem utters_preliminaries (sh : Shell) (r : Redirection) (sys : System σ) (w : σ) :
    ({} : Redirection).Utters (((r.prepare sh.state.currentDir).run sys w).1.2.map ShellError.line)
      (sh.preliminaries r sys w) := by
  have hcreate := Redirection.utters_of_writes_eq_nil (r := {})
    ((r.isQuiet_prepare sh.state.currentDir).writes_eq_nil sys w)
  exact hcreate.append (Redirection.utters_reportAll sys _ _)

variable {sh : Shell} {c : Command} {state : State}

/-- A command that has nothing to say leaves it at looking. -/
theorem run_silent (hname : c.isEmpty = false)
    (hreply : (sh.reply c).run sys (sh.ready c sys w).2 = ((state, .silent), w')) :
    (sh.runCommand c).run sys w = ({ sh with state := state }, w') ∧
      (sh.runCommand c).trace sys w =
        sh.preliminaries c.redirection sys w ++ (sh.reply c).trace sys (sh.ready c sys w).2 := by
  have hattempt := sh.run_attempt sys w c
  have htrace := sh.trace_attempt sys w c
  simp only [carryOut, hname, Bool.false_eq_true, if_false, run_bind, trace_bind, hreply, Reply.carryOut, pure_def,
    run_done, trace_done, List.append_nil] at hattempt htrace
  rw [trace_runCommand_eq_attempt, runCommand_eq_attempt, run_bind, hattempt, htrace, preliminaries]
  exact ⟨rfl, (List.append_nil _).trans (List.append_assoc ..).symm⟩

/-- A command that has a line to say leaves it at looking, but for that line and what comes of writing it. -/
theorem run_say {s : Stream} {text : String} (hname : c.isEmpty = false)
    (hreply : (sh.reply c).run sys (sh.ready c sys w).2 = ((state, .say s text), w')) :
    ((sh.runCommand c).run sys w).1 = { sh with state := state } ∧
      ∃ after, ∃ failure : Option ShellError, (sh.runCommand c).trace sys w =
          sh.preliminaries c.redirection sys w ++ (sh.reply c).trace sys (sh.ready c sys w).2 ++ after ∧
        (sh.ready c sys w).1.Utters ((s, text) :: failure.toList.map ShellError.line) after := by
  have hattempt := sh.run_attempt sys w c
  have htrace := sh.trace_attempt sys w c
  have hline := Redirection.utters_over sys (sh.ready c sys w).1 s text w'
  simp only [carryOut, hname, Bool.false_eq_true, if_false, run_bind, trace_bind, hreply, Reply.carryOut, pure_def,
    run_done, trace_done, List.append_nil] at hattempt htrace
  have hconclude := Account.utters_conclude sys ((sh.attempt c).run sys w).1.2 ((sh.attempt c).run sys w).2
  rw [trace_runCommand_eq_attempt, runCommand_eq_attempt, run_bind, htrace]
  rw [hattempt] at hconclude ⊢
  refine ⟨?_, _, _, ?_, hline.append hconclude⟩
  · simp only [run_bind, pure_def, run_done]
  · simp only [preliminaries, List.append_assoc]

end Shell

namespace Builtin

/-- **A directory is entered without a word where it is usable**, and otherwise refused for the first check that it
fails. What messages call it makes no difference. -/
theorem run_replyEnter_cases (state : State) (target : Path) (sys : System σ) (w : σ) :
    let real := sys (.canonicalize target) w
    let dir := real.1.getD target
    let w' := ((directoryFault dir).run sys real.2).2
    (sys.Usable real.2 dir ∧ ∀ shown, (replyEnter state target shown).run sys w =
      (({ state with currentDir := dir }, .silent), w')) ∨
      ∃ fault, sys.FailsFirst real.2 dir fault ∧ ∀ shown, (replyEnter state target shown).run sys w =
        ((state, .say .stderr s!"cd: {shown}: {fault.message}"), w') := by
  intro real dir w'
  simp only [replyEnter, request, ask_bind, done_bind, run_ask, run_bind]
  rcases directoryFault_cases sys real.2 dir with ⟨husable, hnone⟩ | ⟨fault, hfails, hsome⟩
  · refine .inl ⟨husable, fun shown => ?_⟩
    rw [show ((directoryFault ((sys (.canonicalize target) w).1.getD target)).run sys _).1 = none from hnone]
    rfl
  · refine .inr ⟨fault, hfails, fun shown => ?_⟩
    rw [show ((directoryFault ((sys (.canonicalize target) w).1.getD target)).run sys _).1 = some fault from hsome]
    rfl

/-- What is looked at does not depend on what messages call the place. -/
theorem trace_replyEnter (state : State) (target : Path) (shown : String) (sys : System σ) (w : σ) :
    let real := sys (.canonicalize target) w
    (replyEnter state target shown).trace sys w =
      ⟨.canonicalize target, real.1⟩ :: (directoryFault (real.1.getD target)).trace sys real.2 := by
  simp only [replyEnter, request, ask_bind, done_bind, trace_ask, trace_bind]
  cases ((directoryFault _).run sys _).1 with
  | none => exact congrArg _ (List.append_nil _)
  | some fault => exact congrArg _ (List.append_nil _)

end Builtin

/-! ## Lines with `cd` -/

/-- The command is `cd` with the argument `args` and the redirections `r`. -/
structure Command.IsCd (c : Command) (r : Redirection) (args : String) : Prop where
  name : c.name = "cd"
  redirection : c.redirection = r
  joinedArgs : c.joinedArgs = args

/-- The command leaves the shell as it is. What it asks for is `es`, and then nothing but that the line `text` is
written on the error stream, and that it is reported why this failed, if it did. -/
def Shell.Refuses (sh : Shell) (c : Command) (sys : System σ) (w : σ) (es : List Event) (text : String) : Prop :=
  ((sh.runCommand c).run sys w).1 = sh ∧
    ∃ after, ∃ failure : Option ShellError, (sh.runCommand c).trace sys w = es ++ after ∧
      (sh.ready c sys w).1.Utters ((.stderr, text) :: failure.toList.map ShellError.line) after

namespace Command.IsCd

variable {sh : Shell} {c c' : Command} {r : Redirection} {args args' : String}

theorem isEmpty_eq (hc : c.IsCd r args) : c.isEmpty = false := by
  rw [isEmpty, hc.name]
  rfl

theorem reply_eq (hc : c.IsCd r args) :
    sh.reply c = Builtin.replyChangeDirectory sh.env sh.state args := by
  rw [Shell.reply, hc.name, hc.joinedArgs]
  rfl

theorem ready_eq (hc : c.IsCd r args) (hc' : c'.IsCd r args') (sh : Shell) (sys : System σ) (w : σ) :
    sh.ready c sys w = sh.ready c' sys w := by
  rw [Shell.ready, Shell.ready, hc.redirection, hc'.redirection]

end Command.IsCd

/-! ## The ways home -/

namespace Builtin

theorem Asks.destination_eq {env : Environment} {args text shown : String} (h : Asks env args text shown) :
    destination env args = .go text shown := by
  have hhome? {home : String} (hhome : env.get? "HOME" = some home) (hne : home ≠ "") : home? env = some home := by
    simp [home?, hhome, hne]
  unfold destination
  cases h with
  | blank hargs hhome hne =>
    rw [(trimBlanks_eq_empty_iff args).2 hargs, hhome? hhome hne]
    rfl
  | tilde hargs hhome hne =>
    rw [hargs, hhome? hhome hne]
    rfl
  | plain hblank htilde =>
    have hempty : trimBlanks args ≠ "" := by
      intro hempty
      rw [(trimBlanks_eq_empty_iff args).1 hempty] at hblank
      cases hblank
    split <;> simp_all

theorem destination_of_homeless {env : Environment} (hless : Homeless env) (args : String) :
    (isBlankLine args = true → destination env args = .stay) ∧
      (trimBlanks args = "~" → destination env args = .homeless) := by
  have hhome : home? env = none := by
    rcases home?_cases env with ⟨-, hnone⟩ | ⟨home, hget, hne, -⟩
    · exact hnone
    · rcases hless with hunset | hempty
      · rw [hunset] at hget
        cases hget
      · rw [hempty] at hget
        exact absurd (Option.some.inj hget).symm hne
  refine ⟨fun hblank => ?_, fun htilde => ?_⟩
  · rw [destination, (trimBlanks_eq_empty_iff args).2 hblank, hhome]
    rfl
  · rw [destination, htilde, hhome]
    rfl

/-- The ways to ask for the home directory `home`, and what messages call it then. -/
inductive Homeward (home args : String) : String → Prop
  | blank (hargs : isBlankLine args = true) : Homeward home args home
  | tilde (hargs : trimBlanks args = "~") : Homeward home args "~"
  | named (hargs : trimBlanks args = home) (htilde : home ≠ "~") : Homeward home args home

theorem Homeward.asks {env : Environment} {home args shown : String} (h : Homeward home args shown)
    (hhome : env.get? "HOME" = some home) (hne : home ≠ "") : Asks env args home shown := by
  cases h with
  | blank hargs => exact .blank hargs hhome hne
  | tilde hargs => exact .tilde hargs hhome hne
  | named hargs htilde =>
    subst hargs
    have hblank : isBlankLine args = false := by
      rw [Bool.eq_false_iff]
      exact fun hblank => hne ((trimBlanks_eq_empty_iff args).2 hblank)
    exact .plain hblank htilde

end Builtin

namespace Shell

theorem reply_of_asks {sh : Shell} {c : Command} {r : Redirection} {args text shown : String} (hc : c.IsCd r args)
    (hasks : Builtin.Asks sh.env args text shown) :
    sh.reply c = Builtin.replyEnter sh.state (sh.state.resolve (Path.ofString text)) shown := by
  rw [hc.reply_eq, Builtin.replyChangeDirectory, hasks.destination_eq]

section Home

variable {sh : Shell} {r : Redirection}

/-- Lines that ask for one place, whatever they call it, are all let in or all refused. -/
theorem entered_or_refused (sh : Shell) (r : Redirection) (text : String) (sys : System σ) (w : σ) :
    let target := sh.state.resolve (Path.ofString text)
    let real := sys (.canonicalize target) (sh.ready ⟨"cd", [], r⟩ sys w).2
    let dir := real.1.getD target
    ∃ es w', ({} : Redirection).Utters (((r.prepare sh.state.currentDir).run sys w).1.2.map ShellError.line) es ∧
      ((sys.Usable real.2 dir ∧ ∀ c args shown, c.IsCd r args → Builtin.Asks sh.env args text shown →
          (sh.runCommand c).run sys w = ({ sh with state := { sh.state with currentDir := dir } }, w') ∧
            (sh.runCommand c).trace sys w = es) ∨
        ∃ fault, sys.FailsFirst real.2 dir fault ∧ ∀ c args shown, c.IsCd r args →
          Builtin.Asks sh.env args text shown → sh.Refuses c sys w es s!"cd: {shown}: {fault.message}") := by
  intro target real dir
  have hbase : Command.IsCd ⟨"cd", [], r⟩ r "" := ⟨rfl, rfl, rfl⟩
  have hreply {c : Command} {args shown : String} (hc : c.IsCd r args) (hasks : Builtin.Asks sh.env args text shown) :
      (sh.reply c).run sys (sh.ready c sys w).2 =
        (Builtin.replyEnter sh.state target shown).run sys (sh.ready ⟨"cd", [], r⟩ sys w).2 := by
    rw [reply_of_asks hc hasks, hc.ready_eq hbase]
  have hlooks {c : Command} {args shown : String} (hc : c.IsCd r args) (hasks : Builtin.Asks sh.env args text shown) :
      sh.preliminaries c.redirection sys w ++ (sh.reply c).trace sys (sh.ready c sys w).2 =
        sh.preliminaries r sys w ++
          (Builtin.replyEnter sh.state target text).trace sys (sh.ready ⟨"cd", [], r⟩ sys w).2 := by
    rw [reply_of_asks hc hasks, hc.ready_eq hbase, hc.redirection, Builtin.trace_replyEnter, Builtin.trace_replyEnter]
  have hquiet := (Builtin.only_replyEnter sh.state target text).mono fun _ => Request.IsLook.isQuiet
  refine ⟨_, ((Builtin.directoryFault dir).run sys real.2).2,
    (sh.utters_preliminaries r sys w).append_of_writes_eq_nil
      (hquiet.writes_eq_nil sys (sh.ready ⟨"cd", [], r⟩ sys w).2), ?_⟩
  rcases Builtin.run_replyEnter_cases sh.state target sys (sh.ready ⟨"cd", [], r⟩ sys w).2 with
    ⟨husable, henter⟩ | ⟨fault, hfails, hrefuse⟩
  · refine .inl ⟨husable, fun c args shown hc hasks => ?_⟩
    obtain ⟨hrun, htrace⟩ := run_silent hc.isEmpty_eq ((hreply hc hasks).trans (henter shown))
    exact ⟨hrun, htrace.trans (hlooks hc hasks)⟩
  · refine .inr ⟨fault, hfails, fun c args shown hc hasks => ?_⟩
    obtain ⟨hrun, after, failure, htrace, hutters⟩ := run_say hc.isEmpty_eq ((hreply hc hasks).trans (hrefuse shown))
    exact ⟨hrun, after, failure, hlooks hc hasks ▸ htrace, hutters⟩

/-- Without a home directory nothing moves, and only a tilde is told of. -/
theorem stays_of_homeless (sh : Shell) (r : Redirection) (hless : Builtin.Homeless sh.env) (sys : System σ) (w : σ) :
    ∃ es w', ({} : Redirection).Utters (((r.prepare sh.state.currentDir).run sys w).1.2.map ShellError.line) es ∧
      ∀ c args, c.IsCd r args →
        (isBlankLine args = true → (sh.runCommand c).run sys w = (sh, w') ∧ (sh.runCommand c).trace sys w = es) ∧
        (trimBlanks args = "~" → sh.Refuses c sys w es "cd: ~: HOME not set") := by
  have hbase : Command.IsCd ⟨"cd", [], r⟩ r "" := ⟨rfl, rfl, rfl⟩
  refine ⟨_, (sh.ready ⟨"cd", [], r⟩ sys w).2, sh.utters_preliminaries r sys w, fun c args hc => ?_⟩
  obtain ⟨hstay, hunknown⟩ := Builtin.destination_of_homeless hless args
  refine ⟨fun hblank => ?_, fun htilde => ?_⟩
  · have hreply : sh.reply c = .done (sh.state, .silent) := by
      rw [hc.reply_eq, Builtin.replyChangeDirectory, hstay hblank]
      rfl
    have hready : (sh.reply c).run sys (sh.ready c sys w).2 = ((sh.state, .silent), (sh.ready c sys w).2) := by
      rw [hreply]
      rfl
    obtain ⟨hrun, htrace⟩ := run_silent hc.isEmpty_eq hready
    rw [hreply, hc.redirection, trace_done, List.append_nil] at htrace
    rw [hc.ready_eq hbase] at hrun
    exact ⟨hrun, htrace⟩
  · have hreply : sh.reply c = .done (sh.state, .say .stderr "cd: ~: HOME not set") := by
      rw [hc.reply_eq, Builtin.replyChangeDirectory, hunknown htilde]
      rfl
    have hready : (sh.reply c).run sys (sh.ready c sys w).2 =
        ((sh.state, .say .stderr "cd: ~: HOME not set"), (sh.ready c sys w).2) := by
      rw [hreply]
      rfl
    obtain ⟨hrun, after, failure, htrace, hutters⟩ := run_say hc.isEmpty_eq hready
    rw [hreply, hc.redirection, trace_done, List.append_nil] at htrace
    exact ⟨hrun, after, failure, htrace, hutters⟩

/-- **The spellings of going home agree.** A blank argument and a tilde leave the same directory. Where `HOME` names a
directory, so does its name. All lines that go home ask for the same before they say anything, and either all of them
enter the directory without a word, or none does, and each is refused with a line that gives the same reason and calls
the directory as it was asked for. Without a home directory nothing moves, and only a tilde is told of. -/
theorem handle_homeward (sh : Shell) (r : Redirection) (sys : System σ) (w : σ) :
    let left (line : String) := ((sh.handle line).run sys w).1
    let errors := ((r.prepare sh.state.currentDir).run sys w).1.2
    (∀ line line' args args', (Command.parse line).IsCd r args → (Command.parse line').IsCd r args' →
      isBlankLine args = true → trimBlanks args' = "~" → left line = left line') ∧
    (∀ home, sh.env.get? "HOME" = some home → home ≠ "" →
      let target := sh.state.resolve (Path.ofString home)
      let real := sys (.canonicalize target) (sh.ready ⟨"cd", [], r⟩ sys w).2
      let dir := real.1.getD target
      ∃ es w', ({} : Redirection).Utters (errors.map ShellError.line) es ∧
        ((sys.Usable real.2 dir ∧ ∀ line args shown, (Command.parse line).IsCd r args →
            Builtin.Homeward home args shown →
            (sh.handle line).run sys w = ({ sh with state := { sh.state with currentDir := dir } }, w') ∧
              (sh.handle line).trace sys w = es) ∨
          ∃ fault, sys.FailsFirst real.2 dir fault ∧ ∀ line args shown, (Command.parse line).IsCd r args →
            Builtin.Homeward home args shown →
            sh.Refuses (Command.parse line) sys w es s!"cd: {shown}: {fault.message}")) ∧
    (Builtin.Homeless sh.env →
      ∃ es w', ({} : Redirection).Utters (errors.map ShellError.line) es ∧
        ∀ line args, (Command.parse line).IsCd r args →
          (isBlankLine args = true → (sh.handle line).run sys w = (sh, w') ∧ (sh.handle line).trace sys w = es) ∧
          (trimBlanks args = "~" → sh.Refuses (Command.parse line) sys w es "cd: ~: HOME not set")) := by
  intro left errors
  refine ⟨fun line line' args args' hline hline' hblank htilde => ?_, fun home hget hne => ?_, fun hless => ?_⟩
  · rcases Builtin.home?_cases sh.env with ⟨hless, -⟩ | ⟨home, hget, hne, -⟩
    · obtain ⟨es, w', -, hstay⟩ := sh.stays_of_homeless r hless sys w
      obtain ⟨hrun, -⟩ := (hstay _ args hline).1 hblank
      obtain ⟨hsame, -⟩ := (hstay _ args' hline').2 htilde
      exact (congrArg Prod.fst hrun).trans hsame.symm
    · have hasks : Builtin.Asks sh.env args home home := .blank hblank hget hne
      have hasks' : Builtin.Asks sh.env args' home "~" := .tilde htilde hget hne
      obtain ⟨es, w', -, ⟨-, henter⟩ | ⟨fault, -, hrefuse⟩⟩ := sh.entered_or_refused r home sys w
      · exact congrArg Prod.fst ((henter _ args home hline hasks).1.trans (henter _ args' "~" hline' hasks').1.symm)
      · exact (hrefuse _ args home hline hasks).1.trans (hrefuse _ args' "~" hline' hasks').1.symm
  · obtain ⟨es, w', hutters, hcases⟩ := sh.entered_or_refused r home sys w
    refine ⟨es, w', hutters, ?_⟩
    rcases hcases with ⟨husable, henter⟩ | ⟨fault, hfails, hrefuse⟩
    · exact .inl ⟨husable, fun line args shown hline hhome => henter _ args shown hline (hhome.asks hget hne)⟩
    · exact .inr ⟨fault, hfails, fun line args shown hline hhome => hrefuse _ args shown hline (hhome.asks hget hne)⟩
  · obtain ⟨es, w', hutters, hstay⟩ := sh.stays_of_homeless r hless sys w
    exact ⟨es, w', hutters, fun line args hline => hstay _ args hline⟩

/-- With a relative `HOME` all ways lead to the same place under the current directory, be it there or not. -/
theorem handle_homeward_linked :
    let sh := Shell.start (Environment.ofList [("HOME", "den")]) { currentDir := Path.ofString "/work" }
    let left (line : String) := ((sh.handle line).run .linked fun _ => none).1.state.currentDir
    let shown (line : String) := printed ((sh.handle line).trace .fullDisk ())
    ["cd", "cd '  '", "cd ' ~'", "cd den"].map left = List.replicate 4 (Path.ofString "/work/den") ∧
      ["cd", "cd '  '", "cd ' ~'", "cd den"].map shown =
        ["den", "den", "~", "den"].map fun name => [(.stderr, s!"cd: {name}: No such file or directory")] := by
  intro sh left shown
  obtain ⟨hsame, hhome, -⟩ := sh.handle_homeward {} .linked fun _ => none
  obtain ⟨es, w', -, ⟨-, henter⟩ | ⟨fault, hfails, -⟩⟩ := hhome "den" (by decide +kernel) (by decide)
  · have hleft {line args name : String} (hline : (Command.parse line).IsCd {} args)
        (hhome : Builtin.Homeward "den" args name) : left line = Path.ofString "/work/den" := by
      have hdir : (System.linked (.canonicalize (sh.state.resolve (Path.ofString "den")))
          (sh.ready ⟨"cd", [], {}⟩ .linked fun _ => none).2).1.getD (sh.state.resolve (Path.ofString "den")) =
            Path.ofString "/work/den" := by decide +kernel
      exact (congrArg (fun x => x.1.state.currentDir) (henter line args name hline hhome).1).trans hdir
    have hnone : (Command.parse "cd").IsCd {} "" := ⟨by decide +kernel, by decide +kernel, by decide +kernel⟩
    have hblank : (Command.parse "cd '  '").IsCd {} "  " := ⟨by decide +kernel, by decide +kernel, by decide +kernel⟩
    have htilde : (Command.parse "cd ' ~'").IsCd {} " ~" := ⟨by decide +kernel, by decide +kernel, by decide +kernel⟩
    have hnamed : (Command.parse "cd den").IsCd {} "den" := ⟨by decide +kernel, by decide +kernel, by decide +kernel⟩
    refine ⟨?_, by decide +kernel⟩
    simp only [List.map_cons, List.map_nil, hleft hnone (.blank (by decide +kernel)),
      hleft hblank (.blank (by decide +kernel)), hleft htilde (.tilde (by decide +kernel)),
      hleft hnamed (.named (by decide +kernel) (by decide))]
    rfl
  · exact absurd ⟨⟨_, rfl, rfl⟩, rfl⟩ hfails.not_usable

end Home

end Shell

/-! ## The way back -/

/-- The text of an absolute path name that ends with no blank asks for that very path name. -/
theorem Builtin.asks_of_isAbsolute (env : Environment) {text : String}
    (habsolute : (Path.ofString text).isAbsolute = true) (htrimmed : ∀ ch ∈ text.toList.getLast?, isBlank ch = false) :
    Asks env text text text := by
  have hhead := Path.head?_of_isAbsolute habsolute
  have htrim : trimBlanks text = text := by
    refine trimBlanks_eq_self (fun ch hch => ?_) htrimmed
    rw [hhead] at hch
    cases hch
    decide
  have hblank : isBlankLine text = false := by
    rw [Bool.eq_false_iff]
    intro hblank
    rw [← trimBlanks_eq_empty_iff, htrim] at hblank
    rw [hblank] at hhead
    cases hhead
  have htilde : text ≠ "~" := by
    rintro rfl
    exact absurd hhead (by decide)
  have hasks : Asks env text (trimBlanks text) (trimBlanks text) := .plain hblank (by rwa [htrim])
  rwa [htrim] at hasks

/-- A line that is written as `cd` and one more word is `cd` with this argument. -/
theorem Command.parse_layout_cd {l : Layout} {text : String} (hwords : l.words = ["cd", text]) (hne : text ≠ "") :
    parse l.text = ⟨"cd", [text], {}⟩ := by
  have hsplit : splitWords l.text = ["cd", text] := by
    rw [splitWords_layout, hwords]
    simp [hne]
  have hextract : Redirection.extract ["cd", text] = (["cd", text], {}) := by
    refine Redirection.extract_eq_self fun v hv => ?_
    obtain rfl : v = "cd" := by simpa using hv
    decide
  rw [parse_eq, hsplit, hextract]
  rfl

/-- **Going to where `pwd` says the shell is.** Let `text` be the text of an absolute path name that ends with no blank,
and let it be the real path of a directory that can be listed. In that directory `pwd` shows just `text`. From
wherever the shell stands, a line with `cd` and `text`, written as one word in any way, leads there without a word. -/
theorem Shell.handle_pwd_cd (sys : System σ) (w : σ) (text : String)
    (habsolute : (Path.ofString text).isAbsolute = true)
    (htrimmed : ∀ ch ∈ text.toList.getLast?, isBlank ch = false)
    (hfixed : (sys (.canonicalize (Path.ofString text)) w).1 = some (Path.ofString text))
    (husable : sys.Usable (sys (.canonicalize (Path.ofString text)) w).2 (Path.ofString text)) :
    (∀ (sh : Shell) (line : String) (args : List String) (w₀ : σ) (t : Transcript),
      sh.state.currentDir = Path.ofString text → Command.parse line = ⟨"pwd", args, {}⟩ →
      (sh.handle line).run sys.transcribed (w₀, t) = (sh, w₀, t.add .stdout text)) ∧
    ∀ (sh : Shell) (l : Layout), l.words = ["cd", text] →
      ((sh.handle l.text).run sys w).1 = { sh with state := { sh.state with currentDir := Path.ofString text } } ∧
        ∀ e ∈ (sh.handle l.text).trace sys w, e.request.IsLook := by
  refine ⟨fun sh line args w₀ t hdir hline => ?_, fun sh l hwords => ?_⟩
  · have hname : Command.isEmpty ⟨"pwd", args, {}⟩ = false := rfl
    have hprepare : ({} : Redirection).prepare sh.state.currentDir = .done ({}, []) := rfl
    have hlookup : Builtin.lookup "pwd" = some .pwd := rfl
    rw [handle_eq_runCommand, hline, runCommand, runOver, hprepare, done_bind]
    simp only [reportAll, pure_def, done_bind, hname, Bool.false_eq_true, if_false, performOver, Redirection.over_empty,
      dispatch, hlookup, Builtin.execute, hdir, Path.display_ofString, Sink.console_eq, ask_bind, run_ask]
    rfl
  · have hne : text ≠ "" := by
      rintro rfl
      cases Path.head?_of_isAbsolute habsolute
    have hparse := Command.parse_layout_cd hwords hne
    have hc : Command.IsCd ⟨"cd", [text], {}⟩ {} text := ⟨rfl, rfl, rfl⟩
    have hreply := reply_of_asks hc (Builtin.asks_of_isAbsolute sh.env habsolute htrimmed)
    rw [State.resolve, if_pos habsolute] at hreply
    have hready : (sh.ready ⟨"cd", [text], {}⟩ sys w).2 = w := rfl
    rcases Builtin.run_replyEnter_cases sh.state (Path.ofString text) sys w with ⟨-, henter⟩ | ⟨fault, hfails, -⟩
    · have hrun := henter text
      rw [hfixed, Option.getD_some, ← hreply] at hrun
      rw [handle_eq_runCommand, hparse]
      obtain ⟨hleft, htrace⟩ := run_silent hc.isEmpty_eq hrun
      refine ⟨congrArg Prod.fst hleft, fun e he => ?_⟩
      rw [htrace] at he
      exact (sh.only_reply _).of_mem_trace he
    · rw [hfixed] at hfails
      exact absurd husable hfails.not_usable

/-- Written as `cd '/a '\'\"\\"b > ~"`, with a blank in front. -/
def quotedLayout : Layout where
  lead := [' ']
  slots :=
    [(⟨[.bare 'c' (by decide), .bare 'd' (by decide)], by simp [Piece.isSeparator]⟩, [' ']),
      (⟨[.single ['/', 'a', ' '] (by decide), .escape '\'', .escape '"', .escape '\\',
          .double [.plain 'b' (by decide), .plain ' ' (by decide), .plain '>' (by decide), .plain ' ' (by decide),
            .plain '~' (by decide)]],
        by simp [Piece.isSeparator]⟩, [])]
  lead_blank := by simp [isBlank]
  gap_blank := by simp [isBlank]
  gap_ne_nil := by simp

/-- A directory whose name has blanks, quotes, a backslash, an operator and a tilde in it. A name that ends with a blank
would lead elsewhere. -/
theorem Shell.handle_pwd_cd_linked :
    let text := "/a '\"\\b > ~"
    let sh := Shell.start {} { currentDir := Path.ofString "/work" }
    let left (line : String) := ((sh.handle line).run .linked fun _ => none).1.state.currentDir
    quotedLayout.words = ["cd", text] ∧ left quotedLayout.text = Path.ofString text ∧
      left "cd '/a '" = Path.ofString "/a" := by
  intro text sh left
  have hwords : quotedLayout.words = ["cd", text] := by decide +kernel
  have hlast : text.toList.getLast? = some '~' := by decide +kernel
  have htrimmed : ∀ ch ∈ text.toList.getLast?, isBlank ch = false := by
    rw [hlast]
    rintro ch ⟨⟩
    decide
  have hback := handle_pwd_cd .linked (fun _ => none) text (by decide +kernel) htrimmed rfl ⟨⟨_, rfl, rfl⟩, rfl⟩
  exact ⟨hwords, congrArg (fun sh' => sh'.state.currentDir) (hback.2 sh quotedLayout hwords).1, by decide +kernel⟩

end LineShell
