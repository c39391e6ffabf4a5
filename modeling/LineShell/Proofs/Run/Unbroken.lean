import LineShell.Proofs.Command.Remainder
import LineShell.Proofs.Run.Move
import LineShell.Proofs.Run.Naming
import LineShell.Proofs.Run.Screens
import LineShell.Proofs.Run.Streams
import LineShell.Proofs.Run.Variables
import LineShell.Proofs.Text.Unbroken

/-!
# One write is one line

The words of a line are made of its characters, and all that the shell has to say is put together from words, from
path names and from the texts of faults. So where the line, the current directory and the variables have no newline,
and no fault brings one in, no text that the shell writes has one: each write is one line, and what a console or a
file has got is read back as the texts that were written, one by one.

* `Command.Unbroken.of_line`: the command of a line without a newline.
* `Shell.yields_unbroken_reply`, `Shell.yieldsIf_attempt`: what a command comes to, and what is told of it.
* `Action.lines_transcribed`: what a console that keeps its lines has been told by a run.
* `Shell.unbroken_handle`: the texts that a line writes.
-/

namespace LineShell

open LineShell.Action

variable {σ : Type} {sys : System σ} {w : σ}

/-! ## Faults -/

/-- The fault that the answer tells of. -/
def Event.fault? : Event → Option Fault
  | ⟨.create _, .error fault⟩ | ⟨.appendLine _ _, .error fault⟩ | ⟨.openAppend _, .error fault⟩
  | ⟨.print _ _, .error fault⟩ | ⟨.complain _, .error fault⟩
  | ⟨.start _, .error (.spawn fault)⟩ | ⟨.start _, .error (.wait fault)⟩ => some fault
  | _ => none

/-- A text that the system gives for its fault has no newline. -/
def Event.Unbroken (e : Event) : Prop :=
  ∀ text, e.fault? = some (.other text) → LineShell.Unbroken text

/-- The texts that the system gives for its faults have no newline. -/
def System.Unbroken (sys : System σ) : Prop :=
  ∀ r w, Event.Unbroken ⟨r, (sys r w).1⟩

/-- The message of a fault has no newline, since the texts of error numbers have none. -/
theorem Event.Unbroken.message {e : Event} (h : e.Unbroken) {fault : Fault} (hfault : e.fault? = some fault) :
    LineShell.Unbroken fault.message :=
  Fault.unbroken_message fun text htext => h text (htext ▸ hfault)

theorem System.Unbroken.of_mem_trace (h : sys.Unbroken) {α : Type} {x : Action α} {e : Event}
    (he : e ∈ x.trace sys w) : e.Unbroken := by
  obtain ⟨w', hanswer⟩ := exists_of_mem_trace he
  rw [hanswer]
  exact h _ w'

theorem System.Unbroken.transcribed (h : sys.Unbroken) : sys.transcribed.Unbroken := by
  rintro r ⟨w, t⟩
  cases r with
  | print s line => exact fun text htext => nomatch htext
  | _ => exact h _ w

namespace Machine

theorem asFault_ne_other {α : Type} (x : Except Errno α) (text : String) : asFault x ≠ .error (.other text) := by
  cases x <;> nofun

theorem withFile_ne_other {α : Type} (m : Machine) (p : Path) (o : FileTree.Opening)
    (f : Nat → Machine → Except Errno α × Machine) (text : String) : (m.withFile p o f).1 ≠ .error (.other text) := by
  unfold withFile
  split
  · nofun
  split
  · nofun
  · exact asFault_ne_other _ text

theorem startChild_ne_other (m : Machine) (c : Child) (text : String) :
    (m.startChild c).1 ≠ .error (.spawn (.other text)) ∧ (m.startChild c).1 ≠ .error (.wait (.other text)) := by
  unfold startChild
  split
  · exact ⟨nofun, nofun⟩
  split
  · exact ⟨nofun, nofun⟩
  simp only
  split <;> exact ⟨nofun, nofun⟩

/-- A machine gives no text of its own for a fault. -/
theorem unbroken_answer : Machine.answer.Unbroken := by
  intro r m text hfault
  have hsome {α : Type} {x : Except Fault α} (hx : x ≠ .error (.other text)) {fault : Fault} (heq : x = .error fault)
      (hfault : some fault = some (.other text)) : False :=
    hx (heq.trans (congrArg Except.error (Option.some.inj hfault)))
  exfalso
  generalize hanswer : (answer r m).1 = a at hfault
  cases r with
  | create t | appendLine p line | openAppend p =>
    rcases a with fault | done
    · exact hsome (withFile_ne_other m _ _ _ text) hanswer hfault
    · cases hfault
  | print s line =>
    rcases a with fault | done
    · exact hsome (asFault_ne_other _ text) hanswer hfault
    · cases hfault
  | complain line =>
    rcases a with fault | done
    · exact hsome (asFault_ne_other _ text) hanswer hfault
    · cases hfault
  | start c =>
    obtain ⟨hspawn, hwait⟩ := m.startChild_ne_other c text
    rcases a with (fault | fault) | ending
    · obtain rfl := Option.some.inj hfault
      exact hspawn hanswer
    · obtain rfl := Option.some.inj hfault
      exact hwait hanswer
    · cases hfault
  | _ => cases hfault

end Machine

/-- Nothing that the error tells of has a newline. -/
def ShellError.Unbroken : ShellError → Prop
  | .commandNotFound name => LineShell.Unbroken name
  | .redirect path fault => path.Unbroken ∧ LineShell.Unbroken fault.message
  | .spawn name fault | .wait name fault => LineShell.Unbroken name ∧ LineShell.Unbroken fault.message
  | .output fault => LineShell.Unbroken fault.message

theorem ShellError.Unbroken.message {e : ShellError} (h : e.Unbroken) : LineShell.Unbroken e.message := by
  cases e with
  | commandNotFound name => exact unbroken_append.2 ⟨h, by decide⟩
  | redirect path fault =>
    exact unbroken_append.2 ⟨unbroken_append.2 ⟨Path.unbroken_display h.1, by decide⟩, h.2⟩
  | spawn name fault | wait name fault => exact unbroken_append.2 ⟨unbroken_append.2 ⟨h.1, by decide⟩, h.2⟩
  | output fault => exact unbroken_append.2 ⟨by decide, h⟩

/-! ## The command of a line -/

/-- The targets have path names without a newline. -/
def Redirection.Unbroken (r : Redirection) : Prop :=
  ∀ s t, r.target s = some t → t.path.Unbroken

/-- No part of the command has a newline. -/
structure Command.Unbroken (c : Command) : Prop where
  name : LineShell.Unbroken c.name
  args : ∀ arg ∈ c.args, LineShell.Unbroken arg
  redirection : c.redirection.Unbroken

theorem Unbroken.of_mem_splitWords {line word : String} (h : Unbroken line) (hword : word ∈ splitWords line) :
    Unbroken word :=
  h.of_subset fun _ hc => (flatMap_splitWords_sublist line).subset (List.mem_flatMap.2 ⟨word, hword, hc⟩)

theorem Command.Unbroken.of_line {line : String} (h : LineShell.Unbroken line) : (parse line).Unbroken := by
  have hleft : ∀ word ∈ (Redirection.extract (splitWords line)).1, LineShell.Unbroken word :=
    fun word hword => h.of_mem_splitWords (Redirection.mem_of_mem_left hword)
  rw [parse_eq]
  refine ⟨?_, fun arg harg => hleft arg (List.mem_of_mem_tail harg), fun s t ht => ?_⟩
  · cases hwords : (Redirection.extract (splitWords line)).1 with
    | nil => exact (by decide : LineShell.Unbroken "")
    | cons name args => exact hleft name (hwords ▸ List.mem_cons_self)
  · obtain ⟨path, hpath, heq⟩ := Redirection.exists_word_of_target ht
    rw [heq, Path.unbroken_ofString]
    exact h.of_mem_splitWords hpath

theorem Command.Unbroken.joinedArgs {c : Command} (h : c.Unbroken) : LineShell.Unbroken c.joinedArgs :=
  unbroken_intercalate (by decide) h.args

/-! ## The shell -/

/-- Neither the current directory nor a variable nor a directory of the search path has a newline. -/
structure Shell.Unbroken (sh : Shell) : Prop where
  currentDir : sh.state.currentDir.Unbroken
  env : ∀ key value, sh.env.get? key = some value → LineShell.Unbroken value
  dirs : ∀ dir ∈ sh.searchPath.dirs, dir.Unbroken

theorem SearchPath.flatten_splitColons_sublist (cs : List Char) : (splitColons cs).flatten.Sublist cs := by
  induction cs with
  | nil => exact List.Sublist.refl []
  | cons c cs ih =>
    rw [splitColons]
    split_ifs
    · exact ih.cons c
    · cases hpieces : splitColons cs with
      | nil => simp
      | cons piece pieces =>
        rw [hpieces] at ih
        exact ih.cons_cons c

theorem Shell.unbroken_start {env : Environment} {state : State} (hdir : state.currentDir.Unbroken)
    (henv : ∀ key value, env.get? key = some value → LineShell.Unbroken value) : (start env state).Unbroken := by
  refine ⟨hdir, henv, fun dir hdir => ?_⟩
  obtain ⟨value, hvalue, entry, hentry, -, rfl⟩ := SearchPath.exists_entry_of_mem_dirs hdir
  rw [Path.unbroken_ofString]
  refine (henv _ value hvalue).of_subset fun c hc => ?_
  rw [String.toList_ofList] at hc
  exact (SearchPath.flatten_splitColons_sublist _).subset (List.mem_flatten.2 ⟨entry, hentry, hc⟩)

/-! ## What a command comes to -/

/-- What the reply has to say, or the name of the program that it starts, has no newline. -/
def Reply.Unbroken : Reply → Prop
  | .silent => True
  | .say _ line => LineShell.Unbroken line
  | .fail e => e.Unbroken
  | .start program => LineShell.Unbroken program.name

namespace Builtin

variable {sh : Shell} {args : String}

theorem yields_unbroken_replyDescribe (hsh : sh.Unbroken) (hargs : Unbroken args) :
    (replyDescribe sh.searchPath args).Yields Reply.Unbroken := by
  unfold replyDescribe
  split_ifs
  · trivial
  · exact unbroken_append.2 ⟨hargs, by decide⟩
  · refine yields_bind (sh.searchPath.yields_find args) fun found hfound => ?_
    cases found with
    | none => exact unbroken_append.2 ⟨hargs, by decide⟩
    | some p =>
      obtain ⟨dir, hdir, rfl⟩ := hfound p rfl
      have hplace := (hsh.dirs dir hdir).join (Path.unbroken_ofString.2 hargs)
      exact unbroken_append.2 ⟨unbroken_append.2 ⟨hargs, by decide⟩, Path.unbroken_display hplace⟩

theorem DirectoryFault.unbroken_message (fault : DirectoryFault) : Unbroken fault.message := by
  cases fault <;> decide

theorem yields_unbroken_replyEnter (state : State) (target : Path) {shown : String} (hshown : Unbroken shown) :
    (replyEnter state target shown).Yields fun x => x.2.Unbroken := by
  refine yields_bind (yields_trivial _) fun real? _ => yields_bind (yields_trivial _) fun fault? _ => ?_
  cases fault? with
  | none => trivial
  | some fault =>
    have hname : Unbroken ("cd: " ++ shown ++ ": ") :=
      unbroken_append.2 ⟨unbroken_append.2 ⟨by decide, hshown⟩, by decide⟩
    exact unbroken_append.2 ⟨hname, fault.unbroken_message⟩

/-- What `cd` calls its directory is its argument, the home directory, or a tilde. -/
theorem unbroken_shown (hsh : sh.Unbroken) (hargs : Unbroken args) {dir shown : String}
    (h : destination sh.env args = .go dir shown) : Unbroken shown := by
  rcases destination_cases sh.env args with ⟨-, -, hstay⟩ | ⟨-, -, hhomeless⟩ | ⟨text, shown', hasks, hgo⟩
  · cases hstay.symm.trans h
  · cases hhomeless.symm.trans h
  · cases hgo.symm.trans h
    cases hasks with
    | blank _ hhome => exact hsh.env _ _ hhome
    | tilde => decide
    | plain => exact hargs.trimBlanks

theorem yields_unbroken_reply (hsh : sh.Unbroken) (hargs : Unbroken args) (b : Builtin) :
    (b.reply sh.env sh.searchPath sh.state args).Yields fun x => x.2.Unbroken := by
  cases b with
  | echo => exact hargs
  | exit => trivial
  | pwd => exact Path.unbroken_display hsh.currentDir
  | type => exact yields_bind (yields_unbroken_replyDescribe hsh hargs) fun reply hreply => hreply
  | cd =>
    unfold reply replyChangeDirectory
    cases hdestination : destination sh.env args with
    | stay => trivial
    | homeless => exact (by decide : Unbroken "cd: ~: HOME not set")
    | go dir shown => exact yields_unbroken_replyEnter sh.state _ (unbroken_shown hsh hargs hdestination)

end Builtin

/-- **What a command has to say has no newline.** -/
theorem Shell.yields_unbroken_reply {sh : Shell} {c : Command} (hsh : sh.Unbroken) (hc : c.Unbroken) :
    (sh.reply c).Yields fun x => x.2.Unbroken := by
  unfold Shell.reply
  cases Builtin.lookup c.name with
  | some b => exact b.yields_unbroken_reply hsh hc.joinedArgs
  | none =>
    have hresolve : (External.resolve sh.state sh.searchPath c.name c.args).Yields fun found =>
        (∀ program, found = .ok program → program.name = c.name) ∧
          ∀ e, found = .error e → e = .commandNotFound c.name := by
      refine yields_bind (yields_trivial _) fun found _ => ?_
      cases found with
      | none => exact ⟨(fun _ h => nomatch h), fun e h => (Except.error.inj h).symm⟩
      | some image => exact ⟨fun program h => congrArg External.name (Except.ok.inj h).symm, (fun _ h => nomatch h)⟩
    refine yields_bind hresolve fun found hfound => ?_
    cases found with
    | ok program =>
      show LineShell.Unbroken program.name
      rw [hfound.1 program rfl]
      exact hc.name
    | error e =>
      show e.Unbroken
      rw [hfound.2 e rfl]
      exact hc.name

/-! ## What is told of a line -/

namespace Redirection

variable {r : Redirection} {base : Path}

theorem yieldsIf_over (hr : r.Unbroken) (s : Stream) (line : String) :
    (r.over Sink.console s line).YieldsIf Event.Unbroken fun o => ∀ e ∈ o.error?, e.Unbroken := by
  cases htarget : r.target s with
  | none =>
    rw [over_of_none htarget, Sink.console_eq]
    intro printed hprinted
    rcases printed with fault | ⟨⟩
    · rintro e ⟨⟩
      exact hprinted.message rfl
    · exact fun e he => nomatch he
  | some t =>
    rw [over_of_some htarget]
    intro appended happended
    rcases appended with fault | ⟨⟩
    · intro printed hprinted
      rcases printed with below | ⟨⟩
      · rintro e ⟨⟩
        exact hprinted.message rfl
      · rintro e ⟨⟩
        exact ⟨hr s t htarget, happended.message rfl⟩
    · exact fun e he => nomatch he

theorem yieldsIf_prepareTarget (hbase : base.Unbroken) {t? : Option Target} (ht : ∀ t ∈ t?, t.path.Unbroken) :
    (prepareTarget base t?).YieldsIf Event.Unbroken fun x =>
      (∀ t ∈ x.1, t.path.Unbroken) ∧ ∀ e ∈ x.2, e.Unbroken := by
  cases t? with
  | none => exact ⟨(fun _ h => nomatch h), List.forall_mem_nil _⟩
  | some t =>
    have hresolved : (t.resolve base).path.Unbroken := by
      rw [Target.resolve_eq_join]
      exact hbase.join (ht t rfl)
    rw [prepareTarget_some]
    intro created hcreated
    rcases created with fault | ⟨⟩
    · exact ⟨(fun _ h => nomatch h), List.forall_mem_singleton.2 ⟨hresolved, hcreated.message rfl⟩⟩
    · refine ⟨?_, List.forall_mem_nil _⟩
      rintro t ⟨⟩
      exact hresolved

theorem yieldsIf_prepare (hbase : base.Unbroken) (hr : r.Unbroken) :
    (r.prepare base).YieldsIf Event.Unbroken fun x => x.1.Unbroken ∧ ∀ e ∈ x.2, e.Unbroken := by
  refine yieldsIf_bind (yieldsIf_prepareTarget hbase (hr .stdout)) fun out hout => ?_
  refine yieldsIf_bind (yieldsIf_prepareTarget hbase (hr .stderr)) fun err herr => ?_
  refine ⟨fun s => ?_, List.forall_mem_append.2 ⟨hout.2, herr.2⟩⟩
  cases s with
  | stdout => exact hout.1
  | stderr => exact herr.1

end Redirection

/-- No line of the deed has a newline. -/
structure Deed.Unbroken (d : Deed) : Prop where
  said : ∀ l ∈ d.said, LineShell.Unbroken l.2
  unopened : ∀ e ∈ d.unopened, e.Unbroken
  failure : ∀ e ∈ d.failure, e.Unbroken

theorem Deed.unbroken_empty : ({} : Deed).Unbroken :=
  ⟨(fun _ h => nomatch h), List.forall_mem_nil _, (fun _ h => nomatch h)⟩

theorem External.yieldsIf_outletTold (r : Redirection) {t? : Option Target}
    (ht : ∀ t ∈ t?, t.path.Unbroken) :
    (outletTold t? (r.over Sink.console)).YieldsIf Event.Unbroken fun x => ∀ e ∈ x.2, e.Unbroken := by
  cases t? with
  | none => exact List.forall_mem_nil _
  | some t =>
    rw [outletTold_some]
    intro opened hopened
    rcases opened with fault | handle
    · have hrefused : (ShellError.redirect t.path fault).Unbroken := ⟨ht t rfl, hopened.message rfl⟩
      exact yieldsIf_bind ((yields_trivial _).yieldsIf _) fun _ _ => List.forall_mem_singleton.2 hrefused
    · exact List.forall_mem_nil _

theorem Reply.yieldsIf_carryOut {r : Redirection} (hr : r.Unbroken) (sh : Shell) {reply : Reply}
    (hreply : reply.Unbroken) :
    (reply.carryOut r sh (r.over Sink.console)).YieldsIf Event.Unbroken Deed.Unbroken := by
  cases reply with
  | silent => exact Deed.unbroken_empty
  | say s line =>
    refine yieldsIf_bind (r.yieldsIf_over hr s line) fun o ho => ⟨?_, List.forall_mem_nil _, ho⟩
    rintro l ⟨⟩
    exact hreply
  | fail e =>
    refine ⟨(fun _ h => nomatch h), List.forall_mem_nil _, ?_⟩
    rintro e ⟨⟩
    exact hreply
  | start program =>
    refine yieldsIf_bind (External.yieldsIf_outletTold r (hr .stdout)) fun out hout => ?_
    refine yieldsIf_bind (External.yieldsIf_outletTold r (hr .stderr)) fun err herr => ?_
    intro ended hended
    refine ⟨(fun _ h => nomatch h), List.forall_mem_append.2 ⟨hout, herr⟩, ?_⟩
    rcases ended with (fault | fault) | ending
    · rintro e ⟨⟩
      exact ⟨hreply, hended.message rfl⟩
    · rintro e ⟨⟩
      exact ⟨hreply, hended.message rfl⟩
    · exact fun _ h => nomatch h

/-- No line that is told has a newline. -/
structure Account.Unbroken (a : Account) : Prop extends a.toDeed.Unbroken where
  dropped : ∀ e ∈ a.dropped, e.Unbroken

theorem Account.Unbroken.told {a : Account} (h : a.Unbroken) : ∀ l ∈ a.told, LineShell.Unbroken l.2 := by
  intro l hl
  simp only [Account.told, Account.sent, Deed.lines, List.mem_append, List.mem_map, Option.mem_toList] at hl
  rcases hl with ⟨e, he, rfl⟩ | (hsaid | ⟨e, he, rfl⟩) | ⟨e, he, rfl⟩
  · exact (h.dropped e he).message
  · exact h.said l hsaid
  · exact (h.unopened e he).message
  · exact (h.failure e he).message

namespace Shell

variable {sh : Shell} {c : Command}

theorem yieldsIf_carryOut (hsh : sh.Unbroken) (hc : c.Unbroken) {kept : Redirection} (hkept : kept.Unbroken) :
    (sh.carryOut c kept).YieldsIf Event.Unbroken fun x => x.2.Unbroken := by
  unfold carryOut
  split_ifs
  · exact Deed.unbroken_empty
  · refine yieldsIf_bind ((yields_unbroken_reply hsh hc).yieldsIf _) fun x hx => ?_
    exact yieldsIf_bind (Reply.yieldsIf_carryOut hkept sh hx) fun deed hdeed => hdeed

/-- **What is told of a command has no newline.** -/
theorem yieldsIf_attempt (hsh : sh.Unbroken) (hc : c.Unbroken) :
    (sh.attempt c).YieldsIf Event.Unbroken fun x => x.2.Unbroken := by
  refine yieldsIf_bind (Redirection.yieldsIf_prepare hsh.currentDir hc.redirection) fun prepared hprepared => ?_
  refine yieldsIf_bind ((yields_trivial _).yieldsIf _) fun _ _ => ?_
  exact yieldsIf_bind (yieldsIf_carryOut hsh hc hprepared.1) fun x hx => ⟨hx, hprepared.2⟩

theorem unbroken_attempt (hsh : sh.Unbroken) (hc : c.Unbroken) (hsys : sys.Unbroken) (w : σ) :
    ((sh.attempt c).run sys w).1.2.Unbroken :=
  (yieldsIf_attempt hsh hc).run fun _ he => hsys.of_mem_trace he

/-- Each text that is written is one that is told. -/
theorem unbroken_of_text? (hsh : sh.Unbroken) (hc : c.Unbroken) (hsys : sys.Unbroken) {e : Event}
    (he : e ∈ (sh.runCommand c).trace sys w) {text : String} (htext : e.request.text? = some text) :
    LineShell.Unbroken text := by
  have htold := (unbroken_attempt hsh hc hsys w).told
  obtain ⟨before, after, htrace, hbefore, hafter⟩ := sh.utters_runCommand sys c w
  have htext_eq {r : Redirection} {ls : List (Stream × String)} {es : List Event} (h : r.Utters ls es) (hmem : e ∈ es) :
      ∃ l ∈ ls, l.2 = text := by
    obtain ⟨l, hl, group, hgroup, hvoiced⟩ := h.exists_of_text? hmem htext
    exact ⟨l, hl, Option.some.inj ((hvoiced.text?_eq e hgroup).symm.trans htext)⟩
  rw [htrace, List.mem_append] at he
  rcases he with he | he
  · obtain ⟨l, hl, rfl⟩ := htext_eq hbefore he
    exact htold l (List.mem_append_left _ hl)
  · obtain ⟨l, hl, rfl⟩ := htext_eq hafter he
    exact htold l (List.mem_append_right _ hl)

end Shell

/-! ## Reading back -/

/-- A console that keeps its lines has been told what the run shows on the console. -/
theorem Action.lines_transcribed {α : Type} (x : Action α) (y : σ × Transcript) :
    (x.run sys.transcribed y).2.2.lines = y.2.lines ++ printed (x.trace sys.transcribed y) := by
  induction x generalizing y with
  | done a => exact (List.append_nil _).symm
  | ask r k ih =>
    rw [run_ask, trace_ask, ih]
    cases r with
    | print s line => exact List.append_assoc ..
    | _ => rfl

theorem Bytes.ofString_join (texts : List String) : ofString (String.join texts) = texts.flatMap ofString := by
  induction texts with
  | nil => rfl
  | cons text texts ih => rw [String.join_cons, ofString_append, ih, List.flatMap_cons]

/-- The lines of a console are read back one by one. -/
theorem Transcript.rawLines_text {t : Transcript} (h : ∀ l ∈ t.lines, Unbroken l.2) (s : Stream) :
    Input.rawLines (Bytes.ofString (t.text s)) = (t.lines.filter (·.1 = s)).map fun l => .ofText l.2 := by
  have hlines : ∀ line ∈ (t.lines.filter (·.1 = s)).map Prod.snd, Unbroken line := by
    intro line hline
    obtain ⟨l, hl, rfl⟩ := List.mem_map.1 hline
    exact h l (List.mem_of_mem_filter hl)
  have hread := Input.rawLines_lines hlines
  rw [List.flatMap_map, List.map_map] at hread
  rw [text, Bytes.ofString_join, List.flatMap_map]
  exact hread

theorem exists_of_mem_printed {l : Stream × String} {es : List Event} (h : l ∈ printed es) :
    ∃ e ∈ es, e.request.text? = some l.2 := by
  obtain ⟨⟨q, answer⟩, he, hprinted⟩ := List.mem_filterMap.1 h
  refine ⟨_, he, ?_⟩
  cases q with
  | print s line =>
    cases hprinted
    rfl
  | _ => cases hprinted

theorem exists_of_mem_additions {F : Type} [DecidableEq F] {file : Path → Option F} {f : F} {text : String}
    {es : List Event} (h : text ∈ additions file f es) : ∃ e ∈ es, e.request.text? = some text := by
  obtain ⟨⟨q, answer⟩, he, haddition⟩ := List.mem_filterMap.1 h
  refine ⟨_, he, ?_⟩
  cases q with
  | appendLine p line =>
    rcases answer with fault | ⟨⟩
    · cases haddition
    · exact (Option.ite_none_right_eq_some.1 haddition).2
  | _ => cases haddition

/-! ## Lines of builtins -/

theorem childless_of_started {es : List Event} (h : started es = []) : Childless es := by
  intro e he child hchild
  have hnone := List.filterMap_eq_nil_iff.1 h e he
  rw [hchild] at hnone
  cases hnone

theorem Shell.childless_of_builtin (sh : Shell) {c : Command} (h : (Builtin.lookup c.name).isSome = true) :
    Childless ((sh.runCommand c).trace sys w) := by
  refine childless_of_started ?_
  rw [sh.started_runCommand]
  exact sh.started_carryOut_eq_nil (.inr (program?_reply_of_builtin h))

namespace Shell

/-- **One write is one line.** Let the line, the current directory and the values of the variables have no newline,
nor the texts of the faults of the system. Then no text that the line writes, to a target, to the console or to the
process, has one, and neither has the message of an error. So a console that keeps its lines has as many more as were
written to it, and these are read back as they were written. So has a file that a target denotes, when it held whole
lines and no program runs, as none does for a builtin. -/
theorem unbroken_handle (env : Environment) (state : State) (line : String) (sys : System σ) (w : σ)
    (hline : LineShell.Unbroken line) (hdir : state.currentDir.Unbroken)
    (henv : ∀ key value, env.get? key = some value → LineShell.Unbroken value) (hsys : sys.Unbroken) :
    let sh := start env state
    let c := Command.parse line
    let a := ((sh.attempt c).run sys w).1.2
    let es := (sh.handle line).trace sys w
    (∀ e ∈ es, ∀ text, e.request.text? = some text → LineShell.Unbroken text) ∧
    (∀ e ∈ a.dropped ++ a.unopened ++ a.failure.toList, LineShell.Unbroken e.message) ∧
    (∀ t : Transcript, (∀ l ∈ t.lines, LineShell.Unbroken l.2) →
      let t' := ((sh.handle line).run sys.transcribed (w, t)).2.2
      let shown := printed ((sh.handle line).trace sys.transcribed (w, t))
      t'.lines = t.lines ++ shown ∧
        ∀ s, Input.rawLines (Bytes.ofString (t'.text s)) =
          Input.rawLines (Bytes.ofString (t.text s)) ++ (shown.filter (·.1 = s)).map fun l => .ofText l.2) ∧
    ((Builtin.lookup c.name).isSome = true → Childless es) ∧
    ∀ {F : Type} [DecidableEq F] (fs : FileSystem sys F) (t : Target) (f : F), fs.Firm → Childless es →
      t ∈ a.kept.targets → fs.file t.path = some f →
      (∀ p text fault, ⟨.appendLine p text, .error fault⟩ ∈ es → fs.file p = some f → fs.AllOrNothing) →
      let held := if a.kept.Truncates fs.file f then [] else (fs.contents w f).getD []
      let added := additions fs.file f es
      fs.contents ((sh.handle line).run sys w).2 f = some (held ++ Bytes.ofLines added) ∧
        ((∀ l ∈ Input.rawLines held, l.ended = true) →
          Input.rawLines (held ++ Bytes.ofLines added) = Input.rawLines held ++ added.map .ofText) := by
  intro sh c a es
  have hsh : sh.Unbroken := unbroken_start hdir henv
  have hc : c.Unbroken := .of_line hline
  have ha : a.Unbroken := unbroken_attempt hsh hc hsys w
  have htexts : ∀ e ∈ es, ∀ text, e.request.text? = some text → LineShell.Unbroken text :=
    fun e he text => unbroken_of_text? hsh hc hsys he
  refine ⟨htexts, ?_, fun t ht => ?_, sh.childless_of_builtin, fun fs t f hfirm hchildless hkept hfile hrefused => ?_⟩
  · intro e he
    have hfailure : ∀ e ∈ a.failure.toList, e.Unbroken := fun e he => ha.failure e (Option.mem_toList.1 he)
    have herrors := List.forall_mem_append.2 ⟨List.forall_mem_append.2 ⟨ha.dropped, ha.unopened⟩, hfailure⟩
    exact (herrors e he).message
  · intro t' shown
    have hlines : t'.lines = t.lines ++ shown := lines_transcribed _ _
    have ht' : ∀ l ∈ t'.lines, LineShell.Unbroken l.2 := by
      rw [hlines]
      refine List.forall_mem_append.2 ⟨ht, fun l hl => ?_⟩
      obtain ⟨e, he, htext⟩ := exists_of_mem_printed hl
      exact unbroken_of_text? hsh hc hsys.transcribed he htext
    refine ⟨hlines, fun s => ?_⟩
    rw [Transcript.rawLines_text ht', Transcript.rawLines_text ht, hlines, List.filter_append, List.map_append]
  · intro held added
    have hadded : ∀ text ∈ added, LineShell.Unbroken text := by
      intro text hmem
      obtain ⟨e, he, htext⟩ := exists_of_mem_additions hmem
      exact htexts e he text htext
    have hready : a.kept = (sh.ready c sys w).1 := sh.kept_attempt sys w c
    refine ⟨?_, fun hwhole => ?_⟩
    · have haims : (sh.ready c sys w).1.Aims fs.file f := ⟨t, hready ▸ hkept, hfile⟩
      simp only [held, hready]
      exact sh.contents_runCommand c hfirm haims hchildless hrefused
    · rw [Input.rawLines_append hwhole]
      exact congrArg _ (Input.rawLines_lines hadded)

/-- A name that is not found is told of with its blanks, in a line of its own. -/
theorem unbroken_handle_linked :
    let held (p : Path) := if p = Path.ofString "/f" then some (Bytes.ofString "old\n") else none
    let env := Environment.ofList [("HOME", "/home"), ("PATH", "/bin")]
    let line := "type 'no  such' 2>> /l"
    let left := (((start env { currentDir := .root }).handle line).run .linked held).2
    System.linked.Unbroken ∧ LineShell.Unbroken line ∧
      (FileSystem.linked.contents left (Path.ofString "/f")).map Input.rawLines =
        some [.ofText "old", .ofText "no  such: not found"] := by
  intro held env line left
  have hsys : System.linked.Unbroken := by
    intro r w text htext
    cases r <;> cases htext
  have hline : LineShell.Unbroken line := by decide
  have henv : ∀ key value, env.get? key = some value → LineShell.Unbroken value := by
    have hvars : ∀ p ∈ env.vars, LineShell.Unbroken p.2 := by decide +kernel
    exact fun key value h => hvars (key, value) (Environment.mem_vars.2 h)
  obtain ⟨-, -, -, hbuiltin, hfiles⟩ := unbroken_handle env { currentDir := .root } line .linked held hline (by decide)
    henv hsys
  obtain ⟨hcontents, hread⟩ := hfiles FileSystem.linked ⟨Path.ofString "/l", true⟩ (Path.ofString "/f")
    FileSystem.firm_linked (hbuiltin (by decide +kernel)) (by decide +kernel) (by decide +kernel)
    fun p text fault he _ => nomatch System.smooth_linked (Shell.only_handle_forEditor _ _) held _ he
  refine ⟨hsys, hline, ?_⟩
  rw [hcontents, Option.map_some, hread (by decide +kernel)]
  decide +kernel

end Shell

end LineShell
