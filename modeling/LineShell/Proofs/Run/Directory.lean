import LineShell.Proofs.Path.Join
import LineShell.Proofs.Run.Requests
import LineShell.Machine.System

/-!
# The current directory

The directory of a shell is the one that it was started with, until a line with `cd` *enters* another one.
What is entered is the real path of the place that the argument names, or its joined path name where there is
no real path, and the last that the line does is to find that this very path name is a directory that can be
listed. So a shell that starts in an absolute directory always stands in one, and shows the system absolute
path names of all its targets and of all programs that are named directly.

* `Shell.Entered`: the end of a line that enters a directory.
* `Shell.currentDir_runCommand`: a line keeps the directory or enters one.
* `Shell.currentDir_handleAll`: the directory, the targets and the programs over a whole session.
-/

namespace LineShell

open LineShell.Action

variable {σ : Type} {sys : System σ} {w : σ}

/-! ## One line -/

namespace Shell

variable (sh : Shell) (c : Command)

/-- The run `es` of the command `c` ends with entering `dir`: the command is `cd`, `dir` is the real path of
the place that its argument asks for, or the path name of that place where there is no real path, and `dir`
itself was found to be a directory that can be listed. -/
def Entered (es : List Event) (dir : Path) : Prop :=
  c.name = Builtin.cd.name ∧ ∃ text shown, Builtin.destination sh.env c.joinedArgs = .go text shown ∧
    ∃ before real? info, dir = real?.getD (sh.state.resolve (Path.ofString text)) ∧
      info.isDirectory = true ∧
      es = before ++ [⟨.canonicalize (sh.state.resolve (Path.ofString text)), real?⟩,
        ⟨.inspect dir, some info⟩, ⟨.canList dir, true⟩]

variable {sh c}

theorem Entered.append_left {es : List Event} {dir : Path} (h : sh.Entered c es dir) (es' : List Event) :
    sh.Entered c (es' ++ es) dir := by
  obtain ⟨hname, text, shown, hdestination, before, real?, info, hdir, hinfo, hes⟩ := h
  refine ⟨hname, text, shown, hdestination, es' ++ before, real?, info, hdir, hinfo, ?_⟩
  rw [hes, List.append_assoc]

end Shell

namespace Builtin

/-- A directory without a fault is one that was seen to be a directory, and then listed. -/
theorem trace_directoryFault {p : Path} (h : ((directoryFault p).run sys w).1 = none) :
    ∃ info : FileInfo, info.isDirectory = true ∧
      (directoryFault p).trace sys w = [⟨.inspect p, some info⟩, ⟨.canList p, true⟩] := by
  simp only [directoryFault, request, ask_bind, done_bind, run_ask, trace_ask] at h ⊢
  generalize sys (.inspect p) w = inspected at h ⊢
  obtain ⟨info?, w'⟩ := inspected
  cases info? with
  | none => cases h
  | some info =>
    cases hinfo : info.isDirectory with
    | false => simp [hinfo] at h
    | true =>
      simp only [hinfo, if_true, run_ask, trace_ask] at h ⊢
      generalize sys (.canList p) w' = listed at h ⊢
      obtain ⟨listed, w''⟩ := listed
      cases listed with
      | false => cases h
      | true => exact ⟨info, hinfo, rfl⟩

/-- When `cd` changes the state, it has found out the real path and that this is a directory to be listed. -/
theorem run_replyEnter (state : State) (target : Path) (shown : String) (w : σ) :
    let x := replyEnter state target shown
    (x.run sys w).1.1 = state ∨
      ∃ real? info, info.isDirectory = true ∧
        (x.run sys w).1.1.currentDir = real?.getD target ∧
        x.trace sys w = [⟨.canonicalize target, real?⟩, ⟨.inspect (real?.getD target), some info⟩,
          ⟨.canList (real?.getD target), true⟩] := by
  simp only [replyEnter, request, ask_bind, done_bind, run_ask, trace_ask, run_bind, trace_bind]
  rcases sys (.canonicalize target) w with ⟨real?, w'⟩
  cases hfault : ((directoryFault (real?.getD target)).run sys w').1 with
  | some fault => exact .inl rfl
  | none =>
    obtain ⟨info, hinfo, htrace⟩ := trace_directoryFault hfault
    refine .inr ⟨real?, info, hinfo, rfl, ?_⟩
    rw [htrace]
    rfl

end Builtin

namespace Shell

variable (sh : Shell) (c : Command)

/-- A reply that changes the directory has entered it, and has nothing to say. -/
theorem run_reply (w : σ) :
    ((sh.reply c).run sys w).1.1.currentDir = sh.state.currentDir ∨
      sh.Entered c ((sh.reply c).trace sys w) ((sh.reply c).run sys w).1.1.currentDir ∧
        ((sh.reply c).run sys w).1.2 = .silent := by
  by_cases hsame : ((sh.reply c).run sys w).1.1.currentDir = sh.state.currentDir
  · exact .inl hsame
  obtain ⟨hname, hsilent⟩ := ((sh.yields_reply c).run sys w).2.2 hsame
  refine .inr ⟨⟨hname, ?_⟩, hsilent⟩
  have hreply : sh.reply c = Builtin.replyChangeDirectory sh.env sh.state c.joinedArgs := by
    rw [reply, hname, Builtin.lookup_name]
    rfl
  rw [hreply, Builtin.replyChangeDirectory] at hsame ⊢
  cases hdestination : Builtin.destination sh.env c.joinedArgs with
  | stay | homeless =>
    rw [hdestination] at hsame
    exact absurd rfl hsame
  | go text shown =>
    rw [hdestination] at hsame
    rcases Builtin.run_replyEnter sh.state (sh.state.resolve (Path.ofString text)) shown w with
      hstay | ⟨real?, info, hinfo, hdir, htrace⟩
    · exact absurd (congrArg State.currentDir hstay) hsame
    · refine ⟨text, shown, rfl, [], real?, info, hdir, hinfo, ?_⟩
      rw [← hdir] at htrace
      exact htrace

theorem run_carryOut_currentDir (kept : Redirection) (w : σ) :
    ((sh.carryOut c kept).run sys w).1.1.currentDir = sh.state.currentDir ∨
      sh.Entered c ((sh.carryOut c kept).trace sys w) ((sh.carryOut c kept).run sys w).1.1.currentDir ∧
        ((sh.carryOut c kept).run sys w).1.2.failure = none := by
  unfold carryOut
  split
  · exact .inl rfl
  · simp only [run_bind, trace_bind, pure_def, run_done, trace_done, List.append_nil]
    rcases sh.run_reply c w with hsame | ⟨hentered, hsilent⟩
    · exact .inl hsame
    · simp only [hsilent, Reply.carryOut, pure_def, run_done, trace_done, List.append_nil]
      exact .inr ⟨hentered, trivial⟩

variable (sys) in
/-- **A line keeps the current directory, or enters another one.** -/
theorem currentDir_runCommand (w : σ) :
    ((sh.runCommand c).run sys w).1.state.currentDir = sh.state.currentDir ∨
      sh.Entered c ((sh.runCommand c).trace sys w) ((sh.runCommand c).run sys w).1.state.currentDir := by
  simp only [runCommand_eq_attempt, attempt, run_bind, trace_bind, pure_def, run_done, trace_done,
    List.append_nil]
  generalize (c.redirection.prepare sh.state.currentDir).run sys w = prepared
  generalize (reportAll Sink.console prepared.1.2).run sys prepared.2 = reported
  rcases sh.run_carryOut_currentDir c prepared.1.1 reported.2 with hsame | ⟨hentered, hfailure⟩
  · exact .inl hsame
  · simp only [Account.conclude, hfailure, pure_def, trace_done, List.append_nil]
    exact .inr ((hentered.append_left _).append_left _)

end Shell

/-! ## Absolute path names -/

/-- The real paths that the system finds are absolute. -/
def System.RealPathsAbsolute (sys : System σ) : Prop :=
  ∀ p w real, (sys (.canonicalize p) w).1 = some real → real.isAbsolute = true

theorem Path.isAbsolute_ofParts (parts : List Name) : (Path.ofParts parts).isAbsolute = true := by
  cases parts <;> rfl

theorem FileTree.isAbsolute_of_canonical {t : FileTree} {v : FileTree.Viewer} {p real : Path}
    (h : t.canonical v p = .ok real) : real.isAbsolute = true := by
  unfold canonical at h
  split at h
  · cases h
  · split at h
    · cases h
    · split at h
      · cases h
      · exact Except.ok.inj h ▸ Path.isAbsolute_ofParts _

/-- The real paths of an in-memory machine are absolute. -/
theorem Machine.realPathsAbsolute_answer : Machine.answer.RealPathsAbsolute := by
  intro p m real h
  have hcanonical : m.canonicalize p = some real := h
  unfold canonicalize at hcanonical
  split at hcanonical
  · cases hcanonical
  · cases hresult : m.tree.canonical m.viewer p with
    | error e => simp [hresult, Except.toOption] at hcanonical
    | ok found =>
      obtain rfl : found = real := by simpa [hresult, Except.toOption] using hcanonical
      exact FileTree.isAbsolute_of_canonical hresult

/-- A directory that was entered from an absolute one is absolute. -/
theorem Shell.Entered.isAbsolute {α : Type} {x : Action α} {sh : Shell} {c : Command} {dir : Path}
    (h : sh.Entered c (x.trace sys w) dir) (hreal : sys.RealPathsAbsolute)
    (hdir : sh.state.currentDir.isAbsolute = true) : dir.isAbsolute = true := by
  obtain ⟨-, text, shown, -, before, real?, info, rfl, -, htrace⟩ := h
  cases real? with
  | none => exact Path.isAbsolute_resolve hdir _
  | some real =>
    have hmem : (⟨.canonicalize (sh.state.resolve (Path.ofString text)), some real⟩ : Event) ∈
        x.trace sys w := by
      rw [htrace]
      exact List.mem_append_right _ List.mem_cons_self
    obtain ⟨w', hanswer⟩ := exists_of_mem_trace hmem
    exact hreal _ w' real (eq_of_heq (Event.mk.inj hanswer).2).symm

/-- The request shows the system absolute path names for targets, for the directory of a program, and for
the program itself where it is named directly. -/
def Request.Anchored : Request → Prop
  | .create t => t.path.isAbsolute = true
  | .appendLine p _ | .openAppend p => p.isAbsolute = true
  | .start child => child.directory.isAbsolute = true ∧
      ∀ name ∈ child.argv.head?, hasSeparator name = true → child.image.isAbsolute = true
  | _ => True

theorem Redirection.isAbsolute_targets {base : Path} (hbase : base.isAbsolute = true) {r : Redirection}
    {t : Target} (ht : t ∈ (r.resolve base).targets) : t.path.isAbsolute = true := by
  obtain ⟨s, hs⟩ := mem_targets.1 ht
  obtain ⟨t₀, -, rfl⟩ : ∃ t₀, r.target s = some t₀ ∧ t₀.resolve base = t := by
    cases s <;> exact Option.map_eq_some_iff.1 hs
  rw [Target.resolve_eq_join, Path.isAbsolute_join, hbase, Bool.or_true]

theorem Request.OfLine.anchored {sh : Shell} {c : Command} {q : Request} (hq : q.OfLine sh c)
    (hdir : sh.state.currentDir.isAbsolute = true) : q.Anchored := by
  cases q with
  | create t => exact Redirection.isAbsolute_targets hdir hq
  | appendLine p line | openAppend p =>
    obtain ⟨t, ht, rfl⟩ := hq
    exact Redirection.isAbsolute_targets hdir ht
  | start child =>
    obtain ⟨program, hname, -, hplace, out, err, rfl⟩ := hq
    refine ⟨hdir, fun name hmem hslash => ?_⟩
    obtain rfl : program.name = name := Option.some.inj hmem
    rw [External.Place, ← hname, if_pos hslash] at hplace
    show program.image.isAbsolute = true
    rw [hplace]
    exact Path.isAbsolute_resolve hdir _
  | _ => trivial

/-! ## A session -/

namespace Shell

variable (sh : Shell)

theorem handleAll_append (lines lines' : List String) :
    sh.handleAll (lines ++ lines') = sh.handleAll lines >>= fun sh' => sh'.handleAll lines' := by
  induction lines generalizing sh with
  | nil => rfl
  | cons line lines ih =>
    simp only [List.cons_append, handleAll, bind_assoc]
    exact bind_congr fun sh' => ih sh'

/-- The shell and the world after the first `i` lines of a session. -/
def reached (sys : System σ) (w : σ) (lines : List String) (i : Nat) : Shell × σ :=
  (sh.handleAll (lines.take i)).run sys w

/-- The current directory after the first `i` lines. -/
def dirAfter (sys : System σ) (w : σ) (lines : List String) (i : Nat) : Path :=
  (sh.reached sys w lines i).1.state.currentDir

/-- After `i` lines the shell is in the directory that it started in, or in one that was entered by some line
and kept since. -/
def Settled (sys : System σ) (w : σ) (lines : List String) (i : Nat) : Prop :=
  sh.dirAfter sys w lines i = sh.state.currentDir ∨
    ∃ j < i, ∃ line, lines[j]? = some line ∧
      (∀ k, j < k → k ≤ i → sh.dirAfter sys w lines k = sh.dirAfter sys w lines i) ∧
      (sh.reached sys w lines j).1.Entered (Command.parse line)
        (((sh.reached sys w lines j).1.handle line).trace sys (sh.reached sys w lines j).2)
        (sh.dirAfter sys w lines i)

variable (sys : System σ) (w : σ)

theorem reached_succ {lines : List String} {i : Nat} {line : String} (h : lines[i]? = some line) :
    sh.reached sys w lines (i + 1) =
      ((sh.reached sys w lines i).1.handle line).run sys (sh.reached sys w lines i).2 := by
  have hone (sh' : Shell) : sh'.handleAll [line] = sh'.handle line := bind_pure _
  simp only [reached, List.take_add_one, h, Option.toList_some, handleAll_append, run_bind, hone]

theorem reached_of_length_le {lines : List String} {i : Nat} (h : lines.length ≤ i) :
    sh.reached sys w lines (i + 1) = sh.reached sys w lines i := by
  rw [reached, reached, List.take_of_length_le h, List.take_of_length_le (Nat.le_succ_of_le h)]

variable {sh sys w} {lines : List String} {i : Nat}

theorem Settled.keep (h : sh.Settled sys w lines i)
    (hsame : sh.dirAfter sys w lines (i + 1) = sh.dirAfter sys w lines i) :
    sh.Settled sys w lines (i + 1) := by
  rcases h with hstart | ⟨j, hj, line, hline, hkept, hentered⟩
  · exact .inl (hsame.trans hstart)
  · refine .inr ⟨j, Nat.lt_succ_of_lt hj, line, hline, fun k hjk hki => ?_, by rwa [hsame]⟩
    rcases Nat.lt_or_eq_of_le hki with hlt | rfl
    · rw [hsame]
      exact hkept k hjk (Nat.le_of_lt_succ hlt)
    · rfl

/-- After any number of lines the directory is absolute and settled: each line keeps it or enters one. -/
theorem settled (hreal : sys.RealPathsAbsolute) (hdir : sh.state.currentDir.isAbsolute = true)
    (w : σ) (lines : List String) (i : Nat) :
    (sh.dirAfter sys w lines i).isAbsolute = true ∧ sh.Settled sys w lines i := by
  induction i with
  | zero => exact ⟨hdir, .inl rfl⟩
  | succ i ih =>
    obtain ⟨habsolute, hsettled⟩ := ih
    cases hline : lines[i]? with
    | none =>
      have hsame : sh.dirAfter sys w lines (i + 1) = sh.dirAfter sys w lines i :=
        congrArg (fun x => x.1.state.currentDir)
          (sh.reached_of_length_le sys w (List.getElem?_eq_none_iff.1 hline))
      exact ⟨hsame ▸ habsolute, hsettled.keep hsame⟩
    | some line =>
      have hstep := (sh.reached sys w lines i).1.currentDir_runCommand sys (Command.parse line)
        (sh.reached sys w lines i).2
      rw [← handle_eq_runCommand, ← sh.reached_succ sys w hline] at hstep
      rcases hstep with hsame | hentered
      · exact ⟨(congrArg Path.isAbsolute hsame).trans habsolute, hsettled.keep hsame⟩
      · refine ⟨hentered.isAbsolute hreal habsolute, .inr ⟨i, Nat.lt_succ_self i, line, hline, ?_, hentered⟩⟩
        intro k hik hki
        rw [Nat.le_antisymm hki hik]

theorem anchored_handleAll (hreal : sys.RealPathsAbsolute) (hdir : sh.state.currentDir.isAbsolute = true)
    (lines : List String) (w : σ) :
    ∀ e ∈ (sh.handleAll lines).trace sys w, e.request.Anchored := by
  induction lines generalizing sh w with
  | nil => exact fun e he => absurd he List.not_mem_nil
  | cons line lines ih =>
    intro e he
    rw [handleAll, handle_eq_runCommand, trace_bind] at he
    rcases List.mem_append.1 he with he | he
    · exact ((sh.only_runCommand _).of_mem_trace he).anchored hdir
    · refine ih ?_ _ e he
      have hstep := sh.currentDir_runCommand sys (Command.parse line) w
      generalize ((sh.runCommand (Command.parse line)).run sys w).1.state.currentDir = dir at hstep ⊢
      rcases hstep with rfl | hentered
      · exact hdir
      · exact hentered.isAbsolute hreal hdir

/-- **The current directory over a session**, on a system whose real paths are absolute, from an absolute
directory on. After any number of lines the directory is absolute, and it is the first one or was entered by
a line with `cd` and kept since; so whatever a path name is resolved to is absolute. The targets that a line
keeps have absolute path names, and so has everything that the session shows the system for a target, for the
directory of a program, or for a program that is named directly. -/
theorem currentDir_handleAll (hreal : sys.RealPathsAbsolute)
    (hdir : sh.state.currentDir.isAbsolute = true) (w : σ) (lines : List String) :
    (∀ i, (sh.dirAfter sys w lines i).isAbsolute = true ∧ sh.Settled sys w lines i ∧
      ∀ p, ((sh.reached sys w lines i).1.state.resolve p).isAbsolute = true) ∧
    (∀ i (r : Redirection), ∀ t ∈ ((r.prepare (sh.dirAfter sys w lines i)).run sys
      (sh.reached sys w lines i).2).1.1.targets, t.path.isAbsolute = true) ∧
    ∀ e ∈ (sh.handleAll lines).trace sys w, e.request.Anchored := by
  refine ⟨fun i => ?_, fun i r t ht => ?_, anchored_handleAll hreal hdir lines w⟩
  · obtain ⟨habsolute, hsettled⟩ := settled hreal hdir w lines i
    exact ⟨habsolute, hsettled, Path.isAbsolute_resolve habsolute⟩
  · obtain ⟨s, hs⟩ := Redirection.mem_targets.1 ht
    have hkept := (r.yields_prepare (sh.dirAfter sys w lines i)).run sys (sh.reached sys w lines i).2 s t hs
    exact Redirection.isAbsolute_targets (settled hreal hdir w lines i).1 (Redirection.mem_targets.2 ⟨s, hkept⟩)

end Shell

/-- A system on which `/link` is a link to `/real`, no other real path is found, every path name is that of a
directory, and directories can be listed until nine requests have been answered. -/
def System.closing : System Nat := fun r n =>
  match r with
  | .canonicalize p => (if p = Path.ofString "/link" then some (Path.ofString "/real") else none, n + 1)
  | .inspect _ => (some { isDirectory := true, isRegular := false, mode := 0o755 }, n + 1)
  | .canList _ => (decide (n < 9), n + 1)
  | r => System.bare r (n + 1)

/-- On that system the first line enters a real path, the second one a joined path name, and the third one
comes too late. -/
theorem Shell.currentDir_handleAll_closing :
    let sh := Shell.start {} { currentDir := .root }
    let lines := ["cd link", "cd sub > out", "cd 'too late'"]
    System.closing.RealPathsAbsolute ∧
      (List.range 4).map (sh.dirAfter .closing 0 lines) =
        ["/", "/real", "/real/sub", "/real/sub"].map Path.ofString ∧
      (∀ i, (sh.dirAfter .closing 0 lines i).isAbsolute = true ∧ sh.Settled .closing 0 lines i) ∧
      ∀ e ∈ (sh.handleAll lines).trace .closing 0, e.request.Anchored := by
  intro sh lines
  have hreal : System.closing.RealPathsAbsolute := by
    intro p n real h
    obtain ⟨-, rfl⟩ : p = Path.ofString "/link" ∧ Path.ofString "/real" = real := by
      simpa [System.closing] using h
    decide +kernel
  obtain ⟨hdirs, -, hanchored⟩ := currentDir_handleAll hreal (show sh.state.currentDir.isAbsolute = true from rfl)
    0 lines
  exact ⟨hreal, by decide +kernel, fun i => ⟨(hdirs i).1, (hdirs i).2.1⟩, hanchored⟩

end LineShell
