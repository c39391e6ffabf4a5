import LineShell.Proofs.Path.Join
import LineShell.Proofs.Run.Delivery
import LineShell.Proofs.Run.Image
import LineShell.Proofs.Run.Session

/-!
# What a name stands for

The builtin `type` tells what a name stands for, and running a line finds it out by itself. The two agree: a name
is told to be a builtin exactly where a line with that name is carried out by the shell, and to be a program exactly
where a line with that name would start this program. They part at names with a slash only. Such a name is a path
name for a line, but nothing at all for `type`.

* `Builtin.yields_execute_ok`: a builtin fails only where its sink does.
* `Shell.runsBuiltin_iff`: the lines that the shell carries out itself.
* `Builtin.printed_type`: the answer of `type`, and what it says about lines.
-/

namespace LineShell

open LineShell.Action

variable {σ : Type} {sys : System σ} {w : σ}

/-! ## Lines that the shell carries out -/

/-- The shell carries out the command itself: what it does is what a builtin does, whatever the targets are and
wherever the lines go. -/
def Shell.RunsBuiltin (sh : Shell) (c : Command) : Prop :=
  c.isEmpty = false ∧ ∃ b : Builtin, ∀ r sink,
    sh.dispatch c r sink = b.execute sh.env sh.searchPath sh.state sink c.joinedArgs

namespace Builtin

variable {env : Environment} {sp : SearchPath} {state : State} {sink : Sink}

theorem yields_describe_ok (hsink : ∀ s line, (sink s line).Yields (· = .ok ())) (name : String) :
    (describe sp sink name).Yields (· = .ok ()) := by
  unfold describe
  split_ifs
  · rfl
  · exact hsink _ _
  · refine yields_bind (yields_trivial _) fun found _ => ?_
    cases found with
    | none => exact hsink _ _
    | some p => exact hsink _ _

theorem yields_enter_ok (hsink : ∀ s line, (sink s line).Yields (· = .ok ())) (target : Path) (shown : String) :
    (enter state sink target shown).Yields fun x => x.2 = .ok () := by
  refine yields_bind (yields_trivial _) fun real? _ => yields_bind (yields_trivial _) fun fault? _ => ?_
  cases fault? with
  | none => rfl
  | some fault => exact yields_bind (hsink _ _) fun o ho => ho

/-- **A builtin fails only where its sink does.** -/
theorem yields_execute_ok (hsink : ∀ s line, (sink s line).Yields (· = .ok ())) (b : Builtin) (args : String) :
    (b.execute env sp state sink args).Yields fun x => x.2 = .ok () := by
  cases b with
  | echo | pwd => exact yields_bind (hsink _ _) fun o ho => ho
  | exit => rfl
  | type => exact yields_bind (yields_describe_ok hsink args) fun o ho => ho
  | cd =>
    simp only [execute, changeDirectory]
    cases destination env args with
    | go dir shown => exact yields_enter_ok hsink _ shown
    | stay => rfl
    | homeless => exact yields_bind (hsink _ _) fun o ho => ho

end Builtin

/-- The system has no files. -/
def System.Barren (sys : System σ) : Prop :=
  ∀ p w, (sys (.inspect p) w).1 = none

theorem run_isExecutable_of_barren (h : sys.Barren) (p : Path) : ((isExecutable p).run sys w).1 = false := by
  show (sys (.inspect p) w).1.any FileInfo.isProgram = false
  rw [h]
  rfl

theorem SearchPath.run_keepPrograms_of_barren (h : sys.Barren) (ps : List Path) :
    ((keepPrograms ps).run sys w).1 = [] := by
  induction ps generalizing w with
  | nil => rfl
  | cons p ps ih =>
    simp only [keepPrograms, run_bind, run_isExecutable_of_barren h, ih]
    rfl

theorem SearchPath.run_find_of_barren (h : sys.Barren) (sp : SearchPath) (name : String) :
    ((sp.find name).run sys w).1 = none := by
  unfold SearchPath.find SearchPath.search
  split
  · simp only [run_bind, run_keepPrograms_of_barren h]
    rfl
  · rfl

/-- Where there are no files no program is found. -/
theorem External.run_resolve_of_barren (h : sys.Barren) (state : State) (sp : SearchPath) (name : String)
    (args : List String) : ((resolve state sp name args).run sys w).1 = .error (.commandNotFound name) := by
  have hlocate : ((locate state sp name).run sys w).1 = none := by
    unfold locate
    split
    · simp only [run_bind, run_isExecutable_of_barren h]
      rfl
    · exact sp.run_find_of_barren h name
  simp only [resolve, run_bind, hlocate]
  rfl

/-- **The lines that the shell carries out itself** are those with the name of a builtin. -/
theorem Shell.runsBuiltin_iff (sh : Shell) {c : Command} (hname : c.isEmpty = false) :
    sh.RunsBuiltin c ↔ (Builtin.lookup c.name).isSome = true := by
  constructor
  · rintro ⟨-, b, hb⟩
    rw [Option.isSome_iff_ne_none]
    intro hlookup
    -- Without files and with a sink that takes every line, a program fails and a builtin does not.
    have hbarren : System.fullDisk.Barren := fun _ _ => rfl
    let mute : Sink := fun _ _ => .done (.ok ())
    have hmute : ∀ s line, (mute s line).Yields (· = .ok ()) := fun _ _ => rfl
    have hbuiltin : ((sh.dispatch c {} mute).run .fullDisk ()).1.2 = .ok () := by
      rw [hb]
      exact (Builtin.yields_execute_ok hmute b c.joinedArgs).run .fullDisk ()
    rw [dispatch, hlookup] at hbuiltin
    simp only [External.call, run_bind, External.run_resolve_of_barren hbarren] at hbuiltin
    cases hbuiltin
  · intro hlookup
    obtain ⟨b, hb⟩ := Option.isSome_iff_exists.1 hlookup
    refine ⟨hname, b, fun r sink => ?_⟩
    rw [dispatch, hb]

/-! ## Programs in the search path -/

namespace SearchPath

/-- The directories of a search path are the entries of the variable that are not empty. -/
theorem exists_entry_of_mem_dirs {env : Environment} {d : Path} (hd : d ∈ (ofEnvironment env).dirs) :
    ∃ value, env.get? "PATH" = some value ∧ ∃ entry ∈ splitColons value.toList, entry ≠ [] ∧
      d = Path.ofString (String.ofList entry) := by
  unfold ofEnvironment at hd
  cases hpath : env.get? "PATH" with
  | none =>
    rw [hpath] at hd
    exact absurd hd List.not_mem_nil
  | some value =>
    rw [hpath] at hd
    obtain ⟨entry, hentry, rfl⟩ := List.mem_map.1 hd
    obtain ⟨hpiece, hne⟩ := List.mem_filter.1 hentry
    exact ⟨value, rfl, entry, hpiece, of_decide_eq_true hne, rfl⟩

/-- The directories of a search path come from a text, and no entry of it is empty. -/
theorem exists_text_of_mem_dirs {env : Environment} {d : Path} (hd : d ∈ (ofEnvironment env).dirs) :
    ∃ text, d = Path.ofString text ∧ d.bytes ≠ [] := by
  obtain ⟨_, -, entry, -, hne, rfl⟩ := exists_entry_of_mem_dirs hd
  exact ⟨_, rfl, Path.bytes_ofString_ne_nil fun h => hne (String.ofList_injective h)⟩

theorem find_of_path (sp : SearchPath) {name : String} (hslash : hasSeparator name = true) :
    ((sp.find name).run sys w).1 = none := by
  have hsearch : isSearchable name = false := by rw [isSearchable, hslash, Bool.not_true, Bool.and_false]
  simp only [find, search, hsearch, Bool.false_eq_true, if_false]
  rfl

/-- A program that is found has a text as its path name, with a slash in it. -/
theorem yields_find_text (env : Environment) {name : String} (hslash : hasSeparator name = false) :
    ((ofEnvironment env).find name).Yields fun found =>
      ∀ p ∈ found, ∃ text, p = Path.ofString text ∧ Path.slash ∈ p.bytes := by
  refine (yields_find _ name).mono fun found hfound p hp => ?_
  obtain ⟨d, hd, rfl⟩ := hfound p hp
  obtain ⟨dir, hdir, hbytes⟩ := exists_text_of_mem_dirs hd
  obtain ⟨text, htext⟩ := Path.exists_join_ofString dir name
  exact ⟨text, hdir ▸ htext, Path.slash_mem_join hbytes (Path.isAbsolute_ofString hslash)⟩

end SearchPath

namespace External

theorem run_resolve (state : State) (sp : SearchPath) (name : String) (args : List String) (sys : System σ) (w : σ) :
    ((resolve state sp name args).run sys w).1 =
      ((locate state sp name).run sys w).1.elim (.error (.commandNotFound name)) fun image =>
        .ok ⟨name, image, args⟩ := by
  simp only [resolve, run_bind]
  cases ((locate state sp name).run sys w).1 with
  | none | some image => rfl

variable {state : State} {sp : SearchPath} {name : String} {args : List String}

theorem locate_of_name (hslash : hasSeparator name = false) : locate state sp name = sp.find name := by
  simp only [locate, hslash, Bool.false_eq_true, if_false]

theorem resolve_ok_iff_of_path (hslash : hasSeparator name = true) :
    (∃ c, ((resolve state sp name args).run sys w).1 = .ok c) ↔
      ((isExecutable (state.resolve (Path.ofString name))).run sys w).1 = true := by
  rw [run_resolve]
  simp only [locate, hslash, if_true, run_bind]
  cases ((isExecutable (state.resolve (Path.ofString name))).run sys w).1 with
  | true => exact ⟨fun _ => rfl, fun _ => ⟨_, rfl⟩⟩
  | false =>
    refine iff_of_false ?_ Bool.false_ne_true
    rintro ⟨c, hc⟩
    cases hc

end External

/-! ## The answer of `type` -/

theorem Action.Only.printed_eq_nil {α : Type} {x : Action α} (hx : x.Only Request.IsLook) (sys : System σ) (w : σ) :
    printed (x.trace sys w) = [] := by
  rw [printed_eq_marks, hx.marks_eq_nil]
  rfl

theorem printed_console (s : Stream) (line : String) :
    printed ((Sink.console s line).trace sys w) = [(s, line)] := by
  rw [Sink.console_eq]
  rfl

namespace Builtin

/-- The answer of `type` about a name that is no builtin, when this is what the search path has for it. -/
def found (name : String) : Option Path → Stream × String
  | some p => (.stdout, s!"{name} is {p.display}")
  | none => (.stderr, s!"{name}: not found")

theorem found_eq_missing_iff (name : String) (program : Option Path) :
    found name program = (.stderr, s!"{name}: not found") ↔ program = none := by
  cases program with
  | none => exact iff_of_true rfl rfl
  | some p => exact iff_of_false (fun h => nomatch (Prod.mk.inj h).1) (Option.some_ne_none p)

theorem found_eq_program_iff (name : String) {program : Option Path}
    (htext : ∀ p ∈ program, ∃ text, p = Path.ofString text) (text : String) :
    found name program = (.stdout, s!"{name} is {text}") ↔ program = some (Path.ofString text) := by
  cases program with
  | none => exact iff_of_false (fun h => nomatch (Prod.mk.inj h).1) nofun
  | some p =>
    obtain ⟨shown, rfl⟩ := htext p rfl
    rw [found, Path.display_ofString, Option.some.injEq, Path.ofString_injective.eq_iff, Prod.mk.injEq]
    exact ⟨fun h => (String.append_right_inj _).1 h.2, fun h => ⟨rfl, h ▸ rfl⟩⟩

/-- No program is told of as a builtin: its path name has a slash. -/
theorem found_ne_builtin (name : String) {program : Option Path}
    (htext : ∀ p ∈ program, ∃ text, p = Path.ofString text ∧ Path.slash ∈ p.bytes) :
    found name program ≠ (.stdout, s!"{name} is a shell builtin") := by
  intro hfound
  have hsplit : s!"{name} is a shell builtin" = name ++ " is " ++ "a shell builtin" := by
    rw [String.append_assoc]
    rfl
  rw [hsplit] at hfound
  have hprogram := (found_eq_program_iff name (fun p hp => (htext p hp).imp fun _ h => h.1) _).1 hfound
  obtain ⟨-, -, hslash⟩ := htext _ hprogram
  exact absurd hslash (by decide +kernel)

variable (env : Environment) (sp : SearchPath) (state : State) {name : String}

theorem printed_type_of_builtin (hlookup : (lookup name).isSome = true) :
    printed ((execute .type env sp state Sink.console name).trace sys w) =
      [(.stdout, s!"{name} is a shell builtin")] := by
  have hname : name.isEmpty = false := by
    cases hempty : name.isEmpty with
    | false => rfl
    | true =>
      rw [String.isEmpty_iff.1 hempty] at hlookup
      cases hlookup
  simp only [execute, describe, hname, hlookup, Bool.false_eq_true, if_false, if_true, trace_bind, printed_append,
    printed_console]
  rfl

theorem printed_type_of_not_builtin (hname : name ≠ "") (hlookup : lookup name = none) :
    printed ((execute .type env sp state Sink.console name).trace sys w) =
      [found name ((sp.find name).run sys w).1] := by
  have hempty : name.isEmpty = false := by
    rw [Bool.eq_false_iff, ne_eq, String.isEmpty_iff]
    exact hname
  simp only [execute, describe, hempty, hlookup, Option.isSome_none, Bool.false_eq_true, if_false, trace_bind,
    printed_append, (SearchPath.only_find fun _ _ => trivial).printed_eq_nil, List.nil_append]
  cases ((sp.find name).run sys w).1 with
  | some p => exact (List.append_nil _).trans (printed_console _ _)
  | none => exact (List.append_nil _).trans (printed_console _ _)

theorem hasSeparator_of_builtin (hlookup : (lookup name).isSome = true) : hasSeparator name = false := by
  obtain ⟨b, hb⟩ := Option.isSome_iff_exists.1 hlookup
  rw [eq_of_lookup hb]
  cases b <;> decide +kernel

/-- **What `type` says is what a line does.** Ask `type` for a name, and look for a program of this name in the same
place and at the same moment. The answer is that the name is a builtin exactly where the shell carries out the
lines with this name itself. For any other name without a slash the answer is the path name of a program exactly
where this program would be started, and that the name was not found exactly where no program would be. A name
with a slash is never found by `type`, while a line with this name starts the file that it is the path name of. -/
theorem printed_type (hname : name ≠ "") (args : List String) (sys : System σ) (w : σ) :
    let sh := Shell.start env state
    let answer := printed ((execute .type env sh.searchPath state Sink.console name).trace sys w)
    let resolved := ((External.resolve state sh.searchPath name args).run sys w).1
    (∀ line, (Command.parse line).name = name →
      (answer = [(.stdout, s!"{name} is a shell builtin")] ↔ sh.RunsBuiltin (Command.parse line))) ∧
    (lookup name = none → hasSeparator name = false →
      (∀ p, answer = [(.stdout, s!"{name} is {p}")] ↔ resolved = .ok ⟨name, Path.ofString p, args⟩) ∧
      (answer = [(.stderr, s!"{name}: not found")] ↔ resolved = .error (.commandNotFound name)) ∧
      ((∃ p, resolved = .ok ⟨name, Path.ofString p, args⟩) ∨ resolved = .error (.commandNotFound name))) ∧
    (hasSeparator name = true → answer = [(.stderr, s!"{name}: not found")] ∧
      ((∃ c, resolved = .ok c) ↔
        ((isExecutable (state.resolve (Path.ofString name))).run sys w).1 = true)) := by
  intro sh answer resolved
  have hmissing (hlookup : lookup name = none) :
      answer = [found name ((sh.searchPath.find name).run sys w).1] :=
    printed_type_of_not_builtin env sh.searchPath state hname hlookup
  refine ⟨fun line hline => ?_, fun hlookup hslash => ?_, fun hslash => ?_⟩
  · have hnonempty : (Command.parse line).isEmpty = false := by
      rw [Command.isEmpty, hline, Bool.eq_false_iff, ne_eq, String.isEmpty_iff]
      exact hname
    rw [sh.runsBuiltin_iff hnonempty, hline]
    constructor
    · intro hanswer
      rw [Option.isSome_iff_ne_none]
      intro hlookup
      -- A program is never told of in the words for a builtin, and with a slash no program is found.
      cases hslash : hasSeparator name with
      | false =>
        have hprograms := (SearchPath.yields_find_text env hslash).run sys w
        exact found_ne_builtin name hprograms (List.singleton_inj.1 ((hmissing hlookup).symm.trans hanswer))
      | true =>
        rw [hmissing hlookup, SearchPath.find_of_path _ hslash] at hanswer
        exact nomatch (Prod.mk.inj (List.singleton_inj.1 hanswer)).1
    · exact printed_type_of_builtin env sh.searchPath state
  · have htext : ∀ p ∈ ((sh.searchPath.find name).run sys w).1, ∃ text, p = Path.ofString text :=
      fun p hp => ((SearchPath.yields_find_text env hslash).run sys w p hp).imp fun _ h => h.1
    have hresolved : resolved = ((sh.searchPath.find name).run sys w).1.elim (.error (.commandNotFound name))
        fun image => .ok ⟨name, image, args⟩ := by
      have hresolve := External.run_resolve state sh.searchPath name args sys w
      rwa [External.locate_of_name hslash] at hresolve
    rw [hmissing hlookup, hresolved]
    generalize ((sh.searchPath.find name).run sys w).1 = program at htext
    simp only [List.singleton_inj, found_eq_missing_iff, found_eq_program_iff name htext]
    cases program with
    | none => simp
    | some image =>
      obtain ⟨text, rfl⟩ := htext image rfl
      simp
  · have hlookup : lookup name = none := by
      rw [← Option.not_isSome_iff_eq_none]
      intro hbuiltin
      rw [hasSeparator_of_builtin hbuiltin] at hslash
      cases hslash
    refine ⟨?_, External.resolve_ok_iff_of_path hslash⟩
    rw [hmissing hlookup, SearchPath.find_of_path _ hslash]
    rfl

/-- A builtin, a program of the search path, and a path name: of the last one only a line knows what it stands for. -/
theorem printed_type_allPrograms :
    let env := Environment.ofList [("PATH", ":/opt:/bin")]
    let state : State := { currentDir := Path.ofString "/work" }
    let sh := Shell.start env state
    let answer name := printed ((execute .type env sh.searchPath state Sink.console name).trace .allPrograms ())
    let resolved name := ((External.resolve state sh.searchPath name []).run .allPrograms ()).1
    (answer "cd" = [(.stdout, "cd is a shell builtin")] ∧ sh.RunsBuiltin (Command.parse "'cd' /opt")) ∧
    (answer "tool" = [(.stdout, "tool is /opt/tool")] ∧ resolved "tool" = .ok ⟨"tool", Path.ofString "/opt/tool", []⟩) ∧
    (answer "./tool" = [(.stderr, "./tool: not found")] ∧ ∃ c, resolved "./tool" = .ok c) := by
  intro env state sh answer resolved
  obtain ⟨hbuiltin, -, -⟩ := printed_type env state (show "cd" ≠ "" by decide) [] .allPrograms ()
  obtain ⟨-, hprogram, -⟩ := printed_type env state (show "tool" ≠ "" by decide) [] .allPrograms ()
  obtain ⟨-, -, hpath⟩ := printed_type env state (show "./tool" ≠ "" by decide) [] .allPrograms ()
  have hcd : answer "cd" = [(.stdout, "cd is a shell builtin")] := by decide +kernel
  have htool : resolved "tool" = .ok ⟨"tool", Path.ofString "/opt/tool", []⟩ := by decide +kernel
  obtain ⟨hsame, -, -⟩ := hprogram (by decide +kernel) (by decide +kernel)
  obtain ⟨hmissing, hstarted⟩ := hpath (by decide +kernel)
  exact ⟨⟨hcd, (hbuiltin _ (by decide +kernel)).1 hcd⟩, ⟨(hsame "/opt/tool").2 htool, htool⟩, hmissing,
    hstarted.2 (by decide +kernel)⟩

end Builtin

end LineShell
