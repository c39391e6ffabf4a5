import LineShell.Proofs.Run.Reply
import Mathlib.Data.List.TakeWhile

/-!
# Moves

What `cd` comes to is a *move*: a directory is entered without a word, or the shell stays where it is, with one
line on the error stream or without a word. Before its move `cd` does no more than look at files. Which move it
is depends on the argument, on the variable `HOME` and on what is seen of the directory, and never on the sink:
nothing that happens to the line can move the shell.

* `Builtin.directoryFault_cases`: the checks of a directory, in their order.
* `Builtin.destination_cases`: what the argument asks for.
* `Builtin.run_enter`: the move to a directory, or the refusal to go there.
* `Builtin.execute_cd`: the move of every call.
-/

namespace LineShell

open LineShell.Action

variable {σ : Type} {sys : System σ} {w : σ}

/-! ## Directories that can be entered -/

/-- In the world `w` the path name `dir` is that of a directory, and this can be listed. -/
def System.Usable (sys : System σ) (w : σ) (dir : Path) : Prop :=
  (∃ info, (sys (.inspect dir) w).1 = some info ∧ info.isDirectory = true) ∧
    (sys (.canList dir) (sys (.inspect dir) w).2).1 = true

/-- The first check that `dir` fails in the world `w`. -/
inductive System.FailsFirst (sys : System σ) (w : σ) (dir : Path) : Builtin.DirectoryFault → Prop
  | missing (hinspect : (sys (.inspect dir) w).1 = none) : FailsFirst sys w dir .missing
  | notDirectory {info : FileInfo} (hinspect : (sys (.inspect dir) w).1 = some info)
      (hdir : info.isDirectory = false) : FailsFirst sys w dir .notDirectory
  | notListable {info : FileInfo} (hinspect : (sys (.inspect dir) w).1 = some info)
      (hdir : info.isDirectory = true) (hlist : (sys (.canList dir) (sys (.inspect dir) w).2).1 = false) :
      FailsFirst sys w dir .notListable

theorem System.FailsFirst.not_usable {dir : Path} {fault : Builtin.DirectoryFault}
    (h : sys.FailsFirst w dir fault) : ¬ sys.Usable w dir := by
  rintro ⟨⟨info, hinfo, hdirectory⟩, hlisted⟩
  cases h with
  | missing hinspect =>
    rw [hinspect] at hinfo
    cases hinfo
  | notDirectory hinspect hdir =>
    rw [hinspect] at hinfo
    rw [Option.some.inj hinfo, hdirectory] at hdir
    cases hdir
  | notListable hinspect hdir hlist =>
    rw [hlist] at hlisted
    cases hlisted

namespace Builtin

variable (sys w) in
/-- **The checks of a directory** find the first one that fails, and nothing where it is usable. -/
theorem directoryFault_cases (dir : Path) :
    sys.Usable w dir ∧ ((directoryFault dir).run sys w).1 = none ∨
      ∃ fault, sys.FailsFirst w dir fault ∧ ((directoryFault dir).run sys w).1 = some fault := by
  simp only [directoryFault, request, ask_bind, done_bind, run_ask]
  cases hinspect : (sys (.inspect dir) w).1 with
  | none => exact .inr ⟨.missing, .missing hinspect, rfl⟩
  | some info =>
    cases hdir : info.isDirectory with
    | false => exact .inr ⟨.notDirectory, .notDirectory hinspect hdir, by simp [hdir]⟩
    | true =>
      simp only [hdir, if_true, run_ask]
      cases hlist : (sys (.canList dir) (sys (.inspect dir) w).2).1 with
      | false => exact .inr ⟨.notListable, .notListable hinspect hdir hlist, rfl⟩
      | true => exact .inl ⟨⟨⟨info, hinspect, hdir⟩, hlist⟩, rfl⟩

/-! ## What the argument asks for -/

theorem trimBlanks_eq_empty_iff (s : String) : trimBlanks s = "" ↔ isBlankLine s = true := by
  have hempty (cs : List Char) : String.ofList cs = "" ↔ cs = [] :=
    ⟨fun h => String.ofList_injective h, fun h => h ▸ rfl⟩
  rw [trimBlanks, hempty, List.reverse_eq_nil_iff, List.dropWhile_eq_nil_iff, isBlankLine, List.all_eq_true]
  constructor
  · intro hback c hc
    rw [← List.takeWhile_append_dropWhile (p := isBlank) (l := s.toList), List.mem_append] at hc
    rcases hc with hc | hc
    · exact List.mem_takeWhile_imp hc
    · exact hback c (List.mem_reverse.2 hc)
  · intro hall c hc
    rw [List.dropWhile_eq_nil_iff.2 hall] at hc
    cases hc

theorem trimBlanks_eq_self {s : String} (hhead : ∀ c ∈ s.toList.head?, isBlank c = false)
    (hlast : ∀ c ∈ s.toList.getLast?, isBlank c = false) : trimBlanks s = s := by
  have hkeep {cs : List Char} (h : ∀ c ∈ cs.head?, isBlank c = false) : cs.dropWhile isBlank = cs := by
    cases cs with
    | nil => rfl
    | cons c cs =>
      have hc : isBlank c = false := h c rfl
      rw [List.dropWhile_cons_of_neg (by rw [hc]; exact Bool.false_ne_true)]
  rw [← List.head?_reverse] at hlast
  rw [trimBlanks, hkeep hhead, hkeep hlast, List.reverse_reverse, String.ofList_toList]

/-- The variable `HOME` is not set, or empty. -/
def Homeless (env : Environment) : Prop :=
  env.get? "HOME" = none ∨ env.get? "HOME" = some ""

/-- The argument `args` of `cd` asks for the directory with the path name `text`, which messages call `shown`. -/
inductive Asks (env : Environment) (args : String) : String → String → Prop
  | blank {home : String} (hargs : isBlankLine args = true) (hhome : env.get? "HOME" = some home)
      (hne : home ≠ "") : Asks env args home home
  | tilde {home : String} (hargs : trimBlanks args = "~") (hhome : env.get? "HOME" = some home)
      (hne : home ≠ "") : Asks env args home "~"
  | plain (hblank : isBlankLine args = false) (htilde : trimBlanks args ≠ "~") :
      Asks env args (trimBlanks args) (trimBlanks args)

theorem home?_cases (env : Environment) :
    Homeless env ∧ home? env = none ∨
      ∃ home, env.get? "HOME" = some home ∧ home ≠ "" ∧ home? env = some home := by
  unfold home?
  cases hhome : env.get? "HOME" with
  | none => exact .inl ⟨.inl hhome, rfl⟩
  | some home =>
    by_cases hne : home = ""
    · exact .inl ⟨.inr (hne ▸ hhome), by rw [hne]; rfl⟩
    · exact .inr ⟨home, rfl, hne, by simp [hne]⟩

/-- **What the argument of `cd` asks for**: a directory, or the home directory where there is none. -/
theorem destination_cases (env : Environment) (args : String) :
    (isBlankLine args = true ∧ Homeless env ∧ destination env args = .stay) ∨
      (trimBlanks args = "~" ∧ Homeless env ∧ destination env args = .homeless) ∨
      ∃ text shown, Asks env args text shown ∧ destination env args = .go text shown := by
  unfold destination
  by_cases hblank : trimBlanks args = ""
  · have hargs := (trimBlanks_eq_empty_iff args).1 hblank
    rcases home?_cases env with ⟨hless, hhome⟩ | ⟨home, hget, hne, hhome⟩
    · exact .inl ⟨hargs, hless, by rw [hblank, hhome]; rfl⟩
    · exact .inr (.inr ⟨home, home, .blank hargs hget hne, by rw [hblank, hhome]; rfl⟩)
  by_cases htilde : trimBlanks args = "~"
  · rcases home?_cases env with ⟨hless, hhome⟩ | ⟨home, hget, hne, hhome⟩
    · exact .inr (.inl ⟨htilde, hless, by rw [htilde, hhome]; rfl⟩)
    · exact .inr (.inr ⟨home, "~", .tilde htilde hget hne, by rw [htilde, hhome]; rfl⟩)
  have hargs : isBlankLine args = false := by
    rw [Bool.eq_false_iff]
    exact fun h => hblank ((trimBlanks_eq_empty_iff args).2 h)
  refine .inr (.inr ⟨_, _, .plain hargs htilde, ?_⟩)
  split <;> simp_all

/-! ## Moves -/

/-- What `cd` comes to. -/
inductive Move where
  /-- A directory is entered. -/
  | enter (dir : Path)
  /-- The shell stays where it is, and a line says why. -/
  | refuse (line : String)
  | stay

/-- Make a move. -/
def Move.make (state : State) (sink : Sink) : Move → Action (State × Outcome)
  | enter dir => return ({ state with currentDir := dir }, .ok ())
  | refuse line => return (state, ← sink .stderr line)
  | stay => return (state, .ok ())

@[simp] theorem Move.run_refuse (state : State) (sink : Sink) (line : String) :
    ((refuse line).make state sink).run sys w =
      ((state, ((sink .stderr line).run sys w).1), ((sink .stderr line).run sys w).2) := by
  rw [make, run_bind]
  rfl

@[simp] theorem Move.trace_refuse (state : State) (sink : Sink) (line : String) :
    ((refuse line).make state sink).trace sys w = (sink .stderr line).trace sys w := by
  rw [make, trace_bind]
  exact List.append_nil _

variable (sys w) in
/-- The looks of a call that is to enter `target`, whatever the sink is, and its move. -/
theorem run_enter (state : State) (target : Path) (shown : String) :
    let real := sys (.canonicalize target) w
    let dir := real.1.getD target
    let move := match ((directoryFault dir).run sys real.2).1 with
      | some fault => Move.refuse s!"cd: {shown}: {fault.message}"
      | none => .enter dir
    ∀ sink, (enter state sink target shown).run sys w =
        (move.make state sink).run sys ((directoryFault dir).run sys real.2).2 ∧
      (enter state sink target shown).trace sys w =
        (⟨.canonicalize target, real.1⟩ :: (directoryFault dir).trace sys real.2) ++
          (move.make state sink).trace sys ((directoryFault dir).run sys real.2).2 := by
  intro real dir move sink
  simp only [enter, request, ask_bind, done_bind, run_ask, trace_ask, run_bind, trace_bind, List.cons_append]
  cases hfault : ((directoryFault dir).run sys real.2).1 with
  | none => simp only [move, hfault]; exact ⟨rfl, rfl⟩
  | some fault => simp only [move, hfault]; exact ⟨rfl, rfl⟩

/-- **The move of `cd`.** Every call makes one move, after it has looked at files, and neither depends on the sink.
A blank argument without a home directory is no reason to move or to speak, and a tilde without one is refused.
In all other cases the argument asks for a directory: its real path, or its joined path name where there is no
real path, is entered exactly where it is usable, and otherwise the first check that it fails is the reason of the
refusal. A refusal is one line for the error stream, and its outcome is that of the call. -/
theorem execute_cd (env : Environment) (sp : SearchPath) (state : State) (args : String) (sys : System σ)
    (w : σ) :
    let cd (sink : Sink) := execute .cd env sp state sink args
    ∃ (move : Move) (looks : List Event) (w' : σ),
      (∀ sink, (cd sink).run sys w = (move.make state sink).run sys w' ∧
        (cd sink).trace sys w = looks ++ (move.make state sink).trace sys w') ∧
      (∀ e ∈ looks, e.request.IsLook) ∧
      (∀ line, move = .refuse line → ∀ sink,
        let told := (sink .stderr line).run sys w'
        (cd sink).run sys w = ((state, told.1), told.2) ∧
          (cd sink).trace sys w = looks ++ (sink .stderr line).trace sys w') ∧
      ((isBlankLine args = true ∧ Homeless env ∧ move = .stay ∧ looks = [] ∧ w' = w) ∨
        (trimBlanks args = "~" ∧ Homeless env ∧ move = .refuse "cd: ~: HOME not set" ∧ looks = [] ∧ w' = w) ∨
        ∃ text shown, Asks env args text shown ∧
          let target := state.resolve (Path.ofString text)
          let real := sys (.canonicalize target) w
          let dir := real.1.getD target
          (move = .enter dir ↔ sys.Usable real.2 dir) ∧
            (move = .enter dir ∨ ∃ fault, sys.FailsFirst real.2 dir fault ∧
              move = .refuse s!"cd: {shown}: {fault.message}")) := by
  intro cd
  suffices h : ∃ (move : Move) (looks : List Event) (w' : σ), _ ∧ _ ∧ _ by
    obtain ⟨move, looks, w', hrun, hlooks, hmove⟩ := h
    refine ⟨move, looks, w', hrun, hlooks, ?_, hmove⟩
    rintro line rfl sink
    simpa using hrun sink
  simp only [cd, execute, changeDirectory]
  rcases destination_cases env args with ⟨hblank, hless, hstay⟩ | ⟨htilde, hless, hhomeless⟩ |
    ⟨text, shown, hasks, hgo⟩
  · rw [hstay]
    exact ⟨.stay, [], w, fun _ => ⟨rfl, rfl⟩, List.forall_mem_nil _, .inl ⟨hblank, hless, rfl, rfl, rfl⟩⟩
  · rw [hhomeless]
    exact ⟨.refuse "cd: ~: HOME not set", [], w, fun _ => ⟨rfl, rfl⟩, List.forall_mem_nil _,
      .inr (.inl ⟨htilde, hless, rfl, rfl, rfl⟩)⟩
  · rw [hgo]
    have henter := run_enter sys w state (state.resolve (Path.ofString text)) shown
    refine ⟨_, _, _, henter, ?_, .inr (.inr ⟨text, shown, hasks, ?_⟩)⟩
    · exact List.forall_mem_cons.2 ⟨trivial, fun e he => (only_directoryFault _).of_mem_trace he⟩
    · rcases directoryFault_cases sys (sys (.canonicalize (state.resolve (Path.ofString text))) w).2
        ((sys (.canonicalize (state.resolve (Path.ofString text))) w).1.getD _) with
        ⟨husable, hnone⟩ | ⟨fault, hfails, hsome⟩
      · rw [hnone]
        exact ⟨iff_of_true rfl husable, .inl rfl⟩
      · rw [hsome]
        exact ⟨iff_of_false Move.noConfusion hfails.not_usable, .inr ⟨fault, hfails, rfl⟩⟩

end Builtin

end LineShell
