import LineShell.Proofs.Path.Join
import LineShell.Proofs.Run.Requests

/-!
# The file that is checked and the file that is started

A program is looked for by the process of the shell, and its image is loaded by a process that has changed
to the shell's current directory. A path name that is not absolute is looked up from the directory of the
process that uses it, so that both look at one file where the path name of the image is absolute, or where
the shell stands in the directory of its process. A name with a slash always gets an absolute path name, any
other name gets that of the entry of the search path in which it was found.

* `External.checked_resolve`: the image of a program that was found has been looked at.
* `External.started_execute`: one program is started, in the current directory.
* `External.file_execute`: which file that is, and when it is the one that was looked at.
-/

namespace LineShell

open LineShell.Action

variable {σ : Type} {sys : System σ} {w : σ}

/-! ## What was looked at -/

/-- In the run `es` the system was asked about the file `p`, and said that it is a program. -/
def Checked (p : Path) (es : List Event) : Prop :=
  ∃ info : FileInfo, ⟨.inspect p, some info⟩ ∈ es ∧ info.isProgram = true

theorem Checked.mono {p : Path} {es es' : List Event} (h : Checked p es) (hsub : es ⊆ es') :
    Checked p es' := by
  obtain ⟨info, hmem, hinfo⟩ := h
  exact ⟨info, hsub hmem, hinfo⟩

theorem checked_isExecutable {p : Path} (h : ((isExecutable p).run sys w).1 = true) :
    Checked p ((isExecutable p).trace sys w) := by
  obtain ⟨info, hanswer, hinfo⟩ := (Option.any_eq_true _ _).1
    (show ((sys (.inspect p) w).1.any FileInfo.isProgram) = true from h)
  refine ⟨info, ?_, hinfo⟩
  show _ ∈ [(⟨.inspect p, (sys (.inspect p) w).1⟩ : Event)]
  rw [hanswer]
  exact List.mem_singleton_self _

theorem SearchPath.checked_keepPrograms {ps : List Path} {p : Path}
    (h : p ∈ ((keepPrograms ps).run sys w).1) : Checked p ((keepPrograms ps).trace sys w) := by
  induction ps generalizing w with
  | nil => exact absurd h List.not_mem_nil
  | cons q qs ih =>
    simp only [keepPrograms, run_bind, trace_bind] at h ⊢
    cases hprogram : ((isExecutable q).run sys w).1 with
    | false =>
      rw [hprogram] at h
      exact (ih h).mono fun e he => List.mem_append_right _ (List.mem_append_left _ he)
    | true =>
      rw [hprogram] at h
      rcases List.mem_cons.1 h with rfl | h
      · exact (checked_isExecutable hprogram).mono fun e he => List.mem_append_left _ he
      · exact (ih h).mono fun e he => List.mem_append_right _ (List.mem_append_left _ he)

theorem SearchPath.checked_find {sp : SearchPath} {name : String} {p : Path}
    (h : ((sp.find name).run sys w).1 = some p) : Checked p ((sp.find name).trace sys w) := by
  unfold SearchPath.find SearchPath.search at h ⊢
  split
  · rename_i hname
    rw [if_pos hname, run_bind] at h
    rw [trace_bind]
    exact (checked_keepPrograms (List.mem_of_head? h)).mono (List.subset_append_left _ _)
  · rename_i hname
    rw [if_neg hname] at h
    cases h

namespace External

variable {state : State} {sp : SearchPath} {name : String} {args : List String} {c : External}

/-- **The image of a program that was found has been looked at.** -/
theorem checked_resolve (h : ((resolve state sp name args).run sys w).1 = .ok c) :
    Checked c.image ((resolve state sp name args).trace sys w) := by
  have hlocate {p : Path} (hp : ((locate state sp name).run sys w).1 = some p) :
      Checked p ((locate state sp name).trace sys w) := by
    unfold locate at hp ⊢
    split
    · rename_i hslash
      rw [if_pos hslash] at hp
      simp only [run_bind, trace_bind] at hp ⊢
      cases hprogram : ((isExecutable (state.resolve (Path.ofString name))).run sys w).1 with
      | false =>
        rw [hprogram] at hp
        cases hp
      | true =>
        rw [hprogram] at hp
        obtain rfl := Option.some.inj hp
        exact (checked_isExecutable hprogram).mono (List.subset_append_left _ _)
    · rename_i hslash
      rw [if_neg hslash] at hp
      exact SearchPath.checked_find hp
  simp only [resolve, run_bind, trace_bind] at h ⊢
  cases hfound : ((locate state sp name).run sys w).1 with
  | none =>
    rw [hfound] at h
    cases h
  | some image =>
    rw [hfound] at h
    obtain rfl : ⟨name, image, args⟩ = c := Except.ok.inj h
    exact (hlocate hfound).mono (List.subset_append_left _ _)

/-- Where a program that was found is, and when its path name is absolute. -/
theorem isAbsolute_image (hdir : state.currentDir.isAbsolute = true) {p : Path} (h : Place state sp name p) :
    (hasSeparator name = true ∧ p = state.resolve (Path.ofString name) ∧ p.isAbsolute = true) ∨
      (hasSeparator name = false ∧
        ∃ d ∈ sp.dirs, p = d.join (Path.ofString name) ∧ p.isAbsolute = d.isAbsolute) := by
  unfold Place at h
  cases hslash : hasSeparator name with
  | true =>
    rw [if_pos hslash] at h
    exact .inl ⟨rfl, h, h ▸ Path.isAbsolute_resolve hdir _⟩
  | false =>
    obtain ⟨d, hd, rfl⟩ : ∃ d ∈ sp.dirs, p = d.join (Path.ofString name) := by simpa [hslash] using h
    refine .inr ⟨rfl, d, hd, rfl, ?_⟩
    rw [Path.isAbsolute_join, Path.isAbsolute_ofString hslash, Bool.false_or]

end External

/-! ## What is started -/

/-- The program that a request starts. -/
def Request.started : Request → Option Child
  | .start child => some child
  | _ => none

/-- The programs that a run starts. -/
def started (es : List Event) : List Child :=
  es.filterMap fun e => e.request.started

@[simp] theorem started_append (es es' : List Event) : started (es ++ es') = started es ++ started es' :=
  List.filterMap_append

theorem Action.Only.started_eq_nil {α : Type} {x : Action α} {r : Redirection}
    (hx : x.Only (Request.IsOutput r)) (sys : System σ) (w : σ) : started (x.trace sys w) = [] := by
  refine List.filterMap_eq_nil_iff.2 fun e he => ?_
  have houtput := hx.of_mem_trace he
  revert houtput
  cases e.request with
  | start child => exact False.elim
  | _ => exact fun _ => rfl

/-- The file that a started program is loaded from: its image, as seen from the directory that the process
has changed to. -/
def Child.file (child : Child) : Path :=
  child.directory.join child.image

namespace External

variable {state : State} {env : Environment} {name : String} {args : List String} {c : External}

/-- **Running a program starts it once**, in the current directory of the shell. -/
theorem started_execute (c : External) (r : Redirection) (state : State) (env : Environment)
    (sys : System σ) (w : σ) :
    ∃ out err, started ((c.execute r state env (r.over Sink.console)).trace sys w) =
      [c.child state env out err] := by
  have houtlet (s : Stream) (w : σ) :
      started ((outlet (r.target s) (r.over Sink.console)).trace sys w) = [] := by
    rw [outlet_eq_told, trace_map]
    exact (only_outletTold fun t ht => Redirection.mem_targets.2 ⟨s, ht⟩).started_eq_nil sys w
  have hstdout := houtlet .stdout w
  have hstderr := houtlet .stderr ((outlet r.stdout (r.over Sink.console)).run sys w).2
  simp only [Redirection.target] at hstdout hstderr
  simp only [execute, trace_bind, started_append, hstdout, hstderr, List.nil_append]
  generalize (outlet r.stdout (r.over Sink.console)).run sys w = out
  generalize (outlet r.stderr (r.over Sink.console)).run sys out.2 = err
  refine ⟨out.1, err.1, ?_⟩
  split <;> rfl

/-- **The file that is started and the file that was checked.** Let `resolve` find a program. Its image has
been looked at and is a program. A name with a slash gets an absolute path name, any other name one that is
absolute where the entry of the search path is, in which it was found. Running the program starts it once.
The file that is started is the one that was looked at from the directory `home` of the shell's process
exactly where the path name is absolute, or the current directory is that of the process. -/
theorem file_execute (hdir : state.currentDir.isAbsolute = true)
    (hfound : ((resolve state (SearchPath.ofEnvironment env) name args).run sys w).1 = .ok c) :
    Checked c.image ((resolve state (SearchPath.ofEnvironment env) name args).trace sys w) ∧
      ((hasSeparator name = true ∧ c.image = state.resolve (Path.ofString name) ∧
          c.image.isAbsolute = true) ∨
        (hasSeparator name = false ∧ ∃ d ∈ (SearchPath.ofEnvironment env).dirs,
          c.image = d.join (Path.ofString name) ∧ c.image.isAbsolute = d.isAbsolute)) ∧
      ∀ (r : Redirection) (w' : σ), ∃ child : Child,
        started ((c.execute r state env (r.over Sink.console)).trace sys w') = [child] ∧
          ∀ home : Path, child.file = home.join c.image ↔
            c.image.isAbsolute = true ∨ state.currentDir.asDirectory = home.asDirectory := by
  have hplace := ((yields_resolve state (SearchPath.ofEnvironment env) name args).run sys w c hfound).2.2
  refine ⟨checked_resolve hfound, isAbsolute_image hdir hplace, fun r w' => ?_⟩
  obtain ⟨out, err, hstarted⟩ := started_execute c r state env sys w'
  exact ⟨_, hstarted, fun home => Path.join_eq_join_iff state.currentDir home c.image⟩

end External

/-- A system on which every file is a program, and nothing else can be done. -/
def System.allPrograms : System Unit := fun r w =>
  match r with
  | .inspect _ => (some { isDirectory := false, isRegular := true, mode := 0o755 }, w)
  | r => System.withTool r w

/-- With a relative entry in the search path one file is looked at and another one is started: the program is
looked for in the directory of the process, and started in the current directory. -/
theorem External.file_execute_relative :
    let env := Environment.ofList [("PATH", "bin")]
    let state : State := { currentDir := Path.ofString "/work/sub" }
    let c : External := ⟨"tool", Path.ofString "bin/tool", []⟩
    let r : Redirection := {}
    let home := Path.ofString "/work"
    ((resolve state (SearchPath.ofEnvironment env) "tool" []).run .allPrograms ()).1 = .ok c ∧
      c.image.isAbsolute = false ∧ home.join c.image = Path.ofString "/work/bin/tool" ∧
      ∃ child : Child,
        started ((c.execute r state env (r.over Sink.console)).trace .allPrograms ()) = [child] ∧
          child.file = Path.ofString "/work/sub/bin/tool" ∧ child.file ≠ home.join c.image := by
  intro env state c r home
  have hdir : state.currentDir.isAbsolute = true := by decide +kernel
  have hfound : ((resolve state (SearchPath.ofEnvironment env) "tool" []).run .allPrograms ()).1 = .ok c := by
    decide +kernel
  obtain ⟨-, -, hstarted⟩ := file_execute hdir hfound
  obtain ⟨child, hchild, hfile⟩ := hstarted r ()
  refine ⟨hfound, by decide +kernel, by decide +kernel, child, hchild, ?_, fun hsame => ?_⟩
  · obtain rfl := List.singleton_inj.1 (show [c.child state env .inherited .inherited] = [child] from hchild)
    decide +kernel
  · rcases (hfile home).1 hsame with habsolute | hhome
    · exact absurd habsolute (by decide +kernel)
    · exact absurd hhome (by decide +kernel)

end LineShell
