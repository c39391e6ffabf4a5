import LineShell.Proofs.Run.Dropped
import LineShell.Proofs.Run.Session

/-!
# What the creation of targets leaves

The targets of a line are created one after the other, the second in the world that the first has left. Each is
kept or given up for itself, and the files are changed by the targets that are kept, and by nothing else. Two path
names may denote one file: a target that is to be emptied is empty then, whichever of the two comes first.

* `Redirection.fates_prepare`: one target after the other.
* `Redirection.contents_prepare_eq`: the files are changed by the targets that are kept.
* `Redirection.contents_prepare`: what is kept, what is reported, and what each file holds.
-/

namespace LineShell

open LineShell.Action

variable {σ F : Type} [DecidableEq F] {sys : System σ} {base : Path} {w : σ}

/-- The target as seen from the directory `base`: a relative path name is joined to it. -/
theorem Target.resolve_eq (t : Target) (base : Path) :
    t.resolve base = ⟨if t.path.isAbsolute then t.path else base.join t.path, t.append⟩ := by
  rw [Target.resolve]
  split <;> rfl

namespace Redirection

/-! ## One target -/

section Fate

variable {t? : Option Target} {x : (Option Target × List ShellError) × σ} {es : List Event}

theorem Fate.requests (h : Fate sys base w t? x es) :
    es.map Event.request = t?.toList.map fun t => .create (t.resolve base) := by
  cases h <;> rfl

theorem Fate.world_eq (h : Fate sys base w t? x es) :
    x.2 = t?.elim w fun t => (sys (.create (t.resolve base)) w).2 := by
  cases h with
  | absent => rfl
  | kept t w' hcreate => exact (congrArg Prod.snd hcreate).symm
  | lost t fault w' hcreate => exact (congrArg Prod.snd hcreate).symm

/-- A target is kept iff creating it goes well. -/
theorem Fate.eq_some_iff (h : Fate sys base w t? x es) {t' : Target} :
    x.1.1 = some t' ↔ ∃ t, t? = some t ∧ (sys (.create (t.resolve base)) w).1 = .ok () ∧ t' = t.resolve base := by
  cases h with
  | absent => simp
  | kept t w' hcreate => simp [hcreate, eq_comm]
  | lost t fault w' hcreate => simp [hcreate]

/-- The file system is left as the target that is kept leaves it. -/
theorem Fate.contents_eq (h : Fate sys base w t? x es) (fs : FileSystem sys F) (f : F)
    (hspared : ∀ t w fault, (sys (.create t) w).1 = .error fault →
      fs.contents (sys (.create t) w).2 f = fs.contents w f) :
    fs.contents x.2 f = effects fs.file f (x.1.1.toList.map .create) (fs.contents w f) := by
  cases h with
  | absent => rfl
  | kept t w' hcreate =>
    have hafter := fs.contents_after (.create (t.resolve base)) w f (congrArg Prod.fst hcreate)
    rwa [hcreate] at hafter
  | lost t fault w' hcreate =>
    have hleft := hspared (t.resolve base) w fault (congrArg Prod.fst hcreate)
    rwa [hcreate] at hleft

end Fate

/-! ## Both targets -/

variable (r : Redirection)

/-- The world in which the target of the stream `s` is created: that of the output stream comes first. -/
def worldFor (sys : System σ) (base : Path) (w : σ) : Stream → σ
  | .stdout => w
  | .stderr => r.stdout.elim w fun t => (sys (.create (t.resolve base)) w).2

variable (sys base w)

/-- **One target after the other**: each stream has its own fate, in the world of its turn. -/
theorem fates_prepare :
    ∃ out outEvents err errEvents,
      Fate sys base (r.worldFor sys base w .stdout) r.stdout out outEvents ∧
      Fate sys base (r.worldFor sys base w .stderr) r.stderr err errEvents ∧
      out.2 = r.worldFor sys base w .stderr ∧
      (r.prepare base).run sys w = ((⟨out.1.1, err.1.1⟩, out.1.2 ++ err.1.2), err.2) ∧
      (r.prepare base).trace sys w = outEvents ++ errEvents := by
  have hout := fate_prepareTarget sys base r.stdout w
  have herr := fate_prepareTarget sys base r.stderr ((prepareTarget base r.stdout).run sys w).2
  have hbetween : _ = r.worldFor sys base w .stderr := hout.world_eq
  refine ⟨_, _, _, _, hout, hbetween ▸ herr, hbetween, ?_, ?_⟩
  · simp only [prepare, run_bind, pure_def, run_done, ← hbetween]
  · simp only [prepare, trace_bind, pure_def, trace_done, List.append_nil, ← hbetween]

variable {sys w}

theorem contents_prepare_of_spared (fs : FileSystem sys F) (f : F)
    (hspared : ∀ t w fault, (sys (.create t) w).1 = .error fault →
      fs.contents (sys (.create t) w).2 f = fs.contents w f) :
    fs.contents ((r.prepare base).run sys w).2 f =
      effects fs.file f (((r.prepare base).run sys w).1.1.targets.map .create) (fs.contents w f) := by
  obtain ⟨out, _, err, _, hout, herr, hbetween, hrun, -⟩ := r.fates_prepare sys base w
  rw [hrun, targets, List.map_append, effects_append, herr.contents_eq fs f hspared, ← hbetween,
    hout.contents_eq fs f hspared]
  rfl

/-- The files are changed by the targets that are kept, one after the other. -/
theorem contents_prepare_eq (fs : FileSystem sys F) (hclean : sys.FailsClean) (f : F) :
    fs.contents ((r.prepare base).run sys w).2 f =
      effects fs.file f (((r.prepare base).run sys w).1.1.targets.map .create) (fs.contents w f) := by
  refine r.contents_prepare_of_spared base fs f fun t w fault hfault => ?_
  rw [hclean t w fault hfault]

/-- Where requests that fail leave other files alone, a file that a kept target aims at is there, and empty if one
is to empty it. -/
theorem contents_prepare_of_firm {fs : FileSystem sys F} (hfirm : fs.Firm) {f : F}
    (haims : ((r.prepare base).run sys w).1.1.Aims fs.file f) :
    fs.contents ((r.prepare base).run sys w).2 f =
      some (if ((r.prepare base).run sys w).1.1.Truncates fs.file f then [] else (fs.contents w f).getD []) := by
  have hspared : ∀ t w fault, (sys (.create t) w).1 = .error fault →
      fs.contents (sys (.create t) w).2 f = fs.contents w f := by
    intro t w fault hfault
    refine hfirm (.create t) w f (fun hsmooth => ?_) (fun _ => Request.noConfusion) id
    rw [hfault] at hsmooth
    cases hsmooth
  rw [r.contents_prepare_of_spared base fs f hspared, effects_create, if_pos haims]

/-- **What the creation of targets leaves.** Each target is created once as it is seen from `base`, with that of
the output stream first, and nothing else is asked for. A stream keeps its target iff it had one and creating it
went well; of each target that is given up there is one error. A file that a kept target empties is empty then, a
file that kept targets only append to holds what it held, and all other files are as they were. -/
theorem contents_prepare (fs : FileSystem sys F) (hclean : sys.FailsClean) (r : Redirection) (base : Path) (w : σ) :
    let seen (t : Target) : Target := ⟨if t.path.isAbsolute then t.path else base.join t.path, t.append⟩
    let answer (s : Stream) (t : Target) := (sys (.create (seen t)) (r.worldFor sys base w s)).1
    let prepared := (r.prepare base).run sys w
    let kept := prepared.1.1
    ((r.prepare base).trace sys w).map Event.request = r.targets.map (fun t => .create (seen t)) ∧
    (∀ s t', kept.target s = some t' ↔ ∃ t, r.target s = some t ∧ answer s t = .ok () ∧ t' = seen t) ∧
    List.Forall₂ (fun s e => ∃ t fault, r.target s = some t ∧ answer s t = .error fault ∧
      e = .redirect (seen t).path fault) (r.lost kept) prepared.1.2 ∧
    (∀ t ∈ kept.targets, ∀ f, fs.file t.path = some f → (fs.contents prepared.2 f).isSome) ∧
    ∀ f, (kept.Truncates fs.file f → fs.contents prepared.2 f = some []) ∧
      (kept.Aims fs.file f → ¬ kept.Truncates fs.file f →
        fs.contents prepared.2 f = some ((fs.contents w f).getD [])) ∧
      (¬ kept.Aims fs.file f → fs.contents prepared.2 f = fs.contents w f) := by
  intro seen answer prepared kept
  -- Joining leaves an absolute path name as it is, so that `seen` is how the shell resolves a target.
  have hseen : seen = (·.resolve base) := funext fun t => (t.resolve_eq base).symm
  clear_value seen
  subst hseen
  have hcontents (f : F) : fs.contents prepared.2 f =
      if kept.Aims fs.file f then
        some (if kept.Truncates fs.file f then [] else (fs.contents w f).getD [])
      else fs.contents w f :=
    (r.contents_prepare_eq base fs hclean f).trans (effects_create _)
  obtain ⟨out, outEvents, err, errEvents, hout, herr, -, hrun, htrace⟩ := r.fates_prepare sys base w
  have hkept : kept = ⟨out.1.1, err.1.1⟩ := congrArg (·.1.1) hrun
  refine ⟨?_, fun s t' => ?_, ?_, fun t ht f hfile => ?_, fun f => ⟨fun htruncates => ?_, fun haims hkeeps => ?_,
    fun hother => ?_⟩⟩
  · rw [htrace, List.map_append, hout.requests, herr.requests, ← List.map_append]
    rfl
  · cases s with
    | stdout => exact hkept ▸ hout.eq_some_iff
    | stderr => exact hkept ▸ herr.eq_some_iff
  · rw [show prepared.1.2 = out.1.2 ++ err.1.2 from congrArg (·.1.2) hrun, hkept, lost, ← List.singleton_append,
      List.filter_append]
    exact List.rel_append
      (Fate.forall₂_errors hout rfl fun t fault ht hcreate _ => ⟨t, fault, ht, hcreate, rfl⟩)
      (Fate.forall₂_errors herr rfl fun t fault ht hcreate _ => ⟨t, fault, ht, hcreate, rfl⟩)
  · rw [hcontents, if_pos ⟨t, ht, hfile⟩]
    rfl
  · rw [hcontents, if_pos htruncates.aims, if_pos htruncates]
  · rw [hcontents, if_pos haims, if_neg hkeeps]
  · rw [hcontents, if_neg hother]

end Redirection

/-! ## A path name that cannot be written -/

/-- The system with a file of two names, where `/locked` cannot be created. -/
def System.guarded : System (Path → Option Bytes) := fun r w =>
  match r with
  | .create t =>
    if t.path = Path.ofString "/locked" then (.error (.system .accessDenied), w) else System.linked (.create t) w
  | r => System.linked r w

/-- The files of that system. -/
def FileSystem.guarded : FileSystem System.guarded Path where
  file := linkedFile
  contents := id
  contents_after r w f h := by
    cases r with
    | create t =>
      by_cases hlocked : t.path = Path.ofString "/locked"
      · simp [Event.Smooth, System.guarded, hlocked] at h
      · simp [System.guarded, hlocked, System.linked, System.bare]
    | _ => rfl

theorem System.failsClean_guarded : System.guarded.FailsClean := by
  intro t w fault hfault
  by_cases hlocked : t.path = Path.ofString "/locked"
  · simp [System.guarded, hlocked]
  · simp [System.guarded, hlocked, System.linked, System.bare] at hfault

/-- The file is emptied under one of its names although it is appended to under the other. Where the target that
empties is given up, what the file held is left. -/
theorem Redirection.contents_prepare_guarded :
    let held (p : Path) := if p = Path.ofString "/f" then some (Bytes.ofString "old") else none
    let mixed : Redirection := ⟨some ⟨Path.ofString "f", false⟩, some ⟨Path.ofString "l", true⟩⟩
    let barred : Redirection := ⟨some ⟨Path.ofString "locked", false⟩, some ⟨Path.ofString "/l", true⟩⟩
    System.guarded.FailsClean ∧
      ((mixed.prepare .root).run .guarded held).2 (Path.ofString "/f") = some [] ∧
      ((barred.prepare .root).run .guarded held).2 (Path.ofString "/f") = some (Bytes.ofString "old") ∧
      ((barred.prepare .root).run .guarded held).1 =
        (⟨none, some ⟨Path.ofString "/l", true⟩⟩,
          [.redirect (Path.ofString "/locked") (.system .accessDenied)]) := by
  intro held mixed barred
  have hclean := System.failsClean_guarded
  obtain ⟨-, -, -, -, hmixed⟩ := contents_prepare FileSystem.guarded hclean mixed .root held
  obtain ⟨-, -, -, -, hbarred⟩ := contents_prepare FileSystem.guarded hclean barred .root held
  obtain ⟨hempty, -, -⟩ := hmixed (Path.ofString "/f")
  obtain ⟨-, hold, -⟩ := hbarred (Path.ofString "/f")
  exact ⟨hclean, hempty (by decide +kernel), hold (by decide +kernel) (by decide +kernel), by decide +kernel⟩

end LineShell
