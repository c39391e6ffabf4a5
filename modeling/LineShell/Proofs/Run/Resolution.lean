import LineShell.Proofs.Run.Creation
import LineShell.Proofs.Run.Destination

/-!
# One reading of path names

A path name is read in three places: by `cd`, by a line whose name has a slash, and by the creation of targets. The
first two have it resolved by the state, the third rewrites it for itself where it is relative, but all of them come to
the same. Reading a path name in a directory that was itself read from another one is reading the joined path name
there, since joining is associative.

* `Target.resolve_eq_state`: the rewriting of a target is the resolving of the state.
* `Redirection.requests_prepare`: the targets that are created.
* `External.requests_resolve_of_path`: the file that is looked at for a name with a slash.
* `Builtin.requests_cd`: the files that `cd` asks about first.
* `State.resolve_shared`: reading in two steps, and all readers at once.
-/

namespace LineShell

open LineShell.Action

variable {σ : Type} {sys : System σ} {w : σ}

/-! ## The readers -/

theorem Target.resolve_eq_state (t : Target) (state : State) :
    t.resolve state.currentDir = ⟨state.resolve t.path, t.append⟩ := by
  rw [Target.resolve_eq_join, State.resolve_eq_join]

namespace Redirection

variable (r : Redirection) (base : Path)

theorem requests_prepare :
    ((r.prepare base).trace sys w).map Event.request = r.targets.map fun t => .create (t.resolve base) := by
  obtain ⟨out, outEvents, err, errEvents, hout, herr, -, -, htrace⟩ := r.fates_prepare sys base w
  rw [htrace, List.map_append, hout.requests, herr.requests, ← List.map_append]
  rfl

/-- A target that is kept is one of those that were asked for, as it is seen from `base`. -/
theorem exists_target_of_prepare {s : Stream} {t' : Target}
    (h : ((r.prepare base).run sys w).1.1.target s = some t') : ∃ t, r.target s = some t ∧ t' = t.resolve base := by
  have hkept : t' ∈ (r.resolve base).target s := (r.yields_prepare base).run sys w s t' h
  cases s with
  | stdout | stderr =>
    obtain ⟨t, ht, rfl⟩ := Option.map_eq_some_iff.1 hkept
    exact ⟨t, ht, rfl⟩

/-- A line with one redirection has one target. -/
theorem targets_set_empty (s : Stream) (t : Target) : (({} : Redirection).set s t).targets = [t] := by
  cases s <;> rfl

end Redirection

/-- A name with a slash is looked at once, as it is seen from the current directory. -/
theorem External.requests_resolve_of_path {name : String} (hslash : hasSeparator name = true) (state : State)
    (sp : SearchPath) (args : List String) :
    ((resolve state sp name args).trace sys w).map Event.request = [.inspect (state.resolve (Path.ofString name))] := by
  have hlocate : ((locate state sp name).trace sys w).map Event.request =
      [.inspect (state.resolve (Path.ofString name))] := by
    simp only [locate, hslash, if_true, isExecutable, request, ask_bind, done_bind, pure_def, trace_ask, List.map_cons]
    split <;> rfl
  rw [resolve, trace_bind, List.map_append, hlocate]
  cases ((locate state sp name).run sys w).1 with
  | none | some image => rfl

/-- The directory that `cd` is asked for is made real first, as it is seen from the current directory. What is looked
at then is its real path, or this very path name where there is no real path. -/
theorem Builtin.requests_cd {env : Environment} {args text shown : String} (hasks : Asks env args text shown)
    (sp : SearchPath) (state : State) (sink : Sink) :
    let place := state.resolve (Path.ofString text)
    ∃ later, ((execute .cd env sp state sink args).trace sys w).map Event.request =
      .canonicalize place :: .inspect ((sys (.canonicalize place) w).1.getD place) :: later := by
  intro place
  have hcd : execute .cd env sp state sink args = enter state sink place shown := by
    rw [execute, changeDirectory, hasks.destination_eq]
  obtain ⟨-, htrace⟩ := run_enter sys w state place shown sink
  rw [hcd, htrace]
  simp only [directoryFault, request, ask_bind, done_bind, trace_ask, List.cons_append, List.map_cons]
  exact ⟨_, rfl⟩

/-! ## All readers -/

/-- **Path names are read in one way.** Let `inside dir` be the state with the current directory `dir`. What is seen
from a directory that was seen as `a` from `c`, is seen from `c` by the joined path name: joining is associative,
whatever the parts are. What is seen is absolute exactly where the path name or the directory is, and an absolute path
name is seen as itself. The creation of targets makes every target what the state resolves it to, in each request as
well as in what is kept. So one text comes to one path name for `cd`, for a line with this name, and for a
redirection. -/
theorem State.resolve_shared (state : State) (sys : System σ) (w : σ) :
    let inside (dir : Path) : State := { state with currentDir := dir }
    (∀ c a b : Path, (inside ((inside c).resolve a)).resolve b = (inside c).resolve (a.join b) ∧
      (c.join a).join b = c.join (a.join b)) ∧
    (∀ c a : Path, ((inside c).resolve a).isAbsolute = (a.isAbsolute || c.isAbsolute) ∧
      (a.isAbsolute = true → (inside c).resolve a = a)) ∧
    (∀ (c : Path) (r : Redirection),
      let seen (t : Target) : Target := ⟨(inside c).resolve t.path, t.append⟩
      ((r.prepare c).trace sys w).map Event.request = r.targets.map (fun t => .create (seen t)) ∧
      ∀ s t', ((r.prepare c).run sys w).1.1.target s = some t' → ∃ t, r.target s = some t ∧ t' = seen t) ∧
    ∀ (c : Path) (text : String),
      let place := (inside c).resolve (Path.ofString text)
      (∀ env args shown, Builtin.Asks env args text shown → ∀ sp sink, ∃ later,
        ((Builtin.execute .cd env sp (inside c) sink args).trace sys w).map Event.request =
          .canonicalize place :: .inspect ((sys (.canonicalize place) w).1.getD place) :: later) ∧
      (hasSeparator text = true → ∀ sp args,
        ((External.resolve (inside c) sp text args).trace sys w).map Event.request = [.inspect place]) ∧
      ∀ s append, (((({} : Redirection).set s ⟨Path.ofString text, append⟩).prepare c).trace sys w).map Event.request =
        [.create ⟨place, append⟩] := by
  intro inside
  have hseen (c : Path) (t : Target) : t.resolve c = ⟨(inside c).resolve t.path, t.append⟩ :=
    t.resolve_eq_state (inside c)
  refine ⟨fun c a b => ?_, fun c a => ?_, fun c r => ?_,
    fun c text => ⟨fun env args shown hasks sp sink => ?_, fun hslash sp args => ?_, fun s append => ?_⟩⟩
  · simp only [resolve_eq_join]
    exact ⟨Path.join_assoc c a b, Path.join_assoc c a b⟩
  · rw [resolve_eq_join]
    exact ⟨Path.isAbsolute_join c a, Path.join_of_isAbsolute c⟩
  · simp only [← hseen c]
    exact ⟨r.requests_prepare c, fun s t' => r.exists_target_of_prepare c⟩
  · exact Builtin.requests_cd hasks sp (inside c) sink
  · exact External.requests_resolve_of_path hslash (inside c) sp args
  · rw [Redirection.requests_prepare, Redirection.targets_set_empty, List.map_singleton, hseen c]

/-- Two ways to one file from `/work`, with an empty part and with a slash at the end, and its three readers. -/
theorem State.resolve_shared_emptyPart :
    let inside (dir : Path) : State := { currentDir := dir }
    let work := Path.ofString "/work"
    let place := Path.ofString "/work/sub/tool"
    let asked {α : Type} (x : Action α) := (x.trace .allPrograms ()).map Event.request
    (inside ((inside work).resolve (Path.ofString ""))).resolve (Path.ofString "sub/tool") = place ∧
      (inside ((inside work).resolve (Path.ofString "sub/"))).resolve (Path.ofString "tool") = place ∧
      (inside work).resolve place = place ∧
      (∃ later, asked (Builtin.execute .cd {} {} (inside work) Sink.console " sub/tool ") =
        .canonicalize place :: .inspect place :: later) ∧
      asked (External.resolve (inside work) {} "sub/tool" []) = [.inspect place] ∧
      asked ((({} : Redirection).set .stderr ⟨Path.ofString "sub/tool", true⟩).prepare work) =
        [.create ⟨place, true⟩] := by
  intro inside work place asked
  obtain ⟨hjoin, habsolute, -, hread⟩ := resolve_shared (inside work) .allPrograms ()
  obtain ⟨hcd, hprogram, htarget⟩ := hread work "sub/tool"
  obtain ⟨hempty, -⟩ := hjoin work (Path.ofString "") (Path.ofString "sub/tool")
  obtain ⟨hslash, -⟩ := hjoin work (Path.ofString "sub/") (Path.ofString "tool")
  have hplace : work.join (Path.ofString "sub/tool") = place := by decide +kernel
  have hasks : Builtin.Asks {} " sub/tool " "sub/tool" "sub/tool" := by
    have htrim : trimBlanks " sub/tool " = "sub/tool" := by decide +kernel
    rw [← htrim]
    exact .plain (by decide +kernel) (by decide +kernel)
  refine ⟨hempty.trans (by decide +kernel), hslash.trans (by decide +kernel), (habsolute work place).2 (by decide +kernel),
    ?_, ?_, ?_⟩
  · exact hplace ▸ hcd {} " sub/tool " "sub/tool" hasks {} Sink.console
  · exact hplace ▸ hprogram (by decide +kernel) {} []
  · exact hplace ▸ htarget .stderr true

end LineShell
