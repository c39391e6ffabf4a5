import LineShell.Proofs.Run.Image
import LineShell.Proofs.Run.Naming
import LineShell.Proofs.Run.Search

/-!
# Programs that are not looked for twice

An operating system that is to load a program takes a path name with a slash as it is. Any other name it looks for by
itself, in a search path of its own, in which an empty entry stands for the directory of the process. The file that it
finds then need not be the one that the shell has found, and may be in a directory that nobody has listed.

It never comes to that. The path name of a program that the shell has found came about on one of three *routes*: it is
the name itself, or the name as it is seen from the current directory, or the name in an entry of the variable `PATH`.
Only a name without a slash takes the last one, and only through entries that are not empty, so that there is a slash
on every route.

* `External.Route`: how the path name of a program comes about.
* `External.Route.slash_mem`: the slash on every route.
* `External.only_resolve_route`: no file is looked at but those on routes.
* `External.image_resolve`: a program that was found is started without a second search.
* `Shell.only_handleAll_startsDirectly`: so are all programs of a session.
-/

namespace LineShell

open LineShell.Action

variable {σ : Type} {sys : System σ} {w : σ}

/-! ## Routes -/

namespace External

/-- How the path name of the program `name` comes about. -/
inductive Route (state : State) (env : Environment) (name : String) : Path → Prop
  /-- The name is an absolute path name. -/
  | absolute (habsolute : (Path.ofString name).isAbsolute = true) : Route state env name (Path.ofString name)
  /-- The name has a slash, and is seen from the current directory. -/
  | relative (hslash : hasSeparator name = true) (hrelative : (Path.ofString name).isAbsolute = false) :
      Route state env name (state.currentDir.join (Path.ofString name))
  /-- The name has no slash, and is a name in an entry of `PATH` that is not empty. -/
  | listed {value : String} {entry : List Char} (hslash : hasSeparator name = false)
      (hvalue : env.get? "PATH" = some value) (hentry : entry ∈ value.toList.splitOn ':') (hne : entry ≠ []) :
      Route state env name ((Path.ofString (String.ofList entry)).join (Path.ofString name))

variable {state : State} {env : Environment} {name : String} {p : Path}

theorem route_of_path (hslash : hasSeparator name = true) :
    Route state env name (state.resolve (Path.ofString name)) := by
  by_cases habsolute : (Path.ofString name).isAbsolute = true
  · rw [State.resolve, if_pos habsolute]
    exact .absolute habsolute
  · rw [State.resolve, if_neg habsolute]
    exact .relative hslash (Bool.eq_false_iff.2 habsolute)

theorem route_of_mem_dirs (hslash : hasSeparator name = false) {d : Path}
    (hd : d ∈ (SearchPath.ofEnvironment env).dirs) : Route state env name (d.join (Path.ofString name)) := by
  obtain ⟨value, hvalue, entry, hentry, hne, rfl⟩ := SearchPath.exists_entry_of_mem_dirs hd
  rw [SearchPath.splitColons_eq_splitOn] at hentry
  exact .listed hslash hvalue hentry hne

theorem Place.route (h : Place state (SearchPath.ofEnvironment env) name p) : Route state env name p := by
  unfold Place at h
  cases hslash : hasSeparator name with
  | true =>
    rw [if_pos hslash] at h
    exact h ▸ route_of_path hslash
  | false =>
    rw [if_neg (Bool.eq_false_iff.1 hslash)] at h
    obtain ⟨d, hd, rfl⟩ := h
    exact route_of_mem_dirs hslash hd

namespace Route

/-- **There is a slash on every route**: in the name, or between an entry and the name. -/
theorem slash_mem (h : Route state env name p) : Path.slash ∈ p.bytes := by
  cases h with
  | absolute habsolute => exact List.mem_of_head? (beq_iff_eq.1 habsolute)
  | relative hslash _ =>
    have hname : Path.slash ∈ (Path.ofString name).bytes := Path.slash_mem_ofString.2 hslash
    exact (Path.suffix_join _ _).subset hname
  | listed hslash _ _ hne =>
    have hentry := Path.bytes_ofString_ne_nil fun hempty => hne (String.ofList_injective hempty)
    exact Path.slash_mem_join hentry (Path.isAbsolute_ofString hslash)

theorem suffix (h : Route state env name p) : (Path.ofString name).bytes <:+ p.bytes := by
  cases h with
  | absolute _ => exact List.suffix_refl _
  | relative _ _ | listed _ _ _ _ => exact Path.suffix_join _ _

theorem ne_ofString (h : Route state env name p) (hslash : hasSeparator name = false) : p ≠ Path.ofString name := by
  rintro rfl
  rw [Path.slash_mem_ofString.1 h.slash_mem] at hslash
  cases hslash

end Route

/-- **No file is looked at but those on routes**, whether a program is found or not. -/
theorem only_resolve_route (state : State) (env : Environment) (name : String) (args : List String) :
    (resolve state (SearchPath.ofEnvironment env) name args).Only fun q =>
      ∃ p, Route state env name p ∧ q = .inspect p :=
  only_resolve (fun hslash => ⟨_, route_of_path hslash, rfl⟩)
    (fun hslash _ hd => ⟨_, route_of_mem_dirs hslash hd, rfl⟩) args

theorem resolve_of_name (hslash : hasSeparator name = false) (state state' : State) (sp : SearchPath)
    (args : List String) : resolve state' sp name args = resolve state sp name args := by
  rw [resolve, resolve, locate_of_name hslash, locate_of_name hslash]

end External

/-! ## What the operating system loads -/

/-- The path names that the operating system tries in order to load the program, where its own search path has the
entries `own`: a path name with a slash alone, any other name in each entry. -/
def Child.tried (child : Child) (own : List Path) : List Path :=
  if Path.slash ∈ child.image.bytes then [child.image] else own.map (·.join child.image)

theorem Child.tried_of_slash {child : Child} (h : Path.slash ∈ child.image.bytes) (own : List Path) :
    child.tried own = [child.image] :=
  if_pos h

namespace External

variable {state : State} {env : Environment} {name : String} {args : List String} {c : External}

/-- **A program that was found is started without a second search.** Let `resolve` find a program for `name`. Its
path name came about on a route, has a slash in it, and ends in the name. Running the program starts it once, under
this path name, and whatever search path the operating system has of its own, it tries no other. For a name without
a slash no empty entry of `PATH` stands for a current directory: that of the shell makes no difference to the search,
and the path name that the name is in an empty entry, as seen from that of the process, is never looked at. -/
theorem image_resolve
    (hfound : ((resolve state (SearchPath.ofEnvironment env) name args).run sys w).1 = .ok c) :
    Route state env name c.image ∧ Path.slash ∈ c.image.bytes ∧ (Path.ofString name).bytes <:+ c.image.bytes ∧
      (∀ (r : Redirection) (w' : σ), ∃ child : Child,
        started ((c.execute r state env (r.over Sink.console)).trace sys w') = [child] ∧
          child.image = c.image ∧ ∀ own, child.tried own = [c.image]) ∧
      (hasSeparator name = false →
        (∀ state' : State, resolve state' (SearchPath.ofEnvironment env) name args =
          resolve state (SearchPath.ofEnvironment env) name args) ∧
        ∀ e ∈ (resolve state (SearchPath.ofEnvironment env) name args).trace sys w,
          e.request ≠ .inspect ((Path.ofString "").join (Path.ofString name))) := by
  obtain ⟨-, -, hplace⟩ := (yields_resolve state (SearchPath.ofEnvironment env) name args).run sys w c hfound
  have hroute := hplace.route
  refine ⟨hroute, hroute.slash_mem, hroute.suffix, fun r w' => ?_, fun hslash => ⟨fun state' => ?_, fun e he => ?_⟩⟩
  · obtain ⟨out, err, hstarted⟩ := started_execute c r state env sys w'
    exact ⟨_, hstarted, rfl, Child.tried_of_slash hroute.slash_mem⟩
  · exact resolve_of_name hslash state state' _ args
  -- An empty entry would give the name alone, which is on no route.
  · obtain ⟨p, hp, hrequest⟩ := (only_resolve_route state env name args).of_mem_trace he
    have hempty : (Path.ofString "").join (Path.ofString name) = Path.ofString name := by
      rw [Path.join_of_relative (Path.isAbsolute_ofString hslash)]
      rfl
    rw [hrequest, hempty]
    exact fun hsame => hp.ne_ofString hslash (Request.inspect.inj hsame)

/-- Where every path name is that of a program, the name alone is one as well: an empty entry in front would have found
it, and the operating system would have looked for it in its own search path. A name with a slash is seen from the
current directory, also where this is a relative one. -/
theorem image_resolve_emptyEntry :
    let env := Environment.ofList [("PATH", ":opt/::/bin")]
    let state : State := { currentDir := Path.ofString "work" }
    let found (name : String) := ((resolve state (SearchPath.ofEnvironment env) name []).run .allPrograms ()).1
    let tool : External := ⟨"tool", Path.ofString "opt/tool", []⟩
    let r : Redirection := {}
    let own := [Path.ofString "", Path.ofString "/usr"]
    (found "tool" = .ok tool ∧ ((isExecutable (Path.ofString "tool")).run .allPrograms ()).1 = true ∧
      (∃ child : Child, started ((tool.execute r state env (r.over Sink.console)).trace .allPrograms ()) = [child] ∧
        child.tried own = [Path.ofString "opt/tool"] ∧
        { child with image := Path.ofString "tool" }.tried own = [Path.ofString "tool", Path.ofString "/usr/tool"])) ∧
    (found "./tool" = .ok ⟨"./tool", Path.ofString "work/./tool", []⟩ ∧
      Route state env "./tool" (Path.ofString "work/./tool")) ∧
    found "/bin/tool" = .ok ⟨"/bin/tool", Path.ofString "/bin/tool", []⟩ ∧
      Route state env "/bin/tool" (Path.ofString "/bin/tool") := by
  intro env state found tool r own
  have htool : found "tool" = .ok tool := by decide +kernel
  have hrelative : found "./tool" = .ok ⟨"./tool", Path.ofString "work/./tool", []⟩ := by decide +kernel
  have habsolute : found "/bin/tool" = .ok ⟨"/bin/tool", Path.ofString "/bin/tool", []⟩ := by decide +kernel
  obtain ⟨-, -, -, hstarted, -⟩ := image_resolve htool
  obtain ⟨hdot, -⟩ := image_resolve hrelative
  obtain ⟨hbin, -⟩ := image_resolve habsolute
  obtain ⟨child, hchild, -, htried⟩ := hstarted r ()
  have hbare : Path.slash ∉ (Path.ofString "tool").bytes := by decide +kernel
  refine ⟨⟨htool, by decide +kernel, child, hchild, htried own, ?_⟩, ⟨hrelative, hdot⟩, habsolute, hbin⟩
  calc { child with image := Path.ofString "tool" }.tried own
      = own.map (·.join (Path.ofString "tool")) := if_neg hbare
    _ = [Path.ofString "tool", Path.ofString "/usr/tool"] := by decide +kernel

end External

/-! ## A session -/

/-- If the request starts a program, the operating system tries no path name but the one that it is given. -/
def Request.StartsDirectly : Request → Prop
  | .start child => ∀ own, child.tried own = [child.image]
  | _ => True

theorem Request.OfLine.startsDirectly {sh : Shell} {c : Command} {q : Request}
    (hsearch : sh.searchPath = SearchPath.ofEnvironment sh.env) (hq : q.OfLine sh c) : q.StartsDirectly := by
  cases q with
  | start child =>
    obtain ⟨program, -, -, hplace, out, err, rfl⟩ := hq
    rw [hsearch] at hplace
    exact Child.tried_of_slash hplace.route.slash_mem
  | _ => trivial

/-- **No program of a session is looked for twice.** -/
theorem Shell.only_handleAll_startsDirectly (env : Environment) (state : State) (lines : List String) :
    ((Shell.start env state).handleAll lines).Only Request.StartsDirectly := by
  refine only_handleAll_of (I := fun sh => sh.searchPath = SearchPath.ofEnvironment sh.env)
    (fun sh c q hsearch hq => hq.startsDirectly hsearch) (fun sh c sh' hsearch hfollows => ?_) rfl lines
  rw [hfollows.searchPath, hfollows.env, hsearch]

end LineShell
