import LineShell.Machine.System
import LineShell.Proofs.Run.Launch

/-!
# Looking programs up

A search path is cut at every colon, and its directories are asked one after the other. So the search path that two
texts with a colon between them stand for is that of the one text, followed by that of the other. What is found in it
is what is found in the first part and then in the second one, and the first part decides which program a name stands
for, wherever it has one.

While files are looked at the world stands still. Then a search gives those path names, of the name in each directory,
under which there is a program, as often as the directory is listed.

* `SearchPath.dirs_ofString_append`, `SearchPath.dirs_ofString_intercalate`: the directories that a text stands for.
* `SearchPath.search_append`: a search in two parts.
* `SearchPath.run_search`: what is found in a world that stands still.
* `SearchPath.search_concat`: all this about the variable `PATH` of an environment.
-/

namespace LineShell

open LineShell.Action

variable {σ : Type} {sys : System σ}

namespace SearchPath

/-! ## The directories of a text -/

theorem splitColons_eq_splitOn (cs : List Char) : splitColons cs = cs.splitOn ':' := by
  induction cs with
  | nil => rfl
  | cons c cs ih =>
    obtain ⟨piece, pieces, hpieces⟩ := List.exists_cons_of_ne_nil (List.splitOn_ne_nil ':' cs)
    rw [splitColons, ih, List.splitOn_cons_eq_if_modifyHead, hpieces]
    by_cases hc : c = ':'
    · rw [if_pos hc, if_pos (beq_iff_eq.2 hc)]
    · rw [if_neg hc, if_neg (mt beq_iff_eq.1 hc)]
      rfl

/-- **Two texts with a colon between them** list the directories of the first one, and then those of the second. -/
theorem dirs_ofString_append (a b : String) :
    (ofString (a ++ ":" ++ b)).dirs = (ofString a).dirs ++ (ofString b).dirs := by
  have hchars : (a ++ ":" ++ b).toList = a.toList ++ ':' :: b.toList := by
    rw [String.toList_append, String.toList_append, List.append_assoc]
    rfl
  simp only [ofString, hchars, splitColons_eq_splitOn, List.splitOn_append_cons_self, List.filter_append,
    List.map_append]

/-- **Directories with colons between them** are listed again, but for those without a name. -/
theorem dirs_ofString_intercalate {ds : List String} (h : ∀ d ∈ ds, ':' ∉ d.toList) :
    (ofString (":".intercalate ds)).dirs = (ds.filter (· ≠ "")).map Path.ofString := by
  by_cases hds : ds = []
  · rw [hds]
    rfl
  have hpieces : splitColons (":".intercalate ds).toList = ds.map String.toList := by
    rw [splitColons_eq_splitOn, String.toList_intercalate]
    apply List.splitOn_intercalate
    · intro cs hcs
      obtain ⟨d, hd, rfl⟩ := List.mem_map.1 hcs
      exact h d hd
    · exact mt List.map_eq_nil_iff.1 hds
  rw [ofString, hpieces, List.filter_map, List.map_map]
  simp [Function.comp_def]

/-! ## Searching in two parts -/

variable (name : String)

theorem keepPrograms_append (ps qs : List Path) :
    keepPrograms (ps ++ qs) = do
      let found ← keepPrograms ps
      let later ← keepPrograms qs
      return found ++ later := by
  induction ps with
  | nil => exact (bind_pure _).symm
  | cons p ps ih =>
    simp only [List.cons_append, keepPrograms, ih, bind_assoc, pure_bind]
    apply bind_congr
    intro isProgram
    apply bind_congr
    intro found
    apply bind_congr
    intro later
    cases isProgram <;> rfl

/-- **A search in two parts**: the files of the first part are looked at first, and then those of the second. -/
theorem search_append (ds ds' : List Path) :
    search ⟨ds ++ ds'⟩ name = do
      let found ← search ⟨ds⟩ name
      let later ← search ⟨ds'⟩ name
      return found ++ later := by
  unfold search
  by_cases hname : isSearchable name = true
  · rw [if_pos hname, if_pos hname, if_pos hname, List.map_append, keepPrograms_append]
  · rw [if_neg hname, if_neg hname, if_neg hname]
    rfl

theorem search_nil : search ⟨[]⟩ name = return [] := by
  unfold search
  split <;> rfl

theorem find_nil : find ⟨[]⟩ name = return none := by
  rw [find, search_nil]
  rfl

end SearchPath

/-! ## A world that stands still -/

/-- The world is left as it is when a file is looked at. -/
def System.StandsStill (sys : System σ) : Prop :=
  ∀ p w, (sys (.inspect p) w).2 = w

theorem Machine.standsStill_answer : Machine.answer.StandsStill :=
  fun _ _ => rfl

/-- There is a program under the path name `p`. -/
def System.hasProgram (sys : System σ) (w : σ) (p : Path) : Bool :=
  (sys (.inspect p) w).1.any FileInfo.isProgram

namespace SearchPath

variable (hstill : sys.StandsStill) (w : σ)

include hstill

theorem run_isExecutable (p : Path) : (isExecutable p).run sys w = (sys.hasProgram w p, w) :=
  congrArg (Prod.mk (sys.hasProgram w p)) (hstill p w)

theorem run_keepPrograms (ps : List Path) :
    (keepPrograms ps).run sys w = (ps.filter (sys.hasProgram w), w) := by
  induction ps with
  | nil => rfl
  | cons p ps ih =>
    simp only [keepPrograms, run_bind, run_isExecutable hstill, ih, List.filter_cons]
    rfl

/-- **What is found in a world that stands still**, for a name that is looked up: the name in each directory, where
there is a program under this path name. -/
theorem run_search (sp : SearchPath) {name : String} (hname : name ≠ "") (hslash : hasSeparator name = false) :
    (sp.search name).run sys w =
      ((sp.dirs.map (·.join (Path.ofString name))).filter (sys.hasProgram w), w) := by
  have hsearchable : isSearchable name = true := by
    have hempty : name.isEmpty = false := by simpa using hname
    rw [isSearchable, hempty, hslash]
    rfl
  rw [search, if_pos hsearchable, run_keepPrograms hstill]

/-- A search leaves a world that stands still as it is. -/
theorem run_search_snd (sp : SearchPath) (name : String) : ((sp.search name).run sys w).2 = w := by
  unfold search
  split
  · rw [run_keepPrograms hstill]
  · rfl

/-- What is found in two parts of a search path is found in them side by side. -/
theorem run_search_append (ds ds' : List Path) (name : String) :
    ((search ⟨ds ++ ds'⟩ name).run sys w).1 =
      ((search ⟨ds⟩ name).run sys w).1 ++ ((search ⟨ds'⟩ name).run sys w).1 := by
  rw [search_append, run_bind, run_bind, run_search_snd hstill]
  rfl

theorem run_find_append (ds ds' : List Path) (name : String) :
    ((find ⟨ds ++ ds'⟩ name).run sys w).1 =
      ((find ⟨ds⟩ name).run sys w).1.or ((find ⟨ds'⟩ name).run sys w).1 := by
  have hfind (sp : SearchPath) : ((sp.find name).run sys w).1 = ((sp.search name).run sys w).1.head? := by
    rw [find, run_bind]
    rfl
  rw [hfind, hfind, hfind, run_search_append hstill, List.head?_append]

end SearchPath

/-! ## The variable `PATH` -/

namespace SearchPath

variable (env : Environment)

theorem ofEnvironment_set (text : String) : ofEnvironment (env.set "PATH" text) = ofString text := by
  rw [ofEnvironment, env.get?_set_self]
  rfl

theorem ofEnvironment_unset : ofEnvironment (env.unset "PATH") = ⟨[]⟩ := by
  rw [ofEnvironment, env.get?_unset_self]
  rfl

end SearchPath

/-- **The search path of an environment.** Let `PATH` consist of two texts with a colon between them. A search looks at
the files of the first text and then at those of the second, and finds what it finds for each of them; which program a
name stands for is decided by the first text where it has one, and by the second text otherwise. Directories that are
joined by colons are listed again, but for the empty ones; without `PATH`, or where it is empty, nothing is found. In
a world that stands still a name without a slash is found under those path names, of the name in each directory, under
which there is a program, in the order of the directories and once for each of them. -/
theorem SearchPath.search_concat (hstill : sys.StandsStill) (env : Environment) (name : String) (w : σ) :
    let pathOf (text : String) := ofEnvironment (env.set "PATH" text)
    let results (sp : SearchPath) := ((sp.search name).run sys w).1
    let result (sp : SearchPath) := ((sp.find name).run sys w).1
    (∀ a b, (pathOf (a ++ ":" ++ b)).search name = (do
        let found ← (pathOf a).search name
        let later ← (pathOf b).search name
        return found ++ later) ∧
      results (pathOf (a ++ ":" ++ b)) = results (pathOf a) ++ results (pathOf b) ∧
      result (pathOf (a ++ ":" ++ b)) = (result (pathOf a)).or (result (pathOf b))) ∧
    (∀ ds : List String, (∀ d ∈ ds, ':' ∉ d.toList) →
      (pathOf (":".intercalate ds)).dirs = (ds.filter (· ≠ "")).map Path.ofString) ∧
    (∀ sp ∈ [ofEnvironment (env.unset "PATH"), pathOf ""],
      sp.search name = pure [] ∧ sp.find name = pure none) ∧
    ∀ text, name ≠ "" → hasSeparator name = false →
      results (pathOf text) =
        ((pathOf text).dirs.map (·.join (Path.ofString name))).filter (sys.hasProgram w) := by
  intro pathOf results result
  have hpath (text : String) : pathOf text = ofString text := ofEnvironment_set env text
  have happend (a b : String) : pathOf (a ++ ":" ++ b) = ⟨(pathOf a).dirs ++ (pathOf b).dirs⟩ := by
    rw [hpath, hpath, hpath, ← dirs_ofString_append]
  refine ⟨fun a b => ⟨?_, ?_, ?_⟩, fun ds hds => ?_, fun sp hsp => ?_, fun text hname hslash => ?_⟩
  · rw [happend, search_append]
  · simp only [results, happend]
    exact run_search_append hstill w _ _ name
  · simp only [result, happend]
    exact run_find_append hstill w _ _ name
  · rw [hpath]
    exact dirs_ofString_intercalate hds
  · have hnone : sp = ⟨[]⟩ := by
      rcases List.mem_pair.1 hsp with rfl | rfl
      · exact ofEnvironment_unset env
      · exact hpath ""
    rw [hnone]
    exact ⟨search_nil name, find_nil name⟩
  · exact congrArg Prod.fst (run_search hstill w (pathOf text) hname hslash)

/-- A directory that is listed twice, once with a slash at its end, between empty entries and directories that do not
have the program. -/
theorem SearchPath.search_concat_oneWay :
    let env := Environment.ofList [("PATH", "/opt"), ("HOME", "/home")]
    let pathOf (text : String) := ofEnvironment (env.set "PATH" text)
    let results (sp : SearchPath) := ((sp.search "tool").run .oneWay ()).1
    let result (sp : SearchPath) := ((sp.find "tool").run .oneWay ()).1
    System.oneWay.StandsStill ∧
      results (pathOf (":/usr" ++ ":" ++ "/bin::/usr:/bin/:")) = ["/bin/tool", "/bin/tool"].map Path.ofString ∧
      result (pathOf (":/usr" ++ ":" ++ "/bin::/usr:/bin/:")) = some (Path.ofString "/bin/tool") ∧
      (pathOf (":".intercalate ["", "/usr", "", "/bin/"])).dirs = ["/usr", "/bin/"].map Path.ofString := by
  intro env pathOf results result
  have hstill : System.oneWay.StandsStill := fun _ _ => rfl
  obtain ⟨happend, hjoin, -, hsearch⟩ := search_concat hstill env "tool" ()
  obtain ⟨-, -, hresult⟩ := happend ":/usr" "/bin::/usr:/bin/:"
  refine ⟨hstill, ?_, ?_, ?_⟩
  · refine (hsearch (":/usr" ++ ":" ++ "/bin::/usr:/bin/:") (by decide) (by decide +kernel)).trans ?_
    decide +kernel
  · refine hresult.trans ?_
    decide +kernel
  · refine (hjoin ["", "/usr", "", "/bin/"] (by decide +kernel)).trans ?_
    decide +kernel

end LineShell
