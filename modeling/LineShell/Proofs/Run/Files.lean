import LineShell.Proofs.Run.Marks

/-!
# What a session leaves in the files

A `FileSystem` says what the requests of a system do to the contents of its files, where several path
names may denote one file. On a smooth run a line empties the files of its truncating targets before it
writes, and then only appends.

* `FileSystem.contents_run`: the contents of a file after a run are read off the marks of the run.
* `Account.effects_marks`: what one line does to a file.
* `Shell.contents_handleAll`: what a session leaves in each file, and what it shows on the console.
-/

namespace LineShell

variable {σ α F : Type} [DecidableEq F]

/-! ## File systems -/

/-- What a request that goes well does to the contents of the file `f`; a file that does not exist has none.
The path name `p` denotes the file `file p`. -/
def Request.effect (file : Path → Option F) (f : F) : Request → Option Bytes → Option Bytes
  | .create t, c => if file t.path = some f then some (if t.append then c.getD [] else []) else c
  | .openAppend p, c => if file p = some f then some (c.getD []) else c
  | .appendLine p line, c =>
    if file p = some f then some (c.getD [] ++ Bytes.ofString (line ++ "\n")) else c
  | _, c => c

/-- The files of a system: the regular ones, but for those that the console writes to. Which file a path
name denotes is fixed, and requests that go well do to files what they are meant to. Both hold where files
are only made and written to: a name that is vacant stands for the file that is made under it, and that no
other name leads to. A program may rename files, so that the names have to be looked up again after it; a
file that the console writes to has bytes that no request named it for. The machine is such a system, see
`Machine.fileSystem`. -/
structure FileSystem (sys : System σ) (F : Type) [DecidableEq F] where
  /-- The file that a path name denotes, be it there or to be created. -/
  file : Path → Option F
  contents : σ → F → Option Bytes
  contents_after (r : Request) (w : σ) (f : F) : Event.Smooth ⟨r, (sys r w).1⟩ →
    contents (sys r w).2 f = r.effect file f (contents w f)

/-- What requests do to a file, one after the other. -/
def effects (file : Path → Option F) (f : F) (rs : List Request) (c : Option Bytes) : Option Bytes :=
  rs.foldl (fun c r => r.effect file f c) c

section Effects

variable (file : Path → Option F) (f : F)

theorem effects_append (rs rs' : List Request) (c : Option Bytes) :
    effects file f (rs ++ rs') c = effects file f rs' (effects file f rs c) :=
  List.foldl_append

theorem effects_cons (r : Request) (rs : List Request) (c : Option Bytes) :
    effects file f (r :: rs) c = effects file f rs (r.effect file f c) := rfl

/-- Requests that leave the contents as they are do so together. -/
theorem effects_eq_self {rs : List Request} {c : Option Bytes}
    (h : ∀ r ∈ rs, r.effect file f c = c) : effects file f rs c = c := by
  induction rs with
  | nil => rfl
  | cons r rs ih =>
    rw [effects_cons, h r List.mem_cons_self]
    exact ih fun r' hr' => h r' (List.mem_cons_of_mem _ hr')

theorem effect_of_not_marks {r : Request} (h : r.marks = false) (c : Option Bytes) :
    r.effect file f c = c := by
  cases r <;> simp_all [Request.marks, Request.effect]

end Effects

open LineShell.Action

variable {sys : System σ}

/-- **The contents of a file after a smooth run** are those before, changed by the marks of the run. -/
theorem FileSystem.contents_run (fs : FileSystem sys F) (f : F) (x : Action α) (w : σ)
    (h : Smooth (x.trace sys w)) :
    fs.contents (x.run sys w).2 f = effects fs.file f (marks (x.trace sys w)) (fs.contents w f) := by
  induction x generalizing w with
  | done a => rfl
  | ask r k ih =>
    rw [trace_ask, smooth_cons] at h
    rw [run_ask, trace_ask, ih _ _ h.2, fs.contents_after r w f h.1]
    cases hmarks : r.marks with
    | false => rw [effect_of_not_marks _ _ hmarks]; simp [marks, hmarks]
    | true => simp [marks, hmarks, effects_cons]

/-! ## What a line does to a file -/

namespace Redirection

variable (r : Redirection) (file : Path → Option F) (f : F)

/-- A target denotes the file `f`. -/
def Aims : Prop :=
  ∃ t ∈ r.targets, file t.path = some f

/-- A target that is to be emptied denotes the file `f`. -/
def Truncates : Prop :=
  ∃ t ∈ r.targets, t.append = false ∧ file t.path = some f

/-- The stream `s` is sent into the file `f`. -/
def Feeds (s : Stream) : Prop :=
  ∃ t ∈ r.target s, file t.path = some f

instance : Decidable (r.Aims file f) :=
  inferInstanceAs (Decidable (∃ t ∈ r.targets, file t.path = some f))

instance : Decidable (r.Truncates file f) :=
  inferInstanceAs (Decidable (∃ t ∈ r.targets, t.append = false ∧ file t.path = some f))

instance : DecidablePred (r.Feeds file f) := fun s =>
  inferInstanceAs (Decidable (∃ t ∈ r.target s, file t.path = some f))

/-- What the lines `ls` add to the file `f`, each with its newline. -/
def written (ls : List (Stream × String)) : Bytes :=
  (ls.filter fun l => r.Feeds file f l.1).flatMap fun l => Bytes.ofString (l.2 ++ "\n")

variable {r file f}

omit [DecidableEq F] in
theorem Truncates.aims (h : r.Truncates file f) : r.Aims file f := by
  obtain ⟨t, ht, -, hfile⟩ := h
  exact ⟨t, ht, hfile⟩

omit [DecidableEq F] in
theorem Feeds.aims {s : Stream} (h : r.Feeds file f s) : r.Aims file f := by
  obtain ⟨t, ht, hfile⟩ := h
  exact ⟨t, mem_targets.2 ⟨s, ht⟩, hfile⟩

theorem written_append (ls ls' : List (Stream × String)) :
    r.written file f (ls ++ ls') = r.written file f ls ++ r.written file f ls' := by
  rw [written, List.filter_append, List.flatMap_append]
  rfl

theorem written_of_not_aims (h : ¬ r.Aims file f) (ls : List (Stream × String)) :
    r.written file f ls = [] := by
  rw [written, List.filter_eq_nil_iff.2 fun l _ => ?_]
  · rfl
  · simpa using fun hfeeds => h (Feeds.aims hfeeds)

/-! ### Files that a line does not aim at -/

theorem effect_request_of_not_feeds {l : Stream × String} (h : ¬ r.Feeds file f l.1) (c : Option Bytes) :
    (r.request l).effect file f c = c := by
  unfold request
  cases htarget : r.target l.1 with
  | none => rfl
  | some t => exact if_neg fun hfile => h ⟨t, htarget, hfile⟩

/-! ### Files that a line aims at -/

theorem effects_map_create (ts : List Target) (c : Option Bytes) :
    effects file f (ts.map .create) c =
      if ∃ t ∈ ts, file t.path = some f then
        some (if ∃ t ∈ ts, t.append = false ∧ file t.path = some f then [] else c.getD [])
      else c := by
  induction ts generalizing c with
  | nil => simp [effects]
  | cons t ts ih =>
    rw [List.map_cons, effects_cons, ih]
    by_cases hfile : file t.path = some f
    · by_cases happend : t.append = true
      · by_cases haims : ∃ t ∈ ts, file t.path = some f
        · simp [Request.effect, hfile, happend, haims]
        · have htruncates : ¬ ∃ t ∈ ts, t.append = false ∧ file t.path = some f :=
            fun ⟨t, ht, _, hfile⟩ => haims ⟨t, ht, hfile⟩
          simp [Request.effect, hfile, happend, haims, htruncates]
      · simp [Request.effect, hfile, happend]
    · simp [Request.effect, hfile]

/-- A file that a line aims at is there after its targets have been created, and empty if one of them is
to be emptied, whichever comes first. -/
theorem effects_create (c : Option Bytes) :
    effects file f (r.targets.map .create) c =
      if r.Aims file f then some (if r.Truncates file f then [] else c.getD []) else c :=
  effects_map_create r.targets c

theorem effect_request_of_feeds {l : Stream × String} (h : r.Feeds file f l.1) (bytes : Bytes) :
    (r.request l).effect file f (some bytes) = some (bytes ++ Bytes.ofString (l.2 ++ "\n")) := by
  obtain ⟨t, ht, hfile⟩ := h
  rw [request, show r.target l.1 = some t from ht]
  exact if_pos hfile

/-- Lines are added at the end, in order. -/
theorem effects_request (ls : List (Stream × String)) (bytes : Bytes) :
    effects file f (ls.map r.request) (some bytes) = some (bytes ++ r.written file f ls) := by
  induction ls generalizing bytes with
  | nil => simp [effects, written]
  | cons l ls ih =>
    rw [List.map_cons, effects_cons]
    by_cases hfeeds : r.Feeds file f l.1
    · rw [effect_request_of_feeds hfeeds, ih]
      simp [written, hfeeds]
    · rw [effect_request_of_not_feeds hfeeds, ih]
      simp [written, hfeeds]

theorem effects_openings {rs : List Request} (h : r.Openings rs) (bytes : Bytes) :
    effects file f rs (some bytes) = some bytes := by
  refine effects_eq_self file f fun request hmem => ?_
  obtain ⟨t, -, rfl⟩ := h request hmem
  simp [Request.effect]

end Redirection

namespace Account

variable (a : Account) (file : Path → Option F) (f : F)

/-- What the line adds to the file `f`. -/
def written : Bytes :=
  a.active.written file f a.sent

/-- What the line leaves of the contents `c` of the file `f`, and adds to it. -/
def effect (c : Option Bytes) : Option Bytes :=
  if a.active.Aims file f then
    some ((if a.active.Truncates file f then [] else c.getD []) ++ a.written file f)
  else c

variable {a}

/-- **What one line does to a file**: it empties the file if one of its targets says so, before its first
line is written, and adds its lines. -/
theorem effects_marks (h : a.WellKept) {opened : List Request} (hopened : a.active.Openings opened)
    (c : Option Bytes) :
    effects file f (a.active.targets.map .create ++ (a.said.toList.map a.active.request ++ opened ++
      (a.failure.toList.map ShellError.line).map a.active.request)) c = a.effect file f c := by
  rw [effects_append, Redirection.effects_create, effect]
  by_cases haims : a.active.Aims file f
  · rw [if_pos haims, if_pos haims, effects_append, effects_append, Redirection.effects_request,
      Redirection.effects_openings hopened, Redirection.effects_request, List.append_assoc,
      ← Redirection.written_append, ← h.sent_eq]
    rfl
  · rw [if_neg haims, if_neg haims]
    refine effects_eq_self file f fun request hmem => ?_
    rcases List.mem_append.1 hmem with hmem | hmem
    · rcases List.mem_append.1 hmem with hmem | hmem
      · obtain ⟨l, -, rfl⟩ := List.mem_map.1 hmem
        exact Redirection.effect_request_of_not_feeds (fun hfeeds => haims hfeeds.aims) c
      · obtain ⟨t, ht, rfl⟩ := hopened request hmem
        exact if_neg fun hfile => haims ⟨t, ht, hfile⟩
    · obtain ⟨l, -, rfl⟩ := List.mem_map.1 hmem
      exact Redirection.effect_request_of_not_feeds (fun hfeeds => haims hfeeds.aims) c

/-! ### Several lines -/

/-- What several lines do to the file `f`. -/
def settle (file : Path → Option F) (f : F) (as : List Account) (c : Option Bytes) : Option Bytes :=
  as.foldl (fun c a => a.effect file f c) c

theorem settle_cons (a : Account) (as : List Account) (c : Option Bytes) :
    settle file f (a :: as) c = settle file f as (a.effect file f c) := rfl

theorem settle_append (as as' : List Account) (c : Option Bytes) :
    settle file f (as ++ as') c = settle file f as' (settle file f as c) :=
  List.foldl_append

/-- Lines that do not empty a file add to it. -/
theorem settle_some {as : List Account} (h : ∀ a ∈ as, ¬ a.active.Truncates file f) (bytes : Bytes) :
    settle file f as (some bytes) = some (bytes ++ as.flatMap fun a => a.written file f) := by
  induction as generalizing bytes with
  | nil => simp [settle]
  | cons a as ih =>
    have hrest : ∀ b ∈ as, ¬ b.active.Truncates file f := fun b hb => h b (List.mem_cons_of_mem _ hb)
    have heffect : a.effect file f (some bytes) = some (bytes ++ a.written file f) := by
      rw [effect, if_neg (h a List.mem_cons_self)]
      by_cases haims : a.active.Aims file f
      · rw [if_pos haims]
        rfl
      · rw [if_neg haims, written, Redirection.written_of_not_aims haims, List.append_nil]
    rw [settle_cons, heffect, ih hrest, List.flatMap_cons, List.append_assoc]

theorem settle_of_not_aims {as : List Account} (h : ∀ a ∈ as, ¬ a.active.Aims file f) (c : Option Bytes) :
    settle file f as c = c := by
  induction as with
  | nil => rfl
  | cons a as ih =>
    rw [settle_cons, effect, if_neg (h a List.mem_cons_self)]
    exact ih fun b hb => h b (List.mem_cons_of_mem _ hb)

/-- A file that no line empties keeps what it held, and is there once a line aimed at it. -/
theorem settle_of_not_truncates {as : List Account} (h : ∀ a ∈ as, ¬ a.active.Truncates file f)
    (haims : ∃ a ∈ as, a.active.Aims file f) (c : Option Bytes) :
    settle file f as c = some (c.getD [] ++ as.flatMap fun a => a.written file f) := by
  cases c with
  | some bytes => exact settle_some file f h bytes
  | none =>
    induction as with
    | nil => simp at haims
    | cons a as ih =>
      have hrest : ∀ b ∈ as, ¬ b.active.Truncates file f := fun b hb => h b (List.mem_cons_of_mem _ hb)
      rw [settle_cons]
      by_cases hhead : a.active.Aims file f
      · rw [effect, if_pos hhead, if_neg (h a List.mem_cons_self), settle_some file f hrest,
          List.flatMap_cons, List.append_assoc]
      · have hlater : ∃ b ∈ as, b.active.Aims file f := by simpa [hhead] using haims
        rw [effect, if_neg hhead, ih hrest hlater, List.flatMap_cons, written,
          Redirection.written_of_not_aims hhead, List.nil_append]

/-- Of a file that a line empties nothing is left from before that line. -/
theorem settle_of_truncates {before later : List Account} {a : Account}
    (h : a.active.Truncates file f) (hlater : ∀ b ∈ later, ¬ b.active.Truncates file f) (c : Option Bytes) :
    settle file f (before ++ a :: later) c = some ((a :: later).flatMap fun b => b.written file f) := by
  rw [settle_append, settle_cons, effect, if_pos h.aims, if_pos h, settle_some file f hlater, List.nil_append,
    List.flatMap_cons]

end Account

/-! ## Runs that do not go smoothly -/

/-- The bytes of lines, each with its newline. -/
def Bytes.ofLines (lines : List String) : Bytes :=
  lines.flatMap fun line => ofString (line ++ "\n")

theorem Bytes.ofLines_append (lines lines' : List String) :
    ofLines (lines ++ lines') = ofLines lines ++ ofLines lines' :=
  List.flatMap_append

/-- The request writes to the file `f`; what the line editor writes to is not known. -/
def Request.WritesTo (file : Path → Option F) (f : F) : Request → Prop
  | .appendLine p _ => file p = some f
  | .editor _ => True
  | _ => False

/-- The line that the event adds to the file `f`. -/
def Event.addition (file : Path → Option F) (f : F) : Event → Option String
  | ⟨.appendLine p line, .ok ()⟩ => if file p = some f then some line else none
  | _ => none

/-- The lines that a run adds to the file `f`. -/
def additions (file : Path → Option F) (f : F) (es : List Event) : List String :=
  es.filterMap (Event.addition file f)

section Additions

variable (file : Path → Option F) (f : F)

theorem additions_append (es es' : List Event) :
    additions file f (es ++ es') = additions file f es ++ additions file f es' :=
  List.filterMap_append

theorem additions_cons (e : Event) (es : List Event) :
    additions file f (e :: es) = (e.addition file f).toList ++ additions file f es := by
  rw [additions, List.filterMap_cons]
  cases e.addition file f <;> rfl

theorem Event.addition_of_not_smooth {e : Event} (h : ¬ e.Smooth) : e.addition file f = none := by
  obtain ⟨r, answer⟩ := e
  cases r with
  | appendLine p line =>
    rcases answer with fault | ⟨⟩
    · rfl
    · exact absurd rfl h
  | _ => rfl

end Additions

namespace FileSystem

variable (fs : FileSystem sys F)

/-- A request that fails leaves all files alone but the one that it was to write to. What a program leaves
that was started is not said. -/
def Firm : Prop :=
  ∀ r w f, ¬ Event.Smooth ⟨r, (sys r w).1⟩ → (∀ child, r ≠ .start child) → ¬ r.WritesTo fs.file f →
    fs.contents (sys r w).2 f = fs.contents w f

/-- A line that a file refuses is not there in part. -/
def AllOrNothing : Prop :=
  ∀ p line w f fault, (sys (.appendLine p line) w).1 = .error fault →
    fs.contents (sys (.appendLine p line) w).2 f = fs.contents w f

/-- The event does no more to the file `f` than to add a line. -/
def Spares (f : F) : Event → Prop
  | ⟨.create t, _⟩ => fs.file t.path ≠ some f
  | ⟨.editor _, _⟩ => False
  | ⟨.start _, answer⟩ => ∃ fault, answer = .error (.spawn fault)
  | ⟨.appendLine p _, .error _⟩ => fs.file p = some f → fs.AllOrNothing
  | _ => True

variable {fs} {f : F} {bytes : Bytes}

theorem effect_of_spares {e : Event} (hsmooth : e.Smooth) (hspares : fs.Spares f e) :
    e.request.effect fs.file f (some bytes) = some (bytes ++ Bytes.ofLines (e.addition fs.file f).toList) := by
  obtain ⟨r, answer⟩ := e
  cases r with
  | create t =>
    have hother : fs.file t.path ≠ some f := hspares
    simp [Event.addition, Bytes.ofLines, Request.effect, hother]
  | editor q => exact hspares.elim
  | appendLine p line =>
    obtain rfl : answer = .ok () := hsmooth
    by_cases hfile : fs.file p = some f
    · simp [Event.addition, Bytes.ofLines, Request.effect, hfile]
    · simp [Event.addition, Bytes.ofLines, Request.effect, hfile]
  | _ => simp [Event.addition, Bytes.ofLines, Request.effect]

theorem contents_of_not_smooth (hfirm : fs.Firm) {r : Request} {w : σ} (hspares : fs.Spares f ⟨r, (sys r w).1⟩)
    (hfailed : ¬ Event.Smooth ⟨r, (sys r w).1⟩) : fs.contents (sys r w).2 f = fs.contents w f := by
  cases r with
  | start child => exact absurd hspares hfailed
  | editor q => exact hspares.elim
  | appendLine p line =>
    cases hanswer : (sys (.appendLine p line) w).1 with
    | ok taken =>
      rw [hanswer] at hfailed
      exact absurd rfl hfailed
    | error fault =>
      by_cases hfile : fs.file p = some f
      · rw [hanswer] at hspares
        exact hspares hfile p line w f fault hanswer
      · exact hfirm _ w f hfailed (fun _ => Request.noConfusion) hfile
  | _ => exact hfirm _ w f hfailed (fun _ => Request.noConfusion) id

/-- **The contents of a file that is only added to** are those before and the lines that were taken. -/
theorem contents_run_of_spares (hfirm : fs.Firm) (x : Action α) {w : σ} (h : fs.contents w f = some bytes)
    (hspares : ∀ e ∈ x.trace sys w, fs.Spares f e) :
    fs.contents (x.run sys w).2 f = some (bytes ++ Bytes.ofLines (additions fs.file f (x.trace sys w))) := by
  induction x generalizing w bytes with
  | done a =>
    rw [run_done, h, trace_done]
    exact congrArg some (List.append_nil bytes).symm
  | ask r k ih =>
    obtain ⟨hfirst, hrest⟩ := List.forall_mem_cons.1 hspares
    have hstep : fs.contents (sys r w).2 f =
        some (bytes ++ Bytes.ofLines (Event.addition fs.file f ⟨r, (sys r w).1⟩).toList) := by
      by_cases hsmooth : Event.Smooth ⟨r, (sys r w).1⟩
      · rw [fs.contents_after r w f hsmooth, h]
        exact effect_of_spares hsmooth hfirst
      · rw [contents_of_not_smooth hfirm hfirst hsmooth, h, Event.addition_of_not_smooth _ _ hsmooth]
        exact congrArg some (List.append_nil bytes).symm
    rw [run_ask, trace_ask, ih _ hstep hrest, additions_cons, Bytes.ofLines_append, List.append_assoc]

end FileSystem

end LineShell
