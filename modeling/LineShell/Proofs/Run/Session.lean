import LineShell.Proofs.Run.Files
import LineShell.Proofs.Run.Requests
import Mathlib.Data.List.Basic

/-!
# Sessions

Many lines, one after the other, on a run that goes smoothly: what they leave in each file, and what they
show on the console.

* `Shell.contents_recountLine`, `Shell.printed_recountLine`: one line.
* `Shell.contents_recount`, `Shell.printed_recount`: a session, line by line.
* `Shell.contents_handleAll`: each file holds what the last line that emptied it and all later lines sent
  into it, and the console has been told the rest.
-/

namespace LineShell

open LineShell.Action

variable {σ F : Type} [DecidableEq F] {sys : System σ}

/-! ## The console -/

/-- The line that a request is to show on the console. -/
def Request.printed : Request → Option (Stream × String)
  | .print s line => some (s, line)
  | _ => none

/-- All lines that a run is to show on the console. -/
def printed (es : List Event) : List (Stream × String) :=
  es.filterMap fun e => e.request.printed

theorem printed_append (es es' : List Event) : printed (es ++ es') = printed es ++ printed es' :=
  List.filterMap_append

theorem printed_eq_marks (es : List Event) : printed es = (marks es).filterMap Request.printed := by
  rw [printed, marks, List.filterMap_filter, List.filterMap_map]
  refine List.filterMap_congr fun e _ => ?_
  obtain ⟨r, answer⟩ := e
  cases r <;> rfl

namespace Account

variable {a : Account}

/-- The lines for the streams that have no target. -/
def inherited (a : Account) : List (Stream × String) :=
  a.sent.filter fun l => a.active.target l.1 = none

theorem printed_request (r : Redirection) (ls : List (Stream × String)) :
    (ls.map r.request).filterMap Request.printed = ls.filter fun l => r.target l.1 = none := by
  induction ls with
  | nil => rfl
  | cons l ls ih =>
    cases htarget : r.target l.1 with
    | none => simp [Redirection.request, htarget, Request.printed, ih]
    | some t =>
      rw [List.map_cons, List.filterMap_cons_none (by simp [Redirection.request, htarget, Request.printed]),
        List.filter_cons_of_neg (by simp [htarget]), ih]

theorem printed_marks (h : a.WellKept) {opened : List Request} (hopened : a.active.Openings opened) :
    (a.active.targets.map Request.create ++ (a.said.toList.map a.active.request ++ opened ++
      (a.failure.toList.map ShellError.line).map a.active.request)).filterMap Request.printed =
        a.inherited := by
  have hcreate : (a.active.targets.map Request.create).filterMap Request.printed = [] := by
    simp [List.filterMap_map, Function.comp_def, Request.printed]
  have hopen : opened.filterMap Request.printed = [] := by
    refine List.filterMap_eq_nil_iff.2 fun request hmem => ?_
    obtain ⟨t, -, rfl⟩ := hopened request hmem
    rfl
  simp only [List.filterMap_append, hcreate, hopen, printed_request, List.nil_append, List.append_nil]
  rw [inherited, h.sent_eq, List.filter_append]

end Account

namespace Shell

variable (fs : FileSystem sys F) (f : F) (sh : Shell) {w : σ}

/-! ## One line -/

theorem contents_recountLine {line : String} (h : Smooth ((sh.recountLine line).trace sys w)) :
    fs.contents ((sh.recountLine line).run sys w).2 f =
      ((sh.recountLine line).run sys w).1.2.effect fs.file f (fs.contents w f) := by
  have hline := sh.marks_recountLine line h
  rw [fs.contents_run f _ w h]
  generalize ((sh.recountLine line).run sys w).1.2 = a at hline ⊢
  obtain ⟨hkept, opened, hopened, hmarks⟩ := hline
  rw [hmarks, Account.effects_marks fs.file f hkept hopened]

theorem printed_recountLine {line : String} (h : Smooth ((sh.recountLine line).trace sys w)) :
    printed ((sh.recountLine line).trace sys w) = ((sh.recountLine line).run sys w).1.2.inherited := by
  have hline := sh.marks_recountLine line h
  generalize ((sh.recountLine line).run sys w).1.2 = a at hline ⊢
  obtain ⟨hkept, opened, hopened, hmarks⟩ := hline
  rw [printed_eq_marks, hmarks, Account.printed_marks hkept hopened]

/-! ## Many lines -/

theorem contents_recount {lines : List String} (h : Smooth ((sh.recount lines).trace sys w)) :
    fs.contents ((sh.recount lines).run sys w).2 f =
      Account.settle fs.file f ((sh.recount lines).run sys w).1.2 (fs.contents w f) := by
  induction lines generalizing sh w with
  | nil => rfl
  | cons line lines ih =>
    simp only [recount, trace_bind, smooth_append] at h
    obtain ⟨hline, hlines, -⟩ := h
    simp only [recount, run_bind, pure_def, run_done]
    rw [ih _ hlines, sh.contents_recountLine fs f hline, Account.settle_cons]

theorem printed_recount {lines : List String} (h : Smooth ((sh.recount lines).trace sys w)) :
    printed ((sh.recount lines).trace sys w) =
      ((sh.recount lines).run sys w).1.2.flatMap Account.inherited := by
  induction lines generalizing sh w with
  | nil => rfl
  | cons line lines ih =>
    simp only [recount, trace_bind, smooth_append] at h
    obtain ⟨hline, hlines, -⟩ := h
    simp only [recount, trace_bind, run_bind, printed_append, pure_def, run_done, trace_done]
    rw [ih _ hlines, sh.printed_recountLine hline, List.flatMap_cons]
    exact congrArg _ (List.append_nil _)

theorem recountLine_command (line : String) :
    let a := ((sh.recountLine line).run sys w).1.2
    a.command = Command.parse line ∧ a.dir = sh.state.currentDir := by
  simp only [recountLine, attempt, bind_assoc, run_bind]
  exact ⟨rfl, rfl⟩

/-- Each line has its account, taken in the directory that the lines before it left. -/
theorem recount_getElem? (lines : List String) {i : Nat} {line : String} (h : lines[i]? = some line) :
    ∃ a, ((sh.recount lines).run sys w).1.2[i]? = some a ∧ a.command = Command.parse line ∧
      a.dir = ((sh.handleAll (lines.take i)).run sys w).1.state.currentDir := by
  induction lines generalizing sh w i with
  | nil => simp at h
  | cons first lines ih =>
    simp only [recount, run_bind, pure_def, run_done]
    cases i with
    | zero =>
      obtain rfl : first = line := by simpa using h
      exact ⟨_, rfl, sh.recountLine_command first⟩
    | succ i =>
      obtain ⟨a, ha, hcommand, hdir⟩ := ih _ (by simpa using h)
      refine ⟨a, ha, hcommand, ?_⟩
      rw [hdir, List.take_succ_cons, handleAll, run_bind, handle_eq_recountLine, run_map]

theorem recount_length (lines : List String) :
    ((sh.recount lines).run sys w).1.2.length = lines.length := by
  induction lines generalizing sh w with
  | nil => rfl
  | cons line lines ih =>
    simp only [recount, run_bind, pure_def, run_done, List.length_cons, ih]

/-- **What a session leaves in the files and on the console**, when its run goes smoothly. Each line has its
account. A file that no line aims at is as it was. A file that no line empties holds what it held and, in
order, what the lines sent into it. Any other file holds what was sent into it by the last line that
emptied it and by all later lines. The console is told the lines of the streams that have no target. -/
theorem contents_handleAll {lines : List String} (h : Smooth ((sh.handleAll lines).trace sys w)) :
    let as := ((sh.recount lines).run sys w).1.2
    let held := fs.contents w
    let left := fs.contents ((sh.handleAll lines).run sys w).2
    (as.length = lines.length ∧ ∀ i line, lines[i]? = some line →
      ∃ a, as[i]? = some a ∧ a.command = Command.parse line ∧
        a.dir = ((sh.handleAll (lines.take i)).run sys w).1.state.currentDir) ∧
    (∀ f, (∀ a ∈ as, ¬ a.active.Aims fs.file f) → left f = held f) ∧
    (∀ f, (∀ a ∈ as, ¬ a.active.Truncates fs.file f) → (∃ a ∈ as, a.active.Aims fs.file f) →
      left f = some ((held f).getD [] ++ as.flatMap fun a => a.written fs.file f)) ∧
    (∀ f before a later, as = before ++ a :: later → a.active.Truncates fs.file f →
      (∀ b ∈ later, ¬ b.active.Truncates fs.file f) →
      left f = some ((a :: later).flatMap fun b => b.written fs.file f)) ∧
    printed ((sh.handleAll lines).trace sys w) = as.flatMap Account.inherited := by
  rw [handleAll_eq_recount, trace_map] at h
  have hcontents f := sh.contents_recount fs f h
  have hprinted := sh.printed_recount h
  intro as held left
  have hleft f : left f = Account.settle fs.file f as (held f) := by
    rw [← hcontents f]
    simp only [left, handleAll_eq_recount, run_map]
  refine ⟨⟨sh.recount_length lines, fun i line hline => sh.recount_getElem? lines hline⟩, ?_, ?_, ?_, ?_⟩
  · intro f haims
    rw [hleft, Account.settle_of_not_aims fs.file f haims]
  · intro f htruncates haims
    rw [hleft, Account.settle_of_not_truncates fs.file f htruncates haims]
  · intro f before a later has htruncates hlater
    rw [hleft, has, Account.settle_of_truncates fs.file f htruncates hlater]
  · rw [handleAll_eq_recount, trace_map]
    exact hprinted

end Shell

/-! ## A file with two names -/

/-- The file that a path name denotes where `/l` is another name of `/f`. -/
def linkedFile (p : Path) : Option Path :=
  some (if p = Path.ofString "/l" then Path.ofString "/f" else p)

/-- A system on which nothing fails, `/l` is another name of `/f`, and there are no programs. -/
def System.linked : System (Path → Option Bytes) := fun r w =>
  let after := fun f => r.effect linkedFile f (w f)
  match r with
  | .canonicalize p => (some p, after)
  | .inspect _ => (some { isDirectory := true, isRegular := false, mode := 0o755 }, after)
  | .canList _ => (true, after)
  | r => System.bare r after

/-- The files of that system. -/
def FileSystem.linked : FileSystem System.linked Path where
  file := linkedFile
  contents := id
  contents_after r w f _ := by cases r <;> rfl

/-- On that system every run goes smoothly that asks nothing of the line editor. -/
theorem System.smooth_linked {α : Type} {x : Action α} (hx : x.Only fun r => r.forEditor = false)
    (w : Path → Option Bytes) : Smooth (x.trace .linked w) := by
  intro e he
  have hbeside := hx.of_mem_trace he
  obtain ⟨w', hanswer⟩ := exists_of_mem_trace he
  rw [hanswer]
  revert hbeside
  cases e.request <;> simp [Request.forEditor, Event.Smooth, System.linked, System.bare]

/-- Both streams of the second line go into one file under two names, which that line empties first; a
later line in another directory adds to it. -/
theorem Shell.contents_handleAll_linked :
    let sh := Shell.start {} { currentDir := Path.ofString "/home" }
    let lines := ["echo one > /f", "echo two 2>> /f > /l", "cd /", "nope 2>> f", "echo three"]
    Smooth ((sh.handleAll lines).trace .linked fun _ => none) ∧
      ((sh.handleAll lines).run .linked fun _ => none).2 (Path.ofString "/f") =
        some (Bytes.ofString "two\nnope: command not found\n") ∧
      printed ((sh.handleAll lines).trace .linked fun _ => none) = [(.stdout, "three")] := by
  intro sh lines
  have hsmooth := System.smooth_linked (sh.only_handleAll_forEditor lines) fun _ => none
  obtain ⟨-, -, -, hleft, hprinted⟩ := sh.contents_handleAll FileSystem.linked hsmooth
  have hsplit := List.take_append_drop 1 ((sh.recount lines).run .linked fun _ => none).1.2
  rw [List.drop_eq_getElem_cons (show 1 < _ by decide +kernel)] at hsplit
  refine ⟨hsmooth, ?_, ?_⟩
  · refine (hleft _ _ _ _ hsplit.symm ?_ ?_).trans ?_
    all_goals decide +kernel
  · rw [hprinted]
    decide +kernel

end LineShell
