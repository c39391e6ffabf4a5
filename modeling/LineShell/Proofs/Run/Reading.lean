import LineShell.ReadLoop
import LineShell.Machine.Editor.History
import LineShell.Proofs.Run.Requests
import LineShell.Proofs.Run.Session

/-!
# The read loop

The read loop takes one line after the other from its editor and runs it. Which lines it runs can be told
from the input alone, before any of them is run: all up to the first one whose command is `exit`, as far as
the input is UTF-8. So the loop is the session of these lines, between loading the history and saving it.

The editor is whatever answers the requests of the loop. All that is asked of it is that it hands out its input line by
line, takes the offers of lines, and leaves the world alone until it saves the history.

* `LineEditor.Delivers`: what is asked of the editor.
* `Input.handled`: the lines that are run.
* `Shell.readLoop_fed`: the read loop is the session of these lines.
-/

namespace LineShell

open LineShell.Action

variable {α τ κ : Type} {sys : System τ}

/-! ## The editor -/

/-- A line editor: it answers its requests as it likes, with a memory of type `κ` in a world of type `τ`. -/
abbrev LineEditor (τ κ : Type) := (q : EditorRequest) → τ × κ → q.Answer × τ × κ

/-- The system `sys` with the line editor `ed`. Nothing but the requests to the editor gets at its memory; so the input
that it has not read yet is not read by a program. -/
def System.withEditor (sys : System τ) (ed : LineEditor τ κ) : System (τ × κ) := fun r s =>
  match r with
  | .editor q => ed q s
  | r => ((sys r s.1).1, (sys r s.1).2, s.2)

/-- The editor `ed` hands out the lines of its input one by one, where `pending` is the input that is left and `none`
stands for a line that is not UTF-8. It can be set up, it takes every offer, and it does nothing to the world but
where it saves a history. What it shows and what it keeps of a history is not said. -/
structure LineEditor.Delivers (ed : LineEditor τ κ) (pending : κ → List (Option String)) : Prop where
  setUp (w : τ) (k : κ) : ∃ k', ed .setUp (w, k) = (.ok (), w, k') ∧ pending k' = pending k
  loadHistory (p : Path) (w : τ) (k : κ) :
    ∃ loaded k', ed (.loadHistory p) (w, k) = (loaded, w, k') ∧ pending k' = pending k
  readLine (prompt : String) (w : τ) (k : κ) {line : String} {input : List (Option String)} :
    pending k = some line :: input →
      ∃ k', ed (.readLine prompt) (w, k) = (.ok (.line line), w, k') ∧ pending k' = input
  undecodable (prompt : String) (w : τ) (k : κ) {input : List (Option String)} :
    pending k = none :: input →
      ∃ fault k', ed (.readLine prompt) (w, k) = (.error fault, w, k') ∧ pending k' = input
  atEnd (prompt : String) (w : τ) (k : κ) :
    pending k = [] → ∃ k', ed (.readLine prompt) (w, k) = (.ok .ended, w, k') ∧ pending k' = []
  offer (line : String) (w : τ) (k : κ) :
    ∃ entered k', ed (.offer line) (w, k) = (.ok entered, w, k') ∧ pending k' = pending k
  saveHistory (p : Path) (s : τ × κ) : pending (ed (.saveHistory p) s).2.2 = pending s.2

variable {ed : LineEditor τ κ} {pending : κ → List (Option String)}

theorem System.withEditor_of_not_forEditor {r : Request} (h : r.forEditor = false) (w : τ) (k : κ) :
    sys.withEditor ed r (w, k) = ((sys r w).1, (sys r w).2, k) := by
  cases r with
  | editor q => cases h
  | _ => rfl

variable (sys ed) in
/-- An action that asks nothing of the editor runs as on the system below. -/
theorem Action.Only.run_withEditor {x : Action α} (hx : x.Only fun r => r.forEditor = false) (w : τ) (k : κ) :
    x.run (sys.withEditor ed) (w, k) = ((x.run sys w).1, (x.run sys w).2, k) ∧
      x.trace (sys.withEditor ed) (w, k) = x.trace sys w := by
  induction x generalizing w with
  | done a => exact ⟨rfl, rfl⟩
  | ask r k' ih =>
    simp only [run_ask, trace_ask, System.withEditor_of_not_forEditor hx.1]
    obtain ⟨hrun, htrace⟩ := ih (sys r w).1 (hx.2 _) (sys r w).2
    exact ⟨hrun, congrArg _ htrace⟩

/-! ## What is asked of the editor, and what is not -/

/-- What a run does but for its editor. -/
def besideEditor (es : List Event) : List Event :=
  es.filter fun e => !e.request.forEditor

/-- What the request asks of the line editor. -/
def Request.toEditor : Request → Option EditorRequest
  | .editor q => some q
  | _ => none

/-- What a run asks of its editor. -/
def editorRequests (es : List Event) : List EditorRequest :=
  es.filterMap fun e => e.request.toEditor

/-- The line that is offered to the history. -/
def EditorRequest.offered : EditorRequest → Option String
  | .offer line => some line
  | _ => none

section Events

variable (es es' : List Event) (q : EditorRequest) (answer : q.Answer)

@[simp] theorem besideEditor_append : besideEditor (es ++ es') = besideEditor es ++ besideEditor es' :=
  List.filter_append ..

@[simp] theorem editorRequests_append : editorRequests (es ++ es') = editorRequests es ++ editorRequests es' :=
  List.filterMap_append

@[simp] theorem besideEditor_editor_cons : besideEditor (⟨.editor q, answer⟩ :: es) = besideEditor es := rfl

@[simp] theorem editorRequests_editor_cons : editorRequests (⟨.editor q, answer⟩ :: es) = q :: editorRequests es := rfl

end Events

theorem Action.Only.besideEditor_trace {x : Action α} (hx : x.Only fun r => r.forEditor = false) {σ : Type}
    (sys : System σ) (s : σ) : besideEditor (x.trace sys s) = x.trace sys s := by
  refine List.filter_eq_self.2 fun e he => ?_
  rw [hx.of_mem_trace he]
  rfl

theorem Action.Only.editorRequests_trace {x : Action α} (hx : x.Only fun r => r.forEditor = false) {σ : Type}
    (sys : System σ) (s : σ) : editorRequests (x.trace sys s) = [] := by
  refine List.filterMap_eq_nil_iff.2 fun e he => ?_
  have hbeside := hx.of_mem_trace he
  cases hrequest : e.request with
  | editor q =>
    rw [hrequest] at hbeside
    cases hbeside
  | _ => rfl

/-! ## The lines that are run -/

namespace Input

/-- The line ends the session: its command is `exit`. -/
def exits (line : String) : Bool :=
  (Command.parse line).name == Builtin.exit.name

/-- The lines before the first one that is not UTF-8. -/
def readable (input : List (Option String)) : List String :=
  (input.takeWhile Option.isSome).reduceOption

/-- The lines that are run: those that can be read, up to the first one that ends the session. -/
def handled (input : List (Option String)) : List String :=
  (readable input).takeWhile (!exits ·) ++ ((readable input).dropWhile (!exits ·)).take 1

/-- A line that is not UTF-8 is reached: it comes before any that ends the session. -/
def stuck (input : List (Option String)) : Bool :=
  input.any Option.isNone && (readable input).all (!exits ·)

/-- The input that is left. -/
def remaining (input : List (Option String)) : List (Option String) :=
  input.drop ((handled input).length + if stuck input then 1 else 0)

/-- What is asked of the editor while the lines are read and run: to read each of them, with the offer of those that
are not blank, and to read once more where no line has ended the session. -/
def asked (input : List (Option String)) : List EditorRequest :=
  (handled input).flatMap (fun line =>
    .readLine Shell.promptText :: if isBlankLine line then [] else [.offer line]) ++
  if (handled input).any exits then [] else [.readLine Shell.promptText]

variable (input : List (Option String)) {line : String}

@[simp] theorem readable_nil : readable [] = [] := rfl

@[simp] theorem readable_none_cons : readable (none :: input) = [] := rfl

@[simp] theorem readable_some_cons : readable (some line :: input) = line :: readable input := rfl

theorem handled_some_cons :
    handled (some line :: input) = line :: if exits line then [] else handled input := by
  cases hline : exits line <;> simp [handled, hline]

theorem stuck_some_cons : stuck (some line :: input) = (!exits line && stuck input) := by
  cases hline : exits line <;> simp [stuck, hline]

theorem remaining_some_cons :
    remaining (some line :: input) = if exits line then input else remaining input := by
  unfold remaining
  rw [handled_some_cons, stuck_some_cons]
  cases hline : exits line with
  | true => rfl
  | false =>
    simp only [if_false, Bool.false_eq_true, Bool.not_false, Bool.true_and]
    rw [List.length_cons, Nat.add_right_comm, List.drop_succ_cons]

theorem asked_some_cons :
    asked (some line :: input) = .readLine Shell.promptText :: ((if isBlankLine line then [] else [.offer line]) ++
      if exits line then [] else asked input) := by
  unfold asked
  rw [handled_some_cons]
  cases hline : exits line <;> simp [hline]

theorem mem_asked {q : EditorRequest} (h : q ∈ asked input) :
    q = .readLine Shell.promptText ∨ ∃ line, q = .offer line := by
  rcases List.mem_append.1 h with h | h
  · obtain ⟨line, -, hq⟩ := List.mem_flatMap.1 h
    rcases List.mem_cons.1 hq with rfl | hq
    · exact .inl rfl
    · split at hq
      · cases hq
      · exact .inr ⟨line, List.mem_singleton.1 hq⟩
  · split at h
    · cases h
    · exact .inl (List.mem_singleton.1 h)

/-- The lines that are offered are those that are run and not blank. -/
theorem offered_asked : (asked input).filterMap EditorRequest.offered = (handled input).filter (!isBlankLine ·) := by
  have hlast (b : Bool) : (if b then [] else [EditorRequest.readLine Shell.promptText]).filterMap
      EditorRequest.offered = [] := by
    cases b <;> rfl
  unfold asked
  rw [List.filterMap_append, hlast, List.append_nil]
  induction handled input with
  | nil => rfl
  | cons line lines ih =>
    rw [List.flatMap_cons, List.filterMap_append, ih]
    cases hblank : isBlankLine line with
    | true => simp [EditorRequest.offered, hblank]
    | false =>
      rw [List.filter_cons_of_pos (by rw [hblank]; rfl)]
      rfl

/-- The input falls into the `lines` that are run and what is left, in one of three ways: the last line ends
the session, and none before it does; or no line ends the session, and the next one is not UTF-8; or no line
ends the session, and there is no more input. -/
def Splits (input : List (Option String)) (lines : List String) (stuck : Bool)
    (rest : List (Option String)) : Prop :=
  (∃ before last, lines = before ++ [last] ∧ exits last = true ∧ (∀ l ∈ before, exits l = false) ∧
    stuck = false ∧ input = lines.map some ++ rest) ∨
  (∀ l ∈ lines, exits l = false) ∧
    ((stuck = true ∧ input = lines.map some ++ none :: rest) ∨
      stuck = false ∧ rest = [] ∧ input = lines.map some)

theorem Splits.cons {input rest : List (Option String)} {lines : List String} {stuck : Bool}
    (h : Splits input lines stuck rest) (hline : exits line = false) :
    Splits (some line :: input) (line :: lines) stuck rest := by
  rcases h with ⟨before, last, rfl, hlast, hbefore, hstuck, rfl⟩ | ⟨hlines, hrest⟩
  · exact .inl ⟨line :: before, last, rfl, hlast, List.forall_mem_cons.2 ⟨hline, hbefore⟩, hstuck, rfl⟩
  · refine .inr ⟨List.forall_mem_cons.2 ⟨hline, hlines⟩, ?_⟩
    rcases hrest with ⟨hstuck, rfl⟩ | ⟨hstuck, hrest, rfl⟩
    · exact .inl ⟨hstuck, rfl⟩
    · exact .inr ⟨hstuck, hrest, rfl⟩

theorem splits_handled : Splits input (handled input) (stuck input) (remaining input) := by
  induction input with
  | nil => exact .inr ⟨List.forall_mem_nil _, .inr ⟨rfl, rfl, rfl⟩⟩
  | cons line? input ih =>
    cases line? with
    | none => exact .inr ⟨List.forall_mem_nil _, .inl ⟨rfl, rfl⟩⟩
    | some line =>
      rw [handled_some_cons, stuck_some_cons, remaining_some_cons]
      cases hline : exits line with
      | true => exact .inl ⟨[], line, rfl, hline, List.forall_mem_nil _, rfl, rfl⟩
      | false => exact ih.cons hline

end Input

/-! ## The loop -/

theorem LineEditor.Delivers.load (hed : ed.Delivers pending) (history? : Option Path) (w : τ) (k : κ) :
    ∃ k', history?.toList.foldl (fun s p => (ed (.loadHistory p) s).2) (w, k) = (w, k') ∧ pending k' = pending k := by
  cases history? with
  | none => exact ⟨k, rfl, rfl⟩
  | some p =>
    obtain ⟨loaded, k', hload, hpending⟩ := hed.loadHistory p w k
    exact ⟨k', congrArg Prod.snd hload, hpending⟩

namespace Shell

open Input

variable {sh : Shell}

theorem exitRequested_handle (hexit : sh.state.exitRequested = false) {σ : Type} (sys : System σ) (s : σ)
    (line : String) : ((sh.handle line).run sys s).1.state.exitRequested = exits line := by
  rw [handle_eq_runCommand, ((sh.yields_runCommand (Command.parse line)).run sys s).exitRequested, hexit, Bool.false_or]
  rfl

theorem readLines_of_exitRequested (hexit : sh.state.exitRequested = true) (n : Nat) :
    readLines n sh = .done (sh, .ok ()) := by
  cases n with
  | zero => rfl
  | succ n => rw [readLines, if_pos hexit]; rfl

/-- A shell that has not been told to end asks for a line. -/
theorem readLines_succ (hexit : sh.state.exitRequested = false) (n : Nat) :
    readLines (n + 1) sh = .ask (.editor (.readLine promptText)) fun
      | .error fault => .done (sh, .error (.read fault))
      | .ok .ended => .done (sh, .ok ())
      | .ok .interrupted => readLines n sh
      | .ok (.line line) => offerLine line >>= fun
        | .error fault => .done (sh, .error (.offer fault))
        | .ok () => sh.handle line >>= readLines n := by
  rw [readLines, if_neg (by rw [hexit]; decide)]
  refine congrArg (Action.ask _) (funext fun answer => ?_)
  rcases answer with fault | text | _ | _
  · rfl
  · refine bind_congr fun offered => ?_
    rcases offered with fault | ⟨⟩ <;> rfl
  · rfl
  · rfl

variable (sys) in
/-- Offering a line is one request to the editor, or none. -/
theorem run_offerLine (hed : ed.Delivers pending) (line : String) (w : τ) (k : κ) :
    let es := (offerLine line).trace (sys.withEditor ed) (w, k)
    (∃ k', (offerLine line).run (sys.withEditor ed) (w, k) = (.ok (), w, k') ∧ pending k' = pending k) ∧
      besideEditor es = [] ∧ editorRequests es = if isBlankLine line then [] else [.offer line] := by
  unfold offerLine
  cases isBlankLine line with
  | true => exact ⟨⟨k, rfl, rfl⟩, rfl, rfl⟩
  | false =>
    obtain ⟨entered, k', hoffer, hpending⟩ := hed.offer line w k
    simp only [Bool.false_eq_true, if_false, run_map, trace_map, Action.request, run_ask, run_done, trace_ask,
      System.withEditor, hoffer]
    exact ⟨⟨k', rfl, hpending⟩, rfl, rfl⟩

/-- What reading the input comes to: `y` is the session of the lines that are run, and the loop that has ended in `x`
with the events `es` has left the same shell and the same world, and has taken the lines from its editor. -/
structure ReadsAs (y : Shell × τ) (session : List Event) (pending : κ → List (Option String))
    (input : List (Option String)) (x : (Shell × Except LoopFailure Unit) × τ × κ) (es : List Event) : Prop where
  shell : x.1.1 = y.1
  world : x.2.1 = y.2
  pending_eq : pending x.2.2 = remaining input
  events : besideEditor es = session
  requests : editorRequests es = asked input
  result : if stuck input then ∃ fault, x.1.2 = .error (.read fault) else x.1.2 = .ok ()

variable (sys) in
/-- **Reading lines** is running those that are to be run, and takes just these from the input, with the first
one that is not UTF-8 where that is reached. -/
theorem readsAs_readLines (hed : ed.Delivers pending) (hexit : sh.state.exitRequested = false) {n : Nat}
    {input : List (Option String)} (hn : input.length < n) (w : τ) {k : κ} (hk : pending k = input) :
    let y := sh.handleAll (handled input)
    ReadsAs (y.run sys w) (y.trace sys w) pending input ((readLines n sh).run (sys.withEditor ed) (w, k))
      ((readLines n sh).trace (sys.withEditor ed) (w, k)) := by
  -- The flag is unset whenever a line is asked for: a line that sets it is the last one that is handled.
  induction n generalizing sh input w k with
  | zero => exact absurd hn (Nat.not_lt_zero _)
  | succ n ih =>
    rw [readLines_succ hexit]
    match input with
    | [] =>
      obtain ⟨k', hread, hleft⟩ := hed.atEnd promptText w k hk
      simp only [run_ask, trace_ask, System.withEditor, hread]
      exact ⟨rfl, rfl, hleft, rfl, rfl, rfl⟩
    | none :: input =>
      obtain ⟨fault, k', hread, hleft⟩ := hed.undecodable promptText w k hk
      simp only [run_ask, trace_ask, System.withEditor, hread]
      exact ⟨rfl, rfl, hleft, rfl, rfl, fault, rfl⟩
    | some line :: input =>
      obtain ⟨k₁, hread, hleft⟩ := hed.readLine promptText w k hk
      obtain ⟨⟨k₂, hoffer, hkept⟩, hofferBeside, hoffered⟩ := run_offerLine sys hed line w k₁
      obtain ⟨hline, hlineTrace⟩ := (sh.only_handle_forEditor line).run_withEditor sys ed w k₂
      have hflag := exitRequested_handle hexit sys w line
      have hbeside := (sh.only_handle_forEditor line).besideEditor_trace sys w
      have hnone := (sh.only_handle_forEditor line).editorRequests_trace sys w
      have hfirst : sys.withEditor ed (.editor (.readLine promptText)) (w, k) = (.ok (.line line), w, k₁) := hread
      simp only [run_ask, trace_ask, hfirst, run_bind, trace_bind, hoffer, hline, hlineTrace, handled_some_cons,
        handleAll]
      cases hexits : exits line with
      | true =>
        simp only [readLines_of_exitRequested (hflag.trans hexits), if_true, handleAll, pure_def, run_done,
          trace_done, List.append_nil]
        refine ⟨rfl, rfl, ?_, ?_, ?_, ?_⟩
        · rw [remaining_some_cons, if_pos hexits]
          exact hkept.trans hleft
        · simp [hofferBeside, hbeside]
        · simp [hoffered, hnone, asked_some_cons, hexits]
        · simp [stuck_some_cons, hexits]
      | false =>
        obtain ⟨hshell, hworld, hpending, hevents, hrequests, hresult⟩ :=
          ih (hflag.trans hexits) (Nat.lt_of_succ_lt_succ hn) ((sh.handle line).run sys w).2 (hkept.trans hleft)
        refine ⟨hshell, hworld, ?_, ?_, ?_, ?_⟩
        · rw [remaining_some_cons, if_neg (by rw [hexits]; decide)]
          exact hpending
        · simp [hofferBeside, hbeside, hevents]
        · simp [hoffered, hnone, hrequests, asked_some_cons, hexits]
        · rw [stuck_some_cons, hexits]
          exact hresult

variable (sys ed) in
theorem run_withHistory (history? : Option Path) (request : Path → EditorRequest) (s : τ × κ) :
    let x := withHistory history? request
    (x.run (sys.withEditor ed) s).2 = history?.toList.foldl (fun s p => (ed (request p) s).2) s ∧
      besideEditor (x.trace (sys.withEditor ed) s) = [] ∧
      editorRequests (x.trace (sys.withEditor ed) s) = history?.toList.map request := by
  cases history? <;> exact ⟨rfl, rfl, rfl⟩

theorem readLoop_eq (n : Nat) (sh : Shell) (history? : Option Path) :
    readLoop n sh history? = .ask (.editor .setUp) fun
      | .error fault => .done (sh, .error (.setUp fault))
      | .ok () => withHistory history? .loadHistory >>= fun _ => readLines n sh >>= fun x =>
        match x.2 with
        | .error e => .done (x.1, .error e)
        | .ok () => withHistory history? .saveHistory >>= fun _ => .done (x.1, .ok ()) := by
  refine congrArg (Action.ask _) (funext fun answer => ?_)
  rcases answer with fault | ⟨⟩
  · rfl
  · refine bind_congr fun _ => bind_congr fun x => ?_
    rcases x with ⟨sh', e | ⟨⟩⟩ <;> rfl

/-- The read loop, from its parts: the history is saved where the lines have been read without a failure. -/
theorem run_readLoop (hed : ed.Delivers pending) (hexit : sh.state.exitRequested = false) (sys : System τ) (w : τ)
    (k : κ) {n : Nat} (hn : (pending k).length < n) (history? : Option Path) :
    let input := pending k
    let after := (readLoop n sh history?).run (sys.withEditor ed) (w, k)
    let es := (readLoop n sh history?).trace (sys.withEditor ed) (w, k)
    let y := sh.handleAll (handled input)
    let saves := if stuck input then [] else history?.toList
    after.1.1 = (y.run sys w).1 ∧
      (if stuck input then ∃ fault, after.1.2 = .error (.read fault) else after.1.2 = .ok ()) ∧
      besideEditor es = y.trace sys w ∧
      (∃ k', pending k' = remaining input ∧
        after.2 = saves.foldl (fun s p => (ed (.saveHistory p) s).2) ((y.run sys w).2, k')) ∧
      editorRequests es =
        .setUp :: (history?.toList.map .loadHistory ++ asked input ++ saves.map .saveHistory) := by
  intro input after es y saves
  obtain ⟨k₁, hsetUp, hk₁⟩ := hed.setUp w k
  obtain ⟨k₂, hloadState, hk₂⟩ := hed.load history? w k₁
  obtain ⟨hload, hloadBeside, hloaded⟩ := run_withHistory sys ed history? .loadHistory (w, k₁)
  rw [hloadState] at hload
  have hfirst : sys.withEditor ed (.editor .setUp) (w, k) = (.ok (), w, k₁) := hsetUp
  have hreads := readsAs_readLines sys hed hexit hn w (hk₂.trans hk₁)
  simp only [after, es, readLoop_eq, run_ask, trace_ask, hfirst, run_bind, trace_bind, hload, besideEditor_editor_cons,
    editorRequests_editor_cons, besideEditor_append, editorRequests_append, hloadBeside, hloaded, List.nil_append]
  generalize (readLines n sh).run (sys.withEditor ed) (w, k₂) = read at hreads ⊢
  generalize (readLines n sh).trace (sys.withEditor ed) (w, k₂) = reading at hreads ⊢
  obtain ⟨⟨sh', result⟩, w', k'⟩ := read
  obtain ⟨rfl, rfl, hpending, hevents, hrequests, hresult⟩ := hreads
  simp only [saves, hevents, hrequests]
  cases hstuck : stuck input with
  | true =>
    rw [show stuck (pending k) = true from hstuck, if_pos rfl] at hresult
    obtain ⟨fault, rfl⟩ := hresult
    exact ⟨rfl, ⟨fault, rfl⟩, List.append_nil _, ⟨k', hpending, rfl⟩, by simp [editorRequests, input]⟩
  | false =>
    rw [show stuck (pending k) = false from hstuck] at hresult
    obtain rfl : result = .ok () := hresult
    obtain ⟨hsave, hsaveBeside, hsaved⟩ := run_withHistory sys ed history? .saveHistory (((y.run sys w).2, k') : τ × κ)
    simp only [run_bind, trace_bind, run_done, trace_done, List.append_nil]
    refine ⟨rfl, trivial, ?_, ⟨k', hpending, hsave⟩, ?_⟩
    · rw [hsaveBeside, List.append_nil]
    · rw [hsaved, List.append_assoc]
      rfl

/-- **The read loop** of a shell that has not been told to end, on an editor that hands out the lines `input`. The lines
that are handled are the longest part of the input up to the first line that ends the session, as far as it is UTF-8.
The loop leaves the shell of the session of these lines, and makes the requests of that session, but for those to its
editor. Of the input it takes just these lines, with the one that cannot be read where that is reached; it fails
exactly in this case. Then the history is not saved; otherwise the last thing that is done is to save it, in the world
that the session has left, if it has a file. The lines that are offered to it are those that are handled and not
blank. -/
theorem readLoop_fed (hed : ed.Delivers pending) (hexit : sh.state.exitRequested = false) (sys : System τ) (w : τ)
    (k : κ) {n : Nat} (hn : (pending k).length < n) (history? : Option Path) :
    let input := pending k
    let x := readLoop n sh history?
    let after := x.run (sys.withEditor ed) (w, k)
    let es := x.trace (sys.withEditor ed) (w, k)
    let y := sh.handleAll (handled input)
    let saves := if stuck input then [] else history?.toList
    Splits input (handled input) (stuck input) (remaining input) ∧
      after.1.1 = (y.run sys w).1 ∧ besideEditor es = y.trace sys w ∧
      (∃ k', pending k' = remaining input ∧
        after.2 = saves.foldl (fun s p => (ed (.saveHistory p) s).2) ((y.run sys w).2, k')) ∧
      editorRequests es =
        .setUp :: (history?.toList.map .loadHistory ++ asked input ++ saves.map .saveHistory) ∧
      (editorRequests es).filterMap EditorRequest.offered = (handled input).filter (!isBlankLine ·) ∧
      ((∃ e, after.1.2 = .error e) ↔ stuck input = true) ∧ (∀ e, after.1.2 = .error e → ∃ fault, e = .read fault) ∧
      ∀ p, .saveHistory p ∈ editorRequests es ↔ after.1.2 = .ok () ∧ history? = some p := by
  intro input x after es y saves
  obtain ⟨hshell, hresult, hevents, hleft, hrequests⟩ := run_readLoop hed hexit sys w k hn history?
  have hnone (ps : List Path) (f : Path → EditorRequest) (hf : ∀ p, (f p).offered = none) :
      (ps.map f).filterMap EditorRequest.offered = [] := by
    rw [List.filterMap_map]
    exact List.filterMap_eq_nil_iff.2 fun p _ => hf p
  have hsaved (p : Path) : .saveHistory p ∈ editorRequests es ↔ p ∈ saves := by
    simp only [es, x, hrequests, List.mem_cons, List.mem_append, List.mem_map]
    constructor
    · rintro (h | (⟨p', -, h⟩ | h) | ⟨p', hp', h⟩)
      · cases h
      · cases h
      · rcases mem_asked input h with h | ⟨line, h⟩ <;> cases h
      · cases h
        exact hp'
    · exact fun hp => .inr (.inr ⟨p, hp, rfl⟩)
  refine ⟨splits_handled input, hshell, hevents, hleft, hrequests, ?_, ?_, ?_, fun p => ?_⟩
  · simp only [es, x, hrequests]
    rw [List.filterMap_cons_none rfl, List.filterMap_append, List.filterMap_append, hnone _ _ fun _ => rfl,
      hnone _ _ fun _ => rfl, offered_asked, List.nil_append, List.append_nil]
  all_goals
    cases hstuck : stuck input with
    | true =>
      obtain ⟨fault, hfault⟩ : ∃ fault, after.1.2 = .error (.read fault) := by
        rwa [show stuck (pending k) = true from hstuck, if_pos rfl] at hresult
      simp [hsaved, saves, hfault, hstuck]
    | false =>
      have hok : after.1.2 = .ok () := by
        rwa [show stuck (pending k) = false from hstuck] at hresult
      simp [hsaved, saves, hok, hstuck]

end Shell

/-- An editor over named files that reads from a list, and keeps and saves its history as the editor of a machine
does. -/
def LineEditor.listed : LineEditor (Path → Option Bytes) (List (Option String) × History)
  | .setUp, s => (.ok (), s)
  | .loadHistory p, (w, input, h) =>
    match w p with
    | some bytes => (.ok (), w, input, History.ofBytes bytes)
    | none => (.error { text := (Fault.system .noEntry).message }, w, input, h)
  | .readLine _, (w, [], h) => (.ok .ended, w, [], h)
  | .readLine _, (w, some line :: input, h) => (.ok (.line line), w, input, h)
  | .readLine _, (w, none :: input, h) => (.error { text := Fault.notUtf8.message }, w, input, h)
  | .offer line, (w, input, h) => (.ok (h.keeps line), w, input, h.add line)
  | .saveHistory p, (w, input, h) =>
    (.ok (), (fun q => if q = p ∧ h.unsaved then some (Bytes.ofString h.toText) else w q), input, h)

theorem LineEditor.delivers_listed : LineEditor.listed.Delivers Prod.fst where
  setUp _ k := ⟨k, rfl, rfl⟩
  loadHistory p w k := by
    cases hfile : w p with
    | some bytes => exact ⟨.ok (), (k.1, History.ofBytes bytes), by simp [listed, hfile], rfl⟩
    | none => exact ⟨.error { text := (Fault.system .noEntry).message }, k, by simp [listed, hfile], rfl⟩
  readLine _ w k line input h := by
    obtain ⟨pending, history⟩ := k
    obtain rfl : pending = some line :: input := h
    exact ⟨(input, history), rfl, rfl⟩
  undecodable _ w k input h := by
    obtain ⟨pending, history⟩ := k
    obtain rfl : pending = none :: input := h
    exact ⟨_, (input, history), rfl, rfl⟩
  atEnd _ w k h := by
    obtain ⟨pending, history⟩ := k
    obtain rfl : pending = [] := h
    exact ⟨([], history), rfl, rfl⟩
  offer line w k := ⟨_, (k.1, k.2.add line), rfl, rfl⟩
  saveHistory _ _ := rfl

/-- Of five lines three are run, since the third one ends the session; the blank one is not offered to the history,
which is saved then. -/
theorem Shell.readLoop_fed_linked :
    let sh := Shell.start {} { currentDir := .root }
    let input := [some "echo one", some "  ", some "'ex'it > out", some "echo two", none]
    let history := Path.ofString "/history"
    let x := readLoop 6 sh (some history)
    let sys := System.linked.withEditor LineEditor.listed
    let after := x.run sys (fun _ => none, input, {})
    let es := x.trace sys (fun _ => none, input, {})
    Input.handled input = ["echo one", "  ", "'ex'it > out"] ∧
      after.1.1.state.exitRequested = true ∧ printed (besideEditor es) = [(.stdout, "one")] ∧
      (editorRequests es).filterMap EditorRequest.offered = ["echo one", "'ex'it > out"] ∧
      .saveHistory history ∈ editorRequests es ∧
      after.2.1 history = some (Bytes.ofString "#V2\necho one\n'ex'it > out\n") := by
  intro sh input history x sys after es
  obtain ⟨-, hshell, hevents, -, -, hoffered, herror, -, hsaved⟩ := readLoop_fed LineEditor.delivers_listed
    (show sh.state.exitRequested = false from rfl) System.linked (fun _ => none) (input, {})
    (show input.length < 6 by decide) (some history)
  have hresult : after.1.2 = .ok () := by
    cases h : after.1.2 with
    | ok _ => rfl
    | error e => exact absurd (herror.1 ⟨e, h⟩) (by decide +kernel)
  refine ⟨by decide +kernel, ?_, ?_, ?_, (hsaved history).2 ⟨hresult, rfl⟩, by decide +kernel⟩
  · rw [hshell]
    decide +kernel
  · rw [hevents]
    decide +kernel
  · rw [hoffered]
    decide +kernel

end LineShell
