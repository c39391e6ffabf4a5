import LineShell.Proofs.Run.Sink
import Mathlib.Data.List.Basic

/-!
# Lines that pass a redirection

A redirection stands between the lines of a command and a sink below it. Whatever that sink is, and however often
a target refuses a line and takes the next one, each line that is handed over lands in one place: in the target of
its stream, or in the sink below.

* `Redirection.handed_over`: what becomes of one line.
* `Redirection.Handed.held`, `Redirection.Handed.heard`: what one line leaves in a file, and in the sink below.
* `Redirection.over_writeAll`: of many lines no line is lost, and none is there twice.
-/

namespace LineShell

open LineShell.Action

variable {σ : Type} {sys : System σ} {below : Sink} {r : Redirection} {w : σ}

/-! ## One line -/

/-- A file that is written by no one but through its path names: a write that goes well adds its line to it if the
path name denotes it, and nothing else changes it. In the world `w` it holds `held w`. -/
structure WatchedFile (sys : System σ) (below : Sink) where
  denotes : σ → Path → Bool
  held : σ → Bytes
  taken (p : Path) (line : String) (w : σ) : (sys (.appendLine p line) w).1 = .ok () →
    held (sys (.appendLine p line) w).2 = if denotes w p then held w ++ Bytes.ofString (line ++ "\n") else held w
  refused (p : Path) (line : String) (w : σ) (fault : Fault) : (sys (.appendLine p line) w).1 = .error fault →
    held (sys (.appendLine p line) w).2 = held w
  spared (s : Stream) (line : String) (w : σ) : held ((below s line).run sys w).2 = held w

/-- A sink whose lines are kept: in the world `w` it has been told the lines `heard w`. -/
structure WatchedSink (sys : System σ) (below : Sink) where
  heard : σ → List (Stream × String)
  told (s : Stream) (line : String) (w : σ) : heard ((below s line).run sys w).2 = heard w ++ [(s, line)]
  spared (p : Path) (line : String) (w : σ) : heard (sys (.appendLine p line) w).2 = heard w

namespace Redirection

/-- The path name of the target that takes a line for the stream `s`; without one the line goes below. -/
def taker (r : Redirection) (sys : System σ) (w : σ) (s : Stream) (line : String) : Option Path :=
  ((r.target s).filter fun t => (sys (.appendLine t.path line) w).1.isOk).map Target.path

/-- What becomes of a line for the stream `s` that is handed to `r` over `below` in the world `w`: the target that
takes it, the outcome with the world that is left, and all that is asked for. -/
inductive Handed (r : Redirection) (below : Sink) (sys : System σ) (w : σ) (s : Stream) (line : String) :
    Option Path → Outcome × σ → List Event → Prop
  | inherited (htarget : r.target s = none) :
      Handed r below sys w s line none ((below s line).run sys w) ((below s line).trace sys w)
  | taken {t : Target} {w' : σ} (htarget : r.target s = some t)
      (happend : sys (.appendLine t.path line) w = (.ok (), w')) :
      Handed r below sys w s line (some t.path) (.ok (), w') [⟨.appendLine t.path line, .ok ()⟩]
  /-- The error is that of the sink below, and that of the target where the sink below takes the line. -/
  | refused {t : Target} {fault : Fault} {w' : σ} (htarget : r.target s = some t)
      (happend : sys (.appendLine t.path line) w = (.error fault, w')) :
      Handed r below sys w s line none
        (((below s line).run sys w').1 >>= fun _ => .error (.redirect t.path fault), ((below s line).run sys w').2)
        (⟨.appendLine t.path line, .error fault⟩ :: (below s line).trace sys w')

variable (r below sys w) in
/-- **One line** is taken by the target of its stream, or handed to the sink below once. -/
theorem handed_over (s : Stream) (line : String) :
    r.Handed below sys w s line (r.taker sys w s line) ((r.over below s line).run sys w)
      ((r.over below s line).trace sys w) := by
  rw [taker]
  cases htarget : r.target s with
  | none =>
    rw [over_of_none htarget]
    exact .inherited htarget
  | some t =>
    rw [over_of_target htarget, run_ask, trace_ask]
    cases happend : sys (.appendLine t.path line) w with
    | mk answer w' =>
      rcases answer with fault | ⟨⟩
      · rw [Option.filter_some_neg (by rw [happend]; rfl)]
        have hrefused : r.Handed below sys w s line none _ _ := .refused htarget happend
        simpa [run_bind, trace_bind] using hrefused
      · rw [Option.filter_some_pos (by rw [happend]; rfl)]
        exact .taken htarget happend

section Handed

variable {s : Stream} {line : String} {place : Option Path} {x : Outcome × σ} {es : List Event}

/-- **A file and one line**: the line is added where a target that denotes the file takes it. -/
theorem Handed.held (h : r.Handed below sys w s line place x es) (file : WatchedFile sys below) :
    file.held x.2 =
      if place.any (file.denotes w) then file.held w ++ Bytes.ofString (line ++ "\n") else file.held w := by
  cases h with
  | inherited htarget => exact file.spared s line w
  | taken htarget happend =>
    have hheld := file.taken _ line w (congrArg Prod.fst happend)
    rwa [happend] at hheld
  | refused htarget happend =>
    have hheld := file.refused _ line w _ (congrArg Prod.fst happend)
    rw [happend] at hheld
    exact (file.spared s line _).trans hheld

/-- **The sink below and one line**: it is told the line where no target takes it. -/
theorem Handed.heard (h : r.Handed below sys w s line place x es) (ear : WatchedSink sys below) :
    ear.heard x.2 = if place.isNone then ear.heard w ++ [(s, line)] else ear.heard w := by
  have hspared (p : Path) {answer : Except Fault Unit} {w' : σ}
      (happend : sys (.appendLine p line) w = (answer, w')) : ear.heard w' = ear.heard w := by
    have hheard := ear.spared p line w
    rwa [happend] at hheard
  cases h with
  | inherited htarget => exact ear.told s line w
  | taken htarget happend => exact hspared _ happend
  | refused htarget happend => exact (ear.told s line _).trans (by rw [hspared _ happend]; rfl)

/-- Over a sink that takes every line, an error is a line of a stream with a target that reached the sink. -/
theorem Handed.isOk_eq (h : r.Handed below sys w s line place x es)
    (hbelow : ∀ s line w, ((below s line).run sys w).1 = .ok ()) :
    (!x.1.isOk) = ((r.target s).isSome && place.isNone) := by
  cases h with
  | inherited htarget => rw [hbelow, htarget]; rfl
  | taken htarget happend => rw [htarget]; rfl
  | refused htarget happend => rw [hbelow, htarget]; rfl

end Handed

end Redirection

/-! ## Many lines -/

/-- A line that was handed to a sink, with the world at that moment and the outcome. -/
structure Call (σ : Type) where
  stream : Stream
  line : String
  world : σ
  outcome : Outcome

namespace Sink

/-- Hand lines to a sink, one after the other. -/
def writeAll (sink : Sink) : List (Stream × String) → Action (List Outcome)
  | [] => return []
  | (s, line) :: ls => return (← sink s line) :: (← writeAll sink ls)

/-- The calls of a sink by which it is handed lines. -/
def calls (sink : Sink) (sys : System σ) : List (Stream × String) → σ → List (Call σ)
  | [], _ => []
  | (s, line) :: ls, w =>
    ⟨s, line, w, ((sink s line).run sys w).1⟩ :: calls sink sys ls ((sink s line).run sys w).2

variable (sink : Sink) (s : Stream) (line : String) (ls : List (Stream × String))

theorem run_writeAll_cons :
    ((writeAll sink ((s, line) :: ls)).run sys w).2 =
      ((writeAll sink ls).run sys ((sink s line).run sys w).2).2 := by
  simp only [writeAll, run_bind]
  rfl

theorem outcomes_calls : ((writeAll sink ls).run sys w).1 = (calls sink sys ls w).map Call.outcome := by
  induction ls generalizing w with
  | nil => rfl
  | cons l ls ih =>
    obtain ⟨s, line⟩ := l
    simp only [writeAll, run_bind, calls, List.map_cons, ← ih]
    rfl

/-- The calls hand over the lines in their order. -/
theorem lines_calls : (calls sink sys ls w).map (fun c => (c.stream, c.line)) = ls := by
  induction ls generalizing w with
  | nil => rfl
  | cons l ls ih => rw [calls, List.map_cons, ih]

theorem outcome_of_mem_calls {c : Call σ} (h : c ∈ calls sink sys ls w) :
    c.outcome = ((sink c.stream c.line).run sys c.world).1 := by
  induction ls generalizing w with
  | nil => cases h
  | cons l ls ih =>
    rcases List.mem_cons.1 h with rfl | h
    · rfl
    · exact ih h

end Sink

/-! ## Where lines land -/

/-- The elements of `zs` are shared out among `xs` and `ys`, which keep their order. -/
inductive Shared {α : Type} : List α → List α → List α → Prop
  | nil : Shared [] [] []
  | left {x : α} {xs ys zs : List α} (h : Shared xs ys zs) : Shared (x :: xs) ys (x :: zs)
  | right {y : α} {xs ys zs : List α} (h : Shared xs ys zs) : Shared xs (y :: ys) (y :: zs)

theorem shared_filter {α : Type} (p q : α → Bool) (hq : ∀ a, q a = !p a) (l : List α) :
    Shared (l.filter p) (l.filter q) l := by
  induction l with
  | nil => exact .nil
  | cons a l ih =>
    cases hp : p a with
    | true =>
      rw [List.filter_cons_of_pos hp, List.filter_cons_of_neg (by simp [hq, hp])]
      exact .left ih
    | false =>
      rw [List.filter_cons_of_neg (by simp [hp]), List.filter_cons_of_pos (by simp [hq, hp])]
      exact .right ih

theorem Shared.map {α β : Type} (f : α → β) {xs ys zs : List α} (h : Shared xs ys zs) :
    Shared (xs.map f) (ys.map f) (zs.map f) := by
  induction h with
  | nil => exact .nil
  | left _ ih => exact .left ih
  | right _ ih => exact .right ih

/-- The path name of the target that takes the line of the call. -/
def Call.taker (c : Call σ) (r : Redirection) (sys : System σ) : Option Path :=
  r.taker sys c.world c.stream c.line

/-- The lines of the calls for the stream `s`. -/
def linesFor (s : Stream) (cs : List (Call σ)) : List String :=
  (cs.filter (·.stream = s)).map Call.line

/-- A record of the world that a call of the sink adds to as `p` and `add` say has been added to by all calls. -/
theorem Sink.record_writeAll {β : Type} {sink : Sink} (record : σ → List β) {p : Call σ → Bool}
    {add : Call σ → List β}
    (hstep : ∀ s line w, record ((sink s line).run sys w).2 =
      if p ⟨s, line, w, ((sink s line).run sys w).1⟩ then
        record w ++ add ⟨s, line, w, ((sink s line).run sys w).1⟩ else record w)
    (ls : List (Stream × String)) (w : σ) :
    record ((writeAll sink ls).run sys w).2 = record w ++ ((calls sink sys ls w).filter p).flatMap add := by
  induction ls generalizing w with
  | nil => exact (List.append_nil _).symm
  | cons l ls ih =>
    obtain ⟨s, line⟩ := l
    rw [run_writeAll_cons, ih, hstep, calls]
    by_cases hp : p ⟨s, line, w, ((sink s line).run sys w).1⟩ = true
    · rw [if_pos hp, List.filter_cons_of_pos hp, List.flatMap_cons, List.append_assoc]
    · rw [if_neg hp, List.filter_cons_of_neg hp]

/-- **No line is lost, and none is there twice.** Let lines be handed to `r` over any sink, one after the other.
Each is taken by the target of its stream, which is then all that happens, or handed to the sink below once, and
the outcome tells which. So the lines for a stream are shared out among those that its target took and those that
were passed on, in their order; each file holds what it held and the lines that were taken into it; the sink below
has been told the lines that were passed on. Over a sink that takes every line, there are as many errors as lines
of streams with a target that were passed on. -/
theorem Redirection.over_writeAll (r : Redirection) (below : Sink) (ls : List (Stream × String)) (sys : System σ)
    (w : σ) :
    let sink := r.over below
    let calls := Sink.calls sink sys ls w
    let written := (Sink.writeAll sink ls).run sys w
    let taken := calls.filter fun c => (c.taker r sys).isSome
    let passed := calls.filter fun c => (c.taker r sys).isNone
    (∀ s line w, r.Handed below sys w s line (r.taker sys w s line) ((sink s line).run sys w)
      ((sink s line).trace sys w)) ∧
    (calls.map (fun c => (c.stream, c.line)) = ls ∧ written.1 = calls.map Call.outcome) ∧
    (∀ s, Shared (linesFor s taken) (linesFor s passed) ((ls.filter (·.1 = s)).map Prod.snd)) ∧
    (∀ file : WatchedFile sys below, file.held written.2 = file.held w ++
      (calls.filter fun c => (c.taker r sys).any (file.denotes c.world)).flatMap
        fun c => Bytes.ofString (c.line ++ "\n")) ∧
    (∀ ear : WatchedSink sys below, ear.heard written.2 = ear.heard w ++
      passed.map fun c => (c.stream, c.line)) ∧
    ((∀ s line w, ((below s line).run sys w).1 = .ok ()) →
      (written.1.filter fun o => !o.isOk).length = (passed.filter fun c => (r.target c.stream).isSome).length) := by
  intro sink calls written taken passed
  have hlines : calls.map (fun c => (c.stream, c.line)) = ls := Sink.lines_calls sink ls
  have houtcomes : written.1 = calls.map Call.outcome := Sink.outcomes_calls sink ls
  have hhanded s line w := Redirection.handed_over sys below r w s line
  refine ⟨hhanded, ⟨hlines, houtcomes⟩, fun s => ?_, fun file => ?_, fun ear => ?_, fun hbelow => ?_⟩
  · have hstream : (ls.filter (·.1 = s)).map Prod.snd = linesFor s calls := by
      rw [← hlines, List.filter_map, List.map_map]
      rfl
    -- Of the calls for the stream `s` those with a taker are told from the others.
    simp only [hstream, linesFor, taken, passed, List.filter_comm fun c : Call σ => c.stream = s]
    exact (shared_filter _ _ (fun c => by cases c.taker r sys <;> rfl) _).map Call.line
  · exact Sink.record_writeAll file.held (fun s line w => (hhanded s line w).held file) ls w
  · rw [← List.flatMap_singleton' (passed.map _), List.flatMap_map]
    exact Sink.record_writeAll ear.heard (fun s line w => (hhanded s line w).heard ear) ls w
  · rw [houtcomes, List.filter_map, List.length_map, List.filter_filter]
    refine congrArg List.length (List.filter_congr fun c hc => ?_)
    rw [Function.comp_apply, Sink.outcome_of_mem_calls sink ls hc]
    exact (hhanded c.stream c.line c.world).isOk_eq hbelow

/-! ## A file that refuses every other line -/

/-- A console that keeps its lines. -/
def WatchedSink.transcribed (sys : System σ) : WatchedSink sys.transcribed Sink.console where
  heard w := w.2.lines
  told _ _ _ := rfl
  spared _ _ _ := rfl

/-- A system with a single file, `/log`, that takes one line and refuses the next. -/
def System.flaky : System (Bytes × Bool) := fun r (held, full) =>
  match r with
  | .appendLine p line =>
    if p = Path.ofString "/log" && !full then (.ok (), held ++ Bytes.ofString (line ++ "\n"), true)
    else (.error (.system .accessDenied), held, false)
  | r => System.bare r (held, full)

/-- Its file, under a console that keeps its lines. -/
def WatchedFile.flaky : WatchedFile System.flaky.transcribed Sink.console where
  denotes _ p := p = Path.ofString "/log"
  held w := w.1.1
  taken p line w h := by
    obtain ⟨⟨held, full⟩, t⟩ := w
    by_cases hp : (p = Path.ofString "/log" && !full) = true
    · simp_all [System.transcribed, System.flaky]
    · simp [System.transcribed, System.flaky, hp] at h
  refused p line w fault h := by
    obtain ⟨⟨held, full⟩, t⟩ := w
    by_cases hp : (p = Path.ofString "/log" && !full) = true
    · simp [System.transcribed, System.flaky, hp] at h
    · simp [System.transcribed, System.flaky, hp]
  spared _ _ _ := rfl

/-- The line that the file refuses is on the console, and the next one is in the file again. -/
theorem Redirection.over_writeAll_flaky :
    let sink := Redirection.over ⟨some ⟨Path.ofString "/log", true⟩, none⟩ Sink.console
    let ls := [(.stdout, "one"), (.stderr, "oh"), (.stdout, "two"), (.stdout, "three")]
    let written := (Sink.writeAll sink ls).run System.flaky.transcribed (([], false), {})
    written.2.1.1 = Bytes.ofString "one\nthree\n" ∧
      written.2.2.lines = [(.stderr, "oh"), (.stdout, "two")] ∧
      (written.1.filter fun o => !o.isOk).length = 1 := by
  intro sink ls written
  obtain ⟨-, -, -, hheld, hheard, herrors⟩ :=
    over_writeAll ⟨some ⟨Path.ofString "/log", true⟩, none⟩ Sink.console ls System.flaky.transcribed (([], false), {})
  refine ⟨(hheld WatchedFile.flaky).trans ?_, (hheard (WatchedSink.transcribed _)).trans ?_,
    (herrors fun _ _ _ => rfl).trans ?_⟩
  all_goals decide +kernel

end LineShell
