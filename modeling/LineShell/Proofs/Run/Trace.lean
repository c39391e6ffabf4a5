import LineShell.Action

/-!
# Traces

The *trace* of a run is the list of the requests that were asked, each with its answer. What a run does
to the world outside is read off its trace.

* `trace_bind`: the trace of one action after another.
* `Only P x`: whatever the answers are, all requests of `x` satisfy `P`.
* `Yields Q x`: whatever the answers are, `x` ends with something that satisfies `Q`.
* `YieldsIf P Q x`: the same, where only answers that satisfy `P` are given.
* `Along P sys x s`: in the run of `x` from `s`, each request satisfies `P` in the state that it is asked in.
-/

namespace LineShell

/-- A request and its answer. -/
structure Event where
  request : Request
  answer : request.Answer

namespace Action

variable {α β σ : Type}

/-! ## The trace of a run -/

/-- The requests that `x` asks the system `sys` in the state `s`, with their answers. -/
def trace (sys : System σ) : Action α → σ → List Event
  | .done _, _ => []
  | .ask r k, s => ⟨r, (sys r s).1⟩ :: (k (sys r s).1).trace sys (sys r s).2

@[simp] theorem trace_done (sys : System σ) (a : α) (s : σ) : (Action.done a).trace sys s = [] := rfl

@[simp] theorem trace_ask (sys : System σ) (r : Request) (k : r.Answer → Action α) (s : σ) :
    (Action.ask r k).trace sys s = ⟨r, (sys r s).1⟩ :: (k (sys r s).1).trace sys (sys r s).2 := rfl

theorem trace_bind (sys : System σ) (x : Action α) (f : α → Action β) (s : σ) :
    (x >>= f).trace sys s =
      x.trace sys s ++ (f (x.run sys s).1).trace sys (x.run sys s).2 := by
  induction x generalizing s with
  | done a => rfl
  | ask r k ih => simp only [ask_bind, trace_ask, run_ask, ih, List.cons_append]

theorem run_map (sys : System σ) (f : α → β) (x : Action α) (s : σ) :
    (f <$> x).run sys s = (f (x.run sys s).1, (x.run sys s).2) := by
  rw [map_eq_pure_bind, run_bind]
  rfl

theorem trace_map (sys : System σ) (f : α → β) (x : Action α) (s : σ) :
    (f <$> x).trace sys s = x.trace sys s := by
  rw [map_eq_pure_bind, trace_bind]
  simp

/-- Each event of a trace is a request that the system answered in some state. -/
theorem exists_of_mem_trace {sys : System σ} {x : Action α} {s : σ} {e : Event}
    (h : e ∈ x.trace sys s) : ∃ w, e = ⟨e.request, (sys e.request w).1⟩ := by
  induction x generalizing s with
  | done a => simp at h
  | ask r k ih =>
    rcases List.mem_cons.1 h with rfl | h
    · exact ⟨s, rfl⟩
    · exact ih _ h

/-! ## All requests of an action -/

/-- Whatever the answers are, `x` asks no request but those that satisfy `P`. -/
def Only (P : Request → Prop) : Action α → Prop
  | .done _ => True
  | .ask r k => P r ∧ ∀ a, (k a).Only P

theorem only_bind {P : Request → Prop} {x : Action α} {f : α → Action β} (hx : x.Only P)
    (hf : ∀ a, (f a).Only P) : (x >>= f).Only P := by
  induction x with
  | done a => exact hf a
  | ask r k ih => exact ⟨hx.1, fun a => ih a (hx.2 a)⟩

theorem only_map {P : Request → Prop} {x : Action α} (f : α → β) (hx : x.Only P) : (f <$> x).Only P := by
  rw [map_eq_pure_bind]
  exact only_bind hx fun _ => trivial

theorem only_request {P : Request → Prop} {r : Request} (h : P r) : (request r).Only P :=
  ⟨h, fun _ => trivial⟩

theorem Only.mono {P Q : Request → Prop} {x : Action α} (hx : x.Only P) (h : ∀ r, P r → Q r) :
    x.Only Q := by
  induction x with
  | done a => trivial
  | ask r k ih => exact ⟨h r hx.1, fun a => ih a (hx.2 a)⟩

theorem Only.of_mem_trace {P : Request → Prop} {x : Action α} (hx : x.Only P) {sys : System σ} {s : σ}
    {e : Event} (h : e ∈ x.trace sys s) : P e.request := by
  induction x generalizing s with
  | done a => simp at h
  | ask r k ih =>
    rcases List.mem_cons.1 h with rfl | h
    · exact hx.1
    · exact ih _ (hx.2 _) h

/-- What an action does not ask is not in its trace. -/
theorem Only.not_mem_trace {P : Request → Prop} {x : Action α} {r : Request} (hx : x.Only P) (hr : ¬ P r)
    (sys : System σ) (s : σ) : r ∉ (x.trace sys s).map Event.request := by
  intro hmem
  obtain ⟨e, he, rfl⟩ := List.mem_map.1 hmem
  exact hr (hx.of_mem_trace he)

/-! ## All results of an action -/

/-- Whatever the answers are, `x` yields nothing but what satisfies `Q`. -/
def Yields (Q : α → Prop) : Action α → Prop
  | .done a => Q a
  | .ask _ k => ∀ a, (k a).Yields Q

theorem yields_bind {Q : α → Prop} {R : β → Prop} {x : Action α} {f : α → Action β} (hx : x.Yields Q)
    (hf : ∀ a, Q a → (f a).Yields R) : (x >>= f).Yields R := by
  induction x with
  | done a => exact hf a hx
  | ask r k ih => exact fun a => ih a (hx a)

theorem yields_trivial (x : Action α) : x.Yields fun _ => True := by
  induction x with
  | done a => trivial
  | ask r k ih => exact ih

theorem Yields.mono {Q R : α → Prop} {x : Action α} (hx : x.Yields Q) (h : ∀ a, Q a → R a) : x.Yields R := by
  induction x with
  | done a => exact h a hx
  | ask r k ih => exact fun a => ih a (hx a)

theorem Yields.run {Q : α → Prop} {x : Action α} (hx : x.Yields Q) (sys : System σ) (s : σ) :
    Q (x.run sys s).1 := by
  induction x generalizing s with
  | done a => exact hx
  | ask r k ih => exact ih _ (hx _) _

/-- Whatever the answers are, as long as they satisfy `P`, `x` yields nothing but what satisfies `Q`. -/
def YieldsIf (P : Event → Prop) (Q : α → Prop) : Action α → Prop
  | .done a => Q a
  | .ask r k => ∀ a, P ⟨r, a⟩ → (k a).YieldsIf P Q

theorem Yields.yieldsIf {Q : α → Prop} {x : Action α} (hx : x.Yields Q) (P : Event → Prop) : x.YieldsIf P Q := by
  induction x with
  | done a => exact hx
  | ask r k ih => exact fun a _ => ih a (hx a)

theorem yieldsIf_bind {P : Event → Prop} {Q : α → Prop} {R : β → Prop} {x : Action α} {f : α → Action β}
    (hx : x.YieldsIf P Q) (hf : ∀ a, Q a → (f a).YieldsIf P R) : (x >>= f).YieldsIf P R := by
  induction x with
  | done a => exact hf a hx
  | ask r k ih => exact fun a ha => ih a (hx a ha)

theorem YieldsIf.run {P : Event → Prop} {Q : α → Prop} {x : Action α} (hx : x.YieldsIf P Q) {sys : System σ} {s : σ}
    (h : ∀ e ∈ x.trace sys s, P e) : Q (x.run sys s).1 := by
  induction x generalizing s with
  | done a => exact hx
  | ask r k ih =>
    obtain ⟨hfirst, hrest⟩ := List.forall_mem_cons.1 h
    exact ih _ (hx _ hfirst) hrest

/-- What comes after `x` need only be looked at for what `x` can yield. -/
theorem only_bind_of_yields {P : Request → Prop} {Q : α → Prop} {x : Action α} {f : α → Action β}
    (hx : x.Only P) (hyields : x.Yields Q) (hf : ∀ a, Q a → (f a).Only P) : (x >>= f).Only P := by
  induction x with
  | done a => exact hf a hyields
  | ask r k ih => exact ⟨hx.1, fun a => ih a (hx.2 a) (hyields a)⟩

/-! ## All steps of a run -/

/-- Each request of the run satisfies `P`, in the state that it is asked in. -/
def Along (P : σ → Request → Prop) (sys : System σ) : Action α → σ → Prop
  | .done _, _ => True
  | .ask r k, s => P s r ∧ (k (sys r s).1).Along P sys (sys r s).2

instance decidableAlong (P : σ → Request → Prop) [∀ s r, Decidable (P s r)] (sys : System σ) :
    (x : Action α) → (s : σ) → Decidable (x.Along P sys s)
  | .done _, _ => isTrue trivial
  | .ask r k, s =>
    have := decidableAlong P sys (k (sys r s).1) (sys r s).2
    inferInstanceAs (Decidable (P s r ∧ (k (sys r s).1).Along P sys (sys r s).2))

theorem Only.along {P : Request → Prop} {Q : σ → Request → Prop} {x : Action α} (hx : x.Only P)
    (h : ∀ s r, P r → Q s r) (sys : System σ) (s : σ) : x.Along Q sys s := by
  induction x generalizing s with
  | done a => trivial
  | ask r k ih => exact ⟨h s r hx.1, ih _ (hx.2 _) _⟩

theorem Along.and {P Q : σ → Request → Prop} {sys : System σ} {x : Action α} {s : σ} (hx : x.Along P sys s)
    (hy : x.Along Q sys s) : x.Along (fun s r => P s r ∧ Q s r) sys s := by
  induction x generalizing s with
  | done a => trivial
  | ask r k ih => exact ⟨⟨hx.1, hy.1⟩, ih _ hx.2 hy.2⟩

theorem Along.and_trace {P : σ → Request → Prop} {Q : Request → Prop} {sys : System σ} {x : Action α} {s : σ}
    (hx : x.Along P sys s) (htrace : ∀ e ∈ x.trace sys s, Q e.request) :
    x.Along (fun s r => P s r ∧ Q r) sys s := by
  induction x generalizing s with
  | done a => trivial
  | ask r k ih =>
    obtain ⟨hrequest, hrest⟩ := List.forall_mem_cons.1 htrace
    exact ⟨⟨hx.1, hrequest⟩, ih _ hx.2 hrest⟩

end Action

/-! ## Bare systems -/

variable {σ : Type}

/-- An editor whose input has ended. -/
def EditorRequest.atEnd : (q : EditorRequest) → q.Answer
  | .setUp | .loadHistory _ | .saveHistory _ => .ok ()
  | .readLine _ => .ok .ended
  | .offer _ => .ok true

/-- A system that takes every line, finds nothing, starts nothing and stays as it is. Systems with a file, a
program or a broken disk differ from it in a few requests only. -/
def System.bare : System σ := fun r w =>
  match r with
  | .create _ | .appendLine _ _ | .print _ _ | .complain _ => (.ok (), w)
  | .openAppend _ => (.ok ⟨3⟩, w)
  | .canonicalize _ | .inspect _ => (none, w)
  | .canList _ => (false, w)
  | .start _ => (.error (.spawn (.system .noEntry)), w)
  | .editor q => (q.atEnd, w)

/-- A bare system with the program `/bin/tool`, which does nothing. -/
def System.withTool : System σ := fun r w =>
  match r with
  | .inspect p =>
    (if p = Path.ofString "/bin/tool" then some { isDirectory := false, isRegular := true, mode := 0o755 } else none, w)
  | .start _ => (.ok (.exited 0), w)
  | r => System.bare r w

end LineShell
