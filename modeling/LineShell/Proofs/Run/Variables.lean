import LineShell.Machine.System
import LineShell.Proofs.Run.Requests
import Mathlib.Data.List.Nodup

/-!
# The variables of a program

A program is started with the variables of the shell's environment set on top of those that the process of the shell
has itself. So the environment of the shell decides on its own variables only: any other variable of the process is
handed down as well, and taking a variable away from the environment does not take it away from the programs.

* `Environment.get?_override`: the values after variables were set on top of others.
* `Environment.toList_eq_iff`: two environments are listed in the same way where they have the same values.
* `Shell.only_handleAll_hands`: the environment of the shell is what each program is started with.
* `Shell.handsDown_handleAll`: the variables of the programs that a session starts on a machine.
-/

namespace LineShell

open LineShell.Action

/-! ## Variables set on top of others -/

namespace Environment

/-- Setting all variables of a list, the first of them last. -/
theorem get?_foldr_set (own : Environment) (vars : List (String × String)) (k : String) :
    (vars.foldr (fun p e => e.set p.1 p.2) own).get? k = (vars.lookup k).or (own.get? k) := by
  induction vars with
  | nil => rfl
  | cons p vars ih =>
    obtain ⟨key, value⟩ := p
    by_cases hkey : k = key
    · subst hkey
      rw [List.foldr_cons, get?_set_self, List.lookup_cons_self]
      rfl
    · have hne : (k == key) = false := beq_eq_false_iff_ne.2 hkey
      rw [List.foldr_cons, get?_set_of_ne _ _ hkey, ih, List.lookup_cons, hne]

/-- **The values after variables were set on top of others**: a variable that was set has its new value, any other
one the value that it had. -/
theorem get?_override (own env : Environment) (k : String) :
    (own.override env).get? k = (env.get? k).or (own.get? k) :=
  get?_foldr_set own env.vars k

theorem mem_vars {env : Environment} {k v : String} : (k, v) ∈ env.vars ↔ env.get? k = some v := by
  rw [get?, List.lookup_eq_some_iff]
  constructor
  · intro hmem
    obtain ⟨before, after, hvars⟩ := List.append_of_mem hmem
    refine ⟨before, after, hvars, fun p hp => bne_iff_ne.2 fun hk => ?_⟩
    -- The name would be there twice.
    have hnodup := env.nodup
    rw [hvars, List.map_append, List.nodup_append'] at hnodup
    exact hnodup.2.2 (List.mem_map_of_mem hp) (hk ▸ List.mem_cons_self)
  · rintro ⟨before, after, hvars, -⟩
    rw [hvars]
    exact List.mem_append_right _ List.mem_cons_self

theorem mem_toList {env : Environment} {k v : String} : (k, v) ∈ env.toList ↔ env.get? k = some v := by
  rw [toList, List.mem_mergeSort, mem_vars]

theorem nodup_toList (env : Environment) : env.toList.Nodup :=
  (List.mergeSort_perm _ _).nodup_iff.2 env.nodup.of_map

theorem pairwise_toList (env : Environment) : env.toList.Pairwise fun p q => p.1 ≤ q.1 := by
  have htrans (p q r : String × String) (hpq : decide (p.1 ≤ q.1) = true) (hqr : decide (q.1 ≤ r.1) = true) :
      decide (p.1 ≤ r.1) = true :=
    decide_eq_true (String.le_trans (of_decide_eq_true hpq) (of_decide_eq_true hqr))
  have htotal (p q : String × String) : (decide (p.1 ≤ q.1) || decide (q.1 ≤ p.1)) = true := by
    rw [Bool.or_eq_true, decide_eq_true_iff, decide_eq_true_iff]
    exact String.le_total p.1 q.1
  exact (List.pairwise_mergeSort htrans htotal env.vars).imp of_decide_eq_true

/-- **Two environments are listed in the same way where they have the same values.** -/
theorem toList_eq_iff (env env' : Environment) : env.toList = env'.toList ↔ ∀ k, env.get? k = env'.get? k := by
  constructor
  · intro heq k
    refine Option.ext fun v => ?_
    rw [← mem_toList, ← mem_toList, heq]
  · intro hsame
    have hmem (p : String × String) : p ∈ env.toList ↔ p ∈ env'.toList := by
      obtain ⟨k, v⟩ := p
      rw [mem_toList, mem_toList, hsame]
    have hperm : env.toList.Perm env'.toList :=
      (List.perm_ext_iff_of_nodup env.nodup_toList env'.nodup_toList).2 hmem
    -- Both lists are sorted by names, and no name is there twice.
    refine hperm.eq_of_pairwise (fun p q hp hq hpq hqp => ?_) env.pairwise_toList env'.pairwise_toList
    obtain ⟨k, v⟩ := p
    obtain ⟨k', v'⟩ := q
    obtain rfl : k = k'  := String.le_antisymm hpq hqp
    rw [mem_toList] at hp
    rw [← hmem, mem_toList, hp] at hq
    rw [Option.some.inj hq]

/-- Where the variables of `env` are set on top of others, what comes out is `env` itself exactly where the others
have no variable that it does not have. -/
theorem toList_override_eq_iff (own env : Environment) :
    (own.override env).toList = env.toList ↔ ∀ k, env.get? k = none → own.get? k = none := by
  rw [toList_eq_iff]
  refine forall_congr' fun k => ?_
  rw [get?_override]
  cases env.get? k <;> simp

/-- Set on top of two environments, the variables of `env` make them equal exactly where these agree on all others. -/
theorem toList_override_congr_iff (own own' env : Environment) :
    (own.override env).toList = (own'.override env).toList ↔ ∀ k, env.get? k = none → own.get? k = own'.get? k := by
  rw [toList_eq_iff]
  refine forall_congr' fun k => ?_
  rw [get?_override, get?_override]
  cases env.get? k <;> simp

end Environment

/-! ## What a session hands down -/

/-- If the request starts a program, `env` is what it is started with. -/
def Request.Hands (env : Environment) : Request → Prop
  | .start child => child.environment = env
  | _ => True

theorem Request.OfLine.hands {sh : Shell} {c : Command} {r : Request} (h : r.OfLine sh c) : r.Hands sh.env := by
  cases r with
  | start child =>
    obtain ⟨program, -, -, -, out, err, rfl⟩ := h
    rfl
  | _ => trivial

/-- **The environment of the shell is what each program is started with.** -/
theorem Shell.only_handleAll_hands (sh : Shell) (lines : List String) :
    (sh.handleAll lines).Only (Request.Hands sh.env) := by
  refine only_handleAll_of (I := fun sh' => sh'.env = sh.env) (fun sh' c q hsh' hq => ?_) (fun sh' c sh'' hsh' h => ?_)
    rfl lines
  · exact hsh' ▸ hq.hands
  · exact h.env.trans hsh'

namespace Machine

/-- The variables that a program gets which is started with the environment `env`. -/
def handedDown (m : Machine) (env : Environment) : List (Bytes × Bytes) :=
  (m.variables.override env).toList.map fun (k, v) => variableOf k v

/-- If the request starts a program, its environment is `env`; and if it can be started on the machine `m`, it is run
by a process with the variables that the machine hands down. -/
def HandsDown (env : Environment) (m : Machine) : Request → Prop
  | .start child => child.environment = env ∧ ∀ dir, childHasNul child = false →
      m.startDirectory child.directory = .ok dir → ∃ process : Process,
        process.variables = m.handedDown env ∧ process.argv = child.argv.map Bytes.ofString ∧
        let ended := LineShell.execute processLimit child.image process m.newProcess.2
        m.startChild child = (ended.1.mapError fun e => .spawn (.system e), ended.2)
  | _ => True

theorem handsDown_of_hands {env : Environment} (m : Machine) {r : Request} (h : r.Hands env) : m.HandsDown env r := by
  cases r with
  | start child =>
    obtain rfl : child.environment = env := h
    refine ⟨rfl, fun dir hnul hdir => ?_⟩
    -- The machine on which the process runs differs from `m` in its clock and in the number of the last process only.
    let process : Process :=
      { argv := child.argv.map Bytes.ofString
        «variables» := m.handedDown child.environment
        dir := dir
        files := [(0, 0), (1, openedFor 1 child.stdout), (2, openedFor 2 child.stderr)]
        id := m.newProcess.1 }
    refine ⟨process, rfl, rfl, ?_⟩
    rw [startChild, hnul, hdir, if_neg Bool.false_ne_true]
    dsimp only
    split
    next ending m' hended =>
      rw [show LineShell.execute processLimit child.image process m.newProcess.2 = (.ok ending, m') from hended]
      rfl
    next e m' hended =>
      rw [show LineShell.execute processLimit child.image process m.newProcess.2 = (.error e, m') from hended]
      rfl
  | _ => trivial

end Machine

/-- **What the programs of a session are started with.** Whatever a session does on a machine, each program that it
starts gets the variables of the shell's environment set on top of those of the process: each variable of the
environment has the value that it has there, and any other variable of the process has the value that it has in the
process. So a program gets the environment of the shell, and nothing else, exactly where the process has no variable
that the environment does not have; and under two processes it gets the same exactly where these agree on all such
variables. -/
theorem Shell.handsDown_handleAll (sh : Shell) (lines : List String) (m : Machine) :
    (sh.handleAll lines).Along (Machine.HandsDown sh.env) Machine.answer m ∧
      (∀ own k v, (k, v) ∈ (Environment.override own sh.env).toList ↔
        sh.env.get? k = some v ∨ sh.env.get? k = none ∧ own.get? k = some v) ∧
      (∀ own, (Environment.override own sh.env).toList = sh.env.toList ↔
        ∀ k, sh.env.get? k = none → own.get? k = none) ∧
      ∀ own own', (Environment.override own sh.env).toList = (Environment.override own' sh.env).toList ↔
        ∀ k, sh.env.get? k = none → own.get? k = own'.get? k := by
  refine ⟨(sh.only_handleAll_hands lines).along (fun m _ => Machine.handsDown_of_hands m) _ _, fun own k v => ?_,
    fun own => own.toList_override_eq_iff sh.env, fun own own' => own.toList_override_congr_iff own' sh.env⟩
  rw [Environment.mem_toList, Environment.get?_override, Option.or_eq_some_iff]

/-- A variable that was taken away from the environment is still handed down, as the process has it. -/
theorem Shell.handsDown_handleAll_secret :
    let own := Environment.ofList [("PATH", "/bin"), ("SECRET", "x")]
    let sh := Shell.start (own.unset "SECRET") { currentDir := .root }
    let m := Machine.start .empty 0 own FileTree.rootId []
    let handed := (m.variables.override sh.env).toList
    (sh.handleAll ["tool"]).Along (Machine.HandsDown sh.env) Machine.answer m ∧
      sh.env.get? "SECRET" = none ∧ ("SECRET", "x") ∈ handed ∧ handed ≠ sh.env.toList ∧
      handed ≠ ((own.unset "SECRET").override sh.env).toList := by
  intro own sh m handed
  obtain ⟨halong, hmem, hexact, hagree⟩ := sh.handsDown_handleAll ["tool"] m
  have hsecret : sh.env.get? "SECRET" = none := by decide +kernel
  have hown : m.variables.get? "SECRET" = some "x" := by decide +kernel
  refine ⟨halong, hsecret, (hmem _ _ _).2 (.inr ⟨hsecret, hown⟩), fun hsame => ?_, fun hsame => ?_⟩
  · have hnone := (hexact _).1 hsame "SECRET" hsecret
    rw [hown] at hnone
    cases hnone
  · have hnone := (hagree _ _).1 hsame "SECRET" hsecret
    rw [hown, Environment.get?_unset_self] at hnone
    cases hnone

end LineShell
