import LineShell.Shell
import LineShell.Proofs.Run.Trace
import Mathlib.Tactic.SplitIfs

/-!
# Replies

What a command does falls into two parts. First the world is looked at: `Shell.reply` decides what the
command comes to, and writes nothing. Then the *reply* is carried out: nothing, one line, an error, or a
program to be started. What is written on the way is put down in a `Deed`.

* `Shell.dispatch_eq_reply`: carrying out a command is replying and carrying out the reply.
* `Shell.only_reply`: replying asks for nothing but looks at files.
-/

namespace LineShell

variable {σ : Type}

/-! ## What a command comes to -/

/-- What a command comes to, before a line of it is written. -/
inductive Reply where
  /-- There is nothing to be written. -/
  | silent
  /-- A line for one of the streams. -/
  | say (s : Stream) (line : String)
  /-- The command is not known. -/
  | fail (e : ShellError)
  /-- A program is to be started. -/
  | start (program : External)

namespace Builtin

/-- What `type` replies. -/
def replyDescribe (sp : SearchPath) (name : String) : Action Reply :=
  if name.isEmpty then return .silent
  else if (lookup name).isSome then return .say .stdout s!"{name} is a shell builtin"
  else do
    match ← sp.find name with
    | some p => return .say .stdout s!"{name} is {p.display}"
    | none => return .say .stderr s!"{name}: not found"

/-- What `cd` replies when it is to go to `target`. -/
def replyEnter (state : State) (target : Path) (shown : String) : Action (State × Reply) := do
  let dir := (← Action.request (.canonicalize target)).getD target
  match ← directoryFault dir with
  | some fault => return (state, .say .stderr s!"cd: {shown}: {fault.message}")
  | none => return ({ state with currentDir := dir }, .silent)

/-- What `cd` replies. -/
def replyChangeDirectory (env : Environment) (state : State) (args : String) : Action (State × Reply) :=
  match destination env args with
  | .go dir shown => replyEnter state (state.resolve (Path.ofString dir)) shown
  | .stay => return (state, .silent)
  | .homeless => return (state, .say .stderr "cd: ~: HOME not set")

/-- What a builtin replies, and the state it leaves. -/
def reply (b : Builtin) (env : Environment) (sp : SearchPath) (state : State) (args : String) :
    Action (State × Reply) :=
  match b with
  | .echo => return (state, .say .stdout args)
  | .exit => return ({ state with exitRequested := true }, .silent)
  | .type => return (state, ← replyDescribe sp args)
  | .pwd => return (state, .say .stdout state.currentDir.display)
  | .cd => replyChangeDirectory env state args

end Builtin

/-- What a command replies, and the state it leaves. -/
def Shell.reply (sh : Shell) (c : Command) : Action (State × Reply) :=
  match Builtin.lookup c.name with
  | some b => b.reply sh.env sh.searchPath sh.state c.joinedArgs
  | none => do
    match ← External.resolve sh.state sh.searchPath c.name c.args with
    | .ok program => return (sh.state, .start program)
    | .error e => return (sh.state, .fail e)

/-! ## Carrying out a reply -/

/-- The line that reports an error. -/
def ShellError.line (e : ShellError) : Stream × String :=
  (.stderr, e.message)

/-- The error of an outcome. -/
def Outcome.error? : Outcome → Option ShellError
  | .ok () => none
  | .error e => some e

/-- What has been written for a reply, and how it ended. -/
structure Deed where
  /-- The line that the command had to say. -/
  said : Option (Stream × String) := none
  /-- Why streams of a program were inherited after all. -/
  unopened : List ShellError := []
  /-- What the command failed with. -/
  failure : Option ShellError := none

namespace Deed

/-- The lines that were written while the reply was carried out. -/
def lines (d : Deed) : List (Stream × String) :=
  d.said.toList ++ d.unopened.map ShellError.line

/-- How the command ended. -/
def outcome (d : Deed) : Outcome :=
  match d.failure with
  | none => .ok ()
  | some e => .error e

theorem outcome_error? (o : Outcome) (said : Option (Stream × String)) (unopened : List ShellError) :
    outcome ⟨said, unopened, o.error?⟩ = o := by
  rcases o with e | ⟨⟩ <;> rfl

end Deed

namespace External

/-- `outlet`, told with the reason why the target could not be opened. -/
def outletTold (t? : Option Target) (errors : Sink) : Action (Outlet × List ShellError) :=
  match t? with
  | none => return (.inherited, [])
  | some t => do
    match ← t.openAppend with
    | .ok handle => return (.file handle, [])
    | .error e =>
      let _ ← errors .stderr e.message
      return (.inherited, [e])

theorem outletTold_some (t : Target) (errors : Sink) :
    outletTold (some t) errors = .ask (.openAppend t.path) fun
      | .ok handle => .done (.file handle, [])
      | .error fault =>
        errors .stderr (ShellError.redirect t.path fault).message >>= fun _ =>
          .done (.inherited, [.redirect t.path fault]) := by
  simp only [outletTold, Target.openAppend, map_eq_pure_bind]
  refine congrArg (Action.ask _) (funext fun opened => ?_)
  rcases opened with fault | handle <;> rfl

/-- How the request to start the program ended. -/
def failure (c : External) : Except ChildFault Ending → Option ShellError
  | .ok _ => none
  | .error (.spawn fault) => some (.spawn c.name fault)
  | .error (.wait fault) => some (.wait c.name fault)

theorem outlet_eq_told (t? : Option Target) (errors : Sink) :
    outlet t? errors = Prod.fst <$> outletTold t? errors := by
  cases t? with
  | none => rfl
  | some t =>
    simp only [outlet, outletTold, map_bind]
    congr 1
    funext opened
    cases opened with
    | ok handle => rfl
    | error e => simp only [map_bind]; rfl

end External

/-- Carry out a reply of the shell `sh`; lines go to `sink`, a program's streams to the targets `r`. -/
def Reply.carryOut (r : Redirection) (sh : Shell) (sink : Sink) : Reply → Action Deed
  | .silent => return {}
  | .say s line => return { said := some (s, line), failure := (← sink s line).error? }
  | .fail e => return { failure := some e }
  | .start c => do
    let (out, outErrors) ← External.outletTold r.stdout sink
    let (err, errErrors) ← External.outletTold r.stderr sink
    let ended ← Action.request (.start (c.child sh.state sh.env out err))
    return { unopened := outErrors ++ errErrors, failure := c.failure ended }

/-! ## Carrying out a command is carrying out its reply -/

/-- Carry out a reply and tell only how it ended. -/
def Reply.settle (r : Redirection) (sh : Shell) (sink : Sink) (x : State × Reply) :
    Action (State × Outcome) := do
  let deed ← x.2.carryOut r sh sink
  return (x.1, deed.outcome)

namespace Reply

variable (r : Redirection) (sh : Shell) (sink : Sink) (state : State)

@[simp] theorem settle_silent : settle r sh sink (state, silent) = .done (state, .ok ()) := rfl

@[simp] theorem settle_fail (e : ShellError) :
    settle r sh sink (state, fail e) = .done (state, .error e) := rfl

@[simp] theorem settle_say (s : Stream) (line : String) :
    settle r sh sink (state, say s line) = sink s line >>= fun o => .done (state, o) := by
  simp only [settle, carryOut, bind_assoc]
  refine bind_congr fun o => ?_
  exact congrArg (fun o => Action.done (state, o)) (Deed.outcome_error? o _ _)

@[simp] theorem settle_start (c : External) :
    settle r sh sink (state, start c) =
      c.execute r sh.state sh.env sink >>= fun o =>
        match o with
        | .ok _ => .done (state, .ok ())
        | .error e => .done (state, .error e) := by
  simp only [settle, carryOut, External.execute, External.outlet_eq_told, bind_map_left, bind_assoc]
  refine bind_congr fun out => bind_congr fun err => bind_congr fun ended => ?_
  rcases ended with (fault | fault) | ending <;> rfl

end Reply

namespace Builtin

variable (r : Redirection) (sh : Shell) (sp : SearchPath) (state : State) (sink : Sink)

theorem describe_eq_reply (name : String) :
    (describe sp sink name >>= fun o => .done (state, o)) =
      replyDescribe sp name >>= fun reply => Reply.settle r sh sink (state, reply) := by
  unfold describe replyDescribe
  by_cases hempty : name.isEmpty = true
  · simp [hempty]
  · by_cases hbuiltin : (lookup name).isSome = true
    · simp [hempty, hbuiltin]
    · simp only [hempty, hbuiltin, if_false, Bool.false_eq_true, bind_assoc]
      refine bind_congr fun found => ?_
      cases found <;> simp

theorem enter_eq_reply (target : Path) (shown : String) :
    enter state sink target shown = replyEnter state target shown >>= Reply.settle r sh sink := by
  unfold enter replyEnter
  simp only [bind_assoc]
  refine bind_congr fun dir? => bind_congr fun fault? => ?_
  cases fault? <;> simp

theorem execute_eq_reply (b : Builtin) (env : Environment) (args : String) :
    b.execute env sp state sink args = b.reply env sp state args >>= Reply.settle r sh sink := by
  cases b with
  | echo => simp [execute, reply]
  | exit => simp [execute, reply]
  | pwd => simp [execute, reply]
  | type => simpa [execute, reply] using describe_eq_reply r sh sp state sink args
  | cd =>
    simp only [execute, reply, changeDirectory, replyChangeDirectory]
    cases destination env args with
    | go dir shown => exact enter_eq_reply r sh state sink _ shown
    | stay => simp
    | homeless => simp

end Builtin

/-- **Carrying out a command is replying, and then carrying out the reply.** -/
theorem Shell.dispatch_eq_reply (sh : Shell) (c : Command) (r : Redirection) (sink : Sink) :
    sh.dispatch c r sink = sh.reply c >>= Reply.settle r sh sink := by
  unfold Shell.dispatch Shell.reply
  cases Builtin.lookup c.name with
  | some b => exact b.execute_eq_reply r sh sh.searchPath sh.state sink sh.env c.joinedArgs
  | none =>
    simp only [External.call, bind_assoc]
    refine bind_congr fun found => ?_
    cases found with
    | error e => simp
    | ok program =>
      simp only [Action.pure_def, Action.done_bind, Reply.settle_start, bind_assoc]
      refine bind_congr fun ended => ?_
      cases ended <;> rfl

/-! ## Replying writes nothing -/

/-- The request looks at a file. -/
def Request.IsLook : Request → Prop
  | .inspect _ | .canonicalize _ | .canList _ => True
  | _ => False

open LineShell.Action

section Inspected

variable {P : Request → Prop}

theorem only_isExecutable {p : Path} (h : P (.inspect p)) : (isExecutable p).Only P :=
  only_bind (only_request h) fun _ => trivial

theorem SearchPath.only_keepPrograms {ps : List Path} (h : ∀ p ∈ ps, P (.inspect p)) : (keepPrograms ps).Only P := by
  induction ps with
  | nil => trivial
  | cons p ps ih =>
    obtain ⟨hfirst, hrest⟩ := List.forall_mem_cons.1 h
    exact only_bind (only_isExecutable hfirst) fun _ => only_bind (ih hrest) fun _ => trivial

theorem SearchPath.only_find {sp : SearchPath} {name : String}
    (h : ∀ d ∈ sp.dirs, P (.inspect (d.join (Path.ofString name)))) : (sp.find name).Only P := by
  refine only_bind ?_ fun _ => trivial
  unfold SearchPath.search
  split
  · refine only_keepPrograms fun p hp => ?_
    obtain ⟨d, hd, rfl⟩ := List.mem_map.1 hp
    exact h d hd
  · trivial

/-- Where a program is looked for: a name with a slash under one path name, any other name in each directory of the
search path. -/
theorem External.only_resolve {state : State} {sp : SearchPath} {name : String}
    (hpath : hasSeparator name = true → P (.inspect (state.resolve (Path.ofString name))))
    (hname : hasSeparator name = false → ∀ d ∈ sp.dirs, P (.inspect (d.join (Path.ofString name))))
    (args : List String) : (resolve state sp name args).Only P := by
  refine only_bind ?_ fun found => ?_
  · unfold locate
    cases hslash : hasSeparator name with
    | true => exact only_bind (only_isExecutable (hpath hslash)) fun found => by cases found <;> trivial
    | false => exact SearchPath.only_find (hname hslash)
  · cases found <;> trivial

end Inspected

namespace Builtin

theorem only_replyDescribe (sp : SearchPath) (name : String) :
    (replyDescribe sp name).Only Request.IsLook := by
  unfold replyDescribe
  split_ifs
  · trivial
  · trivial
  · exact only_bind (SearchPath.only_find fun _ _ => trivial) fun found => by cases found <;> trivial

theorem only_directoryFault (p : Path) : (directoryFault p).Only Request.IsLook := by
  refine only_bind (only_request trivial) fun info? => ?_
  cases info? with
  | none => trivial
  | some info =>
    show (if info.isDirectory then _ else _ : Action _).Only _
    split
    · exact only_bind (only_request trivial) fun _ => trivial
    · trivial

theorem only_replyEnter (state : State) (target : Path) (shown : String) :
    (replyEnter state target shown).Only Request.IsLook :=
  only_bind (only_request trivial) fun _ =>
    only_bind (only_directoryFault _) fun fault? => by cases fault? <;> trivial

theorem only_reply (b : Builtin) (env : Environment) (sp : SearchPath) (state : State) (args : String) :
    (b.reply env sp state args).Only Request.IsLook := by
  cases b with
  | echo | exit | pwd => trivial
  | type => exact only_bind (only_replyDescribe sp args) fun _ => trivial
  | cd =>
    unfold reply replyChangeDirectory
    cases destination env args with
    | go dir shown => exact only_replyEnter state _ shown
    | stay | homeless => trivial

end Builtin

/-- **Replying only looks at files.** -/
theorem Shell.only_reply (sh : Shell) (c : Command) : (sh.reply c).Only Request.IsLook := by
  unfold Shell.reply
  cases Builtin.lookup c.name with
  | some b => exact b.only_reply sh.env sh.searchPath sh.state c.joinedArgs
  | none =>
    refine only_bind (External.only_resolve (fun _ => trivial) (fun _ _ _ => trivial) c.args) fun found => ?_
    cases found <;> trivial

end LineShell
