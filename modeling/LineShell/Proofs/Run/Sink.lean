import LineShell.Proofs.Run.Trace
import LineShell.Output

/-!
# What sinks and targets ask for

The requests of the two sinks of the shell, the console and a redirection laid over it, of a report to
one of them, and of the creation of a target.
-/

namespace LineShell

/-- A line for the console is one request. -/
theorem Sink.console_eq (s : Stream) (line : String) :
    Sink.console s line = .ask (.print s line) fun printed => .done (Outcome.of .output printed) := by
  rw [Sink.console, map_eq_pure_bind]
  rfl

namespace Redirection

variable {r : Redirection} {s : Stream}

/-- A line of a stream without a target goes below. -/
theorem over_of_none (h : r.target s = none) (below : Sink) (line : String) :
    r.over below s line = below s line := by
  rw [Redirection.over, h]

/-- A line of a redirected stream goes to the target, and below if the target refuses it. -/
theorem over_of_target {t : Target} (h : r.target s = some t) (below : Sink) (line : String) :
    r.over below s line = .ask (.appendLine t.path line) fun
      | .ok () => .done (.ok ())
      | .error fault => below s line >>= fun o => .done (o >>= fun _ => .error (.redirect t.path fault)) := by
  rw [Redirection.over, h]
  simp only [Target.appendLine, map_eq_pure_bind]
  refine congrArg (Action.ask _) (funext fun appended => ?_)
  rcases appended with fault | ⟨⟩
  · refine bind_congr fun outcome => ?_
    rcases outcome with e | ⟨⟩ <;> rfl
  · rfl

/-- A line of a redirected stream goes to the target, and to the console as well if the target refuses
it. -/
theorem over_of_some {t : Target} (h : r.target s = some t) (line : String) :
    r.over Sink.console s line = .ask (.appendLine t.path line) fun
      | .ok () => .done (.ok ())
      | .error fault => .ask (.print s line) fun
        | .ok () => .done (.error (.redirect t.path fault))
        | .error below => .done (.error (.output below)) := by
  rw [over_of_target h, Sink.console_eq]
  refine congrArg (Action.ask _) (funext fun appended => ?_)
  rcases appended with fault | ⟨⟩
  · refine congrArg (Action.ask _) (funext fun printed => ?_)
    rcases printed with below | ⟨⟩ <;> rfl
  · rfl

/-- A target is created as it is seen from `base`. -/
theorem prepareTarget_some (base : Path) (t : Target) :
    prepareTarget base (some t) = .ask (.create (t.resolve base)) fun
      | .ok () => .done (some (t.resolve base), [])
      | .error fault => .done (none, [.redirect (t.resolve base).path fault]) := by
  simp only [prepareTarget, Target.create, map_eq_pure_bind]
  refine congrArg (Action.ask _) (funext fun created => ?_)
  rcases created with fault | ⟨⟩ <;> rfl

end Redirection

/-- A report hands the message to the sink, and to the process as well if the sink fails. -/
theorem report_eq (sink : Sink) (e : ShellError) :
    report sink e = sink .stderr e.message >>= fun
      | .ok () => .done ()
      | .error _ => .ask (.complain e.message) fun _ => .done () := by
  rw [report]
  refine bind_congr fun outcome => ?_
  rcases outcome with fault | ⟨⟩
  · simp only [Sink.lastResort, map_eq_pure_bind, bind_assoc]
    rfl
  · rfl

end LineShell
