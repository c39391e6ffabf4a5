import LineShell.Action

/-!
# Output

The shell writes lines. A `Sink` takes one line for one stream; the console is the sink at the
bottom, and a redirection lays a sink over another: lines of a redirected stream are appended to its
target, and reach the sink below only when that fails. A `Transcript` is what a console that keeps
its lines has been told.
-/

namespace LineShell

/-- The outcome of writing a line or running a command. -/
abbrev Outcome := Except ShellError Unit

/-- A destination of lines. -/
abbrev Sink := Stream → String → Action Outcome

/-- The outcome of a request whose fault `e` explains. -/
def Outcome.of (e : Fault → ShellError) : Except Fault Unit → Outcome
  | .ok () => .ok ()
  | .error fault => .error (e fault)

/-- The console. -/
def Sink.console : Sink := fun s line =>
  Outcome.of .output <$> Action.request (.print s line)

/-- The error stream of the shell's own process. -/
def Sink.lastResort (line : String) : Action Outcome :=
  Outcome.of .output <$> Action.request (.complain line)

namespace Target

/-- Create the target: emptied, or with what it holds if it is to be appended to. -/
def create (t : Target) : Action Outcome :=
  Outcome.of (.redirect t.path) <$> Action.request (.create t)

/-- Write a line at the end of the target. -/
def appendLine (t : Target) (line : String) : Action Outcome :=
  Outcome.of (.redirect t.path) <$> Action.request (.appendLine t.path line)

/-- Open the target for a program to write at its end. -/
def openAppend (t : Target) : Action (Except ShellError Handle) :=
  Except.mapError (.redirect t.path) <$> Action.request (.openAppend t.path)

/-- The target as seen from the directory `base`: a relative path name is rewritten. -/
def resolve (t : Target) (base : Path) : Target :=
  if t.path.isAbsolute then t else { t with path := base.join t.path }

theorem resolve_eq_join (t : Target) (base : Path) : t.resolve base = ⟨base.join t.path, t.append⟩ := by
  rw [resolve]
  split
  · rw [Path.join_of_isAbsolute base ‹_›]
  · rfl

end Target

namespace Redirection

/-- A line of a redirected stream is appended to the target; when that fails the line goes to
`below`, and the failure is returned. All other lines go to `below`. -/
def «over» (r : Redirection) (below : Sink) : Sink := fun s line =>
  match r.target s with
  | none => below s line
  | some t => do
    match ← t.appendLine line with
    | .ok () => return .ok ()
    | .error e =>
      match ← below s line with
      | .ok () => return .error e
      | .error e' => return .error e'

/-- Create one target, resolved against `base`: the target as it is kept, and why it is not. -/
def prepareTarget (base : Path) : Option Target → Action (Option Target × List ShellError)
  | none => return (none, [])
  | some t => do
    match ← (t.resolve base).create with
    | .ok () => return (some (t.resolve base), [])
    | .error e => return (none, [e])

/-- Create all targets, the one of the output stream first. A target that cannot be created is
given up; the errors tell why. -/
def prepare (r : Redirection) (base : Path) : Action (Redirection × List ShellError) := do
  let (out, outErrors) ← prepareTarget base r.stdout
  let (err, errErrors) ← prepareTarget base r.stderr
  return (⟨out, err⟩, outErrors ++ errErrors)

end Redirection

/-- Show `e` on the error stream of `sink`, and on that of the process if `sink` fails. -/
def report (sink : Sink) (e : ShellError) : Action Unit := do
  match ← sink .stderr e.message with
  | .ok () => return
  | .error _ =>
    let _ ← Sink.lastResort e.message

/-- Show each of `es`. -/
def reportAll (sink : Sink) : List ShellError → Action Unit
  | [] => return
  | e :: es => do
    report sink e
    reportAll sink es

/-- The lines that a console has been told, in order. -/
structure Transcript where
  lines : List (Stream × String) := []
deriving DecidableEq, Repr

namespace Transcript

/-- The transcript after one more line. -/
def add (t : Transcript) (s : Stream) (line : String) : Transcript :=
  ⟨t.lines ++ [(s, line)]⟩

/-- The text of one stream, each line with its newline. -/
def text (t : Transcript) (s : Stream) : String :=
  String.join ((t.lines.filter (·.1 = s)).map fun l => l.2 ++ "\n")

/-- Nothing has been written. -/
def isEmpty (t : Transcript) : Bool :=
  t.lines.isEmpty

end Transcript

/-- The system `sys` with a console that keeps the lines it is told and never fails. -/
def System.transcribed {σ : Type} (sys : System σ) : System (σ × Transcript)
  | .print s line, (w, t) => (.ok (), w, t.add s line)
  | r, (w, t) => let (a, w') := sys r w; (a, w', t)

end LineShell
