import LineShell.Path

/-!
# Redirections

A command's two output streams can each be sent into a file. In a line a redirection is an operator
word followed by the path name of the target; of several for one stream the last one counts. An
operator with nothing after it is an ordinary word.
-/

namespace LineShell

/-- The two output streams of a command. -/
inductive Stream where
  | stdout
  | stderr
deriving DecidableEq, Repr

/-- A file that an output stream is sent into. -/
structure Target where
  path : Path
  /-- Keep what the file holds and write after it. -/
  append : Bool
deriving DecidableEq, Repr

/-- The targets of a command's streams; a stream without one is inherited from the shell. -/
structure Redirection where
  stdout : Option Target := none
  stderr : Option Target := none
deriving DecidableEq, Repr

namespace Redirection

/-- The target of the stream `s`. -/
def target (r : Redirection) : Stream → Option Target
  | .stdout => r.stdout
  | .stderr => r.stderr

/-- Send the stream `s` to `t`. -/
def set (r : Redirection) (s : Stream) (t : Target) : Redirection :=
  match s with
  | .stdout => { r with stdout := some t }
  | .stderr => { r with stderr := some t }

/-- Nothing is redirected. -/
def isEmpty (r : Redirection) : Bool :=
  r.stdout.isNone && r.stderr.isNone

theorem target_set_self (r : Redirection) (s : Stream) (t : Target) :
    (r.set s t).target s = some t := by
  cases s <;> rfl

theorem target_set_of_ne (r : Redirection) {s s' : Stream} (t : Target) (h : s' ≠ s) :
    (r.set s t).target s' = r.target s' := by
  cases s <;> cases s' <;> simp_all [set, target]

/-- The stream that an operator word redirects and whether its target is appended to. -/
def operator? : String → Option (Stream × Bool)
  | ">" | "1>" => some (.stdout, false)
  | ">>" | "1>>" => some (.stdout, true)
  | "2>" => some (.stderr, false)
  | "2>>" => some (.stderr, true)
  | _ => none

/-- The words of a line that are no redirections, with the redirections set on top of `r`. -/
def extractOver (r : Redirection) : List String → List String × Redirection
  | [] => ([], r)
  | [w] => ([w], r)
  | w :: v :: ws =>
    match operator? w with
    | some (s, append) => extractOver (r.set s ⟨Path.ofString v, append⟩) ws
    | none => ((extractOver r (v :: ws)).map (w :: ·) id)

/-- The words that are no redirections in their order, and the redirections among `ws`. -/
def extract (ws : List String) : List String × Redirection :=
  extractOver {} ws

end Redirection

end LineShell
