import LineShell.Shell

/-!
# The read loop

A shell reads lines until the input ends or it is told to end, and runs each of them. The lines come from
a line editor, which also keeps a history of them: lines that are not blank are offered to it. The history
is loaded before the first line and saved after the last; whether that goes well is of no matter. Where the
editor cannot be set up, cannot read or cannot take an offer, the loop ends with a failure, and then the
history is not saved. How many times the editor is asked for a line at most is given beforehand.
-/

namespace LineShell

/-- Why the read loop failed. -/
inductive LoopFailure where
  /-- The editor could not be set up. -/
  | setUp (fault : EditorFault)
  /-- A line could not be read. -/
  | read (fault : EditorFault)
  /-- A line could not be offered to the history. -/
  | offer (fault : EditorFault)
deriving DecidableEq, Repr

namespace LoopFailure

/-- What could not be done; a fault of the history speaks for itself. -/
def message : LoopFailure → String
  | .setUp _ => "cannot initialize line editor"
  | .read _ => "cannot read input line"
  | .offer fault => fault.text

/-- The reasons below the message. -/
def causes : LoopFailure → List String
  | .setUp fault | .read fault => fault.text :: fault.reasons
  | .offer fault => fault.reasons

end LoopFailure

namespace Shell

/-- The prompt before each line. -/
def promptText : String := "$ "

/-- Offer a line to the history, unless it is blank. -/
def offerLine (line : String) : Action (Except EditorFault Unit) :=
  if isBlankLine line then return .ok ()
  else Except.map (fun _ => ()) <$> Action.request (.editor (.offer line))

/-- Read lines and run them; the editor is asked for a line at most `n` times. -/
def readLines (n : Nat) (sh : Shell) : Action (Shell × Except LoopFailure Unit) :=
  match n with
  | 0 => return (sh, .ok ())
  | n + 1 => do
    if sh.state.exitRequested then return (sh, .ok ())
    match ← Action.request (.editor (.readLine promptText)) with
    | .error fault => return (sh, .error (.read fault))
    | .ok .ended => return (sh, .ok ())
    | .ok .interrupted => readLines n sh
    | .ok (.line line) =>
      match ← offerLine line with
      | .error fault => return (sh, .error (.offer fault))
      | .ok () =>
        let sh' ← sh.handle line
        readLines n sh'

/-- Have the editor do something with the file of the history, if there is one. -/
def withHistory (history? : Option Path) (request : Path → EditorRequest) : Action Unit :=
  match history? with
  | none => return
  | some p => do
    let _ ← Action.request (.editor (request p))

/-- Read lines and run them, with the history in the file `history?`; the editor is asked for a line at most
`n` times. -/
def readLoop (n : Nat) (sh : Shell) (history? : Option Path) : Action (Shell × Except LoopFailure Unit) := do
  match ← Action.request (.editor .setUp) with
  | .error fault => return (sh, .error (.setUp fault))
  | .ok () =>
    withHistory history? .loadHistory
    match ← readLines n sh with
    | (sh, .error e) => return (sh, .error e)
    | (sh, .ok ()) =>
      withHistory history? .saveHistory
      return (sh, .ok ())

end Shell

end LineShell
