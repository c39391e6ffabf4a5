import LineShell.Environment
import LineShell.Fault
import LineShell.Redirection

/-!
# Actions

Everything the shell wants from the world outside is a `Request`, and an `Action` is a finite
program of requests. What a shell does is therefore plain data: it can be run against any system
that answers requests (`Action.run`), be it an in-memory machine, a system that fails at will, or one
that writes down what it is asked.
-/

namespace LineShell

/-- A file that has been opened for appending. -/
structure Handle where
  id : Nat
deriving DecidableEq, Repr

/-- Where an output stream of a program goes. -/
inductive Outlet where
  /-- To the stream of the shell's own process. -/
  | inherited
  /-- Into an open file. -/
  | file (handle : Handle)
deriving DecidableEq, Repr

/-- A program to be started. -/
structure Child where
  /-- The file that holds the program. -/
  image : Path
  /-- The argument vector, the name of the program first. -/
  argv : List String
  /-- The variables that are added to those of the shell's own process. -/
  environment : Environment
  /-- The directory that the program is started in. -/
  directory : Path
  stdout : Outlet
  stderr : Outlet

/-- How a program ended. -/
inductive Ending where
  | exited (code : Nat)
  | killed (signal : Nat)
deriving DecidableEq, Repr

/-- Why a program has no ending. -/
inductive ChildFault where
  /-- It could not be started. -/
  | spawn (fault : Fault)
  /-- It was started, but waiting for it failed. -/
  | wait (fault : Fault)
deriving DecidableEq, Repr

/-- What the operating system tells about a file. -/
structure FileInfo where
  isDirectory : Bool
  isRegular : Bool
  /-- The permission bits. -/
  mode : Nat
deriving DecidableEq, Repr

/-- Why the line editor failed: what it says, and the reasons below that, each the reason of the one before. -/
structure EditorFault where
  text : String
  reasons : List String := []
deriving DecidableEq, Repr

/-- What the line editor has read. -/
inductive Reading where
  | line (text : String)
  /-- The line that was being entered is given up. -/
  | interrupted
  /-- The input has ended. -/
  | ended
deriving DecidableEq, Repr

/-- A request to the line editor, which reads lines and keeps a history of them. What it makes of its input,
which lines it keeps and in what form it saves them is its own affair. -/
inductive EditorRequest where
  /-- Set the editor up. -/
  | setUp
  /-- Take the history from a file. -/
  | loadHistory (path : Path)
  /-- Show a prompt and read a line. -/
  | readLine (prompt : String)
  /-- Offer a line to the history; the answer tells whether it was entered. -/
  | offer (line : String)
  /-- Write the history to a file. -/
  | saveHistory (path : Path)
deriving DecidableEq, Repr

/-- The type of the answers of the line editor. -/
abbrev EditorRequest.Answer : EditorRequest → Type
  | .setUp => Except EditorFault Unit
  | .loadHistory _ => Except EditorFault Unit
  | .readLine _ => Except EditorFault Reading
  | .offer _ => Except EditorFault Bool
  | .saveHistory _ => Except EditorFault Unit

/-- A request to the world outside the shell. -/
inductive Request where
  /-- Open a redirection target for creation: empty it, or keep what it holds. -/
  | create (target : Target)
  /-- Open a file for appending, creating it if needed, write a line and close it. -/
  | appendLine (path : Path) (line : String)
  /-- Open a file for appending, creating it if needed. -/
  | openAppend (path : Path)
  /-- The absolute path name without links, `.` and `..`. -/
  | canonicalize (path : Path)
  /-- Kind and permission bits of a file, links followed. -/
  | inspect (path : Path)
  /-- Whether a directory can be listed. -/
  | canList (path : Path)
  /-- Start a program and wait for its end. -/
  | start (child : Child)
  /-- Write a line to a stream of the console. -/
  | print (stream : Stream) (line : String)
  /-- Write a line to the error stream of the shell's own process, past the console. -/
  | complain (line : String)
  /-- Have the line editor do something. -/
  | editor (request : EditorRequest)

/-- The type of the answers to a request. -/
abbrev Request.Answer : Request → Type
  | .create _ => Except Fault Unit
  | .appendLine _ _ => Except Fault Unit
  | .openAppend _ => Except Fault Handle
  | .canonicalize _ => Option Path
  | .inspect _ => Option FileInfo
  | .canList _ => Bool
  | .start _ => Except ChildFault Ending
  | .print _ _ => Except Fault Unit
  | .complain _ => Except Fault Unit
  | .editor request => request.Answer

variable {α β γ σ : Type}

/-- A finite program of requests that yields an `α`. -/
inductive Action (α : Type) where
  | done (a : α)
  | ask (r : Request) (k : r.Answer → Action α)

namespace Action

/-- Do `x`, then `f` with what it yields. -/
def bind : Action α → (α → Action β) → Action β
  | .done a, f => f a
  | .ask r k, f => .ask r fun a => (k a).bind f

instance : Monad Action where
  pure := .done
  bind := bind

@[simp] theorem pure_def (a : α) : (pure a : Action α) = .done a := rfl

@[simp] theorem done_bind (a : α) (f : α → Action β) : (Action.done a >>= f) = f a := rfl

@[simp] theorem ask_bind (r : Request) (k : r.Answer → Action α) (f : α → Action β) :
    (Action.ask r k >>= f) = .ask r fun a => k a >>= f := rfl

theorem bind_done (x : Action α) : (x >>= Action.done) = x := by
  induction x with
  | done a => rfl
  | ask r k ih => simp only [ask_bind, ih]

theorem bind_bind (x : Action α) (f : α → Action β) (g : β → Action γ) :
    (x >>= f) >>= g = x >>= fun a => f a >>= g := by
  induction x with
  | done a => rfl
  | ask r k ih => simp only [ask_bind, ih]

instance : LawfulMonad Action :=
  LawfulMonad.mk' Action bind_done (fun _ _ => rfl) bind_bind

/-- Ask one request. -/
def request (r : Request) : Action r.Answer :=
  .ask r .done

end Action

/-- A system answers requests and may change with each of them. -/
abbrev System (σ : Type) := (r : Request) → σ → r.Answer × σ

namespace Action

/-- Run an action on the system `sys` in the state `s`. -/
def run (sys : System σ) : Action α → σ → α × σ
  | .done a, s => (a, s)
  | .ask r k, s => (k (sys r s).1).run sys (sys r s).2

@[simp] theorem run_done (sys : System σ) (a : α) (s : σ) : (Action.done a).run sys s = (a, s) := rfl

@[simp] theorem run_ask (sys : System σ) (r : Request) (k : r.Answer → Action α) (s : σ) :
    (Action.ask r k).run sys s = (k (sys r s).1).run sys (sys r s).2 := rfl

/-- Running one action after another hands the state on. -/
theorem run_bind (sys : System σ) (x : Action α) (f : α → Action β) (s : σ) :
    (x >>= f).run sys s = (f (x.run sys s).1).run sys (x.run sys s).2 := by
  induction x generalizing s with
  | done a => rfl
  | ask r k ih => simp only [ask_bind, run_ask, ih]

end Action

end LineShell
