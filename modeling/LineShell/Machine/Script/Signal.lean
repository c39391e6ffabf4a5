import LineShell.Machine.Script.Chars

/-!
# Signals

The signals that processes send each other: their numbers, their names and what they do to a process
that has not said what it wants.
-/

namespace LineShell.Script

namespace Signal

/-- The signal of a process that is to end at once. -/
def kill : Nat := 9

/-- The signal of a process that writes where nobody reads. -/
def pipe : Nat := 13

/-- The signal of a process that is asked to end. -/
def terminate : Nat := 15

/-- The number of signals, with the one that stands for the end of a script. -/
def count : Nat := 65

/-- The names of the signals that have one, from 0 on. -/
def firstNames : List String :=
  ["EXIT", "HUP", "INT", "QUIT", "ILL", "TRAP", "ABRT", "BUS", "FPE", "KILL", "USR1", "SEGV", "USR2",
    "PIPE", "ALRM", "TERM", "16", "CHLD", "CONT", "STOP", "TSTP", "TTIN", "TTOU", "URG", "XCPU",
    "XFSZ", "VTALRM", "PROF", "WINCH", "IO", "PWR", "SYS", "32", "33", "RTMIN"]

/-- The name of a signal. -/
def name (n : Nat) : Chars :=
  match firstNames[n]? with
  | some s => s.toList
  | none =>
    if n < 50 then ofString s!"RTMIN+{n - 34}"
    else if n < 64 then ofString s!"RTMAX-{64 - n}"
    else ofString "RTMAX"

/-- The texts about processes that a signal has ended, by the signal. -/
def texts : List (Nat × String) :=
  [(1, "Hangup"), (2, "Interrupt"), (3, "Quit"), (4, "Illegal instruction"),
    (5, "Trace/breakpoint trap"), (6, "Aborted"), (7, "Bus error"), (8, "Floating point exception"),
    (9, "Killed"), (10, "User defined signal 1"), (11, "Segmentation fault"),
    (12, "User defined signal 2"), (13, "Broken pipe"), (14, "Alarm clock"), (15, "Terminated"),
    (16, "Stack fault"), (24, "CPU time limit exceeded"), (25, "File size limit exceeded"),
    (26, "Virtual timer expired"), (27, "Profiling timer expired"), (29, "I/O possible"),
    (30, "Power failure"), (31, "Bad system call")]

/-- The text about a process that a signal has ended. -/
def text (n : Nat) : Chars :=
  match texts.lookup n with
  | some s => ofString s
  | none => ofString s!"Real-time signal {n - 34}"

/-- The signals that do not end a process. -/
def harmless : List Nat := [17, 18, 19, 20, 21, 22, 23, 28]

/-- The number that a text writes, if it is that of a signal. -/
def ofNumber? (cs : Chars) : Option Nat :=
  (natural? cs).filter (· < count)

/-- The signal, of number at least `least`, that a text calls by its number or its name. -/
def ofText? (cs : Chars) (least : Nat) : Option Nat :=
  match ofNumber? cs with
  | some n => some n
  | none => (List.range count).find? fun n =>
      least ≤ n && (name n).map Char.toUpper = cs.map Char.toUpper

end Signal

end LineShell.Script
