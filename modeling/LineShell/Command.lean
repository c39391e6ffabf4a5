import LineShell.Redirection
import LineShell.Word

/-!
# Commands

A line is parsed into the name of a command, its arguments and its redirections. A line without
words has the empty name, which no word can be.
-/

namespace LineShell

/-- A parsed line. -/
structure Command where
  name : String
  args : List String
  redirection : Redirection
deriving DecidableEq, Repr

namespace Command

/-- The command that the words of a line make up. -/
def ofWords (ws : List String) : Command :=
  match Redirection.extract ws with
  | ([], r) => ⟨"", [], r⟩
  | (name :: args, r) => ⟨name, args, r⟩

/-- The command of a line. -/
def parse (line : String) : Command :=
  ofWords (splitWords line)

/-- The line holds no command. -/
def isEmpty (c : Command) : Bool :=
  c.name.isEmpty

/-- The arguments with one blank between them, the form in which builtins take them. -/
def joinedArgs (c : Command) : String :=
  " ".intercalate c.args

theorem ofWords_eq (ws : List String) :
    ofWords ws = ⟨(Redirection.extract ws).1.headD "", (Redirection.extract ws).1.tail,
      (Redirection.extract ws).2⟩ := by
  unfold ofWords
  split <;> simp_all

theorem parse_eq (line : String) :
    parse line = ⟨(Redirection.extract (splitWords line)).1.headD "", (Redirection.extract (splitWords line)).1.tail,
      (Redirection.extract (splitWords line)).2⟩ :=
  ofWords_eq (splitWords line)

end Command

end LineShell
