import LineShell.Machine.Script.Chars

/-!
# The syntax of scripts

A script is a sequence of statements, and a statement is made of words. A word keeps what in it is
quoted and what stands for something else: the value of a parameter, the output of a command, the
value of an expression.
-/

namespace LineShell.Script

/-- What is done with a parameter. -/
inductive Usage where
  /-- Its value. -/
  | value
  /-- The number of its characters. -/
  | length
  /-- Its value, or the word in its place. -/
  | default
  /-- The word, if there is a value. -/
  | alternative
  /-- Its value, or the word in its place and as its value from then on. -/
  | assign
  /-- Its value; without one the script ends, with the word as its message. -/
  | require
  /-- Its value without a beginning that the word matches. -/
  | cutFront (longest : Bool)
  /-- Its value without an end that the word matches. -/
  | cutBack (longest : Bool)
  /-- Nothing that is known. -/
  | unknown
deriving DecidableEq, Repr

/-- What a redirection opens a file for. -/
inductive FileUse where
  | read
  | write
  /-- Write, even where existing files are protected. -/
  | overwrite
  | append
  | readWrite
deriving DecidableEq, Repr

mutual

/-- A part of a word. -/
inductive Part where
  /-- A character that may mean something in patterns and between words. -/
  | plain (c : Char)
  /-- A character that stands for itself. -/
  | escaped (c : Char)
  /-- The beginning or the end of a stretch in quotes. -/
  | mark
  /-- The parameter `name`. With `emptyIsNone` an empty value counts as none. -/
  | parameter (name : Chars) (usage : Usage) (emptyIsNone : Bool) (word : List Part)
  /-- The output of a command. -/
  | command (body : Option Statement)
  /-- The value of an expression. -/
  | arithmetic (expression : List Part)

/-- A redirection of the stream `fd`. -/
inductive Redirect where
  | file (fd : Nat) (use : FileUse) (name : List Part)
  /-- Make the stream a copy of another one; `forOutput` tells how it is written. -/
  | copy (fd : Nat) (forOutput : Bool) (source : List Part)
  /-- Read a text of the script, which is known by its number since it follows later. -/
  | document (fd : Nat) (number : Nat)

/-- A statement of a script. -/
inductive Statement where
  /-- A command in the given line: assignments, words, redirections. -/
  | simple (line : Nat) (assignments words : List (List Part)) (redirects : List Redirect)
  /-- Commands each of which reads what the one before writes. -/
  | pipeline (inBackground : Bool) (commands : List Statement)
  /-- A statement that the script does not wait for. -/
  | background (line : Nat) (body : Statement) (redirects : List Redirect)
  /-- A statement that is run as a process of its own. -/
  | subshell (line : Nat) (body : Statement) (redirects : List Redirect)
  | redirected (line : Nat) (body : Statement) (redirects : List Redirect)
  | sequence (first second : Statement)
  /-- The second, if the first succeeds. -/
  | both (first second : Statement)
  /-- The second, if the first fails. -/
  | either (first second : Statement)
  | negation (body : Statement)
  | choice (condition yes : Statement) (no : Option Statement)
  /-- A loop that goes on as long as its condition succeeds or, with `whileFails`, fails. -/
  | loop (whileFails : Bool) (condition body : Statement)
  | each (line : Nat) (name : Chars) (words : List (List Part)) (body : Statement)
  /-- The first branch of which a pattern matches. -/
  | select (line : Nat) (word : List Part) (branches : List Branch)
  | define (line : Nat) (name : Chars) (body : Statement)

/-- A branch of a selection. -/
inductive Branch where
  | mk (patterns : List (List Part)) (body : Option Statement)

end

/-- A word of a script. -/
abbrev Word := List Part

/-- A text of a script that a redirection reads. -/
structure Document where
  /-- Parameters and commands in it stand for their values. -/
  expanded : Bool
  text : Word

namespace Word

/-- The text at the front of a word that stands for nothing but itself, and is not quoted. -/
def plainFront : Word → Chars
  | .plain c :: ps => c :: plainFront ps
  | _ => []

/-- The text of a word that has nothing quoted and nothing to be replaced. -/
def literal? : Word → Option Chars
  | [] => some []
  | .plain c :: ps => (literal? ps).map (c :: ·)
  | _ => none

/-- The text of a word when its quotes are taken away and nothing is replaced. -/
def unquoted (w : Word) : Chars :=
  w.filterMap fun
    | .plain c | .escaped c => some c
    | _ => none

/-- The name to which a word assigns a value, if it does. -/
def assigned? (w : Word) : Option Chars :=
  let front := plainFront w
  let name := nameAtFront front
  if !name.isEmpty && front[name.length]? = some '=' then some name else none

/-- The word that stands for all arguments. -/
def allArguments : Word :=
  [.mark, .parameter ['@'] .value false [], .mark]

end Word

end LineShell.Script
