import LineShell.Text.Blank

/-!
# Words of a line

A line is read in two steps. The *marks* of a line are the characters that quoting leaves, each
either a letter of a word or a gap between words; the *words* are the runs of letters between gaps,
runs without a letter left out.

Outside quotes a backslash takes the next character literally and blanks are gaps. Between single
quotes every character is a letter. Between double quotes a backslash takes a double quote or a
backslash literally and stands for itself before any other character. A quote that is never closed
ends with the line, and a backslash outside quotes at the end of the line is dropped.
-/

namespace LineShell

/-- What one character of a line means once quotes and backslashes are accounted for. -/
inductive Mark where
  /-- A character of the word in progress. -/
  | letter (c : Char)
  /-- The end of the word in progress. -/
  | gap
deriving DecidableEq, Repr

/-- Where the reader of a line stands between two characters. -/
inductive Quoting where
  /-- Outside quotes. -/
  | bare
  /-- Outside quotes, after a backslash that waits for its character. -/
  | bareEscape
  /-- Between single quotes. -/
  | single
  /-- Between double quotes. -/
  | double
  /-- Between double quotes, after a backslash that waits for its character. -/
  | doubleEscape
deriving DecidableEq, Repr

namespace Quoting

/-- Where the reader stands after the character `c`. -/
def next (q : Quoting) (c : Char) : Quoting :=
  match q with
  | .bare => if c = '\\' then .bareEscape else if c = '\'' then .single
      else if c = '"' then .double else .bare
  | .bareEscape => .bare
  | .single => if c = '\'' then .bare else .single
  | .double => if c = '"' then .bare else if c = '\\' then .doubleEscape else .double
  | .doubleEscape => .double

/-- The marks that the character `c` adds. -/
def marks (q : Quoting) (c : Char) : List Mark :=
  match q with
  | .bare => if c = '\\' ∨ c = '\'' ∨ c = '"' then [] else if isBlank c then [.gap] else [.letter c]
  | .bareEscape => [.letter c]
  | .single => if c = '\'' then [] else [.letter c]
  | .double => if c = '"' ∨ c = '\\' then [] else [.letter c]
  | .doubleEscape => if c = '"' ∨ c = '\\' then [.letter c] else [.letter '\\', .letter c]

/-- The marks that the end of the line adds. -/
def endMarks : Quoting → List Mark
  | .doubleEscape => [.letter '\\']
  | _ => []

end Quoting

namespace Mark

/-- The marks of `cs`, read from the standing `q`. -/
def ofChars (q : Quoting) : List Char → List Mark
  | [] => q.endMarks
  | c :: cs => q.marks c ++ ofChars (q.next c) cs

/-- The runs of letters between gaps, empty runs included. -/
def runs : List Mark → List (List Char)
  | [] => [[]]
  | .gap :: ms => [] :: runs ms
  | .letter c :: ms =>
    match runs ms with
    | [] => [[c]]
    | r :: rs => (c :: r) :: rs

end Mark

/-- The words of a line, quotes and backslashes decoded. No word is empty. -/
def splitWords (line : String) : List String :=
  ((Mark.runs (Mark.ofChars .bare line.toList)).filter (· ≠ [])).map String.ofList

end LineShell
