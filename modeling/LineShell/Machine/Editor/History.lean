import LineShell.Machine.Editor.Input

/-!
# History

What the machine's line editor keeps: the lines that were entered, oldest first, at most a hundred of them. An empty line and a line equal
to the last one are not kept. In a file a history is a heading and one entry per line, with `\` and
newline escaped; a file without the heading holds plain lines.
-/

namespace LineShell

/-- The lines that were entered. -/
structure History where
  /-- The entries, oldest first. -/
  entries : List String := []
  /-- There are entries that the file does not hold. -/
  unsaved : Bool := false
deriving DecidableEq, Repr

namespace History

/-- The most entries that are kept. -/
def limit : Nat := 100

/-- The first line of a file with escaped entries. -/
def heading : String := "#V2"

/-- Whether a line would be kept. -/
def keeps (h : History) (line : String) : Bool :=
  !line.isEmpty && h.entries.getLast? != some line

/-- The history after the line `line`. -/
def add (h : History) (line : String) : History :=
  if h.keeps line then
    let old := if h.entries.length < limit then h.entries else h.entries.drop 1
    ⟨old ++ [line], true⟩
  else h

/-- The written form of an entry. -/
def escape : List Char → List Char
  | [] => []
  | c :: cs =>
    if c = '\\' then '\\' :: '\\' :: escape cs
    else if c = '\n' then '\\' :: 'n' :: escape cs
    else c :: escape cs

/-- The entry with the written form `cs`, if all its backslashes escape something. -/
def unescape? : List Char → Option (List Char)
  | [] => some []
  | '\\' :: 'n' :: cs => (unescape? cs).map ('\n' :: ·)
  | '\\' :: '\\' :: cs => (unescape? cs).map ('\\' :: ·)
  | c :: cs => if c = '\\' then none else (unescape? cs).map (c :: ·)

theorem unescape?_escape (cs : List Char) : unescape? (escape cs) = some cs := by
  induction cs with
  | nil => rfl
  | cons c cs ih =>
    by_cases h : c = '\\'
    · simp [escape, unescape?, h, ih]
    · by_cases hn : c = '\n' <;> simp [escape, unescape?, h, hn, ih]

/-- The entry that a line of a file with escaped entries stands for. -/
def unescape (line : String) : String :=
  ((unescape? line.toList).map String.ofList).getD line

/-- Add the lines of a file; a line that is not UTF-8 ends it, and then what was added counts as
unsaved. -/
def addLines (escaped : Bool) (h : History) : List (Option String) → History
  | [] => { h with unsaved := false }
  | none :: _ => h
  | some line :: rest =>
    addLines escaped (if line.isEmpty then h
      else h.add (if escaped then unescape line else line)) rest

/-- The history in a file with the contents `bs`. -/
def ofBytes (bs : Bytes) : History :=
  match (Input.rawLines bs).map Input.RawLine.text? with
  | [] => {}
  | none :: _ => {}
  | some first :: rest =>
    if first = heading then addLines true {} rest else addLines false (({} : History).add first) rest

/-- The text of the file that keeps a history. -/
def toText (h : History) : String :=
  String.join ((heading :: h.entries.map fun e => String.ofList (escape e.toList)).map (· ++ "\n"))

end History

end LineShell
