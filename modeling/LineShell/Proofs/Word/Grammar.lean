import LineShell.Word
import Mathlib.Data.List.Basic

/-!
# The quoting grammar

A line is a sequence of *pieces*: a separator, a bare character, an escape pair, a run between single
quotes or a run between double quotes. At its end may stand one text that is *unclosed*: a backslash
without its character, or a run whose quote is missing.

* `Line.read_text` and `Line.text_read`: each line is the text of exactly one such sequence.
* `splitWords_text`: the words of a line are those of its pieces, cut at the separators.

Reading a line from left to right is the recursion `Line.read`; what it has not yet made a piece of is
itself an unclosed text, so that text is the only state there is.
-/

namespace LineShell

/-! ## Pieces -/

/-- A character that stands for itself outside quotes. -/
def IsBare (c : Char) : Prop :=
  isBlank c = false ∧ c ≠ '\\' ∧ c ≠ '\'' ∧ c ≠ '"'

instance (c : Char) : Decidable (IsBare c) :=
  inferInstanceAs (Decidable (_ ∧ _))

/-- A character that stands for itself between double quotes. -/
def IsPlain (c : Char) : Prop :=
  c ≠ '"' ∧ c ≠ '\\'

instance (c : Char) : Decidable (IsPlain c) :=
  inferInstanceAs (Decidable (_ ∧ _))

/-- A part of what stands between double quotes. -/
inductive DoublePart where
  /-- A character that stands for itself. -/
  | plain (c : Char) (h : IsPlain c)
  /-- A backslash with the double quote or the backslash that it stands for. -/
  | pair (c : Char) (h : c = '"' ∨ c = '\\')
  /-- A backslash that stands for itself, directly before a plain character. -/
  | kept (c : Char) (h : IsPlain c)

/-- A piece of a line. -/
inductive Piece where
  /-- A blank, which separates words. -/
  | separator (c : Char) (h : isBlank c = true)
  /-- A character that stands for itself. -/
  | bare (c : Char) (h : IsBare c)
  /-- A backslash with the character it stands for. -/
  | escape (c : Char)
  /-- A run between single quotes. -/
  | single (cs : List Char) (h : '\'' ∉ cs)
  /-- A run between double quotes. -/
  | double (body : List DoublePart)

/-- The end of a line that no piece covers. -/
inductive Unclosed where
  | nothing
  /-- A backslash outside quotes that has no character to take. -/
  | backslash
  /-- A run whose single quote is never closed. -/
  | single (cs : List Char) (h : '\'' ∉ cs)
  /-- A run whose double quote is never closed; a last backslash may follow its parts. -/
  | double (body : List DoublePart) (backslash : Bool)

namespace DoublePart

/-- How a part is written. -/
def text : DoublePart → List Char
  | plain c _ => [c]
  | pair c _ => ['\\', c]
  | kept c _ => ['\\', c]

/-- The characters that a part stands for. -/
def decoding : DoublePart → List Char
  | plain c _ => [c]
  | pair c _ => [c]
  | kept c _ => ['\\', c]

end DoublePart

namespace Piece

/-- How a piece is written. -/
def text : Piece → List Char
  | separator c _ => [c]
  | bare c _ => [c]
  | escape c => ['\\', c]
  | single cs _ => '\'' :: cs ++ ['\'']
  | double body => '"' :: body.flatMap DoublePart.text ++ ['"']

/-- The characters that a piece adds to a word. -/
def decoding : Piece → List Char
  | separator _ _ => []
  | bare c _ => [c]
  | escape c => [c]
  | single cs _ => cs
  | double body => body.flatMap DoublePart.decoding

/-- The piece ends a word. -/
def isSeparator : Piece → Bool
  | separator _ _ => true
  | _ => false

/-- The text of a sequence of pieces. -/
def textOf (ps : List Piece) : String :=
  String.ofList (ps.flatMap text)

/-- The words of a sequence of pieces: it is cut at the separators, the decodings of each group are put
together, and groups without a character are dropped. -/
def wordsOf (ps : List Piece) : List String :=
  (((ps.splitOnP isSeparator).map (·.flatMap decoding)).filter (· ≠ [])).map String.ofList

end Piece

namespace Unclosed

/-- How an unclosed end is written. -/
def text : Unclosed → List Char
  | nothing => []
  | backslash => ['\\']
  | single cs _ => '\'' :: cs
  | double body false => '"' :: body.flatMap DoublePart.text
  | double body true => '"' :: body.flatMap DoublePart.text ++ ['\\']

/-- What an unclosed end stands for: a run is closed at the end of the line, where a last backslash
between double quotes stands for itself; a backslash outside quotes stands for nothing. -/
def closed : Unclosed → List Piece
  | nothing => []
  | backslash => []
  | single cs h => [.single cs h]
  | double body false => [.double body]
  | double body true => [.double (body ++ [.pair '\\' (.inr rfl)])]

end Unclosed

/-- A line as the grammar sees it. -/
structure Line where
  pieces : List Piece
  tail : Unclosed

namespace Line

/-- The characters of a line. -/
def chars (l : Line) : List Char :=
  l.pieces.flatMap Piece.text ++ l.tail.text

/-- The text of a line. -/
def text (l : Line) : String :=
  String.ofList l.chars

/-- The words of a line, its unclosed end closed. -/
def words (l : Line) : List String :=
  Piece.wordsOf (l.pieces ++ l.tail.closed)

/-- The line with one more piece in front. -/
def cons (p : Piece) (l : Line) : Line :=
  { l with pieces := p :: l.pieces }

/-! ## Reading

`readFrom u cs` reads on from the unclosed text `u`. -/

/-- Read `cs`, with the unclosed text `u` before it. -/
def readFrom : Unclosed → List Char → Line
  | u, [] => ⟨[], u⟩
  | .nothing, c :: cs =>
    if hs : c = '\\' then readFrom .backslash cs
    else if hq : c = '\'' then readFrom (.single [] List.not_mem_nil) cs
    else if hd : c = '"' then readFrom (.double [] false) cs
    else if hb : isBlank c = true then cons (.separator c hb) (readFrom .nothing cs)
    else cons (.bare c ⟨Bool.eq_false_iff.2 hb, hs, hq, hd⟩) (readFrom .nothing cs)
  | .backslash, c :: cs => cons (.escape c) (readFrom .nothing cs)
  | .single acc h, c :: cs =>
    if hq : c = '\'' then cons (.single acc h) (readFrom .nothing cs)
    else readFrom (.single (acc ++ [c]) (by simp [h, Ne.symm hq])) cs
  | .double body false, c :: cs =>
    if hd : c = '"' then cons (.double body) (readFrom .nothing cs)
    else if hs : c = '\\' then readFrom (.double body true) cs
    else readFrom (.double (body ++ [.plain c ⟨hd, hs⟩]) false) cs
  | .double body true, c :: cs =>
    if h : c = '"' ∨ c = '\\' then readFrom (.double (body ++ [.pair c h]) false) cs
    else readFrom (.double (body ++ [.kept c (not_or.1 h)]) false) cs

/-- The pieces of a line. -/
def read (s : String) : Line :=
  readFrom .nothing s.toList

@[simp] theorem chars_cons (p : Piece) (l : Line) : (cons p l).chars = p.text ++ l.chars := by
  simp [cons, chars]

/-- Reading loses nothing. -/
theorem chars_readFrom (u : Unclosed) (cs : List Char) :
    (readFrom u cs).chars = u.text ++ cs := by
  fun_induction readFrom u cs <;>
    simp_all [chars, cons, Piece.text, Unclosed.text, DoublePart.text]

theorem text_read (s : String) : (read s).text = s := by
  rw [text, read, chars_readFrom]
  simp [Unclosed.text]

/-! ### What is read from a written piece -/

/-- No blank has a meaning in quoting. -/
theorem ne_of_isBlank {c : Char} (h : isBlank c = true) : c ≠ '\\' ∧ c ≠ '\'' ∧ c ≠ '"' := by
  refine ⟨?_, ?_, ?_⟩ <;> rintro rfl <;> exact absurd h (by decide)

theorem readFrom_single (acc cs rest : List Char) (hacc : '\'' ∉ acc) (h : '\'' ∉ acc ++ cs) :
    readFrom (.single acc hacc) (cs ++ rest) = readFrom (.single (acc ++ cs) h) rest := by
  induction cs generalizing acc with
  | nil => simp
  | cons c cs ih =>
    have hc : c ≠ '\'' := by
      rintro rfl
      simp at h
    rw [List.cons_append, readFrom, dif_neg hc, ih (acc ++ [c]) _ (by simpa using h)]
    simp

theorem readFrom_double (acc body : List DoublePart) (rest : List Char) :
    readFrom (.double acc false) (body.flatMap DoublePart.text ++ rest) =
      readFrom (.double (acc ++ body) false) rest := by
  induction body generalizing acc with
  | nil => simp
  | cons part body ih =>
    have happ : acc ++ part :: body = acc ++ [part] ++ body := by simp
    rw [List.flatMap_cons, List.append_assoc, happ, ← ih]
    cases part with
    | plain c h => simp [DoublePart.text, readFrom, h.1, h.2]
    | pair c h => simp [DoublePart.text, readFrom, h]
    | kept c h => simp [DoublePart.text, readFrom, h.1, h.2]

theorem readFrom_piece (p : Piece) (rest : List Char) :
    readFrom .nothing (p.text ++ rest) = cons p (readFrom .nothing rest) := by
  cases p with
  | separator c h =>
    obtain ⟨hs, hq, hd⟩ := ne_of_isBlank h
    simp [Piece.text, readFrom, h, hs, hq, hd]
  | bare c h => simp [Piece.text, readFrom, h.1, h.2.1, h.2.2.1, h.2.2.2]
  | escape c => simp [Piece.text, readFrom]
  | single cs h =>
    have hrun := readFrom_single [] cs ('\'' :: rest) List.not_mem_nil (by simpa using h)
    simpa [Piece.text, readFrom] using hrun
  | double body =>
    have hrun := readFrom_double [] body ('"' :: rest)
    simpa [Piece.text, readFrom] using hrun

theorem readFrom_unclosed (u : Unclosed) : readFrom .nothing u.text = ⟨[], u⟩ := by
  cases u with
  | nothing => rfl
  | backslash => simp [Unclosed.text, readFrom]
  | single cs h =>
    have hrun := readFrom_single [] cs [] List.not_mem_nil (by simpa using h)
    simpa [Unclosed.text, readFrom] using hrun
  | double body backslash =>
    have hrun := fun rest => readFrom_double [] body rest
    cases backslash with
    | false => simpa [Unclosed.text, readFrom] using hrun []
    | true => simpa [Unclosed.text, readFrom] using hrun ['\\']

theorem readFrom_chars (l : Line) : readFrom .nothing l.chars = l := by
  obtain ⟨ps, u⟩ := l
  induction ps with
  | nil => simpa [chars] using readFrom_unclosed u
  | cons p ps ih =>
    have hchars : chars ⟨p :: ps, u⟩ = p.text ++ chars ⟨ps, u⟩ := by simp [chars]
    rw [hchars, readFrom_piece, ih, cons]

/-- **No two lines of the grammar have the same text.** -/
theorem read_text (l : Line) : read l.text = l := by
  rw [read, text, String.toList_ofList, readFrom_chars]

end Line

/-! ## Marks

The marks of a line are read off its pieces: a separator is a gap, any other piece its letters. -/

namespace Piece

/-- The marks of a piece. -/
def marks : Piece → List Mark
  | separator _ _ => [.gap]
  | p => p.decoding.map .letter

theorem marks_of_isSeparator {p : Piece} (h : p.isSeparator = true) : p.marks = [.gap] := by
  cases p <;> first | rfl | simp [isSeparator] at h

theorem marks_of_not_isSeparator {p : Piece} (h : p.isSeparator = false) :
    p.marks = p.decoding.map .letter := by
  cases p <;> first | rfl | simp [isSeparator] at h

end Piece

namespace Mark

theorem ofChars_single (cs rest : List Char) (h : '\'' ∉ cs) :
    ofChars .single (cs ++ rest) = cs.map letter ++ ofChars .single rest := by
  induction cs with
  | nil => rfl
  | cons c cs ih =>
    have hc : c ≠ '\'' := by
      rintro rfl
      simp at h
    have hcs : '\'' ∉ cs := fun hmem => h (List.mem_cons_of_mem _ hmem)
    simp [ofChars, Quoting.marks, Quoting.next, hc, ih hcs]

theorem ofChars_double (body : List DoublePart) (rest : List Char) :
    ofChars .double (body.flatMap DoublePart.text ++ rest) =
      (body.flatMap DoublePart.decoding).map letter ++ ofChars .double rest := by
  induction body with
  | nil => rfl
  | cons part body ih =>
    rw [List.flatMap_cons, List.append_assoc, List.flatMap_cons, List.map_append, List.append_assoc, ← ih]
    cases part with
    | plain c h =>
      simp [DoublePart.text, DoublePart.decoding, ofChars, Quoting.marks, Quoting.next, h.1, h.2]
    | pair c h => simp [DoublePart.text, DoublePart.decoding, ofChars, Quoting.marks, Quoting.next, h]
    | kept c h =>
      simp [DoublePart.text, DoublePart.decoding, ofChars, Quoting.marks, Quoting.next, h.1, h.2]

theorem ofChars_piece (p : Piece) (rest : List Char) :
    ofChars .bare (p.text ++ rest) = p.marks ++ ofChars .bare rest := by
  cases p with
  | separator c h =>
    obtain ⟨hs, hq, hd⟩ := Line.ne_of_isBlank h
    simp [Piece.text, Piece.marks, ofChars, Quoting.marks, Quoting.next, h, hs, hq, hd]
  | bare c h =>
    simp [Piece.text, Piece.marks, Piece.decoding, ofChars, Quoting.marks, Quoting.next, h.1, h.2.1,
      h.2.2.1, h.2.2.2]
  | escape c =>
    simp [Piece.text, Piece.marks, Piece.decoding, ofChars, Quoting.marks, Quoting.next]
  | single cs h =>
    have hrun := ofChars_single cs ('\'' :: rest) h
    simp [Piece.text, Piece.marks, Piece.decoding, ofChars, Quoting.marks, Quoting.next, hrun]
  | double body =>
    have hrun := ofChars_double body ('"' :: rest)
    simp [Piece.text, Piece.marks, Piece.decoding, ofChars, Quoting.marks, Quoting.next, hrun]

theorem ofChars_unclosed (u : Unclosed) : ofChars .bare u.text = u.closed.flatMap Piece.marks := by
  cases u with
  | nothing => rfl
  | backslash => rfl
  | single cs h =>
    have hrun := ofChars_single cs [] h
    simp_all [Unclosed.text, Unclosed.closed, Piece.marks, Piece.decoding, ofChars, Quoting.marks,
      Quoting.next, Quoting.endMarks]
  | double body backslash =>
    have hrun := fun rest => ofChars_double body rest
    cases backslash with
    | false =>
      have hrun := hrun []
      simp_all [Unclosed.text, Unclosed.closed, Piece.marks, Piece.decoding, ofChars, Quoting.marks,
        Quoting.next, Quoting.endMarks]
    | true =>
      have hrun := hrun ['\\']
      simp_all [Unclosed.text, Unclosed.closed, Piece.marks, Piece.decoding, DoublePart.decoding,
        ofChars, Quoting.marks, Quoting.next, Quoting.endMarks]

theorem ofChars_line (l : Line) :
    ofChars .bare l.chars = (l.pieces ++ l.tail.closed).flatMap Piece.marks := by
  obtain ⟨ps, u⟩ := l
  induction ps with
  | nil => simpa [Line.chars] using ofChars_unclosed u
  | cons p ps ih =>
    simp only [Line.chars, List.flatMap_cons, List.append_assoc, List.cons_append] at ih ⊢
    rw [ofChars_piece, ih]

theorem runs_ne_nil (ms : List Mark) : runs ms ≠ [] := by
  fun_cases runs ms <;> simp

theorem runs_letters (cs : List Char) (ms : List Mark) :
    runs (cs.map letter ++ ms) = (runs ms).modifyHead (cs ++ ·) := by
  obtain ⟨r, rs, hr⟩ := List.exists_cons_of_ne_nil (runs_ne_nil ms)
  induction cs with
  | nil => simp [hr]
  | cons c cs ih => simp_all [runs]

/-- The runs of letters are the groups of pieces between separators. -/
theorem runs_pieces (ps : List Piece) :
    runs (ps.flatMap Piece.marks) =
      (ps.splitOnP Piece.isSeparator).map (·.flatMap Piece.decoding) := by
  induction ps with
  | nil => rfl
  | cons p ps ih =>
    obtain ⟨g, gs, hg⟩ := List.exists_cons_of_ne_nil (List.splitOnP_ne_nil Piece.isSeparator ps)
    rw [List.flatMap_cons, List.splitOnP_cons_eq_if_modifyHead]
    by_cases hp : p.isSeparator = true
    · rw [Piece.marks_of_isSeparator hp, if_pos hp]
      simp [runs, ih]
    · rw [Piece.marks_of_not_isSeparator (Bool.eq_false_iff.2 hp), if_neg hp, runs_letters, ih, hg]
      simp

end Mark

/-- The words of a line are those of its pieces. -/
theorem splitWords_text (l : Line) : splitWords l.text = l.words := by
  rw [splitWords, Line.text, String.toList_ofList, Mark.ofChars_line, Mark.runs_pieces]
  rfl

/-- **Words follow the quoting grammar**: the words of a sequence of pieces are its groups between
separators, decoded; an unclosed end is read as if it were closed; and there is no line that the grammar
does not read in exactly one way. -/
theorem splitWords_grammar :
    (∀ ps : List Piece, splitWords (Piece.textOf ps) = Piece.wordsOf ps) ∧
      (∀ l : Line, splitWords l.text = l.words) ∧ ∀ line : String, ∃! l : Line, l.text = line := by
  refine ⟨fun ps => ?_, splitWords_text, fun line => ⟨Line.read line, Line.text_read line, ?_⟩⟩
  · have hline := splitWords_text ⟨ps, .nothing⟩
    simpa [Line.text, Line.chars, Line.words, Unclosed.text, Unclosed.closed, Piece.textOf] using hline
  · rintro l rfl
    exact (Line.read_text l).symm

end LineShell
