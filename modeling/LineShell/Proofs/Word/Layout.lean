import LineShell.Proofs.Word.Runs

/-!
# Written lines

A *spelling* is a way to write one word: any mix of bare characters, escape pairs and quoted runs. A
*layout* puts spellings side by side, with blanks between them and perhaps at the two ends.

* `splitWords_layout`: a written line is read back as the words it was written from. A spelling of the
  empty word leaves no trace.
-/

namespace LineShell

/-! ## Marks of pieces and blanks -/

namespace Mark

theorem ofChars_pieces (ps : List Piece) (rest : List Char) :
    ofChars .bare (ps.flatMap Piece.text ++ rest) = ps.flatMap Piece.marks ++ ofChars .bare rest := by
  induction ps with
  | nil => rfl
  | cons p ps ih => rw [List.flatMap_cons, List.append_assoc, ofChars_piece, ih, List.flatMap_cons,
      List.append_assoc]

theorem ofChars_blanks (bs rest : List Char) (h : ∀ c ∈ bs, isBlank c = true) :
    ofChars .bare (bs ++ rest) = List.replicate bs.length .gap ++ ofChars .bare rest := by
  induction bs with
  | nil => rfl
  | cons b bs ih =>
    have hb := ofChars_piece (.separator b (h b (by simp))) (bs ++ rest)
    rw [ih fun c hc => h c (by simp [hc])] at hb
    simpa [Piece.text, Piece.marks, List.replicate_succ] using hb

end Mark

/-! ## Spellings -/

/-- A way to write one word. -/
structure Spelling where
  pieces : List Piece
  /-- Nothing in it ends the word. -/
  unbroken : ∀ p ∈ pieces, p.isSeparator = false

namespace Spelling

/-- How the word is written. -/
def text (sp : Spelling) : List Char :=
  sp.pieces.flatMap Piece.text

/-- The characters of the word. -/
def letters (sp : Spelling) : List Char :=
  sp.pieces.flatMap Piece.decoding

/-- The word that is written. -/
def word (sp : Spelling) : String :=
  String.ofList sp.letters

theorem marks_pieces (sp : Spelling) : sp.pieces.flatMap Piece.marks = sp.letters.map .letter := by
  obtain ⟨ps, h⟩ := sp
  induction ps with
  | nil => rfl
  | cons p ps ih =>
    have hp := Piece.marks_of_not_isSeparator (h p (by simp))
    have hps := ih fun q hq => h q (by simp [hq])
    simp_all [letters]

theorem ofChars_text (sp : Spelling) (rest : List Char) :
    Mark.ofChars .bare (sp.text ++ rest) = sp.letters.map .letter ++ Mark.ofChars .bare rest := by
  rw [text, Mark.ofChars_pieces, marks_pieces]

end Spelling

/-! ## Layouts -/

/-- A way to write a list of words. -/
structure Layout where
  /-- The blanks before the first word. -/
  lead : List Char
  /-- Each word as it is written, with the blanks after it. -/
  slots : List (Spelling × List Char)
  lead_blank : ∀ c ∈ lead, isBlank c = true
  gap_blank : ∀ slot ∈ slots, ∀ c ∈ slot.2, isBlank c = true
  /-- Only after the last word may blanks be missing. -/
  gap_ne_nil : ∀ slot ∈ slots.dropLast, slot.2 ≠ []

namespace Layout

/-- The words that are written. -/
def words (l : Layout) : List String :=
  l.slots.map fun slot => slot.1.word

/-- The written line. -/
def text (l : Layout) : String :=
  String.ofList (l.lead ++ l.slots.flatMap fun slot => slot.1.text ++ slot.2)

end Layout

theorem words_slots (slots : List (Spelling × List Char))
    (hblank : ∀ slot ∈ slots, ∀ c ∈ slot.2, isBlank c = true)
    (hne : ∀ slot ∈ slots.dropLast, slot.2 ≠ []) :
    Mark.words (Mark.ofChars .bare (slots.flatMap fun slot => slot.1.text ++ slot.2)) =
      (slots.map fun slot => slot.1.letters).filter (· ≠ []) := by
  induction slots with
  | nil => rfl
  | cons slot slots ih =>
    obtain ⟨sp, gap⟩ := slot
    have hgap := hblank (sp, gap) (by simp)
    have hrest := ih (fun s hs => hblank s (by simp [hs])) fun s hs => hne s <| by
      cases slots with
      | nil => simp at hs
      | cons s' rest => simp [hs]
    rw [List.flatMap_cons, List.append_assoc, Spelling.ofChars_text, Mark.ofChars_blanks gap _ hgap]
    cases gap with
    | nil =>
      -- no blanks after this word: it is the last one
      have hlast : slots = [] := by
        cases slots with
        | nil => rfl
        | cons s' rest => exact absurd rfl (hne (sp, []) (by simp))
      subst hlast
      simpa [Mark.ofChars, Quoting.endMarks] using Mark.words_letters sp.letters
    | cons b bs =>
      rw [List.length_cons, List.replicate_succ, List.cons_append, Mark.words_append_gap,
        Mark.words_letters, Mark.words_gaps, hrest, List.map_cons, ← List.singleton_append (l := slots.map _),
        List.filter_append]

/-- **A written line is read back.** -/
theorem splitWords_layout (l : Layout) : splitWords l.text = l.words.filter (· ≠ "") := by
  have hwords := words_slots l.slots l.gap_blank l.gap_ne_nil
  have hsplit : splitWords l.text =
      (Mark.words (Mark.ofChars .bare l.text.toList)).map String.ofList := rfl
  rw [hsplit, Layout.text, String.toList_ofList, Mark.ofChars_blanks _ _ l.lead_blank,
    Mark.words_gaps, hwords, Layout.words, List.filter_map, List.filter_map, List.map_map]
  simp [Function.comp_def, Spelling.word]

end LineShell
