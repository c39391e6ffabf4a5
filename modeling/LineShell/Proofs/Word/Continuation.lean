import LineShell.Proofs.Word.Layout

/-!
# Continued lines

A line is read from left to right. What follows a text can change the last of its words and no other: between
double quotes a backslash at the end of the text stands for itself, and when the text goes on it may take the next
character. A text that leaves the reader outside quotes, with no backslash that waits, can be cut off at a blank,
and the words of the whole are those of the two parts.

* `Mark.ofChars_append`: a text is read in two parts, and the standing in between is all that is handed on.
* `endsBare_iff`: the texts that leave nothing open are those that consist of pieces.
* `splitWords_append`: the two laws, the second with the converse.
-/

namespace LineShell

/-! ## Reading in two parts -/

namespace Quoting

/-- Where the reader stands after `cs`. -/
def after (q : Quoting) (cs : List Char) : Quoting :=
  cs.foldl next q

theorem after_cons (q : Quoting) (c : Char) (cs : List Char) : q.after (c :: cs) = (q.next c).after cs := rfl

theorem endMarks_eq_letters (q : Quoting) : ∃ cs : List Char, q.endMarks = cs.map .letter := by
  cases q with
  | doubleEscape => exact ⟨['\\'], rfl⟩
  | _ => exact ⟨[], rfl⟩

end Quoting

namespace Mark

/-- The marks that `cs` adds, whether or not the line ends after it. -/
def settled (q : Quoting) : List Char → List Mark
  | [] => []
  | c :: cs => q.marks c ++ settled (q.next c) cs

theorem ofChars_append (q : Quoting) (cs ds : List Char) :
    ofChars q (cs ++ ds) = settled q cs ++ ofChars (q.after cs) ds := by
  induction cs generalizing q with
  | nil => rfl
  | cons c cs ih => rw [List.cons_append, ofChars, ih, settled, List.append_assoc, Quoting.after_cons]

theorem ofChars_eq_settled (q : Quoting) (cs : List Char) :
    ofChars q cs = settled q cs ++ (q.after cs).endMarks := by
  have hsplit := ofChars_append q cs []
  rwa [List.append_nil, ofChars] at hsplit

/-- A blank is a gap outside quotes only; elsewhere it is one letter more than the end of the line. -/
theorem eq_bare_of_letters_blank {q : Quoting} (h : letters (ofChars q [' ']) = letters q.endMarks) : q = .bare := by
  cases q with
  | bare => rfl
  | _ => exact absurd h (by decide)

end Mark

/-! ## Texts that leave nothing open -/

/-- The text leaves the reader outside quotes, and no backslash waits for its character. -/
def EndsBare (l : String) : Prop :=
  Quoting.after .bare l.toList = .bare

instance (l : String) : Decidable (EndsBare l) :=
  inferInstanceAs (Decidable (_ = _))

/-- Where the reader stands at the end of an unclosed text. -/
def Unclosed.standing : Unclosed → Quoting
  | nothing => .bare
  | backslash => .bareEscape
  | single _ _ => .single
  | double _ false => .double
  | double _ true => .doubleEscape

theorem Unclosed.standing_eq_bare_iff (u : Unclosed) : u.standing = .bare ↔ u = nothing := by
  cases u with
  | double body backslash => cases backslash <;> simp [standing]
  | _ => simp [standing]

theorem Line.standing_readFrom (u : Unclosed) (cs : List Char) :
    (readFrom u cs).tail.standing = u.standing.after cs := by
  fun_induction readFrom u cs <;>
    simp_all [Unclosed.standing, cons, Quoting.after, Quoting.next]

theorem endsBare_iff (l : String) : EndsBare l ↔ (Line.read l).tail = .nothing := by
  have hstanding : (Line.read l).tail.standing = Quoting.after .bare l.toList :=
    Line.standing_readFrom .nothing l.toList
  rw [EndsBare, ← hstanding, Unclosed.standing_eq_bare_iff]

example : EndsBare "a 'b' \\\"" ∧ ¬ EndsBare "a\\" ∧ ¬ EndsBare "a \"b\\\"" := by
  decide

theorem EndsBare.ofChars_append {l : String} (hl : EndsBare l) (cs : List Char) :
    Mark.ofChars .bare (l.toList ++ cs) = Mark.ofChars .bare l.toList ++ Mark.ofChars .bare cs := by
  have hend := Mark.ofChars_eq_settled .bare l.toList
  rw [hl] at hend
  rw [Mark.ofChars_append, hl, hend]
  exact congrArg (· ++ Mark.ofChars .bare cs) (List.append_nil _).symm

/-! ## Words of a continued line -/

theorem dropLast_splitWords_append (l m : String) : (splitWords l).dropLast <+: splitWords (l ++ m) := by
  obtain ⟨cs, hcs⟩ := (Quoting.after .bare l.toList).endMarks_eq_letters
  rw [splitWords_eq_words, splitWords_eq_words, ← List.map_dropLast, String.toList_append, Mark.ofChars_append,
    Mark.ofChars_eq_settled .bare l.toList, hcs]
  exact (Mark.dropLast_words_append _ _ cs).map String.ofList

theorem EndsBare.splitWords_append_blanks {l : String} (hl : EndsBare l) {s : String} (hne : s ≠ "")
    (hs : isBlankLine s = true) (m : String) : splitWords (l ++ s ++ m) = splitWords l ++ splitWords m := by
  have hblank : ∀ c ∈ s.toList, isBlank c = true := List.all_eq_true.1 hs
  obtain ⟨b, bs, hbs⟩ := List.exists_cons_of_ne_nil (mt String.toList_eq_nil_iff.1 hne)
  have hmarks : Mark.ofChars .bare (l ++ s ++ m).toList =
      Mark.ofChars .bare l.toList ++ .gap :: (List.replicate bs.length .gap ++ Mark.ofChars .bare m.toList) := by
    rw [String.toList_append, String.toList_append, List.append_assoc, hl.ofChars_append,
      Mark.ofChars_blanks _ _ hblank, hbs]
    rfl
  rw [splitWords_eq_words, hmarks, Mark.words_append_gap, Mark.words_gaps, List.map_append, splitWords_eq_words,
    splitWords_eq_words]

theorem EndsBare.of_splitWords_append_blank {l : String}
    (h : splitWords (l ++ " " ++ "") = splitWords l ++ splitWords "") : EndsBare l := by
  have hletters := congrArg (·.flatMap String.toList) h
  have hempty : splitWords "" = [] := rfl
  simp only [hempty, List.append_nil, String.append_empty, splitWords_eq_words, Mark.flatMap_words,
    String.toList_append] at hletters
  rw [Mark.ofChars_append, Mark.ofChars_eq_settled .bare l.toList, Mark.letters_append, Mark.letters_append] at hletters
  exact Mark.eq_bare_of_letters_blank (List.append_cancel_left hletters)

/-- **Words of a continued line.** All words of a text but the last are the first words of every line that the text
begins. A text leaves nothing open exactly when it can be followed by blanks and any text at all, and the words of
the line are those of the two texts. -/
theorem splitWords_append (l : String) :
    (∀ m, (splitWords l).dropLast <+: splitWords (l ++ m)) ∧
      (EndsBare l ↔
        ∀ s m, s ≠ "" → isBlankLine s = true → splitWords (l ++ s ++ m) = splitWords l ++ splitWords m) := by
  refine ⟨dropLast_splitWords_append l, fun hl s m hne hs => hl.splitWords_append_blanks hne hs m, fun h => ?_⟩
  exact EndsBare.of_splitWords_append_blank (h " " "" (by decide) (by decide))

/-- The last word can lose a character when its text goes on. -/
example : splitWords "say \"a\\" = ["say", "a\\"] ∧ splitWords "say \"a\\\"" = ["say", "a\""] := by
  decide +kernel

end LineShell
