import LineShell.Proofs.Word.Continuation
import LineShell.Proofs.Word.Plain

/-!
# Joined words

Words that are put side by side, with one blank between each two of them, make up a line. It is read back as these
words exactly where each of them can stand there as it is: it has a character, and neither a blank nor a character
that has a meaning in quoting.

One direction is the reading of bare words. The other one is an account of the ink. The line has the ink of its words,
so if these words are what is read from it, then no ink has been lost on the way. A quote or a backslash outside quotes
would have lost some, and with no quoting in the line no blank can come into a word.

* `splitWords_of_bare`: a bare word is read as itself.
* `splitWords_intercalate`: the lists of words that survive being joined and read again.
-/

namespace LineShell

theorem isBare_iff (c : Char) : IsBare c ↔ isBlank c = false ∧ ¬ IsQuoting c := by
  simp only [IsBare, IsQuoting, not_or, ne_eq]

/-! ## Bare words -/

section BareWord

variable {w : String} (hw : ∀ c ∈ w.toList, IsBare c)

include hw

theorem endsBare_of_bare : EndsBare w := by
  unfold EndsBare
  generalize w.toList = cs at hw
  induction cs with
  | nil => rfl
  | cons c cs ih =>
    obtain ⟨hc, hcs⟩ := List.forall_mem_cons.1 hw
    rw [Quoting.after_cons, (Quoting.bare_of_not_quoting ((isBare_iff c).1 hc).2).2]
    exact ih hcs

theorem map_plain_of_bare : w.toList.map Mark.plain = w.toList.map .letter := by
  apply List.map_congr_left
  intro c hc
  have hblank : isBlank c = false := (hw c hc).1
  rw [Mark.plain, hblank]
  rfl

theorem splitWords_of_bare (hne : w ≠ "") : splitWords w = [w] := by
  have hplain : ∀ c ∈ w.toList, ¬ IsQuoting c := fun c hc => ((isBare_iff c).1 (hw c hc)).2
  have hkept : [w.toList].filter (· ≠ []) = [w.toList] := by simpa using hne
  rw [splitWords_eq_words, Mark.ofChars_eq_map_plain hplain, map_plain_of_bare hw, Mark.words_letters, hkept,
    List.map_singleton, String.ofList_toList]

end BareWord

/-! ## Joined lines -/

theorem splitWords_intercalate_of_bare {ws : List String} (h : ∀ w ∈ ws, w ≠ "" ∧ ∀ c ∈ w.toList, IsBare c) :
    splitWords (" ".intercalate ws) = ws := by
  induction ws with
  | nil => rfl
  | cons w ws ih =>
    obtain ⟨⟨hne, hw⟩, hws⟩ := List.forall_mem_cons.1 h
    have hword := splitWords_of_bare hw hne
    by_cases hlast : ws = []
    · rw [hlast, String.intercalate_singleton, hword]
    · have hrest := ih hws
      rw [String.intercalate_cons_of_ne_nil hlast,
        (endsBare_of_bare hw).splitWords_append_blanks (by decide) (by decide), hword, hrest]
      rfl

/-- The blanks between the words add no ink. -/
theorem ink_intercalate (ws : List String) :
    ink (" ".intercalate ws).toList = ink (ws.flatMap String.toList) := by
  induction ws with
  | nil => rfl
  | cons w ws ih =>
    rw [List.flatMap_cons, ink_append]
    by_cases hlast : ws = []
    · rw [hlast, String.intercalate_singleton]
      rfl
    · have hblank : ink " ".toList = 0 := by decide
      rw [String.intercalate_cons_of_ne_nil hlast, String.toList_append, String.toList_append, ink_append, ink_append,
        hblank, ih]
      omega

theorem Mark.letters_map_plain (cs : List Char) : letters (cs.map plain) = cs.filter (!isBlank ·) := by
  induction cs with
  | nil => rfl
  | cons c cs ih =>
    rw [List.map_cons, ← List.singleton_append, letters_append, ih, plain, List.filter_cons]
    cases isBlank c <;> rfl

/-- A joined line that is read back has no quoting in it: the first quote or backslash would be lost. -/
theorem not_isQuoting_of_splitWords_intercalate {ws : List String} (h : splitWords (" ".intercalate ws) = ws) :
    ∀ c ∈ (" ".intercalate ws).toList, ¬ IsQuoting c := by
  intro c hc hquoting
  have hletters : ws.flatMap String.toList = Mark.letters (Mark.ofChars .bare (" ".intercalate ws).toList) := by
    rw [← Mark.flatMap_words, ← splitWords_eq_words, h]
  have hlost := Mark.ink_ofChars_lt ⟨c, hc, hquoting⟩
  have hkept := ink_intercalate ws
  rw [hletters] at hkept
  omega

/-- **The words that survive being joined and read again.** A list of words is read back from the line that has them
side by side, with one blank between each two, exactly where each word has a character and neither a blank, a quote
nor a backslash. -/
theorem splitWords_intercalate (ws : List String) :
    splitWords (" ".intercalate ws) = ws ↔
      ∀ w ∈ ws, w ≠ "" ∧ (∀ c ∈ w.toList, isBlank c = false) ∧
        '\'' ∉ w.toList ∧ '"' ∉ w.toList ∧ '\\' ∉ w.toList := by
  constructor
  · intro h w hw
    have hplain := not_isQuoting_of_splitWords_intercalate h
    have hword : w ∈ splitWords (" ".intercalate ws) := by rwa [h]
    have hletters : ws.flatMap String.toList = (" ".intercalate ws).toList.filter (!isBlank ·) := by
      rw [← Mark.letters_map_plain, ← Mark.ofChars_eq_map_plain hplain, ← Mark.flatMap_words, ← splitWords_eq_words, h]
    -- Without quoting the letters of the words are those characters of the line that are no blanks.
    have hchar : ∀ c ∈ w.toList, c ∈ (" ".intercalate ws).toList ∧ isBlank c = false := by
      intro c hc
      have hmem : c ∈ ws.flatMap String.toList := List.mem_flatMap.2 ⟨w, hw, hc⟩
      rw [hletters, List.mem_filter, Bool.not_eq_true'] at hmem
      exact hmem
    refine ⟨ne_empty_of_mem_splitWords hword, fun c hc => (hchar c hc).2, ?_⟩
    rw [← forall_not_isQuoting_iff]
    intro c hc
    exact hplain c (hchar c hc).1
  · intro h
    apply splitWords_intercalate_of_bare
    intro w hw
    obtain ⟨hne, hblank, hquoting⟩ := h w hw
    rw [← forall_not_isQuoting_iff] at hquoting
    refine ⟨hne, fun c hc => ?_⟩
    rw [isBare_iff]
    exact ⟨hblank c hc, hquoting c hc⟩

/-- The backslash takes the blank that was to part the words. -/
example : splitWords (" ".intercalate ["a\\", "b"]) = ["a b"] := by
  decide +kernel

end LineShell
