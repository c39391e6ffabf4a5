import LineShell.Proofs.Word.Runs

/-!
# Lines without quoting

Where no character of a line has a meaning in quoting, its words are the runs between blanks. Everywhere else they
are not. What tells them apart is the *ink*, the characters that are no blanks: plain splitting keeps all of it, and
a quote or a backslash outside quotes is lost. The reader can make up for no loss, although between double quotes it
adds two letters at once: the backslash is one of them, and it has been read before.

* `Mark.ink_ofChars_le`: what is read from any standing is at most what stands there and what is owed.
* `splitWords_eq_splitBlanks_iff`: quoting is what distinguishes the two ways to split a line.
-/

namespace LineShell

/-- The runs of `line` between blanks, empty runs left out. -/
def splitBlanks (line : String) : List String :=
  ((line.toList.splitOnP isBlank).filter (· ≠ [])).map String.ofList

/-- A character that has a meaning in quoting. -/
def IsQuoting (c : Char) : Prop :=
  c = '\\' ∨ c = '\'' ∨ c = '"'

instance (c : Char) : Decidable (IsQuoting c) :=
  inferInstanceAs (Decidable (_ ∨ _))

theorem forall_not_isQuoting_iff (cs : List Char) :
    (∀ c ∈ cs, ¬ IsQuoting c) ↔ '\'' ∉ cs ∧ '"' ∉ cs ∧ '\\' ∉ cs := by
  constructor
  · intro h
    exact ⟨fun hc => h _ hc (.inr (.inl rfl)), fun hc => h _ hc (.inr (.inr rfl)), fun hc => h _ hc (.inl rfl)⟩
  · rintro ⟨hsingle, hdouble, hbackslash⟩ c hc (rfl | rfl | rfl)
    · exact hbackslash hc
    · exact hsingle hc
    · exact hdouble hc

/-! ## Ink -/

/-- The number of characters that are no blanks. -/
def ink (cs : List Char) : Nat :=
  cs.countP (!isBlank ·)

@[simp] theorem ink_nil : ink [] = 0 := rfl

theorem ink_append (cs ds : List Char) : ink (cs ++ ds) = ink cs + ink ds :=
  List.countP_append

theorem ink_cons (c : Char) (cs : List Char) : ink (c :: cs) = ink [c] + ink cs :=
  ink_append [c] cs

theorem IsQuoting.ink_eq {c : Char} (h : IsQuoting c) : ink [c] = 1 := by
  rcases h with rfl | rfl | rfl <;> decide

/-! ## Plain splitting -/

namespace Mark

/-- The mark of a character that has no meaning in quoting. -/
def plain (c : Char) : Mark :=
  if isBlank c then .gap else .letter c

theorem runs_map_plain (cs : List Char) : runs (cs.map plain) = cs.splitOnP isBlank := by
  induction cs with
  | nil => rfl
  | cons c cs ih =>
    rw [List.map_cons, List.splitOnP_cons_eq_if_modifyHead, plain]
    by_cases hc : isBlank c = true
    · rw [if_pos hc, if_pos hc, runs, ih]
    · rw [if_neg hc, if_neg hc, runs_letter, ih]

theorem ink_plain (c : Char) : ink (letters [plain c]) = ink [c] := by
  by_cases hc : isBlank c = true <;> simp [plain, letters, ink, hc]

/-- Plain splitting keeps all ink. -/
theorem ink_map_plain (cs : List Char) : ink (letters (cs.map plain)) = ink cs := by
  induction cs with
  | nil => rfl
  | cons c cs ih =>
    rw [List.map_cons, ← List.singleton_append, letters_append, ink_append, ink_plain, ih, ← ink_cons]

end Mark

theorem splitBlanks_eq_words (line : String) :
    splitBlanks line = (Mark.words (line.toList.map Mark.plain)).map String.ofList := by
  rw [splitBlanks, Mark.words, Mark.runs_map_plain]

/-! ## Reading with quoting -/

namespace Quoting

/-- The ink that has been read and not been decided upon. -/
def owed : Quoting → Nat
  | .doubleEscape => 1
  | _ => 0

theorem marks_bare_of_quoting {c : Char} (h : IsQuoting c) : Quoting.bare.marks c = [] :=
  if_pos h

theorem owed_next_bare (c : Char) : (Quoting.bare.next c).owed = 0 := by
  unfold next
  split_ifs <;> rfl

theorem bare_of_not_quoting {c : Char} (h : ¬ IsQuoting c) :
    Quoting.bare.marks c = [Mark.plain c] ∧ Quoting.bare.next c = .bare := by
  obtain ⟨hbackslash, hsingle, hdouble⟩ : c ≠ '\\' ∧ c ≠ '\'' ∧ c ≠ '"' := by simpa [IsQuoting] using h
  constructor
  · refine (if_neg h).trans ?_
    rw [Mark.plain]
    split_ifs <;> rfl
  · rw [next, if_neg hbackslash, if_neg hsingle, if_neg hdouble]

/-- No character leads to more ink than it has, but for the ink that is owed. -/
theorem ink_marks_le (q : Quoting) (c : Char) :
    ink (Mark.letters (q.marks c)) + (q.next c).owed ≤ ink [c] + q.owed := by
  have hbackslash : ink ['\\'] = 1 := by decide
  cases q with
  | bare =>
    rw [owed_next_bare]
    by_cases hc : IsQuoting c
    · rw [marks_bare_of_quoting hc]
      exact Nat.zero_le _
    · rw [(bare_of_not_quoting hc).1, Mark.ink_plain]
      exact Nat.le_refl _
  | bareEscape => exact Nat.le_refl _
  | single =>
    by_cases hc : c = '\'' <;> simp [marks, next, hc, Mark.letters, owed]
  | double =>
    by_cases hquote : c = '"'
    · simp [marks, next, hquote, Mark.letters, owed]
    · by_cases hc : c = '\\'
      · simp [marks, next, hc, Mark.letters, owed, hbackslash]
      · simp [marks, next, hc, hquote, Mark.letters, owed]
  | doubleEscape =>
    -- Here the backslash that is owed may be paid out.
    have hpair : ink ['\\', c] = 1 + ink [c] := by rw [ink_cons, hbackslash]
    by_cases hc : c = '"' ∨ c = '\\'
    · simp [marks, next, hc, Mark.letters, owed]
    · simp [marks, next, hc, Mark.letters, owed, hpair, Nat.add_comm]

end Quoting

theorem Mark.ink_ofChars_le (q : Quoting) (cs : List Char) :
    ink (letters (ofChars q cs)) ≤ ink cs + q.owed := by
  induction cs generalizing q with
  | nil => cases q <;> decide
  | cons c cs ih =>
    have hstep := q.ink_marks_le c
    have hrest := ih (q.next c)
    rw [ofChars, letters_append, ink_append, ink_cons]
    omega

/-- The first character that has a meaning in quoting is lost. -/
theorem Mark.ink_ofChars_lt {cs : List Char} (h : ∃ c ∈ cs, IsQuoting c) :
    ink (letters (ofChars .bare cs)) < ink cs := by
  induction cs with
  | nil => simp at h
  | cons c cs ih =>
    rw [ofChars, letters_append, ink_append, ink_cons]
    by_cases hc : IsQuoting c
    · have hrest := ink_ofChars_le (Quoting.bare.next c) cs
      rw [Quoting.owed_next_bare] at hrest
      have hnone : ink (letters (Quoting.bare.marks c)) = 0 := by
        rw [Quoting.marks_bare_of_quoting hc]
        rfl
      have hone := hc.ink_eq
      omega
    · obtain ⟨hmarks, hnext⟩ := Quoting.bare_of_not_quoting hc
      have hlater : ∃ c ∈ cs, IsQuoting c := by
        obtain ⟨d, hd, hquoting⟩ := h
        rcases List.mem_cons.1 hd with rfl | hd
        · exact absurd hquoting hc
        · exact ⟨d, hd, hquoting⟩
      rw [hmarks, hnext, ink_plain]
      exact Nat.add_lt_add_left (ih hlater) _

theorem Mark.ofChars_eq_map_plain {cs : List Char} (h : ∀ c ∈ cs, ¬ IsQuoting c) :
    ofChars .bare cs = cs.map plain := by
  induction cs with
  | nil => rfl
  | cons c cs ih =>
    obtain ⟨hc, hcs⟩ := List.forall_mem_cons.1 h
    obtain ⟨hmarks, hnext⟩ := Quoting.bare_of_not_quoting hc
    rw [ofChars, hmarks, hnext, ih hcs]
    rfl

/-- **Quoting is what distinguishes words from the runs between blanks**: the two are the same exactly where a line
has no backslash and no quote. -/
theorem splitWords_eq_splitBlanks_iff (line : String) :
    splitWords line = splitBlanks line ↔
      '\'' ∉ line.toList ∧ '"' ∉ line.toList ∧ '\\' ∉ line.toList := by
  rw [← forall_not_isQuoting_iff, splitWords_eq_words, splitBlanks_eq_words]
  constructor
  · intro h c hc hquoting
    have hletters := congrArg (·.flatMap String.toList) h
    simp only [Mark.flatMap_words] at hletters
    have hlost := Mark.ink_ofChars_lt ⟨c, hc, hquoting⟩
    rw [hletters, Mark.ink_map_plain] at hlost
    exact Nat.lt_irrefl _ hlost
  · intro h
    rw [Mark.ofChars_eq_map_plain h]

/-- Blanks do not count as ink: a quoted one is a letter like any other. -/
example : splitWords "'  '" = ["  "] ∧ splitBlanks "'  '" = ["'", "'"] := by
  decide +kernel

end LineShell
