import LineShell.Proofs.Word.Grammar

/-!
# Words of marks

The words of a list of marks are its runs of letters. Everything that the other modules need to know about cutting
marks into runs is here:

* `Mark.runs_append`: what follows can only add to the last run.
* `Mark.words_append_gap`: a gap lets the words on its two sides alone.
* `Mark.flatMap_words`: the words hold all letters, in their order.
* `flatMap_splitWords_sublist`: the words of a line are made of its characters.
-/

namespace LineShell

namespace Mark

/-- The runs of letters that have a letter. -/
def words (ms : List Mark) : List (List Char) :=
  (runs ms).filter (· ≠ [])

/-- The characters of the letters. -/
def letters (ms : List Mark) : List Char :=
  ms.filterMap fun
    | .letter c => some c
    | .gap => none

/-! ## Runs -/

theorem runs_letter (c : Char) (ms : List Mark) : runs (.letter c :: ms) = (runs ms).modifyHead (c :: ·) :=
  runs_letters [c] ms

theorem runs_map_letter (cs : List Char) : runs (cs.map letter) = [cs] := by
  have hruns := runs_letters cs []
  rwa [List.append_nil, runs, List.modifyHead_cons, List.append_nil] at hruns

theorem runs_append (ms : List Mark) :
    ∃ rs r, runs ms = rs ++ [r] ∧ ∀ ns, runs (ms ++ ns) = rs ++ (runs ns).modifyHead (r ++ ·) := by
  induction ms with
  | nil =>
    refine ⟨[], [], rfl, fun ns => ?_⟩
    cases hns : runs ns <;> simp [hns]
  | cons m ms ih =>
    obtain ⟨rs, r, hms, happend⟩ := ih
    cases m with
    | gap =>
      refine ⟨[] :: rs, r, ?_, fun ns => ?_⟩
      · rw [runs, hms, List.cons_append]
      · rw [List.cons_append, runs, happend, List.cons_append]
    | letter c =>
      -- The letter goes into the first run, which may be the last one as well.
      cases rs with
      | nil =>
        refine ⟨[], c :: r, ?_, fun ns => ?_⟩
        · rw [runs_letter, hms]
          rfl
        · rw [List.cons_append, runs_letter, happend, List.nil_append, List.modifyHead_modifyHead]
          rfl
      | cons r' rs =>
        refine ⟨(c :: r') :: rs, r, ?_, fun ns => ?_⟩
        · rw [runs_letter, hms]
          rfl
        · rw [List.cons_append, runs_letter, happend]
          rfl

/-! ## Words -/

theorem words_letters (cs : List Char) : words (cs.map letter) = [cs].filter (· ≠ []) := by
  rw [words, runs_map_letter]

theorem words_append_gap (ms ns : List Mark) : words (ms ++ .gap :: ns) = words ms ++ words ns := by
  obtain ⟨rs, r, hms, happend⟩ := runs_append ms
  have hruns : runs (ms ++ .gap :: ns) = runs ms ++ runs ns := by
    rw [happend, runs, List.modifyHead_cons, List.append_nil, hms, List.append_assoc, List.singleton_append]
  rw [words, hruns, List.filter_append, words, words]

theorem words_gap (ms : List Mark) : words (.gap :: ms) = words ms :=
  words_append_gap [] ms

theorem words_gaps (n : Nat) (ms : List Mark) : words (List.replicate n .gap ++ ms) = words ms := by
  induction n with
  | zero => rfl
  | succ n ih => rw [List.replicate_succ, List.cons_append, words_gap, ih]

/-- All words but the last stay, whatever follows in place of the letters. -/
theorem dropLast_words_append (ms ns : List Mark) (cs : List Char) :
    (words (ms ++ cs.map letter)).dropLast <+: words (ms ++ ns) := by
  obtain ⟨rs, r, -, happend⟩ := runs_append ms
  have hkept : (words (ms ++ cs.map letter)).dropLast <+: rs.filter (· ≠ []) := by
    rw [words, happend, runs_map_letter, List.modifyHead_cons, List.filter_append]
    by_cases hlast : r ++ cs = []
    · rw [hlast]
      simpa using List.dropLast_prefix _
    · rw [List.filter_singleton, decide_eq_true hlast]
      simp
  refine hkept.trans ?_
  rw [words, happend, List.filter_append]
  exact List.prefix_append _ _

/-! ## Letters -/

@[simp] theorem letters_append (ms ns : List Mark) : letters (ms ++ ns) = letters ms ++ letters ns :=
  List.filterMap_append

theorem flatten_runs (ms : List Mark) : (runs ms).flatten = letters ms := by
  induction ms with
  | nil => rfl
  | cons m ms ih =>
    cases m with
    | gap => exact ih
    | letter c =>
      obtain ⟨r, rs, hr⟩ := List.exists_cons_of_ne_nil (runs_ne_nil ms)
      rw [hr, List.flatten_cons] at ih
      rw [runs_letter, hr, List.modifyHead_cons, List.flatten_cons, List.cons_append, ih]
      rfl

/-- No letter is lost, none is added, and their order stays. -/
theorem flatMap_words (ms : List Mark) : ((words ms).map String.ofList).flatMap String.toList = letters ms := by
  have hflatten : (words ms).flatten = letters ms := by
    rw [words, List.flatten_filter_ne_nil, flatten_runs]
  simpa [List.flatMap_map] using hflatten

end Mark

theorem splitWords_eq_words (line : String) :
    splitWords line = (Mark.words (Mark.ofChars .bare line.toList)).map String.ofList := rfl

/-! ## Characters of a line -/

/-- The character that has been read but not decided on. -/
def Quoting.pending : Quoting → List Char
  | .doubleEscape => ['\\']
  | _ => []

theorem Quoting.letters_marks_sublist (q : Quoting) (c : Char) :
    (Mark.letters (q.marks c) ++ (q.next c).pending).Sublist (q.pending ++ [c]) := by
  cases q with
  | bare =>
    simp only [marks, next]
    split_ifs <;> simp_all [Mark.letters, pending]
  | bareEscape => exact List.Sublist.refl _
  | single =>
    simp only [marks, next]
    split_ifs <;> simp [Mark.letters, pending]
  | double =>
    simp only [marks, next]
    split_ifs <;> simp_all [Mark.letters, pending]
  | doubleEscape =>
    simp only [marks, next]
    split_ifs <;> simp [Mark.letters, pending]

theorem Mark.letters_ofChars_sublist (q : Quoting) (cs : List Char) :
    (letters (ofChars q cs)).Sublist (q.pending ++ cs) := by
  induction cs generalizing q with
  | nil => cases q <;> exact List.Sublist.refl _
  | cons c cs ih =>
    rw [ofChars, letters_append, ← List.singleton_append, ← List.append_assoc]
    refine ((ih (q.next c)).append_left _).trans ?_
    rw [← List.append_assoc]
    exact (q.letters_marks_sublist c).append_right cs

/-- **The words of a line are made of its characters**, in their order. -/
theorem flatMap_splitWords_sublist (line : String) : ((splitWords line).flatMap String.toList).Sublist line.toList := by
  rw [splitWords_eq_words, Mark.flatMap_words]
  exact Mark.letters_ofChars_sublist .bare line.toList

theorem ne_empty_of_mem_splitWords {line w : String} (h : w ∈ splitWords line) : w ≠ "" := by
  rw [splitWords_eq_words] at h
  obtain ⟨cs, hcs, rfl⟩ := List.mem_map.1 h
  have hne : cs ≠ [] := of_decide_eq_true (List.mem_filter.1 hcs).2
  exact mt String.ofList_eq_empty_iff.1 hne

end LineShell
