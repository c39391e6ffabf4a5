import LineShell.Proofs.Command.Division
import LineShell.Proofs.Path.Join
import LineShell.Shell
import Mathlib.Logic.Function.Iterate

/-!
# What is left of a line

Taking redirections out brings words together that stood apart. Still no operator finds a path name in this way,
since an operator is left only at the very end. So the redirections of a line are all found in one pass, and the
command that is left has no operator for a name or for an argument, unless it is the last.

* `Redirection.extract_eq_self_iff`: the lists of words from which nothing is taken.
* `Redirection.extract_extract`: a second pass finds nothing, and no later one does.
* `Command.wellFormed_parse`: the command of a line, and what it means that it has no name.
-/

namespace LineShell

namespace Operator

/-- How the operators are written. -/
def words : List String :=
  [">", "1>", ">>", "1>>", "2>", "2>>"]

theorem mem_words_iff {w : String} : w ∈ words ↔ (Item.word w).LooksLikeOperator := by
  constructor
  · intro h
    have hall : w ∈ all.map word := h
    obtain ⟨op, -, rfl⟩ := List.mem_map.1 hall
    exact ⟨op, rfl⟩
  · rintro ⟨op, h⟩
    obtain rfl := Item.word.inj h
    cases op <;> decide

end Operator

namespace Redirection

/-! ## The words that are left -/

variable {ws : List String}

theorem extract_eq_self (h : ∀ w ∈ ws.dropLast, w ∉ Operator.words) : extract ws = (ws, {}) := by
  have hplain : ∀ i ∈ (ws.map Item.word).dropLast, ¬ i.LooksLikeOperator := by
    intro i hi
    rw [← List.map_dropLast] at hi
    obtain ⟨w, hw, rfl⟩ := List.mem_map.1 hi
    exact mt Operator.mem_words_iff.2 (h w hw)
  have hwords : (ws.map Item.word).flatMap Item.words = ws := by
    simp [List.flatMap_map, Item.words]
  have hleft : (ws.map Item.word).filterMap Item.word? = ws := by
    simp [List.filterMap_map, Function.comp_def, Item.word?]
  have hnone : (ws.map Item.word).filterMap Item.redirect? = [] := by
    simp [List.filterMap_map, Function.comp_def, Item.redirect?]
  have hextract := extract_items _ hplain
  rwa [hwords, hleft, hnone] at hextract

theorem eq_word_of_word? {i : Item} {w : String} (h : i.word? = some w) : i = .word w := by
  cases i with
  | word v => exact congrArg Item.word (Option.some.inj h)
  | redirect op path => cases h

/-- An operator is left only at the end. -/
theorem not_mem_words_of_left : ∀ w ∈ (extract ws).1.dropLast, w ∉ Operator.words := by
  intro w hw hop
  have hleft := (extract_of_division (Division.ofWords ws)).1
  rw [hleft] at hw
  obtain ⟨i, hi, hword⟩ := List.mem_filterMap.1 (mem_of_mem_dropLast_append hw)
  obtain rfl := eq_word_of_word? hword
  exact (Division.ofWords ws).plain _ hi (Operator.mem_words_iff.1 hop)

theorem extract_eq_self_iff : extract ws = (ws, {}) ↔ ∀ w ∈ ws.dropLast, w ∉ Operator.words := by
  refine ⟨fun h => ?_, extract_eq_self⟩
  have hleft : ∀ w ∈ (extract ws).1.dropLast, w ∉ Operator.words := not_mem_words_of_left
  rwa [h] at hleft

/-- **Redirections are all found in one pass.** Nothing is taken from a list of words exactly when no word but
perhaps the last is an operator. The words that are left by one pass are such a list, and so any number of
further passes leaves them as they are and finds no redirection. -/
theorem extract_extract (ws : List String) :
    (extract ws = (ws, {}) ↔ ∀ w ∈ ws.dropLast, w ∉ Operator.words) ∧
      extract (extract ws).1 = ((extract ws).1, {}) ∧
      ∀ n, extract ((fun vs => (extract vs).1)^[n + 1] ws) = ((extract ws).1, {}) := by
  have hfixed : extract (extract ws).1 = ((extract ws).1, {}) := extract_eq_self not_mem_words_of_left
  refine ⟨extract_eq_self_iff, hfixed, fun n => ?_⟩
  rw [Function.iterate_succ_apply, Function.iterate_fixed (congrArg Prod.fst hfixed)]
  exact hfixed

/-! ## Where words and targets come from -/

theorem mem_of_mem_left {w : String} (h : w ∈ (extract ws).1) : w ∈ ws := by
  have hleft := (extract_of_division (Division.ofWords ws)).1
  have hwords := (Division.ofWords ws).words_eq
  rw [hleft, List.mem_append] at h
  rw [← hwords, List.mem_append]
  refine h.imp (fun hitem => ?_) id
  obtain ⟨i, hi, hword⟩ := List.mem_filterMap.1 hitem
  obtain rfl := eq_word_of_word? hword
  exact List.mem_flatMap.2 ⟨_, hi, List.mem_singleton_self w⟩

theorem exists_item_of_lastTarget {items : List Item} {s : Stream} {t : Target}
    (h : Item.lastTarget items s = some t) :
    ∃ op path, Item.redirect op path ∈ items ∧ t.path = Path.ofString path := by
  obtain ⟨⟨s', t'⟩, hlast, rfl⟩ := Option.map_eq_some_iff.1 h
  obtain ⟨i, hi, hredirect⟩ := List.mem_filterMap.1 (List.mem_of_mem_filter (List.mem_of_getLast? hlast))
  cases i with
  | word w => cases hredirect
  | redirect op path =>
    cases hredirect
    exact ⟨op, path, hi, rfl⟩

theorem exists_word_of_target {s : Stream} {t : Target} (h : (extract ws).2.target s = some t) :
    ∃ path ∈ ws, t.path = Path.ofString path := by
  have hwords := (Division.ofWords ws).words_eq
  rw [(extract_of_division (Division.ofWords ws)).2 s] at h
  obtain ⟨op, path, hitem, hpath⟩ := exists_item_of_lastTarget h
  refine ⟨path, ?_, hpath⟩
  rw [← hwords]
  exact List.mem_append_left _ (List.mem_flatMap.2 ⟨_, hitem, by simp [Item.words]⟩)

end Redirection

/-! ## Commands of lines -/

namespace Command

/-- Nothing in the command is empty, unless it has no name and then no arguments, and no word of it but perhaps the
last is an operator. -/
structure WellFormed (c : Command) : Prop where
  args_of_name : c.name = "" → c.args = []
  arg_ne_empty : ∀ a ∈ c.args, a ≠ ""
  path_ne_empty : ∀ s t, c.redirection.target s = some t → t.path.bytes ≠ []
  not_operator : ∀ w ∈ (c.name :: c.args).dropLast, w ∉ Operator.words

variable {line : String}

theorem ne_empty_of_mem_left {w : String} (h : w ∈ (Redirection.extract (splitWords line)).1) : w ≠ "" :=
  ne_empty_of_mem_splitWords (Redirection.mem_of_mem_left h)

theorem name_parse_eq_empty_iff :
    (parse line).name = "" ↔ (Redirection.extract (splitWords line)).1 = [] := by
  rw [parse_eq]
  cases hleft : (Redirection.extract (splitWords line)).1 with
  | nil => exact iff_of_true rfl rfl
  | cons name args =>
    have hmem : name ∈ (Redirection.extract (splitWords line)).1 := by
      rw [hleft]
      exact List.mem_cons_self
    exact iff_of_false (ne_empty_of_mem_left hmem) (List.cons_ne_nil _ _)

theorem WellFormed.of_line (line : String) : (parse line).WellFormed where
  args_of_name h := by
    have hnone := name_parse_eq_empty_iff.1 h
    rw [parse_eq, hnone]
    rfl
  arg_ne_empty a ha := by
    rw [parse_eq] at ha
    exact ne_empty_of_mem_left (List.mem_of_mem_tail ha)
  path_ne_empty s t ht := by
    rw [parse_eq] at ht
    obtain ⟨path, hpath, heq⟩ := Redirection.exists_word_of_target ht
    intro hbytes
    have hempty : Path.ofString path = Path.ofString "" := by
      rw [← heq]
      exact congrArg Path.mk hbytes
    exact ne_empty_of_mem_splitWords hpath (Path.ofString_injective hempty)
  not_operator := by
    rw [parse_eq]
    have hleft : ∀ w ∈ (Redirection.extract (splitWords line)).1.dropLast, w ∉ Operator.words :=
      Redirection.not_mem_words_of_left
    cases hwords : (Redirection.extract (splitWords line)).1 with
    | nil => exact List.forall_mem_nil _
    | cons name args => rwa [hwords] at hleft

/-- **The command of a line.** It has no name exactly when no word is left beside the redirections, and then it has
no arguments. No argument and no path name is empty, and no word is an operator, unless it is the last. So a line is
carried out exactly when a word is left of it. -/
theorem wellFormed_parse (line : String) :
    ((parse line).name = "" ↔ (Redirection.extract (splitWords line)).1 = []) ∧ (parse line).WellFormed ∧
      ∀ sh : Shell, sh.handle line = (do
        let (r, errors) ← (parse line).redirection.prepare sh.state.currentDir
        reportAll Sink.console errors
        if (Redirection.extract (splitWords line)).1 = [] then return sh
        else sh.performOver Sink.console (parse line) r) := by
  refine ⟨name_parse_eq_empty_iff, .of_line line, fun sh => ?_⟩
  have hempty : (parse line).isEmpty = true ↔ (Redirection.extract (splitWords line)).1 = [] := by
    rw [isEmpty, String.isEmpty_iff, name_parse_eq_empty_iff]
  simp only [Shell.handle, Shell.handleOver, Shell.runOver, hempty]

end Command

end LineShell
