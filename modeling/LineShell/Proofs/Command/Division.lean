import LineShell.Proofs.Command.Rendering

/-!
# Dividing the words of a line

The words of a line are divided from the left. A word that is no operator stands alone, and an operator takes
the next word with it, which may be an operator as well. An operator that is left at the end stands alone.
There is exactly one such division, and it is the one by which redirections are told from the other words.

* `Division.divide_eq`: a division is what `divide` computes from its words.
* `Redirection.extract_of_division`: the words and the redirections that a division leads to.
* `Redirection.extract_division`: all this for every list of words, and no word is lost.
-/

namespace LineShell

namespace Operator

def all : List Operator := [out, outOne, outAppend, outOneAppend, err, errAppend]

/-- The operator that is written `w`. -/
def ofWord? (w : String) : Option Operator :=
  all.find? (·.word == w)

@[simp] theorem ofWord?_word (op : Operator) : ofWord? op.word = some op := by
  cases op <;> decide

theorem word_of_ofWord? {w : String} {op : Operator} (h : ofWord? w = some op) : op.word = w := by
  have hword := List.find?_some h
  exact beq_iff_eq.1 hword

end Operator

namespace Item

theorem not_looksLikeOperator_word {w : String} :
    ¬ (word w).LooksLikeOperator ↔ Operator.ofWord? w = none := by
  rw [Option.eq_none_iff_forall_ne_some]
  constructor
  · intro h op hop
    exact h ⟨op, by rw [op.word_of_ofWord? hop]⟩
  · rintro h ⟨op, hw⟩
    obtain rfl := word.inj hw
    exact h op op.ofWord?_word

theorem not_looksLikeOperator_redirect (op : Operator) (path : String) :
    ¬ (redirect op path).LooksLikeOperator := by
  rintro ⟨op', h⟩
  cases h

end Item

/-- Nothing but the last can be the optional one. -/
theorem mem_of_mem_dropLast_append {α β : Type} {as : List α} {o : Option β} {f : β → α} {a : α}
    (h : a ∈ (as ++ o.toList.map f).dropLast) : a ∈ as := by
  cases o with
  | none => exact List.dropLast_subset _ (by simpa using h)
  | some b => simpa using h

/-! ## Divisions -/

/-- A division of the words `ws`: items, of which no word is written like an operator, and at the end perhaps an
operator that has nothing after it. -/
@[ext]
structure Division (ws : List String) where
  items : List Item
  dangling : Option Operator
  plain : ∀ i ∈ items, ¬ i.LooksLikeOperator
  words_eq : items.flatMap Item.words ++ dangling.toList.map Operator.word = ws

/-- The division of a list of words, from the left. -/
def divide : List String → List Item × Option Operator
  | [] => ([], none)
  | [w] =>
    match Operator.ofWord? w with
    | some op => ([], some op)
    | none => ([.word w], none)
  | w :: v :: ws =>
    match Operator.ofWord? w with
    | some op => (divide ws).map (.redirect op v :: ·) id
    | none => (divide (v :: ws)).map (.word w :: ·) id

theorem divide_operator (op : Operator) (v : String) (ws : List String) :
    divide (op.word :: v :: ws) = (divide ws).map (.redirect op v :: ·) id := by
  rw [divide, op.ofWord?_word]

theorem divide_word {w : String} (h : ¬ (Item.word w).LooksLikeOperator) (ws : List String) :
    divide (w :: ws) = (divide ws).map (.word w :: ·) id := by
  have hw := Item.not_looksLikeOperator_word.1 h
  cases ws with
  | nil =>
    simp only [divide, hw]
    rfl
  | cons v ws => rw [divide, hw]

theorem plain_divide (ws : List String) : ∀ i ∈ (divide ws).1, ¬ i.LooksLikeOperator := by
  fun_induction divide ws with
  | case1 => exact List.forall_mem_nil _
  | case2 w op hw => exact List.forall_mem_nil _
  | case3 w hw => exact List.forall_mem_singleton.2 (Item.not_looksLikeOperator_word.2 hw)
  | case4 w v ws op hw ih => exact List.forall_mem_cons.2 ⟨Item.not_looksLikeOperator_redirect op v, ih⟩
  | case5 w v ws hw ih => exact List.forall_mem_cons.2 ⟨Item.not_looksLikeOperator_word.2 hw, ih⟩

theorem words_divide (ws : List String) :
    (divide ws).1.flatMap Item.words ++ (divide ws).2.toList.map Operator.word = ws := by
  fun_induction divide ws with
  | case1 => rfl
  | case2 w op hw => exact congrArg (fun w => [w]) (op.word_of_ofWord? hw)
  | case3 w hw => rfl
  | case4 w v ws op hw ih =>
    rw [← op.word_of_ofWord? hw]
    exact congrArg (fun ws => op.word :: v :: ws) ih
  | case5 w v ws hw ih => exact congrArg (w :: ·) ih

namespace Division

/-- Every list of words has a division. -/
def ofWords (ws : List String) : Division ws where
  items := (divide ws).1
  dangling := (divide ws).2
  plain := plain_divide ws
  words_eq := words_divide ws

theorem divide_words (items : List Item) (dangling : Option Operator)
    (hplain : ∀ i ∈ items, ¬ i.LooksLikeOperator) :
    divide (items.flatMap Item.words ++ dangling.toList.map Operator.word) = (items, dangling) := by
  -- Each item is found again at the front of the words that are left.
  induction items with
  | nil =>
    cases dangling with
    | none => rfl
    | some op =>
      show divide [op.word] = ([], some op)
      rw [divide, op.ofWord?_word]
  | cons i items ih =>
    obtain ⟨hi, hrest⟩ := List.forall_mem_cons.1 hplain
    rw [List.flatMap_cons, List.append_assoc]
    cases i with
    | word w => exact (divide_word hi _).trans (congrArg (Prod.map (.word w :: ·) id) (ih hrest))
    | redirect op path =>
      exact (divide_operator op path _).trans (congrArg (Prod.map (.redirect op path :: ·) id) (ih hrest))

/-- **A division can be computed from its words.** -/
theorem divide_eq {ws : List String} (d : Division ws) : divide ws = (d.items, d.dangling) := by
  obtain ⟨items, dangling, hplain, rfl⟩ := d
  exact divide_words items dangling hplain

instance (ws : List String) : Subsingleton (Division ws) where
  allEq d d' := by
    have h := d.divide_eq.symm.trans d'.divide_eq
    exact Division.ext (congrArg Prod.fst h) (congrArg Prod.snd h)

/-- The items, with the operator at the end taken for a word. -/
def parts {ws : List String} (d : Division ws) : List Item :=
  d.items ++ d.dangling.toList.map fun op => .word op.word

variable {ws : List String} (d : Division ws)

theorem words_parts : d.parts.flatMap Item.words = ws := by
  have hlast : (d.dangling.toList.map fun op => Item.word op.word).flatMap Item.words =
      d.dangling.toList.map Operator.word := by
    cases d.dangling <;> rfl
  rw [parts, List.flatMap_append, hlast, d.words_eq]

theorem plain_parts : ∀ i ∈ d.parts.dropLast, ¬ i.LooksLikeOperator := by
  intro i hi
  exact d.plain i (mem_of_mem_dropLast_append hi)

end Division

/-! ## Taking words apart -/

namespace Redirection

/-- **What a division leads to**: its single words are left in their order, and for each stream the last
operator counts. -/
theorem extract_of_division {ws : List String} (d : Division ws) :
    (extract ws).1 = d.items.filterMap Item.word? ++ d.dangling.toList.map Operator.word ∧
      ∀ s, (extract ws).2.target s = Item.lastTarget d.items s := by
  have hextract := extract_items d.parts d.plain_parts
  rw [d.words_parts] at hextract
  -- The operator at the end is a word like any other.
  have hwords : d.parts.filterMap Item.word? =
      d.items.filterMap Item.word? ++ d.dangling.toList.map Operator.word := by
    rw [Division.parts, List.filterMap_append]
    cases d.dangling <;> rfl
  have hredirects : d.parts.filterMap Item.redirect? = d.items.filterMap Item.redirect? := by
    rw [Division.parts, List.filterMap_append]
    cases d.dangling <;> exact List.append_nil _
  rw [hextract, hwords, hredirects]
  exact ⟨rfl, target_setAll _⟩

/-- Each item holds one single word, or the two words of a redirection. -/
theorem length_words (items : List Item) :
    (items.flatMap Item.words).length =
      (items.filterMap Item.word?).length + 2 * (items.filterMap Item.redirect?).length := by
  induction items with
  | nil => rfl
  | cons i items ih =>
    rw [List.flatMap_cons, List.length_append, ih]
    cases i with
    | word w =>
      simp only [Item.words, Item.word?, Item.redirect?, List.filterMap_cons, List.length_cons, List.length_nil]
      omega
    | redirect op path =>
      simp only [Item.words, Item.word?, Item.redirect?, List.filterMap_cons, List.length_cons, List.length_nil]
      omega

/-- **How words are taken apart.** Every list of words has exactly one division. The words that are left are its
single words in their order, with the operator at its end; the target of a stream is the one that the last
operator for this stream names; and each word is either left or belongs to one of the redirections. -/
theorem extract_division (ws : List String) :
    ∃ d : Division ws, (∀ d' : Division ws, d' = d) ∧
      (extract ws).1 = d.items.filterMap Item.word? ++ d.dangling.toList.map Operator.word ∧
      (∀ s, (extract ws).2.target s = Item.lastTarget d.items s) ∧
      ws.length = (extract ws).1.length + 2 * (d.items.filterMap Item.redirect?).length := by
  obtain ⟨hwords, htargets⟩ := extract_of_division (Division.ofWords ws)
  refine ⟨Division.ofWords ws, fun d' => Subsingleton.elim _ _, hwords, htargets, ?_⟩
  have hlength := congrArg List.length (Division.ofWords ws).words_eq
  rw [List.length_append, length_words] at hlength
  rw [hwords, List.length_append]
  omega

/-- In a run of operators every other one is a path name. -/
example : extract [">", ">", "2>", "2>", "a", ">>"] =
    (["a", ">>"], ⟨some ⟨Path.ofString ">", false⟩, some ⟨Path.ofString "2>", false⟩⟩) := by
  decide +kernel

end Redirection

end LineShell
