import LineShell.Command
import LineShell.Proofs.Word.Layout
import Mathlib.Data.List.Induction

/-!
# Written commands

A command is written as a list of *items*: words, and redirections, each an operator and a path name.
Redirections may stand anywhere among the words.

* `extract_items`: the words of the items are taken apart again into words and redirections, as long as
  no word before the last item looks like an operator.
* `parse_layout`: parsing undoes writing, however the words are quoted and spaced.
-/

namespace LineShell

/-! ## Operators -/

/-- The operators of redirections. -/
inductive Operator where
  | out
  | outOne
  | outAppend
  | outOneAppend
  | err
  | errAppend
deriving DecidableEq, Repr

namespace Operator

/-- How an operator is written. -/
def word : Operator → String
  | out => ">"
  | outOne => "1>"
  | outAppend => ">>"
  | outOneAppend => "1>>"
  | err => "2>"
  | errAppend => "2>>"

/-- The stream that an operator redirects. -/
def stream : Operator → Stream
  | out | outOne | outAppend | outOneAppend => .stdout
  | err | errAppend => .stderr

/-- Whether an operator's target keeps what it holds. -/
def append : Operator → Bool
  | out | outOne | err => false
  | outAppend | outOneAppend | errAppend => true

end Operator

namespace Redirection

theorem operator?_word (op : Operator) : operator? op.word = some (op.stream, op.append) := by
  cases op <;> rfl

theorem operator?_eq_none {w : String} (h : ∀ op : Operator, w ≠ op.word) : operator? w = none := by
  unfold operator?
  split
  · exact absurd rfl (h .out)
  · exact absurd rfl (h .outOne)
  · exact absurd rfl (h .outAppend)
  · exact absurd rfl (h .outOneAppend)
  · exact absurd rfl (h .err)
  · exact absurd rfl (h .errAppend)
  · rfl

end Redirection

/-! ## Items -/

/-- A part of a command. -/
inductive Item where
  | word (w : String)
  | redirect (op : Operator) (path : String)
deriving DecidableEq, Repr

namespace Item

/-- The words in which an item is written. -/
def words : Item → List String
  | word w => [w]
  | redirect op path => [op.word, path]

/-- The item's word, if it is no redirection. -/
def word? : Item → Option String
  | word w => some w
  | redirect _ _ => none

/-- The item's redirection, if it is one. -/
def redirect? : Item → Option (Stream × Target)
  | word _ => none
  | redirect op path => some (op.stream, ⟨Path.ofString path, op.append⟩)

/-- The item is a word that is written like an operator. -/
def LooksLikeOperator (i : Item) : Prop :=
  ∃ op : Operator, i = word op.word

/-- The last target that the items name for the stream `s`. -/
def lastTarget (items : List Item) (s : Stream) : Option Target :=
  ((items.filterMap redirect?).filter (·.1 = s)).getLast?.map (·.2)

theorem words_ne_nil (i : Item) : i.words ≠ [] := by
  cases i <;> simp [words]

end Item

/-! ## Taking items apart -/

namespace Redirection

/-- The redirections `ts` set on top of `r`, one after the other. -/
def setAll (r : Redirection) (ts : List (Stream × Target)) : Redirection :=
  ts.foldl (fun r t => r.set t.1 t.2) r

theorem extractOver_items (items : List Item) (r : Redirection)
    (h : ∀ i ∈ items.dropLast, ¬ i.LooksLikeOperator) :
    extractOver r (items.flatMap Item.words) =
      (items.filterMap Item.word?, r.setAll (items.filterMap Item.redirect?)) := by
  induction items generalizing r with
  | nil => rfl
  | cons i items ih =>
    have hrest : ∀ r, extractOver r (items.flatMap Item.words) =
        (items.filterMap Item.word?, r.setAll (items.filterMap Item.redirect?)) := by
      refine fun r => ih r fun j hj => h j ?_
      cases items with
      | nil => simp at hj
      | cons i' rest => simp [hj]
    cases i with
    | redirect op path =>
      have hset := hrest (r.set op.stream ⟨Path.ofString path, op.append⟩)
      rw [List.flatMap_cons, Item.words]
      simp only [List.cons_append, List.nil_append, extractOver, operator?_word, hset]
      rfl
    | word w =>
      cases items with
      | nil => rfl
      | cons i' rest =>
        have hw : operator? w = none :=
          operator?_eq_none fun op he => h (.word w) (by simp) ⟨op, by rw [he]⟩
        obtain ⟨v, vs, hv⟩ := List.exists_cons_of_ne_nil
          (show (i' :: rest).flatMap Item.words ≠ [] by simp [Item.words_ne_nil])
        have htail := hrest r
        rw [hv] at htail
        rw [List.flatMap_cons, hv]
        simp only [Item.words, List.singleton_append, extractOver, hw, htail]
        rfl

theorem extract_items (items : List Item) (h : ∀ i ∈ items.dropLast, ¬ i.LooksLikeOperator) :
    extract (items.flatMap Item.words) =
      (items.filterMap Item.word?, setAll {} (items.filterMap Item.redirect?)) :=
  extractOver_items items {} h

theorem target_setAll (ts : List (Stream × Target)) (s : Stream) :
    (setAll {} ts).target s = (ts.filter (·.1 = s)).getLast?.map (·.2) := by
  induction ts using List.reverseRecOn with
  | nil => cases s <;> rfl
  | append_singleton ts t ih =>
    obtain ⟨s', t⟩ := t
    rw [setAll, List.foldl_append, List.foldl_cons, List.foldl_nil, List.filter_append]
    by_cases hs : s' = s
    · subst hs
      simp [target_set_self]
    · rw [target_set_of_ne _ _ (Ne.symm hs)]
      simpa [hs, setAll] using ih

end Redirection

namespace Command

theorem ofWords_items (items : List Item) (h : ∀ i ∈ items.dropLast, ¬ i.LooksLikeOperator) :
    ofWords (items.flatMap Item.words) =
      ⟨(items.filterMap Item.word?).headD "", (items.filterMap Item.word?).tail,
        Redirection.setAll {} (items.filterMap Item.redirect?)⟩ := by
  rw [ofWords_eq, Redirection.extract_items items h]

/-- **Parsing undoes writing.** -/
theorem parse_layout (items : List Item) (l : Layout) (hwritten : l.words = items.flatMap Item.words)
    (hne : ∀ i ∈ items, "" ∉ i.words) (hop : ∀ i ∈ items.dropLast, ¬ i.LooksLikeOperator) :
    (parse l.text).name = (items.filterMap Item.word?).headD "" ∧
      (parse l.text).args = (items.filterMap Item.word?).tail ∧
      ∀ s, (parse l.text).redirection.target s = Item.lastTarget items s := by
  have hfilter : l.words.filter (· ≠ "") = l.words := by
    rw [hwritten, List.filter_eq_self]
    intro w hw
    obtain ⟨i, hi, hmem⟩ := List.mem_flatMap.1 hw
    exact decide_eq_true fun he => hne i hi (he ▸ hmem)
  have hparse : parse l.text = ofWords (items.flatMap Item.words) := by
    rw [parse, splitWords_layout, hfilter, hwritten]
  rw [hparse, ofWords_items items hop]
  exact ⟨rfl, rfl, Redirection.target_setAll _⟩

/-- A redirection before the name and one between the arguments, a path name that is an operator word, two
targets for one stream, and an operator word at the end. -/
def mixedItems : List Item :=
  [.redirect .errAppend "a", .word "echo", .redirect .out ">", .word "x\"y", .redirect .err "'e",
    .word ">"]

/-- The items written with all kinds of quotes. -/
def mixedLayout : Layout where
  lead := []
  slots :=
    [(⟨[.single ['2', '>', '>'] (by decide)], by simp [Piece.isSeparator]⟩, [' ']),
      (⟨[.bare 'a' (by decide)], by simp [Piece.isSeparator]⟩, ['\t', ' ']),
      (⟨[.bare 'e' (by decide), .escape 'c', .single ['h', 'o'] (by decide)],
        by simp [Piece.isSeparator]⟩, [' ']),
      (⟨[.escape '>'], by simp [Piece.isSeparator]⟩, [' ']),
      (⟨[.bare '>' (by decide)], by simp [Piece.isSeparator]⟩, [' ']),
      (⟨[.double [.plain 'x' (by decide), .pair '"' (by decide), .plain 'y' (by decide)]],
        by simp [Piece.isSeparator]⟩, [' ']),
      (⟨[.bare '2' (by decide), .bare '>' (by decide)], by simp [Piece.isSeparator]⟩, [' ']),
      (⟨[.double [], .escape '\'', .bare 'e' (by decide)], by simp [Piece.isSeparator]⟩, [' ']),
      (⟨[.bare '>' (by decide)], by simp [Piece.isSeparator]⟩, [])]
  lead_blank := by simp
  gap_blank := by simp [isBlank]
  gap_ne_nil := by simp

/-- Read back from `'2>>' a e\c'ho' \> > "x\"y" 2> ""\'e >`, with a tab before the second blank. -/
theorem parse_layout_mixed :
    mixedLayout.words = mixedItems.flatMap Item.words ∧ (∀ i ∈ mixedItems, "" ∉ i.words) ∧
      (parse mixedLayout.text).name = "echo" ∧ (parse mixedLayout.text).args = ["x\"y", ">"] ∧
      (parse mixedLayout.text).redirection.target .stdout = some ⟨Path.ofString ">", false⟩ ∧
      (parse mixedLayout.text).redirection.target .stderr = some ⟨Path.ofString "'e", false⟩ := by
  have hwords : mixedLayout.words = mixedItems.flatMap Item.words := by decide
  have hne : ∀ i ∈ mixedItems, "" ∉ i.words := by decide
  have hop : ∀ i ∈ mixedItems.dropLast, ¬ i.LooksLikeOperator := by
    rintro i hi ⟨op, rfl⟩
    cases op <;> exact absurd hi (by decide)
  obtain ⟨hname, hargs, htarget⟩ := parse_layout mixedItems mixedLayout hwords hne hop
  exact ⟨hwords, hne, hname, hargs, htarget .stdout, htarget .stderr⟩

end Command

end LineShell
