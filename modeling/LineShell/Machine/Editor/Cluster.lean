import LineShell.Machine.Editor.Cluster.Table

/-!
# User-perceived characters

A text is cut into clusters, each of which a reader takes for one character: a letter with its marks,
a Hangul syllable, a pair of regional indicators, a joined sequence of pictographs, a conjunct of
Indic consonants. The cut follows the extended grapheme clusters of Unicode's text segmentation.
-/

namespace LineShell

namespace Cluster

/-- The class of a character that decides where a text may be cut. -/
inductive BreakClass where
  | carriageReturn
  | lineFeed
  | control
  | extend
  | joiner
  | regional
  | prepend
  | spacing
  | leading
  | vowel
  | trailing
  | syllable
  | closedSyllable
  | other
deriving DecidableEq, Repr

/-- The code point `n` lies in one of the ranges. -/
def within (ranges : List (Nat × Nat)) (n : Nat) : Bool :=
  ranges.any fun r => r.1 ≤ n && n ≤ r.2

/-- The class of a character. -/
def breakClass (c : Char) : BreakClass :=
  let n := c.toNat
  if n == 0x0D then .carriageReturn
  else if n == 0x0A then .lineFeed
  else if n == 0x200D then .joiner
  else if 0x20 ≤ n && n ≤ 0x7E then .other
  else if within controlRanges n then .control
  else if within extendRanges n then .extend
  else if 0x1F1E6 ≤ n && n ≤ 0x1F1FF then .regional
  else if within prependRanges n then .prepend
  else if within spacingRanges n then .spacing
  else if (0x1100 ≤ n && n ≤ 0x115F) || (0xA960 ≤ n && n ≤ 0xA97C) then .leading
  else if (0x1160 ≤ n && n ≤ 0x11A7) || (0xD7B0 ≤ n && n ≤ 0xD7C6) || n == 0x16D63 ||
      (0x16D67 ≤ n && n ≤ 0x16D6A) then .vowel
  else if (0x11A8 ≤ n && n ≤ 0x11FF) || (0xD7CB ≤ n && n ≤ 0xD7FB) then .trailing
  else if 0xAC00 ≤ n && n ≤ 0xD7A3 then
    if (n - 0xAC00) % 28 == 0 then .syllable else .closedSyllable
  else .other

/-- What the characters of the cluster in progress say about the next one. -/
structure Standing where
  /-- The class of the last character. -/
  last : BreakClass
  /-- The cluster ends in a pictograph that only marks follow. -/
  pictograph : Bool
  /-- The cluster ends in a pictograph, marks and a joiner. -/
  joined : Bool
  /-- The cluster ends in an odd number of regional indicators. -/
  oddRegional : Bool
  /-- The cluster ends in an Indic consonant with marks and linkers. -/
  consonant : Bool
  /-- One of these is a linker. -/
  linked : Bool
deriving DecidableEq, Repr

/-- The standing after `c`, where `before` is the standing in the same cluster, if `c` has not
opened it. -/
def Standing.after (before : Option Standing) (c : Char) : Standing :=
  let n := c.toNat
  let k := breakClass c
  let linker := within linkerRanges n
  let mark := (k == .extend || k == .joiner) && n != 0x200C
  { last := k
    pictograph := within pictographRanges n || (k == .extend && before.any (·.pictograph))
    joined := k == .joiner && before.any (·.pictograph)
    oddRegional := k == .regional && !before.any (·.oddRegional)
    consonant := within consonantRanges n || (mark && before.any (·.consonant))
    linked := mark && before.any fun s => s.consonant && (s.linked || linker) }

/-- The character `c` belongs to the cluster that stands at `s`. -/
def Standing.joins (s : Standing) (c : Char) : Bool :=
  let k := breakClass c
  match s.last, k with
  | .carriageReturn, .lineFeed => true
  | .carriageReturn, _ | .lineFeed, _ | .control, _ => false
  | _, .carriageReturn | _, .lineFeed | _, .control => false
  | .leading, .leading | .leading, .vowel | .leading, .syllable | .leading, .closedSyllable => true
  | .syllable, .vowel | .syllable, .trailing | .vowel, .vowel | .vowel, .trailing => true
  | .closedSyllable, .trailing | .trailing, .trailing => true
  | _, .extend | _, .joiner | _, .spacing => true
  | .prepend, _ => true
  | _, .regional => s.oddRegional
  | _, _ =>
    (s.joined && within pictographRanges c.toNat) || (s.linked && within consonantRanges c.toNat)

/-- Cut `cs` into clusters, the first of which continues `cur`, last character first. -/
def cutFrom (s : Standing) (cur : List Char) : List Char → List (List Char)
  | [] => [cur.reverse]
  | c :: cs =>
    if s.joins c then cutFrom (Standing.after (some s) c) (c :: cur) cs
    else cur.reverse :: cutFrom (Standing.after none c) [c] cs

/-- The clusters of a text. -/
def cut : List Char → List (List Char)
  | [] => []
  | c :: cs => cutFrom (Standing.after none c) [c] cs

theorem flatten_cutFrom (s : Standing) (cur cs : List Char) :
    (cutFrom s cur cs).flatten = cur.reverse ++ cs := by
  induction cs generalizing s cur with
  | nil => simp [cutFrom]
  | cons c cs ih =>
    simp only [cutFrom]
    split <;> simp [ih]

/-- Nothing is lost in the cut. -/
theorem flatten_cut (cs : List Char) : (cut cs).flatten = cs := by
  cases cs with
  | nil => rfl
  | cons c cs => simp [cut, flatten_cutFrom]

end Cluster

end LineShell
