import LineShell.Machine.Script.Pattern
import LineShell.Machine.Script.Reader

/-!
# Fields

What a word expands to is a text in which some stretches are cut into fields: values that are not
quoted at the characters that separate words, and the arguments of a script at the borders between
them. The fields then name files, or stand for themselves.
-/

namespace LineShell.Script

/-- A character of an expansion's result. -/
inductive Glyph where
  | plain (c : Char)
  /-- A character that stands for itself in patterns. -/
  | escaped (c : Char)
  /-- Quotes begin or end here. -/
  | mark
  /-- The border between two arguments. -/
  | border
deriving DecidableEq, Repr

/-- Where a stretch of text is cut into fields. -/
inductive Splitting where
  | never
  /-- At the characters that separate words. -/
  | atSeparators
  /-- At the borders between arguments. -/
  | atBorders
deriving DecidableEq, Repr

/-- A stretch of text. -/
structure Stretch where
  splitting : Splitting
  glyphs : List Glyph

namespace Glyph

/-- The character of a glyph. -/
def char? : Glyph → Option Char
  | .plain c | .escaped c => some c
  | .mark | .border => none

/-- The text of glyphs. -/
def text (gs : List Glyph) : Chars :=
  gs.filterMap char?

/-- The glyphs of a value; in quotes, characters that mean something in patterns are escaped. -/
def ofValue (quoted : Bool) (cs : Chars) : List Glyph :=
  cs.map fun c =>
    if quoted && (c = '\\' || quotableChars.contains c) then .escaped c else .plain c

/-- The pattern that glyphs write. `isOpen` tells that no backslash takes the meaning of the next one
away, and `inQuotes` that it stands in quotes. -/
def patternFrom (isOpen inQuotes : Bool) : List Glyph → Chars
  | [] => []
  | .mark :: gs => patternFrom isOpen (!inQuotes) gs
  | .border :: gs => patternFrom isOpen inQuotes gs
  | .plain '\\' :: gs => '\\' :: patternFrom (!isOpen) inQuotes gs
  | .plain c :: gs => c :: patternFrom true inQuotes gs
  | .escaped c :: gs =>
    let before := if isOpen then ['\\'] else if inQuotes then ['\\', '\\'] else []
    before ++ c :: patternFrom true inQuotes gs

/-- The pattern that glyphs write. -/
def pattern (gs : List Glyph) : Chars :=
  patternFrom true false gs

end Glyph

/-- The glyphs of a text in stretches. -/
def glyphsOf (stretches : List Stretch) : List Glyph :=
  stretches.flatMap (·.glyphs)

/-- A text that is being cut into fields. -/
structure Cutting where
  /-- The fields that are complete, the last one first. -/
  fields : List (List Glyph) := []
  /-- The field in progress, last glyph first. -/
  current : List Glyph := []
  /-- Only blanks have been read since the last field. -/
  afterBlanks : Bool := false
  /-- How many more fields may be cut off; none if there is no limit. -/
  left : Option Nat := none
  /-- How much of the field in progress stays if nothing but separators follows. -/
  kept : Option Nat := none

namespace Cutting

/-- The character is a blank that separates words. -/
def isBlank (c : Char) : Bool :=
  c = ' ' || c = '\t' || c = '\n'

/-- Read a glyph. `separates` tells what it does, and with `exact` blanks are separators like all
others. -/
def step (separates : Glyph → Bool) (exact : Bool) (k : Cutting) (g : Glyph) : Cutting :=
  let here := separates g
  let blank := here && (g.char?.all isBlank)
  if k.left = some 0 then
    let k' := { k with current := g :: k.current }
    if blank then { k' with kept := some (k.kept.getD k.current.length) }
    else { k' with kept := if here && k.afterBlanks then k.kept else none, afterBlanks := false }
  else if k.afterBlanks && blank then { k with current := [] }
  else if k.afterBlanks && here then { k with current := [], afterBlanks := false }
  else
    let k := if k.afterBlanks then { k with current := [] } else k
    if here then
      let afterBlanks := !exact && blank
      if k.current.isEmpty && afterBlanks then { k with afterBlanks := false }
      else
        match k.left with
        | some 1 =>
          { k with
            left := some 0
            kept := some k.current.length
            current := g :: k.current
            afterBlanks := afterBlanks }
        | left =>
          { k with
            fields := k.current.reverse :: k.fields
            current := []
            left := left.map (· - 1)
            afterBlanks := afterBlanks }
    else { k with current := g :: k.current, afterBlanks := false }

/-- Read a stretch; `before` is the stretch before it that was cut at all. -/
def addStretch (ifs : Chars) (before : Splitting) (k : Cutting) (s : Stretch) : Cutting :=
  match s.splitting with
  | .never => { k with current := s.glyphs.reverse ++ k.current }
  | .atSeparators =>
    let separates (g : Glyph) : Bool := g = .border || g.char?.any ifs.contains
    s.glyphs.foldl (step separates (before = .atBorders)) { k with afterBlanks := false }
  | .atBorders => s.glyphs.foldl (step (· = .border) true) { k with afterBlanks := false }

/-- Read stretches; the result tells how the last one that was cut was cut. -/
def addAll (ifs : Chars) (before : Splitting) (k : Cutting) : List Stretch → Cutting × Splitting
  | [] => (k, before)
  | s :: ss =>
    let k := k.addStretch ifs before s
    addAll ifs (if s.splitting = .never then before else s.splitting) k ss

/-- All fields of a text. -/
def finish (k : Cutting) (last : Splitting) : List (List Glyph) :=
  let current := match k.kept with
    | some n => k.current.drop (k.current.length - n)
    | none => k.current
  let fields := if current.isEmpty && last ≠ .atBorders then k.fields
    else current.reverse :: k.fields
  fields.reverse

end Cutting

/-- The fields of a text in stretches; at most `limit` of them, if there is a limit. -/
def fieldsOf (ifs : Chars) (limit : Option Nat) (stretches : List Stretch) : List (List Glyph) :=
  let start : Cutting := { left := limit }
  let (k, last) := start.addAll ifs .never stretches
  k.finish last

/-- The words that a field stands for. -/
def wordsOf (t : FileTree) (v : FileTree.Viewer) (field : List Glyph) : List Chars :=
  let text := Glyph.text field
  if text.any fun c => c = '*' || c = '?' || c = '[' then
    match filesMatching t v (Glyph.pattern field) with
    | [] => [text]
    | names => names
  else [text]

end LineShell.Script
