import LineShell.Machine.Script.Arithmetic
import LineShell.Machine.Script.Fields
import LineShell.Machine.Script.Scope

/-!
# Expansion

How words are replaced by what they stand for: home directories after a tilde, parameters, the
output of commands and the values of expressions. Depending on where a word stands, the result is
one text, a pattern, or fields that name files.
-/

namespace LineShell.Script

/-- Where a word stands. -/
structure Place where
  /-- The word is cut into fields. -/
  fields : Bool := false
  /-- A tilde at the beginning stands for a home directory. -/
  tilde : Bool := false
  /-- So does a tilde after the equals sign of an assignment, and after each colon then. -/
  assignment : Bool := false
  /-- The word stands in double quotes. -/
  quoted : Bool := false
  /-- The word takes the place of a parameter, and separators in it count. -/
  substitute : Bool := false

namespace Place

/-- The word of a command. -/
def argument : Place := { fields := true, tilde := true }

/-- A word that is one text. -/
def single : Place := { tilde := true }

/-- An assignment. -/
def assigning : Place := { assignment := true }

/-- A document. -/
def document : Place := { quoted := true }

end Place

/-- The home directories of users who are known. -/
def homes : List (String × String) :=
  [("root", "/root"), ("daemon", "/usr/sbin"), ("bin", "/bin"), ("sys", "/dev"),
    ("nobody", "/nonexistent")]

/-- The letters of all options, in the order in which they are listed. -/
def optionLetters : Chars := "efIimnsxvVECabup".toList

/-- The value of a parameter that stands for one text. -/
def parameter? (s : Scope) (name : Chars) : Option Chars :=
  match name with
  | ['#'] => some (ofNat s.args.length)
  | ['?'] => some (ofNat s.status)
  | ['$'] => some (ofNat s.rootProcess)
  | ['!'] => s.lastJob.map ofNat
  | ['-'] => some (optionLetters.reverse.filter s.option)
  | _ =>
    if name.head?.any Char.isDigit then
      match ofDigits 10 name with
      | 0 => some s.name
      | k + 1 => s.args[k]?
    else s.get? name

/-- The parameter stands for all arguments. -/
def standsForAll (name : Chars) : Bool :=
  name = ['@'] || name = ['*']

/-- The glyphs of all arguments, in quotes or not. -/
def argumentGlyphs (s : Scope) (name : Chars) (place : Place) (quoted : Bool) : List Glyph :=
  let border : List Glyph :=
    if place.fields && (!quoted || name = ['@']) then [.border]
    else ((s.get? "IFS".toList).elim (some ' ') (·.head?)).toList.map .plain
  border.intercalate (s.args.map (Glyph.ofValue quoted))

/-- The glyphs of a parameter's value, if it has one. -/
def parameterGlyphs (s : Scope) (name : Chars) (place : Place) (quoted : Bool) :
    Option (List Glyph) :=
  if standsForAll name then some (argumentGlyphs s name place quoted)
  else (parameter? s name).map (Glyph.ofValue quoted)

/-- The message about a parameter that must be set. -/
def unsetMessage (name : Chars) (message : Chars) : Chars :=
  name ++ ofString ": " ++ message

/-- The text of a missing value. -/
def notSet : Chars := ofString "parameter not set"

/-- The message of an expression that has no value. -/
def arithmeticMessage (expression : Chars) : Arithmetic.Fault → Chars
  | .expression why =>
    ofString s!"arithmetic expression: {why}: \"" ++ expression ++ ['"']
  | .illegalNumber text => ofString "Illegal number: " ++ text
  | .readOnly name => name ++ ofString ": is read only"

/-- The value of an arithmetic expression. -/
def arithmeticValue (expression : Chars) : ScriptM Chars := do
  let s ← get
  let vs : Arithmetic.Variables :=
    { value := s.get?, isFixed := fun x => (s.lookup? x).any (·.isFixed) }
  match Arithmetic.value vs expression with
  | .error e => ScriptM.fail (arithmeticMessage expression e)
  | .ok (v, assigned) =>
    for (name, n) in assigned do
      ScriptM.setVariable name (ofInt n)
    return ofInt v

/-- How the words of a script are expanded: `substitute` runs a command and yields what it writes. -/
structure Expander where
  substitute : Option Statement → ScriptM Chars

namespace Expander

/-- The parts of a word, from a tilde on that stands for a home directory: that directory, and the
parts after it. -/
def takeTilde (s : Scope) (place : Place) (parts : Word) : Option (Chars × Word) :=
  let ends (p : Part) : Bool :=
    match p with
    | .plain c => c = '/' || (c = ':' && place.assignment)
    | _ => false
  let name := parts.takeWhile fun p => !ends p
  match Word.literal? name with
  | none => none
  | some [] => (s.get? "HOME".toList).map (·, parts)
  | some name' =>
    (homes.find? (·.1.toList = name')).map fun h => (h.2.toList, parts.drop name.length)

/-- The state of walking through the parts of a word. -/
structure Walk where
  /-- Double quotes are open. -/
  inQuotes : Bool := false
  /-- A tilde here stands for a home directory. -/
  atTilde : Bool := false
  /-- The equals sign of an assignment has been passed. -/
  afterEquals : Bool := false

/-- A stretch that is not cut. -/
def fixed (glyphs : List Glyph) : Stretch := ⟨.never, glyphs⟩

/-- The stretch of a value. -/
def valueStretch (quoted : Bool) (glyphs : List Glyph) : Stretch :=
  ⟨if quoted then .never else .atSeparators, glyphs⟩

/-- The stretches of a parameter. `inner` expands words. -/
def parameter (inner : Place → Word → ScriptM (List Stretch)) (place : Place) (quoted : Bool)
    (name : Chars) (usage : Usage) (emptyIsNone : Bool) (word : Word) :
    ScriptM (List Stretch) := do
  let s ← get
  if usage = .unknown then ScriptM.fail (ofString "Bad substitution")
  let glyphs := parameterGlyphs s name place quoted
  let glyphs := if emptyIsNone && glyphs = some [] then none else glyphs
  let stretch (gs : List Glyph) : List Stretch :=
    if quoted && name = ['@'] && !s.args.isEmpty then
      [⟨if place.fields then .atBorders else .never, gs⟩]
    else [valueStretch quoted gs]
  let inPlace : ScriptM (List Stretch) :=
    inner { place with tilde := true, substitute := true, quoted := quoted } word
  match usage, glyphs with
  | .default, none | .alternative, some _ => inPlace
  | .alternative, none => return stretch []
  | .assign, none => do
    let value := Glyph.text (glyphsOf (← inner .single word))
    if !isName name then ScriptM.fail (name ++ ofString ": bad variable name")
    ScriptM.setVariable name value
    return stretch (Glyph.ofValue quoted value)
  | .require, none => do
    let message ← if word.isEmpty then
        pure (notSet ++ if emptyIsNone then ofString " or null" else [])
      else do pure (Glyph.text (glyphsOf (← inner .single word)))
    ScriptM.fail (unsetMessage name message)
  | usage, none => do
    if s.option 'u' then ScriptM.fail (unsetMessage name notSet)
    match usage with
    | .length => return stretch (Glyph.ofValue quoted ['0'])
    | _ => return []
  | .length, some gs => return stretch (Glyph.ofValue quoted (ofNat gs.length))
  | .cutFront longest, some gs => do
    let pattern := Glyph.pattern (glyphsOf (← inner .single word))
    return stretch (gs.drop (gs.length - (dropFront longest pattern (Glyph.text gs)).length))
  | .cutBack longest, some gs => do
    let pattern := Glyph.pattern (glyphsOf (← inner .single word))
    return stretch (gs.take (dropBack longest pattern (Glyph.text gs)).length)
  | _, some gs => return stretch gs

/-- The stretches of the parts of a word. `inner` expands the words in them. -/
def walk (x : Expander) (inner : Place → Word → ScriptM (List Stretch)) (place : Place) (n : Nat)
    (w : Walk) (parts : Word) : ScriptM (List Stretch) := do
  match n with
  | 0 => return []
  | n + 1 =>
    let quoted := place.quoted || w.inQuotes
    let go (w : Walk) (rest : Word) : ScriptM (List Stretch) := x.walk inner place n w rest
    let on := { w with atTilde := false }
    match parts with
    | [] => return []
    | .plain c :: rest => do
      let home ← if c = '~' && w.atTilde then pure (takeTilde (← get) place rest) else pure none
      match home with
      | some (home, rest) =>
        return fixed (Glyph.ofValue true home) :: (← go on rest)
      | none =>
        let splits := place.substitute && !place.quoted && !w.inQuotes
        let run := c :: if place.assignment then [] else Word.plainFront rest
        let rest := rest.drop (run.length - 1)
        let here : Stretch := ⟨if splits then .atSeparators else .never, run.map .plain⟩
        let equals := place.assignment && c = '=' && !w.afterEquals
        let on := { on with
          afterEquals := w.afterEquals || equals
          atTilde := equals || (place.assignment && c = ':') }
        return here :: (← go on rest)
    | .escaped c :: rest => return fixed [.escaped c] :: (← go on rest)
    | .mark :: .parameter ['@'] .value false word :: .mark :: rest =>
      if w.inQuotes then
        return fixed [.mark] :: (← go { on with inQuotes := false } (parts.drop 1))
      else do
        let here ← parameter inner place true ['@'] .value false word
        return here ++ (← go on rest)
    | .mark :: rest =>
      return fixed [.mark] :: (← go { on with inQuotes := !w.inQuotes } rest)
    | .parameter name usage emptyIsNone word :: rest => do
      let here ← parameter inner place quoted name usage emptyIsNone word
      return here ++ (← go on rest)
    | .command body :: rest => do
      let output ← x.substitute body
      let value := withoutEndNewlines (output.filter (· ≠ '\x00'))
      return valueStretch quoted (Glyph.ofValue quoted value) :: (← go on rest)
    | .arithmetic expression :: rest => do
      let text := Glyph.text (glyphsOf (← inner {} expression))
      let value ← arithmeticValue text
      return valueStretch quoted (Glyph.ofValue quoted value) :: (← go on rest)

/-- The stretches of a word in which words nest at most `n` deep. -/
def expandUpTo (x : Expander) (n : Nat) (place : Place) (w : Word) : ScriptM (List Stretch) := do
  match n with
  | 0 => return []
  | n + 1 =>
    x.walk (expandUpTo x n) place (w.length + 1) { atTilde := place.tilde } w

/-- How deep words may nest. -/
def depthLimit : Nat := 1000000

/-- The stretches of a word. -/
def expand (x : Expander) (place : Place) (w : Word) : ScriptM (List Stretch) :=
  x.expandUpTo depthLimit place w

/-- The one text that a word stands for. -/
def text (x : Expander) (place : Place) (w : Word) : ScriptM Chars :=
  return Glyph.text (glyphsOf (← x.expand place w))

/-- The pattern that a word stands for. -/
def pattern (x : Expander) (w : Word) : ScriptM Chars :=
  return Glyph.pattern (glyphsOf (← x.expand .single w))

/-- The words that a word stands for. -/
def fields (x : Expander) (w : Word) : ScriptM (List Chars) := do
  let stretches ← x.expand .argument w
  let s ← get
  let fields := fieldsOf s.separators none stretches
  if s.option 'f' then return fields.map Glyph.text
  let t := (← ScriptM.machine).tree
  let v ← ScriptM.viewer
  return fields.flatMap (wordsOf t v)

/-- The words that words stand for. -/
def allFields (x : Expander) : List Word → ScriptM (List Chars)
  | [] => return []
  | w :: ws => do
    let here ← x.fields w
    return here ++ (← x.allFields ws)

end Expander

end LineShell.Script
