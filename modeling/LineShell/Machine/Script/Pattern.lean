import LineShell.Machine.Files
import LineShell.Machine.Script.Chars

/-!
# Patterns

The patterns with which scripts name files and cut values: `*` stands for any characters, `?` for
one, brackets for one of a set, and a backslash takes the meaning of what comes after it.
-/

namespace LineShell.Script

/-- A character as a signed byte, by which ranges are ordered. -/
def signedByte (c : Char) : Int :=
  if c.toNat < 128 then c.toNat else (c.toNat : Int) - 256

/-- The classes of characters that sets can name. -/
def characterClasses : List (String × (Char → Bool)) :=
  let isPrint (c : Char) : Bool := ' ' ≤ c && c ≤ '~'
  [("alnum", Char.isAlphanum), ("alpha", Char.isAlpha), ("blank", fun c => c = ' ' || c = '\t'),
    ("cntrl", fun c => c < ' ' || c = '\x7f'), ("digit", Char.isDigit),
    ("graph", fun c => isPrint c && c ≠ ' '), ("lower", Char.isLower), ("print", isPrint),
    ("punct", fun c => isPrint c && c ≠ ' ' && !c.isAlphanum), ("space", isSpace),
    ("upper", Char.isUpper),
    ("xdigit", fun c => c.isDigit || ('a' ≤ c && c ≤ 'f') || ('A' ≤ c && c ≤ 'F'))]

/-- The class of characters that is named at the front of `p`, and what comes after its name. -/
def classAtFront (p : Chars) : Option ((Char → Bool) × Chars) :=
  characterClasses.findSome? fun (name, test) =>
    let written := s!":{name}:]".toList
    if written.isPrefixOf p then some (test, p.drop written.length) else none

/-- Read a set whose next character is `c`: whether `x` is in it, and what comes after it. -/
def takeSet (x : Char) (n : Nat) (found : Bool) (c : Char) (p : Chars) : Option (Bool × Chars) :=
  match n with
  | 0 => none
  | n + 1 =>
    let go (found : Bool) (p : Chars) : Option (Bool × Chars) :=
      match p with
      | [] => none
      | ']' :: p => some (found, p)
      | c :: p => takeSet x n found c p
    match if c = '[' then classAtFront p else none with
    | some (test, p) => go (found || test x) p
    | none =>
      let (c, p) := match c, p with
        | '\\', e :: p => (e, p)
        | c, p => (c, p)
      match p with
      | '-' :: e :: rest =>
        if e = ']' then go (found || x = c) p
        else
          let (e, rest) := match e, rest with
            | '\\', e :: rest => (e, rest)
            | e, rest => (e, rest)
          go (found || (signedByte c ≤ signedByte x && signedByte x ≤ signedByte e)) rest
      | _ => go (found || x = c) p

/-- The text and what remains of it when characters are taken from its front. -/
def suffixes : Chars → List Chars
  | [] => [[]]
  | c :: cs => (c :: cs) :: suffixes cs

/-- Whether a pattern of at most `n` characters matches a text. -/
def matchesUpTo (n : Nat) (p cs : Chars) : Bool :=
  match n, p with
  | 0, _ => false
  | _ + 1, [] => cs.isEmpty
  | n + 1, c :: p =>
    let literally (c : Char) (p : Chars) : Bool :=
      match cs with
      | [] => false
      | x :: xs => x = c && matchesUpTo n p xs
    match c with
    | '\\' =>
      match p with
      | [] => literally '\\' []
      | e :: p => literally e p
    | '?' => !cs.isEmpty && matchesUpTo n p cs.tail
    | '*' => (suffixes cs).any (matchesUpTo n p)
    | '[' =>
      match cs with
      | [] => false
      | x :: xs =>
        let negated := p.head? = some '!'
        let set := match if negated then p.tail else p with
          | [] => none
          | c :: p => takeSet x (p.length + 1) false c p
        match set with
        | none => literally '[' p
        | some (found, rest) => found != negated && matchesUpTo n rest xs
    | c => literally c p

/-- Whether a pattern matches a text. -/
def matchesPattern (p cs : Chars) : Bool :=
  matchesUpTo (p.length + 1) p cs

/-- The text without its shortest, or longest, beginning that the pattern matches. -/
def dropFront (longest : Bool) (p cs : Chars) : Chars :=
  let cuts := List.range (cs.length + 1)
  let cuts := if longest then cuts.reverse else cuts
  match cuts.find? fun k => matchesPattern p (cs.take k) with
  | some k => cs.drop k
  | none => cs

/-- The text without its shortest, or longest, end that the pattern matches. -/
def dropBack (longest : Bool) (p cs : Chars) : Chars :=
  let cuts := List.range (cs.length + 1)
  let cuts := if longest then cuts else cuts.reverse
  match cuts.find? fun k => matchesPattern p (cs.drop k) with
  | some k => cs.take k
  | none => cs

/-- The characters without the backslashes that take a meaning away. -/
def withoutEscapes : Chars → Chars
  | '\\' :: c :: cs => c :: withoutEscapes cs
  | c :: cs => c :: withoutEscapes cs
  | [] => []

/-- A set ends before the next slash; `p` is what stands after its first member. -/
def setEnds : Chars → Bool
  | [] => false
  | '\\' :: c :: p => c ≠ '/' && closes p
  | '/' :: _ => false
  | _ :: p => closes p
where
  /-- A bracket closes the set here or later. -/
  closes : Chars → Bool
    | [] => false
    | ']' :: _ => true
    | '/' :: _ => false
    | '\\' :: c :: p => c ≠ '/' && closes p
    | _ :: p => closes p

/-- A pattern for path names, cut at its first part that is no plain name. -/
structure PatternCut where
  /-- What stands before the part. -/
  before : Chars := []
  part : Chars := []
  /-- What stands after the slash that ends the part; none if the part is the last. -/
  after : Option Chars := none

/-- Cut a pattern for path names, unless it is a plain path name; `before` and `part` are what has
been read, last character first. -/
def cutPattern (isPattern : Bool) (before part : Chars) : Chars → Option PatternCut
  | [] => if isPattern then some ⟨before.reverse, part.reverse, none⟩ else none
  | '\\' :: '/' :: p =>
    if isPattern then some ⟨before.reverse, part.reverse, some p⟩
    else cutPattern false ('/' :: '\\' :: part ++ before) [] p
  | '\\' :: c :: p => cutPattern isPattern before (c :: '\\' :: part) p
  | '/' :: p =>
    if isPattern then some ⟨before.reverse, part.reverse, some p⟩
    else cutPattern false ('/' :: part ++ before) [] p
  | c :: p =>
    let here := c = '*' || c = '?' || (c = '[' && setEnds (if p.head? = some '!' then p.tail else p))
    cutPattern (isPattern || here) before (c :: part) p

/-- The path names that continue `base` and match a pattern of at most `n` parts. -/
def matchingPaths (t : FileTree) (v : FileTree.Viewer) (n : Nat) (base p : Chars) : List Chars :=
  match n with
  | 0 => []
  | n + 1 =>
    match cutPattern false [] [] p with
    | none =>
      let here := base ++ withoutEscapes p
      if base.isEmpty then []
      else if (t.find v ⟨toBytes here⟩ false).isOk then [here] else []
    | some cut =>
      let base := base ++ withoutEscapes cut.before
      let dir : Path := ⟨toBytes (if base.isEmpty then ['.'] else base)⟩
      match t.list v dir with
      | .error _ => []
      | .ok names =>
        let names := FileTree.dot :: FileTree.dotDot :: names
        let start := if cut.part.head? = some '\\' then cut.part.tail else cut.part
        let names := (names.map ofBytes).filter fun x =>
          (start.head? = some '.' || x.head? ≠ some '.') && matchesPattern cut.part x
        names.flatMap fun x =>
          match cut.after with
          | none => [base ++ x]
          | some after => matchingPaths t v n (base ++ x ++ ['/']) after

/-- The files that a pattern names, in order. -/
def filesMatching (t : FileTree) (v : FileTree.Viewer) (p : Chars) : List Chars :=
  (matchingPaths t v (p.length + 1) [] p).mergeSort Chars.le

end LineShell.Script
