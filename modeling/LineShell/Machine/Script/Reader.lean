import LineShell.Machine.Script.Syntax

/-!
# Reading words and tokens

The text of a script is read character by character. A backslash before a newline joins two lines,
and the value of an alias is read in place of its name. Words are read with everything that is
quoted or to be replaced in them; since commands can stand in words, the functions here take the one
that reads commands.
-/

namespace LineShell.Script

/-- A token of a script. -/
inductive Token where
  | endOfFile
  | newline
  | operator (text : String)
  | redirection
  | word
  | keyword (text : String)
deriving DecidableEq, Repr

namespace Token

/-- A token as it is shown in messages. -/
def shown : Token → String
  | .endOfFile => "end of file"
  | .newline => "newline"
  | .redirection => "redirection"
  | .word => "word"
  | .operator text | .keyword text => "\"" ++ text ++ "\""

/-- The words that mean something at the beginning of a command. -/
def keywords : List String :=
  ["!", "case", "do", "done", "elif", "else", "esac", "fi", "for", "if", "in", "then", "until",
    "while", "\x7b", "\x7d"]

/-- The token ends a sequence of commands inside of another one. -/
def endsCommands : Token → Bool
  | .endOfFile => true
  | .operator text => [")", ";;"].contains text
  | .keyword text => ["do", "done", "elif", "else", "esac", "fi", "then", "\x7d"].contains text
  | _ => false

end Token

/-- What is read next. -/
inductive Symbol where
  | char (c : Char)
  /-- The end of the value of an alias. -/
  | gap
  | ending
deriving DecidableEq, Repr

/-- A text that is read before the rest of the script. -/
structure Insertion where
  text : Chars
  /-- The alias whose value it is. -/
  name : Option Chars
  /-- The character that was read last. -/
  last : Char := '\n'
  /-- It is known that the text is over. -/
  ended : Bool := false

/-- What the next token may be. -/
structure Expected where
  /-- Newlines before it are skipped. -/
  newlines : Bool := false
  keywords : Bool := false
  aliases : Bool := false
  /-- It ends a document, and nothing is replaced in it. -/
  mark : Bool := false

/-- A document that begins with the next line. -/
structure AwaitedDocument where
  number : Nat
  /-- The line that ends it. -/
  mark : Chars
  stripTabs : Bool
  expanded : Bool

/-- A redirection whose word has not been read. -/
inductive PendingRedirect where
  | file (fd : Nat) (use : FileUse)
  | copy (fd : Nat) (forOutput : Bool)
  | document (fd : Nat) (stripTabs : Bool)

/-- The reader of a script. -/
structure Reader where
  /-- The texts to be read before the rest. -/
  insertions : List Insertion := []
  /-- What has not been read yet. -/
  rest : Chars
  /-- Nothing will follow the rest. -/
  complete : Bool
  /-- What has been read but not used. -/
  back : List Symbol := []
  line : Nat
  token : Token := .newline
  /-- The token has been read but not used. -/
  tokenBack : Bool := false
  word : Word := []
  /-- There are quotes in the word. -/
  quoted : Bool := false
  redirect : PendingRedirect := .file 0 .read
  expected : Expected := {}
  awaited : List AwaitedDocument := []
  documents : Array Document
  /-- The names and values of aliases. -/
  aliases : List (Chars × Chars)

/-- Why reading does not go on. -/
inductive Interruption where
  | fault (line : Nat) (message : String)
  /-- More of the script is needed. -/
  | starved

/-- Reading a part of a script. -/
abbrev Parser := ExceptT Interruption (StateM Reader)

/-- How many steps are taken at most to read one command. -/
def readingLimit : Nat := 1000000000

namespace Parser

/-- The script cannot be read. -/
def fault {α : Type} (message : String) : Parser α := do
  throw (.fault (← get).line s!"Syntax error: {message}")

/-- The current token should not be here. -/
def unexpected {α : Type} (instead : Option Token) : Parser α := do
  let token := (← get).token.shown
  match instead with
  | some t => fault s!"{token} unexpected (expecting {t.shown})"
  | none => fault s!"{token} unexpected"

/-- A line is over. -/
def countLine : Parser Unit :=
  modify fun r => { r with line := r.line + 1 }

/-- What is read next from insertions, with those that are left; none when all are over. -/
def nextInserted (r : Reader) : List Insertion → Option Symbol × Reader
  | [] => (none, { r with insertions := [] })
  | i :: more =>
    match i.text with
    | c :: cs => (some (.char c), { r with insertions := { i with text := cs, last := c } :: more })
    | [] =>
      let endsInBlank := i.last = ' ' || i.last = '\t'
      if i.name.isSome && !endsInBlank && !i.ended then
        (some .gap, { r with insertions := { i with ended := true } :: more })
      else
        let aliases := r.expected.aliases || (i.name.isSome && endsInBlank)
        nextInserted { r with expected := { r.expected with aliases := aliases } } more

/-- Read a character. -/
def next : Parser Symbol := do
  let r ← get
  match r.back with
  | s :: back =>
    set { r with back := back }
    return s
  | [] =>
    match nextInserted r r.insertions with
    | (some s, r) =>
      set r
      return s
    | (none, r) =>
      match r.rest with
      | c :: cs =>
        set { r with rest := cs }
        return .char c
      | [] => if r.complete then return .ending else throw .starved

/-- Take back what was read. -/
def unread (s : Symbol) : Parser Unit :=
  modify fun r => { r with back := s :: r.back }

/-- Read a character, joined lines as one, with at most `n` joints. -/
def nextJoined (n : Nat) : Parser Symbol := do
  match n with
  | 0 => next
  | n + 1 =>
    match ← next with
    | .char '\\' =>
      match ← next with
      | .char '\n' =>
        countLine
        nextJoined n
      | s =>
        unread s
        return .char '\\'
    | s => return s

/-- Read a character; a line that ends in a backslash is joined with the next. -/
def nextChar : Parser Symbol :=
  nextJoined readingLimit

end Parser

/-- How characters of a word are read. -/
inductive Style where
  | bare
  | double
  | single
  | arithmetic
deriving DecidableEq, Repr

/-- A level of quotes and expansions in a word. -/
structure Level where
  style : Style
  /-- In double quotes inside of braces. -/
  inner : Bool := false
  /-- The level was begun by an expansion in braces. -/
  braced : Bool := false
  /-- In double quotes. -/
  quoted : Bool := false
  /-- How many braces are open. -/
  depth : Nat := 0
  /-- How many parentheses are open. -/
  parens : Nat := 0
  /-- How many of the open braces stand in double quotes. -/
  quotedDepth : Nat := 0

/-- An expansion that has been begun. -/
inductive Begun where
  | parameter (name : Chars) (usage : Usage) (emptyIsNone : Bool)
  | arithmetic

/-- A word that is being read. -/
structure Draft where
  level : Level
  /-- The levels around it. -/
  around : List Level := []
  /-- The parts of the innermost expansion, or of the word; the last one first. -/
  parts : List Part := []
  /-- The expansions that have been begun, with the parts before them. -/
  begun : List (Begun × List Part) := []
  /-- There are quotes in the word. -/
  quoted : Bool := false

namespace Draft

/-- Add a part. -/
def add (d : Draft) (p : Part) : Draft :=
  { d with parts := p :: d.parts }

/-- Add a character. -/
def addChar (d : Draft) (c : Char) : Draft :=
  d.add (.plain c)

/-- Change the level. -/
def mapLevel (d : Draft) (f : Level → Level) : Draft :=
  { d with level := f d.level }

/-- Begin a level. -/
def push (d : Draft) (l : Level) : Draft :=
  { d with level := l, around := d.level :: d.around }

/-- End a level. -/
def pop (d : Draft) : Draft :=
  match d.around with
  | l :: ls => { d with level := l, around := ls }
  | [] => d

/-- Begin an expansion. -/
def start (d : Draft) (b : Begun) : Draft :=
  { d with parts := [], begun := (b, d.parts) :: d.begun }

/-- End an expansion. -/
def finish (d : Draft) : Draft :=
  match d.begun with
  | (.parameter name usage emptyIsNone, before) :: more =>
    { d with parts := .parameter name usage emptyIsNone d.parts.reverse :: before, begun := more }
  | (.arithmetic, before) :: more =>
    { d with parts := .arithmetic d.parts.reverse :: before, begun := more }
  | [] => d

end Draft

/-- The characters that need an escape in double quotes to stand for themselves in patterns. -/
def quotableChars : List Char := "!*?[=~:/-]".toList

/-- The characters that end a word. -/
def delimiters : List Char := "<>();&| \t".toList

/-- The parameters that are called by one sign. -/
def specialParameters : List Char := "@*#?$!-".toList

/-- The character starts the name of a parameter. -/
def startsParameter (c : Char) : Bool :=
  isNameChar c || specialParameters.contains c

namespace Parser

/-- Read a character in the style of a level. -/
def nextIn (l : Level) : Parser Symbol :=
  if l.style = .single then next else nextChar

/-- Read characters as long as `ok` holds; the result has the last one first, and the symbol after
them. -/
def takeChars (ok : Char → Bool) (n : Nat) (acc : Chars) (s : Symbol) : Parser (Chars × Symbol) := do
  match n, s with
  | n + 1, .char c => if ok c then takeChars ok n (c :: acc) (← nextChar) else return (acc, s)
  | _, _ => return (acc, s)

/-- Read the usage after the name of a parameter in braces, whose first character is `s`. -/
def takeUsage (s : Symbol) : Parser (Usage × Bool) := do
  let simple (c : Char) : Option Usage :=
    [('\x7d', Usage.value), ('-', .default), ('+', .alternative), ('?', .require),
      ('=', .assign)].lookup c
  let twice (c : Char) (f : Bool → Usage) : Parser (Usage × Bool) := do
    let s ← nextChar
    if s = .char c then return (f true, false)
    unread s
    return (f false, false)
  match s with
  | .char ':' =>
    match ← nextChar with
    | .char c => return ((simple c).getD .unknown, true)
    | s =>
      unread s
      return (.unknown, true)
  | .char '%' => twice '%' .cutBack
  | .char '#' => twice '#' .cutFront
  | .char c => return ((simple c).getD .unknown, false)
  | s =>
    unread s
    return (.unknown, false)

/-- Read the name and the usage of a parameter after an opening brace. -/
def takeBraced : Parser (Chars × Usage × Bool) := do
  let name (s : Symbol) : Parser (Option (Chars × Symbol)) := do
    match s with
    | .char c =>
      if isNameStart c then
        let (cs, s) ← takeChars isNameChar readingLimit [] s
        return some (cs.reverse, s)
      else if c.isDigit then
        let (cs, s) ← takeChars Char.isDigit readingLimit [] s
        return some (cs.reverse, s)
      else return none
    | _ => return none
  let withUsage (x : Chars) (s : Symbol) : Parser (Chars × Usage × Bool) := do
    let (usage, emptyIsNone) ← takeUsage s
    return (x, usage, emptyIsNone)
  let length (x : Chars) (s : Symbol) : Parser (Chars × Usage × Bool) := do
    unread s
    return (x, if s = .char '\x7d' then .length else .unknown, false)
  let bad (s : Symbol) : Parser (Chars × Usage × Bool) := do
    unread s
    return ([], .unknown, false)
  let s ← nextChar
  match ← name s with
  | some (x, s) => withUsage x s
  | none =>
    match s with
    | .char '#' => do
      let s ← nextChar
      match ← name s with
      | some (x, s) => length x s
      | none =>
        match s with
        | .char '\x7d' => withUsage ['#'] s
        | .char c => do
          let after ← nextChar
          if after = .char '\x7d' then
            if specialParameters.contains c then length [c] after else bad after
          else
            unread after
            withUsage ['#'] s
        | _ => withUsage ['#'] s
    | .char c =>
      if c = '\x7d' then bad s
      else do
        let s ← nextChar
        if specialParameters.contains c then withUsage [c] s else bad s
    | _ => bad s

/-- Read a parameter after a dollar sign, the symbol `s` on. -/
def takeParameter (d : Draft) (s : Symbol) : Parser Draft := do
  match s with
  | .char '\x7b' => do
    let (name, usage, emptyIsNone) ← takeBraced
    if usage = .value && !emptyIsNone then
      return d.add (.parameter name .value false [])
    let style := match usage with
      | .cutFront _ | .cutBack _ => .bare
      | _ => if d.level.style = .arithmetic then .double else d.level.style
    let d :=
      if style ≠ d.level.style || d.level.inner then
        d.push { style := style, braced := true, quoted := style ≠ .bare }
      else d
    let d := d.mapLevel fun l => { l with
      depth := l.depth + 1
      quotedDepth := if l.quoted then l.quotedDepth + 1 else l.quotedDepth }
    return d.start (.parameter name usage emptyIsNone)
  | .char c => do
    if isNameStart c then
      let (cs, after) ← takeChars isNameChar readingLimit [] s
      unread after
      return d.add (.parameter cs.reverse .value false [])
    else return d.add (.parameter [c] .value false [])
  | _ => return d

/-- Read a command between backquotes as a text. -/
def takeBackquoted (quoted : Bool) (n : Nat) (acc : Chars) : Parser Chars := do
  match n with
  | 0 => return acc.reverse
  | n + 1 =>
    match ← nextChar with
    | .char '\x60' => return acc.reverse
    | .char '\\' => do
      match ← next with
      | .char c =>
        let kept := c ≠ '\\' && c ≠ '\x60' && c ≠ '$' && (!quoted || c ≠ '"')
        takeBackquoted quoted n (if kept then c :: '\\' :: acc else c :: acc)
      | s =>
        unread s
        takeBackquoted quoted n ('\\' :: acc)
    | .char '\n' =>
      countLine
      takeBackquoted quoted n ('\n' :: acc)
    | .char c => takeBackquoted quoted n (c :: acc)
    | .gap => takeBackquoted quoted n acc
    | .ending => fault "EOF in backquote substitution"

/-- Read `body` from another text. -/
def fromText {α : Type} (text : Chars) (body : Parser α) : Parser α := do
  let r ← get
  set { r with insertions := [], rest := text, complete := true, back := [], line := 1 }
  let a ← body
  modify fun s => { s with
    insertions := r.insertions
    rest := r.rest
    complete := r.complete
    back := r.back
    line := r.line }
  return a

/-- Skip tabs. -/
def skipTabs (l : Level) (n : Nat) (s : Symbol) : Parser Symbol := do
  match n with
  | 0 => return s
  | n + 1 => if s = .char '\t' then skipTabs l n (← nextIn l) else return s

/-- Compare what is read with `mark`: what was read, last symbol first, and whether it is a line with
nothing but the mark. -/
def compareMark (l : Level) (read : List Symbol) (s : Symbol) : Chars → Parser (List Symbol × Bool)
  | [] => return (s :: read, s = .char '\n' || s = .ending)
  | c :: cs => do
    if s = .char c then compareMark l (s :: read) (← nextIn l) cs else return (s :: read, false)

/-- At the beginning of a line of a document: the first symbol, or the end of the document. -/
def atLineStart (d : AwaitedDocument) (l : Level) (s : Symbol) : Parser Symbol := do
  let s ← if s = .gap then nextIn l else pure s
  let s ← if d.stripTabs then skipTabs l readingLimit s else pure s
  let (read, isMark) ← compareMark l [] s d.mark
  if isMark then
    countLine
    return .ending
  else
    match read.reverse with
    | [] => return s
    | first :: more =>
      modify fun r => { r with back := more ++ r.back }
      return first

/-- The readers of the commands that stand in words. -/
structure CommandReaders where
  /-- Read commands and the parenthesis that closes them. -/
  inParentheses : Parser (Option Statement)
  /-- Read the commands that a text begins with. -/
  inText : Parser (Option Statement)

/-- Read what stands after a dollar sign. -/
def readDollar (inner : CommandReaders) (d : Draft) : Parser Draft := do
  let s ← nextChar
  let plain : Parser Draft := do
    unread s
    return d.addChar '$'
  if (← get).expected.mark then plain
  else
    match s with
    | .char '(' =>
      let s ← nextChar
      if s = .char '(' then
        return (d.push { style := .arithmetic, quoted := true }).start .arithmetic
      else
        unread s
        return d.add (.command (← inner.inParentheses))
    | .char c => if c = '\x7b' || startsParameter c then takeParameter d s else plain
    | _ => plain

/-- Read a word, or the document `doc?`, the symbol `s` on: what was read, and the symbol after it. -/
def readDraft (inner : CommandReaders) (doc? : Option AwaitedDocument) (n : Nat) (d : Draft)
    (s : Symbol) : Parser (Draft × Symbol) := do
  match n with
  | 0 => return (d, s)
  | n + 1 =>
    let inDocument := doc?.isSome
    let l := d.level
    let go (d : Draft) : Parser (Draft × Symbol) := do
      readDraft inner doc? n d (← nextIn d.level)
    let withMark (d : Draft) : Draft := if inDocument then d else d.add .mark
    let toggled (d : Draft) : Draft :=
      withMark (d.mapLevel fun l => if l.depth > 0 then { l with inner := !l.inner } else l)
    let bared (d : Draft) : Draft :=
      { d with
        quoted := true
        level := if l.quotedDepth = 0 then { l with style := .bare, quoted := false } else l }
    let quotable (c : Char) : Draft :=
      if !inDocument || l.quoted || l.depth > 0 then d.add (.escaped c) else d.addChar c
    match s with
    | .ending => return (d, s)
    | .gap => if l.depth = 0 then return (d, s) else go d
    | .char c =>
      if c = '\n' then
        if l.style = .bare && l.depth = 0 then return (d, s)
        countLine
        let s ← nextIn l
        let s ← match doc? with
          | some doc => atLineStart doc l s
          | none => pure s
        readDraft inner doc? n (d.addChar c) s
      else if l.style = .single then
        if c = '\'' then
          if inDocument && l.depth = 0 then go (d.addChar c) else go (withMark (bared d))
        else if c = '\\' || quotableChars.contains c then go (quotable c)
        else go (d.addChar c)
      else if c = '\\' then
        match ← next with
        | .char e =>
          let kept := l.quoted && e ≠ '\\' && e ≠ '\x60' && e ≠ '$' &&
            (e ≠ '"' || (inDocument && l.depth = 0)) && (e ≠ '\x7d' || l.depth = 0)
          let d := if kept then d.add (.escaped '\\') else d
          go { d.add (.escaped e) with quoted := true }
        | s =>
          unread s
          go (d.add (.escaped '\\'))
      else if c = '$' then go (← readDollar inner d)
      else if c = '\x60' then
        if (← get).expected.mark then go (d.addChar c)
        else
          let text ← takeBackquoted l.quoted readingLimit []
          go (d.add (.command (← fromText text inner.inText)))
      else if c = '\x7d' then
        if l.depth > 0 && !l.inner then
          let depth := l.depth - 1
          let d := d.mapLevel fun l => { l with depth := depth }
          let d :=
            if depth = 0 && l.braced then d.pop
            else d.mapLevel fun l => { l with quotedDepth := l.quotedDepth - 1 }
          go d.finish
        else go (d.addChar c)
      else
        match l.style with
        | .arithmetic =>
          if c = '(' then
            go (d.mapLevel (fun l => { l with parens := l.parens + 1 }) |>.addChar c)
          else if c = ')' then
            if l.parens > 0 then
              go (d.mapLevel (fun l => { l with parens := l.parens - 1 }) |>.addChar c)
            else
              let s ← nextChar
              if s = .char ')' then go d.finish.pop
              else
                unread s
                go (d.addChar c)
          else go (d.addChar c)
        | .double =>
          if c = '"' then
            if inDocument && l.depth = 0 then go (d.addChar c) else go (toggled (bared d))
          else if quotableChars.contains c then go (quotable c)
          else go (d.addChar c)
        | _ =>
          if c = '\'' then go (withMark (d.mapLevel fun l => { l with style := .single }))
          else if c = '"' then
            go (toggled (d.mapLevel fun l => { l with style := .double, quoted := true }))
          else if delimiters.contains c && l.depth = 0 then return (d, s)
          else go (d.addChar c)

/-- Read a word or a document to its end; the result is what was read, and the symbol after it. -/
def readWhole (inner : CommandReaders) (doc? : Option AwaitedDocument) (style : Style)
    (s : Symbol) : Parser (Draft × Symbol) := do
  let d : Draft := { level := { style := style, quoted := style = .double } }
  let (d, s) ← readDraft inner doc? readingLimit d s
  if d.level.style = .arithmetic then fault "Missing '))'"
  if d.level.style ≠ .bare && doc?.isNone then fault "Unterminated quoted string"
  if d.level.depth ≠ 0 then fault "Missing '\x7d'"
  return (d, s)

/-- Read the documents that are awaited. -/
def readAwaited (inner : CommandReaders) : Parser Unit := do
  let awaited := (← get).awaited
  modify fun r => { r with awaited := [] }
  for doc in awaited do
    let l : Level := { style := if doc.expanded then .double else .single }
    let s ← atLineStart doc l (← nextIn l)
    let (d, _) ← readWhole inner (some doc) l.style s
    modify fun r => { r with
      documents := r.documents.setIfInBounds doc.number ⟨doc.expanded, d.parts.reverse⟩ }

/-- Read a redirection operator, whose first character is `c`, for the stream `fd?`. -/
def readRedirect (fd? : Option Nat) (c : Char) : Parser PendingRedirect := do
  let orElse (instead : PendingRedirect) (s : Symbol) : Parser PendingRedirect := do
    unread s
    return instead
  let s ← nextChar
  if c = '>' then
    let fd := fd?.getD 1
    match s with
    | .char '>' => return .file fd .append
    | .char '|' => return .file fd .overwrite
    | .char '&' => return .copy fd true
    | _ => orElse (.file fd .write) s
  else
    let fd := fd?.getD 0
    match s with
    | .char '<' =>
      let s ← nextChar
      if s = .char '-' then return .document fd true else orElse (.document fd false) s
    | .char '&' => return .copy fd false
    | .char '>' => return .file fd .readWrite
    | _ => orElse (.file fd .read) s

/-- Make `t` the current token. -/
def setToken (t : Token) : Parser Token := do
  modify fun r => { r with token := t }
  return t

/-- Read a word, or a redirection, from the symbol `s` on. -/
def readWord (inner : CommandReaders) (s : Symbol) : Parser Token := do
  let (d, s) ← readWhole inner none .bare s
  let word := d.parts.reverse
  let fd? : Option (Option Nat) :=
    if d.quoted then none
    else
      match Word.literal? word with
      | some [] => some none
      | some [c] => if c.isDigit then some (some (digitValue c)) else none
      | _ => none
  let isRedirection := s = .char '<' || s = .char '>'
  match fd?, s with
  | some fd?, .char c =>
    if isRedirection then
      let redirect ← readRedirect fd? c
      modify fun r => { r with redirect := redirect }
      return ← setToken .redirection
  | _, _ => pure ()
  unread s
  modify fun r => { r with word := word, quoted := d.quoted }
  setToken .word

/-- Skip a comment. -/
def skipComment (n : Nat) : Parser Unit := do
  match n with
  | 0 => return
  | n + 1 =>
    let s ← next
    if s = .char '\n' || s = .ending then unread s else skipComment n

/-- Read a token as it stands. -/
def readPlainToken (inner : CommandReaders) (n : Nat) : Parser Token := do
  if (← get).tokenBack then
    modify fun r => { r with tokenBack := false }
    return (← get).token
  match n with
  | 0 => setToken .endOfFile
  | n + 1 =>
    let double (c : Char) (once twice : String) : Parser Token := do
      let s ← nextChar
      if s = .char c then setToken (.operator twice)
      else
        unread s
        setToken (.operator once)
    let s ← nextChar
    match s with
    | .gap => readPlainToken inner n
    | .ending => setToken .endOfFile
    | .char c =>
      match c with
      | ' ' | '\t' => readPlainToken inner n
      | '#' =>
        skipComment readingLimit
        readPlainToken inner n
      | '\n' =>
        countLine
        setToken .newline
      | '&' => double '&' "&" "&&"
      | '|' => double '|' "|" "||"
      | ';' => double ';' ";" ";;"
      | '(' => setToken (.operator "(")
      | ')' => setToken (.operator ")")
      | _ => readWord inner s

/-- Read a token that newlines do not count as. -/
def readBeyondNewlines (inner : CommandReaders) (n : Nat) (t : Token) : Parser Token := do
  match n with
  | 0 => return t
  | n + 1 =>
    if t = .newline then
      readAwaited inner
      modify fun r => { r with expected := {} }
      readBeyondNewlines inner n (← readPlainToken inner readingLimit)
    else return t

/-- The name and the value of an alias that is not being read. -/
def alias? (r : Reader) (name : Chars) : Option Chars :=
  if r.insertions.any (·.name = some name) then none else r.aliases.lookup name

/-- Read a token where `e` is expected: keywords are told from words, and aliases are replaced. -/
def readTokenAs (inner : CommandReaders) (n : Nat) (e : Expected) : Parser Token := do
  let t ← readPlainToken inner readingLimit
  let t ← if e.newlines then readBeyondNewlines inner readingLimit t else pure t
  let r ← get
  let e := { e with
    keywords := e.keywords || r.expected.keywords
    aliases := e.aliases || r.expected.aliases }
  set { r with expected := {} }
  if t ≠ .word || r.quoted then return t
  match Word.literal? r.word with
  | none => return t
  | some text =>
    match Token.keywords.find? fun k => e.keywords && k.toList = text with
    | some k => setToken (.keyword k)
    | none =>
      match n, if e.aliases then alias? r text else none with
      | n + 1, some value =>
        if !value.isEmpty then
          modify fun r => { r with insertions := ⟨value, some text, '\n', false⟩ :: r.insertions }
        readTokenAs inner n e
      | _, _ => return t

/-- Read a token. -/
def readToken (inner : CommandReaders) : Parser Token := do
  readTokenAs inner readingLimit (← get).expected

/-- Leave the current token to be read again. -/
def keepToken : Parser Unit :=
  modify fun r => { r with tokenBack := true }

/-- Tell what the next token may be. -/
def expect (e : Expected) : Parser Unit :=
  modify fun r => { r with expected := e }

end Parser

end LineShell.Script
