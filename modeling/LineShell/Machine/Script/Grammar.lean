import LineShell.Machine.Script.Reader

/-!
# Reading statements

The grammar of scripts: simple commands, pipelines, sequences, and the statements that keywords
begin. A script is read one line of commands after the other, so that what a line does can change
how the next is read.
-/

namespace LineShell.Script

namespace Parser

/-- What may stand at the beginning of a command. -/
def atCommand : Expected := { keywords := true, aliases := true }

/-- What may stand at the beginning of a command on this line or a later one. -/
def atLaterCommand : Expected := { newlines := true, keywords := true, aliases := true }

/-- The names of the builtins that a function cannot replace. -/
def fixedNames : List Chars :=
  [".", ":", "break", "continue", "eval", "exec", "exit", "export", "local", "readonly", "return",
    "set", "shift", "times", "trap", "unset"].map String.toList

/-- A statement that stands where reading fails. -/
def noStatement : Statement := .simple 0 [] [] []

/-- A statement that runs in the background. -/
def inBackground : Statement → Statement
  | .pipeline _ commands => .pipeline true commands
  | .redirected line body redirects => .background line body redirects
  | body => .background 0 body []

/-- A statement with redirections. -/
def withRedirects (line : Nat) (redirects : List Redirect) (body : Statement) : Statement :=
  if redirects.isEmpty then body
  else
    match body with
    | .subshell line body _ => .subshell line body redirects
    | body => .redirected line body redirects

section Reading

variable (inner : CommandReaders)

/-- Read a token, which must be `t`. -/
def demand (t : Token) : Parser Unit := do
  if (← readToken inner) ≠ t then unexpected (some t)

/-- Read the word of a redirection. -/
def readRedirectWord : Parser Redirect := do
  let r ← get
  match r.redirect with
  | .document .. => expect { mark := true }
  | _ => pure ()
  if (← readToken inner) ≠ .word then unexpected none
  let word := (← get).word
  match r.redirect with
  | .file fd use => return .file fd use word
  | .copy fd forOutput => return .copy fd forOutput word
  | .document fd stripTabs =>
    let number := (← get).documents.size
    modify fun r =>
      let awaited : AwaitedDocument :=
        { number := number, mark := word.unquoted, stripTabs := stripTabs, expanded := !r.quoted }
      { r with
        documents := r.documents.push { expanded := false, text := [] }
        awaited := r.awaited ++ [awaited] }
    return .document fd number

/-- Read redirections as long as there are some. -/
def readRedirects (n : Nat) (acc : List Redirect) : Parser (List Redirect) := do
  match n with
  | 0 => return acc.reverse
  | n + 1 =>
    if (← readToken inner) = .redirection then
      readRedirects n ((← readRedirectWord inner) :: acc)
    else
      keepToken
      return acc.reverse

/-- Read words as long as there are some. -/
def readWords (n : Nat) (acc : List Word) : Parser (List Word) := do
  match n with
  | 0 => return acc.reverse
  | n + 1 =>
    if (← readToken inner) = .word then readWords n ((← get).word :: acc) else return acc.reverse

/-- Read the patterns of a branch, of which the first word has been read. -/
def readPatterns (n : Nat) (acc : List Word) : Parser (List Word) := do
  let acc := (← get).word :: acc
  match n with
  | 0 => return acc.reverse
  | n + 1 =>
    if (← readToken inner) = .operator "|" then
      let _ ← readToken inner
      readPatterns n acc
    else return acc.reverse

/-- What a simple command is made of, the last part of each kind first. -/
structure SimpleParts where
  assignments : List Word := []
  words : List Word := []
  redirects : List Redirect := []

/-- Read a simple command that begins in the given line, or with `body` the definition of a
function. -/
def readSimple (body : Parser Statement) (line : Nat) (n : Nat) (p : SimpleParts) :
    Parser Statement := do
  let done : Parser Statement := do
    keepToken
    return .simple line p.assignments.reverse p.words.reverse p.redirects.reverse
  match n with
  | 0 => done
  | n + 1 =>
    expect { aliases := p.words.isEmpty }
    match ← readToken inner with
    | .word =>
      let word := (← get).word
      if p.words.isEmpty && word.assigned?.isSome then
        readSimple body line n { p with assignments := word :: p.assignments }
      else readSimple body line n { p with words := word :: p.words }
    | .redirection => do
      let redirect ← readRedirectWord inner
      readSimple body line n { p with redirects := redirect :: p.redirects }
    | .operator "(" =>
      match p.assignments, p.words, p.redirects with
      | [], [word], [] => do
        demand inner (.operator ")")
        match word.literal? with
        | some name =>
          if !isName name || fixedNames.contains name then fault "Bad function name"
          expect atLaterCommand
          let line := (← get).line
          return .define line name (← body)
        | none => fault "Bad function name"
      | _, _, _ => done
    | _ => done

end Reading

mutual

/-- Read commands in parentheses, with at most `n` steps down. -/
def readInParentheses (n : Nat) : Parser (Option Statement) := do
  match n with
  | 0 => return none
  | n + 1 =>
    let inner : CommandReaders := ⟨readInParentheses n, readInText n⟩
    let awaited := (← get).awaited
    modify fun r => { r with awaited := [] }
    let body ← readList n true true none
    demand inner (.operator ")")
    modify fun r => { r with awaited := awaited }
    return body

/-- Read the commands at the beginning of a text. -/
def readInText (n : Nat) : Parser (Option Statement) := do
  match n with
  | 0 => return none
  | n + 1 =>
    let inner : CommandReaders := ⟨readInParentheses n, readInText n⟩
    let awaited := (← get).awaited
    modify fun r => { r with awaited := [] }
    let body ← readList n true true none
    readAwaited inner
    modify fun r => { r with awaited := awaited, tokenBack := false }
    return body

/-- Read commands after those in `before`. With `inside` they stand inside of a statement, and
newlines do not end them; with `mayEnd` there may be none. -/
def readList (n : Nat) (inside mayEnd : Bool) (before : Option Statement) :
    Parser (Option Statement) := do
  match n with
  | 0 => return before
  | n + 1 =>
    let inner : CommandReaders := ⟨readInParentheses n, readInText n⟩
    let atEnd : Parser (Option Statement) := do
      readAwaited inner
      keepToken
      modify fun r => { r with token := .endOfFile }
      return before
    expect { newlines := inside, keywords := true, aliases := true }
    match ← readToken inner with
    | .newline =>
      readAwaited inner
      return before
    | .endOfFile => atEnd
    | t =>
      keepToken
      if inside && mayEnd && t.endsCommands then return before
      let statement ← readAndOr n none
      let after ← readToken inner
      let statement := if after = .operator "&" then inBackground statement else statement
      let all := match before with
        | none => statement
        | some b => .sequence b statement
      match after with
      | .endOfFile =>
        readAwaited inner
        keepToken
        modify fun r => { r with token := .endOfFile }
        return some all
      | .newline =>
        keepToken
        readList n inside true (some all)
      | .operator "&" | .operator ";" => readList n inside true (some all)
      | _ =>
        if !inside then unexpected none
        keepToken
        return some all

/-- Read commands inside of a statement, of which there must be some. -/
def readBody (n : Nat) : Parser Statement := do
  match n with
  | 0 => return noStatement
  | n + 1 => return (← readList n true false none).getD noStatement

/-- Read pipelines that depend on each other; `before` combines the first with what precedes it. -/
def readAndOr (n : Nat) (before : Option (Statement → Statement)) : Parser Statement := do
  match n with
  | 0 => return noStatement
  | n + 1 =>
    let inner : CommandReaders := ⟨readInParentheses n, readInText n⟩
    let here ← readPipeline n
    let statement := match before with
      | none => here
      | some f => f here
    match ← readToken inner with
    | .operator "&&" =>
      expect atLaterCommand
      readAndOr n (some (.both statement))
    | .operator "||" =>
      expect atLaterCommand
      readAndOr n (some (.either statement))
    | _ =>
      keepToken
      return statement

/-- Read a pipeline. -/
def readPipeline (n : Nat) : Parser Statement := do
  match n with
  | 0 => return noStatement
  | n + 1 =>
    let inner : CommandReaders := ⟨readInParentheses n, readInText n⟩
    let negated := (← readToken inner) = .keyword "!"
    if negated then expect atCommand else keepToken
    let first ← readCommand n
    let body ← readPiped n [first]
    return if negated then .negation body else body

/-- Read the commands after those in `before`, the last one first, as long as pipes join them. -/
def readPiped (n : Nat) (before : List Statement) : Parser Statement := do
  match n with
  | 0 => return noStatement
  | n + 1 =>
    let inner : CommandReaders := ⟨readInParentheses n, readInText n⟩
    if (← readToken inner) = .operator "|" then
      expect atLaterCommand
      readPiped n ((← readCommand n) :: before)
    else
      keepToken
      match before with
      | [one] => return one
      | _ => return .pipeline false before.reverse

/-- Read the rest of a choice, from its condition on. -/
def readChoice (n : Nat) : Parser Statement := do
  match n with
  | 0 => return noStatement
  | n + 1 =>
    let inner : CommandReaders := ⟨readInParentheses n, readInText n⟩
    let condition ← readBody n
    demand inner (.keyword "then")
    let yes ← readBody n
    match ← readToken inner with
    | .keyword "elif" => return .choice condition yes (some (← readChoice n))
    | .keyword "else" => return .choice condition yes (some (← readBody n))
    | _ =>
      keepToken
      return .choice condition yes none

/-- Read the branches of a selection, up to its end. -/
def readBranches (n : Nat) (before : List Branch) : Parser (List Branch) := do
  match n with
  | 0 => return before.reverse
  | n + 1 =>
    let inner : CommandReaders := ⟨readInParentheses n, readInText n⟩
    expect { newlines := true, keywords := true }
    let t ← readToken inner
    if t = .keyword "esac" then return before.reverse
    if t = .operator "(" then let _ ← readToken inner
    let patterns ← readPatterns inner n []
    if (← get).token ≠ .operator ")" then unexpected (some (.operator ")"))
    let body ← readList n true true none
    let before := .mk patterns body :: before
    expect { newlines := true, keywords := true }
    match ← readToken inner with
    | .keyword "esac" => return before.reverse
    | .operator ";;" => readBranches n before
    | _ => unexpected (some (.operator ";;"))

/-- Read a command. -/
def readCommand (n : Nat) : Parser Statement := do
  match n with
  | 0 => return noStatement
  | n + 1 =>
    let inner : CommandReaders := ⟨readInParentheses n, readInText n⟩
    let line := (← get).line
    let redirected (body : Statement) : Parser Statement := do
      expect atCommand
      return withRedirects line (← readRedirects inner readingLimit []) body
    let upTo (t : Token) (body : Statement) : Parser Statement := do
      demand inner t
      redirected body
    match ← readToken inner with
    | .keyword "if" => upTo (.keyword "fi") (← readChoice n)
    | .keyword "while" => do
      let condition ← readBody n
      demand inner (.keyword "do")
      upTo (.keyword "done") (.loop false condition (← readBody n))
    | .keyword "until" => do
      let condition ← readBody n
      demand inner (.keyword "do")
      upTo (.keyword "done") (.loop true condition (← readBody n))
    | .keyword "for" => do
      let t ← readToken inner
      let r ← get
      let name := ((if t = .word && !r.quoted then r.word.literal? else none).filter isName)
      match name with
      | none => fault "Bad for loop variable"
      | some name =>
        expect atLaterCommand
        let words ← if (← readToken inner) = .keyword "in" then do
            let words ← readWords inner readingLimit []
            let t := (← get).token
            if t ≠ .newline && t ≠ .operator ";" then unexpected none
            pure words
          else do
            if (← get).token ≠ .operator ";" then keepToken
            pure [Word.allArguments]
        expect atLaterCommand
        demand inner (.keyword "do")
        upTo (.keyword "done") (.each line name words (← readBody n))
    | .keyword "case" => do
      demand inner .word
      let word := (← get).word
      expect atLaterCommand
      demand inner (.keyword "in")
      redirected (.select line word (← readBranches n []))
    | .operator "(" => upTo (.operator ")") (.subshell line (← readBody n) [])
    | .keyword "\x7b" => upTo (.keyword "\x7d") (← readBody n)
    | .word | .redirection => do
      keepToken
      let line := (← get).line
      readSimple inner (readCommand n) line readingLimit {}
    | _ => unexpected none

end

/-- A line of commands: what was read, unless the script is over. -/
inductive LineRead where
  | statement (s : Option Statement)
  | ended

/-- Read a line of commands. -/
def readLine : Parser LineRead := do
  modify fun r => { r with tokenBack := false, expected := {}, awaited := [] }
  let statement ← readList readingLimit false false none
  let r ← get
  if statement.isNone && r.tokenBack && r.token = .endOfFile then return .ended
  else return .statement statement

end Parser

end LineShell.Script
