import LineShell.Machine.Files
import LineShell.Machine.Script.Number

/-!
# Conditions

The tests of texts, numbers and files that scripts make with `test` and `[`. A word is an operator
where one can stand and an operand otherwise; with three or four words, their number decides.
-/

namespace LineShell.Script

namespace Condition

/-- What a word of a test can be. -/
inductive Role where
  /-- An operator with one operand. -/
  | unary
  /-- An operator with two operands. -/
  | binary
  | negation
  | conjunction
  | disjunction
  | openParen
  | closeParen
deriving DecidableEq, Repr

/-- The operators with one operand. -/
def unaryOperators : List String :=
  ["-r", "-w", "-x", "-e", "-f", "-d", "-c", "-b", "-p", "-u", "-g", "-k", "-s", "-t", "-z", "-n",
    "-h", "-O", "-G", "-L", "-S"]

/-- The operators with two operands. -/
def binaryOperators : List String :=
  ["=", "!=", "<", ">", "-eq", "-ne", "-ge", "-gt", "-le", "-lt", "-nt", "-ot", "-ef"]

/-- The role of a word, if it can be more than an operand. -/
def role? (cs : Chars) : Option Role :=
  let s := String.ofList cs
  if unaryOperators.contains s then some .unary
  else if binaryOperators.contains s then some .binary
  else
    [("!", Role.negation), ("-a", .conjunction), ("-o", .disjunction), ("(", .openParen),
      (")", .closeParen)].lookup s

/-- Who asks, and about which words. -/
structure Question where
  tree : FileTree
  viewer : FileTree.Viewer
  words : Array Chars

/-- A test that is being evaluated: the number of the current word. The error is a message. -/
abbrev Eval := StateT Nat (Except Chars)

/-- What stands at a place among the words. -/
inductive Seen where
  | nothing
  | operand
  | operator (r : Role)
deriving DecidableEq, Repr

/-- What stands at the place `i`. -/
def Question.seen (q : Question) (i : Nat) : Seen :=
  match q.words[i]? with
  | none => .nothing
  | some w =>
    match role? w with
    | none => .operand
    | some .unary =>
      match q.words[i + 1]?, q.words[i + 2]? with
      | none, _ => .operand
      | some _, none => .operator .unary
      | some next, some _ => if role? next = some .binary then .operand else .operator .unary
    | some .openParen => if q.words[i + 1]?.isNone then .operand else .operator .openParen
    | some r => .operator r

/-- The word at the place `i`. -/
def Question.word (q : Question) (i : Nat) : Chars :=
  q.words[i]?.getD []

/-- A word as a number. -/
def number (cs : Chars) : Eval Int :=
  match Number.parse? true cs with
  | some n => return n
  | none => throw (ofString "Illegal number: " ++ cs)

/-- The test of a file. -/
def fileTest (q : Question) (op : String) (name : Chars) : Bool :=
  let isLinkTest := op = "-h" || op = "-L"
  match q.tree.findNode q.viewer ⟨toBytes name⟩ (!isLinkTest) with
  | .error _ => false
  | .ok (_, n) =>
    let user := q.viewer.user
    match op with
    | "-r" => n.allows user .read
    | "-w" => n.allows user .write
    | "-x" => n.allows user .execute
    | "-e" => true
    | "-f" => n.isRegular
    | "-d" => n.isDirectory
    | "-c" => match n.content with
      | .device _ => true
      | _ => false
    | "-u" => n.mode &&& 0o4000 != 0
    | "-g" => n.mode &&& 0o2000 != 0
    | "-k" => n.mode &&& 0o1000 != 0
    | "-s" => match n.content with
      | .regular bytes => !bytes.isEmpty
      | .device _ => false
      | _ => true
    | "-O" | "-G" => n.owner = user
    | "-b" | "-p" | "-S" => false
    | _ => match n.content with
      | .link _ => true
      | _ => false

/-- The test of one operand. -/
def unary (q : Question) (op : String) (arg : Chars) : Eval Bool := do
  match op with
  | "-z" => return arg.isEmpty
  | "-n" => return !arg.isEmpty
  | "-t" =>
    let _ ← number arg
    return false
  | _ => return fileTest q op arg

/-- The test of two operands. -/
def binary (q : Question) (op : String) (a b : Chars) : Eval Bool := do
  let look (name : Chars) : Option (FileId × Node) :=
    (q.tree.findNode q.viewer ⟨toBytes name⟩ true).toOption
  let compare (f : Int → Int → Bool) : Eval Bool := return f (← number a) (← number b)
  let compareFiles (f : FileId × Node → FileId × Node → Bool) : Bool :=
    match look a, look b with
    | some x, some y => f x y
    | _, _ => false
  match op with
  | "=" => return a = b
  | "!=" => return a ≠ b
  | "<" => return decide (a < b)
  | ">" => return decide (b < a)
  | "-eq" => compare fun x y => x = y
  | "-ne" => compare fun x y => x ≠ y
  | "-lt" => compare fun x y => x < y
  | "-le" => compare fun x y => x ≤ y
  | "-gt" => compare fun x y => x > y
  | "-ge" => compare fun x y => x ≥ y
  | "-nt" => return compareFiles fun x y => x.2.time > y.2.time
  | "-ot" => return compareFiles fun x y => x.2.time < y.2.time
  | _ => return compareFiles fun x y => x.1 = y.1

/-- A message about the word `op`. -/
def refusal (op : Chars) (message : String) : Chars :=
  if op.isEmpty then ofString message else op ++ ofString s!": {message}"

/-- Complain about a word. -/
def refuse {α : Type} (op : Chars) (message : String) : Eval α :=
  throw (refusal op message)

/-- What is evaluated next. -/
inductive Level where
  | disjunction
  | conjunction
  | negation

/-- Evaluate a part of a test that begins with what was `seen` at the current place, with at most `n`
steps down. The current place is then that of its last word. -/
def eval (q : Question) (n : Nat) (level : Level) (seen : Seen) : Eval Bool := do
  match n with
  | 0 => refuse [] "argument expected"
  | n + 1 =>
    match level with
    | .disjunction =>
      let a ← eval q n .conjunction seen
      let i ← get
      if q.seen (i + 1) ≠ .operator .disjunction then return a
      set (i + 2)
      let b ← eval q n .disjunction (q.seen (i + 2))
      return a || b
    | .conjunction =>
      let a ← eval q n .negation seen
      let i ← get
      if q.seen (i + 1) ≠ .operator .conjunction then return a
      set (i + 2)
      let b ← eval q n .conjunction (q.seen (i + 2))
      return a && b
    | .negation =>
      let i ← get
      match seen with
      | .nothing => return false
      | .operator .negation =>
        let next := q.seen (i + 1)
        if next ≠ .nothing then set (i + 1)
        return !(← eval q n .negation next)
      | .operator .openParen =>
        let next := q.seen (i + 1)
        set (i + 1)
        if next = .operator .closeParen then return false
        let a ← eval q n .disjunction next
        modify (· + 1)
        if q.seen (← get) ≠ .operator .closeParen then refuse [] "closing paren expected"
        return a
      | .operator .unary =>
        let op := q.word i
        set (i + 1)
        match q.words[i + 1]? with
        | none => refuse op "argument expected"
        | some arg => unary q (String.ofList op) arg
      | _ =>
        if q.seen (i + 1) = .operator .binary then
          let op := q.word (i + 1)
          set (i + 2)
          match q.words[i + 2]? with
          | none => refuse op "argument expected"
          | some b => binary q (String.ofList op) (q.word i) b
        else return !(q.word i).isEmpty

/-- The value of a test that begins with what was `seen`. -/
def evalAll (q : Question) (seen : Seen) : Except Chars Bool := do
  let (result, i) ← (eval q (8 * q.words.size + 16) .disjunction seen).run 0
  if i + 1 < q.words.size then throw (refusal (q.word i) "unexpected operator")
  return result

/-- The value of a test; the error is a message. -/
def value (t : FileTree) (v : FileTree.Viewer) (n : Nat) (words : List Chars) :
    Except Chars Bool :=
  let whole (words : List Chars) : Except Chars Bool :=
    let q : Question := ⟨t, v, words.toArray⟩
    evalAll q (q.seen 0)
  let negated (rest : List Chars) : Except Chars Bool :=
    match n with
    | 0 => whole words
    | n + 1 => (value t v n rest).map (!·)
  let grouped : Except Chars Bool :=
    match words with
    | first :: rest =>
      if first = ['('] && words.getLast? = some [')'] then whole rest.dropLast
      else if first = ['!'] then negated rest
      else whole words
    | [] => .ok false
  match words with
  | [] => .ok false
  | [_, op, _] =>
    if role? op = some .binary then evalAll ⟨t, v, words.toArray⟩ .operand else grouped
  | [_, _, _, _] => grouped
  | _ => whole words

end Condition

end LineShell.Script
