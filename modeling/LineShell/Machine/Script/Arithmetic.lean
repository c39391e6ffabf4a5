import LineShell.Machine.Script.Number

/-!
# Arithmetic expressions

The expressions that scripts compute with: numbers, variables, assignments, and the operators of C
with their precedences. Of two sides of which only one counts, the other is read but has no effect.
-/

namespace LineShell.Script

namespace Arithmetic

/-- An operator between two numbers. -/
inductive Binary where
  | mul | div | rem
  | add | sub
  | shiftLeft | shiftRight
  | less | lessEq | greater | greaterEq
  | eq | ne
  | bitAnd | bitXor | bitOr
deriving DecidableEq, Repr

/-- A token of an expression. -/
inductive Token where
  | ending
  | number (n : Int)
  | variable (name : Chars)
  | binary (op : Binary)
  | assign (op : Option Binary)
  | and | or | not | bitNot
  | openParen | closeParen | question | colon
  | bad
deriving DecidableEq, Repr

/-- Why an expression has no value. -/
inductive Fault where
  /-- The expression is not what it should be. -/
  | expression (why : String)
  /-- A variable does not hold a number. -/
  | illegalNumber (text : Chars)
  /-- A variable cannot be changed. -/
  | readOnly (name : Chars)

/-- How tightly an operator binds; the lower, the tighter. -/
def Binary.level : Binary → Nat
  | .mul | .div | .rem => 0
  | .add | .sub => 1
  | .shiftLeft | .shiftRight => 2
  | .less | .lessEq | .greater | .greaterEq => 3
  | .eq | .ne => 4
  | .bitAnd => 5
  | .bitXor => 6
  | .bitOr => 7

/-- The level above those of all operators. -/
def topLevel : Nat := 8

/-- A truth value as a number. -/
def ofBool (b : Bool) : Int :=
  if b then 1 else 0

/-- Combine the bits of two numbers. -/
def onBits (f : UInt64 → UInt64 → UInt64) (a b : Int) : Int :=
  (f (Int64.ofInt a).toUInt64 (Int64.ofInt b).toUInt64).toInt64.toInt

/-- What an operator makes of two numbers. -/
def Binary.apply (op : Binary) (a b : Int) : Except Fault Int :=
  match op with
  | .mul => .ok (Number.wrap (a * b))
  | .div => if b = 0 then .error (.expression "division by zero") else .ok (Number.wrap (a.tdiv b))
  | .rem => if b = 0 then .error (.expression "division by zero") else .ok (Number.wrap (a.tmod b))
  | .add => .ok (Number.wrap (a + b))
  | .sub => .ok (Number.wrap (a - b))
  | .shiftLeft => .ok (onBits (· <<< ·) a b)
  | .shiftRight => .ok ((Int64.ofInt a) >>> (Int64.ofInt b)).toInt
  | .less => .ok (ofBool (a < b))
  | .lessEq => .ok (ofBool (a ≤ b))
  | .greater => .ok (ofBool (a > b))
  | .greaterEq => .ok (ofBool (a ≥ b))
  | .eq => .ok (ofBool (a = b))
  | .ne => .ok (ofBool (a ≠ b))
  | .bitAnd => .ok (onBits (· &&& ·) a b)
  | .bitXor => .ok (onBits (· ^^^ ·) a b)
  | .bitOr => .ok (onBits (· ||| ·) a b)

/-- The operator is followed by an equals sign, or stands alone. -/
def withAssign (op : Binary) : Chars → Token × Chars
  | '=' :: cs => (.assign (some op), cs)
  | cs => (.binary op, cs)

/-- Read a token. -/
def takeToken : Chars → Token × Chars
  | [] => (.ending, [])
  | c :: cs =>
    if c = ' ' || c = '\t' || c = '\n' then takeToken cs
    else if c.isDigit then
      let r := Number.read false (c :: cs)
      (.number r.clamped, r.rest)
    else if isNameStart c then
      let name := nameAtFront (c :: cs)
      (.variable name, (c :: cs).drop name.length)
    else
      match c, cs with
      | '=', '=' :: cs => (.binary .eq, cs)
      | '=', cs => (.assign none, cs)
      | '>', '=' :: cs => (.binary .greaterEq, cs)
      | '>', '>' :: cs => withAssign .shiftRight cs
      | '>', cs => (.binary .greater, cs)
      | '<', '=' :: cs => (.binary .lessEq, cs)
      | '<', '<' :: cs => withAssign .shiftLeft cs
      | '<', cs => (.binary .less, cs)
      | '|', '|' :: cs => (.or, cs)
      | '|', cs => withAssign .bitOr cs
      | '&', '&' :: cs => (.and, cs)
      | '&', cs => withAssign .bitAnd cs
      | '!', '=' :: cs => (.binary .ne, cs)
      | '!', cs => (.not, cs)
      | '(', cs => (.openParen, cs)
      | ')', cs => (.closeParen, cs)
      | '*', cs => withAssign .mul cs
      | '/', cs => withAssign .div cs
      | '%', cs => withAssign .rem cs
      | '+', cs => withAssign .add cs
      | '-', cs => withAssign .sub cs
      | '^', cs => withAssign .bitXor cs
      | '~', cs => (.bitNot, cs)
      | '?', cs => (.question, cs)
      | ':', cs => (.colon, cs)
      | _, cs => (.bad, c :: cs)

/-- What an expression can ask about variables. -/
structure Variables where
  value : Chars → Option Chars
  isFixed : Chars → Bool

/-- An expression that is being evaluated. -/
structure Progress where
  rest : Chars
  /-- The token after what has been read. -/
  next : Token := .ending
  /-- The variables that have been given values, the last one first. -/
  assigned : List (Chars × Int) := []

/-- Evaluating a part of an expression. -/
abbrev Eval := StateT Progress (Except Fault)

namespace Eval

/-- The expression is not what it should be. -/
def fault {α : Type} (why : String) : Eval α :=
  throw (.expression why)

/-- Read a token. -/
def lex : Eval Token := do
  let p ← get
  let (t, rest) := takeToken p.rest
  set { p with rest := rest }
  return t

/-- Make `t` the token after what has been read. -/
def setNext (t : Token) : Eval Unit :=
  modify fun p => { p with next := t }

/-- The value of a variable. -/
def valueOf (vs : Variables) (name : Chars) : Eval Int := do
  match (← get).assigned.lookup name with
  | some n => return n
  | none =>
    let text := (vs.value name).getD []
    match Number.parse? false text with
    | some n => return n
    | none => throw (.illegalNumber text)

/-- Give a variable a value. -/
def assign (vs : Variables) (name : Chars) (n : Int) : Eval Int := do
  if vs.isFixed name then throw (.readOnly name)
  modify fun p => { p with assigned := (name, n) :: p.assigned }
  return n

end Eval

open Eval

/-- What is evaluated next. -/
inductive Goal where
  /-- An assignment, or what binds more tightly, which begins with `t`. -/
  | assignment (t : Token)
  /-- A choice between two; `after` is the token after `t`. -/
  | choice (t after : Token)
  | disjunction (t after : Token)
  | conjunction (t after : Token)
  | sum (t after : Token)
  /-- What comes after `a` and an operator, as long as operators bind more tightly than `level`. -/
  | operands (a : Int) (op : Binary) (level : Nat)
  | primary (t after : Token)

/-- Evaluate a part of an expression, with at most `n` steps down; without `live` it has no effect. -/
def eval (vs : Variables) (n : Nat) (live : Bool) (goal : Goal) : Eval Int := do
  match n with
  | 0 => fault "expecting primary"
  | n + 1 =>
    match goal with
    | .assignment t =>
      let op ← lex
      match t, op with
      | .variable name, .assign op =>
        let result ← eval vs n live (.assignment (← lex))
        if !live then return result
        match op with
        | none => assign vs name result
        | some op =>
          let old ← valueOf vs name
          match op.apply old result with
          | .ok value => assign vs name value
          | .error e => throw e
      | _, _ => eval vs n live (.choice t op)
    | .choice t after =>
      let a ← eval vs n live (.disjunction t after)
      if (← get).next ≠ .question then return a
      let b ← eval vs n (live && a ≠ 0) (.assignment (← lex))
      if (← get).next ≠ .colon then fault "expecting ':'"
      let t ← lex
      let c ← eval vs n (live && a = 0) (.choice t (← lex))
      return if a ≠ 0 then b else c
    | .disjunction t after =>
      let a ← eval vs n live (.conjunction t after)
      if (← get).next ≠ .or then return a
      let t ← lex
      let b ← eval vs n (live && a = 0) (.disjunction t (← lex))
      return ofBool (a ≠ 0 || b ≠ 0)
    | .conjunction t after =>
      let a ← eval vs n live (.sum t after)
      if (← get).next ≠ .and then return a
      let t ← lex
      let b ← eval vs n (live && a ≠ 0) (.conjunction t (← lex))
      return ofBool (a ≠ 0 && b ≠ 0)
    | .sum t after =>
      let a ← eval vs n live (.primary t after)
      match (← get).next with
      | .binary op => eval vs n live (.operands a op topLevel)
      | _ => return a
    | .operands a op level =>
      let t ← lex
      let b ← eval vs n live (.primary t (← lex))
      let b ← match (← get).next with
        | .binary op' =>
          if op'.level < op.level then eval vs n live (.operands b op' op.level) else pure b
        | _ => pure b
      let a ← if live then
          match op.apply a b with
          | .ok value => pure value
          | .error e => throw e
        else pure b
      match (← get).next with
      | .binary op' => if op'.level ≥ level then return a else eval vs n live (.operands a op' level)
      | _ => return a
    | .primary t after =>
      match t with
      | .openParen =>
        let result ← eval vs n live (.assignment after)
        if (← get).next ≠ .closeParen then fault "expecting ')'"
        setNext (← lex)
        return result
      | .number k =>
        setNext after
        return k
      | .variable name =>
        setNext after
        if live then valueOf vs name else return 0
      | .binary .add => eval vs n live (.primary after (← lex))
      | .binary .sub => return Number.wrap (-(← eval vs n live (.primary after (← lex))))
      | .not => return ofBool ((← eval vs n live (.primary after (← lex))) = 0)
      | .bitNot => return Number.wrap (-(← eval vs n live (.primary after (← lex))) - 1)
      | _ => fault "expecting primary"

/-- The value of an expression, and the variables that it gives values, in that order. -/
def value (vs : Variables) (text : Chars) : Except Fault (Int × List (Chars × Int)) := do
  let whole : Eval Int := do
    let result ← eval vs (8 * text.length + 16) true (.assignment (← lex))
    if (← get).next ≠ .ending then fault "expecting EOF"
    return result
  let (result, p) ← whole.run { rest := text }
  return (result, p.assigned.reverse)

end Arithmetic

end LineShell.Script
