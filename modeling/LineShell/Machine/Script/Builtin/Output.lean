import LineShell.Machine.Script.Condition
import LineShell.Machine.Script.Format
import LineShell.Machine.Script.Operands

/-!
# Output and tests

The builtin commands that only write or answer: `echo`, `printf`, `test` and `times`.
-/

namespace LineShell.Script

namespace Builtin

/-- Write arguments. -/
def runEcho (args : List Chars) : ScriptM Nat := do
  ScriptM.print (echoText args)
  return 0

/-- Write arguments as a format says. -/
def runPrintf (args : List Chars) : ScriptM Nat := do
  match ← operandsOf args with
  | [] => ScriptM.fail (ofString "usage: printf format [arg ...]")
  | format :: args =>
    let p := printText format args
    for f in p.faults do
      ScriptM.complain f
    ScriptM.print p.text
    match p.refusal with
    | some r => ScriptM.fail r
    | none => return if p.faults.isEmpty then 0 else 1

/-- How deep the negations of a test may nest. -/
def negationLimit : Nat := 3

/-- Answer a test, which in brackets must end in one. -/
def runTest (inBrackets : Bool) (args : List Chars) : ScriptM Nat := do
  if inBrackets && args.getLast? ≠ some [']'] then ScriptM.fail (ofString "missing ]")
  let words := if inBrackets then args.dropLast else args
  let v ← ScriptM.viewer
  match Condition.value (← ScriptM.machine).tree v negationLimit words with
  | .ok answer => return if answer then 0 else 1
  | .error message => ScriptM.fail message

/-- Show how much time has been used. -/
def runTimes : ScriptM Nat := do
  let line := ofString "0m0.000000s 0m0.000000s\n"
  ScriptM.print (line ++ line)
  return 0

end Builtin

end LineShell.Script
