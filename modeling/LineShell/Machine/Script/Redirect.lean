import LineShell.Machine.Script.Expansion
import LineShell.Machine.Script.Search

/-!
# Redirections

How the redirections of a command are made: first the words in all of them are expanded, then one
file after the other is opened and connected with the number that the command knows it by.
-/

namespace LineShell.Script

/-- A redirection whose word has been expanded. -/
inductive Connection where
  | file (fd : Nat) (use : FileUse) (name : Chars)
  /-- Make `fd` a copy of `source`, or close it. -/
  | copy (fd : Nat) (source : Option Nat)
  | document (fd : Nat) (number : Nat)

/-- What a file is opened for. -/
def FileUse.opening (u : FileUse) : FileTree.Opening :=
  match u with
  | .read => .reading
  | .write | .overwrite => .replacing
  | .append => .appending
  | .readWrite => { read := true, write := true, create := true }

namespace Redirect

/-- Refuse something that is no number of an open file. -/
def refuseNumber {α : Type} : ScriptM α := do
  modify fun s => { s with line := s.input.line }
  ScriptM.fail (ofString "Syntax error: Bad fd number")

/-- Expand the word of a redirection. -/
def expand (x : Expander) : Redirect → ScriptM Connection
  | .file fd use name => return .file fd use (← x.text .single name)
  | .document fd number => return .document fd number
  | .copy fd _ source => do
    match ← x.text .single source with
    | ['-'] => return .copy fd none
    | [c] => if c.isDigit then return .copy fd (some (digitValue c)) else refuseNumber
    | _ => refuseNumber

/-- Refuse a file that cannot be opened. -/
def refuseFile {α : Type} (creates : Bool) (name : Chars) (e : Errno) : ScriptM α :=
  if creates then
    ScriptM.fail (ofString "cannot create " ++ name ++ ofString ": " ++
      reasonText "Directory nonexistent" e)
  else
    ScriptM.fail (ofString "cannot open " ++ name ++ ofString ": " ++ reasonText "No such file" e)

/-- Open a file. -/
def openFile (name : Chars) (o : FileTree.Opening) : ScriptM Nat := do
  let v ← ScriptM.viewer
  match ← ScriptM.ofStep (fun m => m.openFile v ⟨toBytes name⟩ o) with
  | .ok i => return i
  | .error e => refuseFile o.create name e

/-- Open a file for writing that must not be an ordinary one. -/
def openProtected (name : Chars) : ScriptM Nat := do
  let v ← ScriptM.viewer
  match (← ScriptM.machine).tree.findNode v ⟨toBytes name⟩ true with
  | .error _ => openFile name { write := true, create := true, isNew := true }
  | .ok (_, n) =>
    if n.isRegular then refuseFile true name .fileExists else openFile name { write := true }

/-- Open the document `number`, from which a pipe is filled. -/
def openDocument (x : Expander) (number : Nat) : ScriptM Nat := do
  let text ← match (← get).documents[number]? with
    | some ⟨true, word⟩ => x.text .document word
    | some ⟨false, word⟩ => pure word.unquoted
    | none => pure []
  let (source, sink) ← ScriptM.ofStep fun m => m.addPipe
  let _ ← ScriptM.writeOpened (some sink) text
  return source

/-- Make a connection. -/
def connect (x : Expander) (c : Connection) : ScriptM Unit := do
  match c with
  | .file fd use name =>
    let i ← if use = .write && (← get).option 'C' then openProtected name
      else openFile name use.opening
    modify fun s => s.redirect fd (some i)
  | .document fd number =>
    let i ← openDocument x number
    modify fun s => s.redirect fd (some i)
  | .copy fd none => modify fun s => s.redirect fd none
  | .copy fd (some source) =>
    if fd = source then return
    match (← get).opened? source with
    | some i => modify fun s => s.redirect fd (some i)
    | none =>
      ScriptM.fail (ofNat source ++ ofString s!": {Errno.badDescriptor.text}")

/-- Make connections; the result tells whether all could be made. -/
def connectAll (x : Expander) (cs : List Connection) : ScriptM Bool := do
  let (result, s) ← ScriptM.isolated (cs.forM (connect x))
  set s
  match result with
  | .ok () => return true
  | .error .failure => return false
  | .error h => throw h

end Redirect

end LineShell.Script
