import LineShell.Machine.FileTree

/-!
# Looking up path names

A path name is followed part by part from the root directory or the directory of the one who looks.
Symbolic links are replaced by their targets, at most `linkLimit` of them; passing through a
directory needs the permission to do so. `canonical` finds the path name without links, `.` and `..`.
-/

namespace LineShell

namespace FileTree

/-- The most links that are followed on the way. -/
def linkLimit : Nat := 40

/-- The most bytes in a name. -/
def nameLimit : Nat := 255

/-- The fewest bytes that no path name has. -/
def pathLimit : Nat := 4096

/-- The name of a directory in itself. -/
def dot : Name := [0x2E]

/-- The name of the directory above. -/
def dotDot : Name := [0x2E, 0x2E]

/-- Where a path name leads. -/
inductive Place where
  /-- To a file. -/
  | found (id : FileId)
  /-- To a name that the directory `dir` does not have. -/
  | vacant (dir : FileId) (name : Name)
deriving DecidableEq, Repr

/-- What a path name is followed for. -/
structure Aim where
  /-- Follow a link at the end. -/
  follow : Bool := true
  /-- A file at the end may be created. -/
  create : Bool := false

/-- Who looks: the user, the directory that relative path names start from, the permission bits that new
files do not get, and the open files behind the two output streams. -/
structure Viewer where
  user : Nat
  dir : FileId
  mask : Nat := 0o022
  out : Option Nat := none
  err : Option Nat := none

/-- The open file behind a stream of the one who looks. -/
def Viewer.opened (v : Viewer) : Stream → Option Nat
  | .stdout => v.out
  | .stderr => v.err

/-- Follow `names` from the directory `dir`; `links` more links may be followed, and `wantsDir` tells
that the last part must be a directory. -/
def walk (t : FileTree) (user : Nat) (aim : Aim) (links : Nat) (dir : FileId) (wantsDir : Bool) :
    List Name → Except Errno Place
  | [] =>
    if wantsDir && !(t.node? dir).any Node.isDirectory then .error .notDirectory
    else .ok (.found dir)
  | name :: rest =>
    match t.node? dir with
    | none => .error .noEntry
    | some node =>
      if !node.isDirectory then .error .notDirectory
      else if !node.allows user .execute then .error .accessDenied
      else if name = dot then walk t user aim links dir wantsDir rest
      else if name = dotDot then walk t user aim links (t.parent dir) wantsDir rest
      else if aim.create && wantsDir && rest.isEmpty then .error .isDirectory
      else if name.length > nameLimit then .error .nameTooLong
      else
        match t.child? dir name with
        | none => if rest.isEmpty then .ok (.vacant dir name) else .error .noEntry
        | some id =>
          match (t.node? id).map Node.content with
          | some (.link target) =>
            if rest.isEmpty && !aim.follow && !wantsDir then .ok (.found id)
            else
              match links with
              | 0 => .error .tooManyLinks
              | links + 1 =>
                if target.bytes.isEmpty then .error .noEntry
                else
                  let start := if target.isAbsolute then rootId else dir
                  let wantsDir := wantsDir || (rest.isEmpty && target.endsInSlash)
                  walk t user aim links start wantsDir (target.parts ++ rest)
          | _ => walk t user aim links id wantsDir rest
termination_by names => (links, names.length)

/-- Follow a path name. -/
def locate (t : FileTree) (v : Viewer) (aim : Aim) (p : Path) : Except Errno Place :=
  if p.bytes.isEmpty then .error .noEntry
  else if p.bytes.length ≥ pathLimit then .error .nameTooLong
  else t.walk v.user aim linkLimit (if p.isAbsolute then rootId else v.dir) p.endsInSlash p.parts

/-- The file that a path name leads to. -/
def find (t : FileTree) (v : Viewer) (p : Path) (follow : Bool) : Except Errno FileId :=
  match t.locate v { follow := follow } p with
  | .error e => .error e
  | .ok (.found id) => .ok id
  | .ok (.vacant ..) => .error .noEntry

/-- The file that a path name leads to, with its number. -/
def findNode (t : FileTree) (v : Viewer) (p : Path) (follow : Bool) : Except Errno (FileId × Node) :=
  match t.find v p follow with
  | .error e => .error e
  | .ok id =>
    match t.node? id with
    | some n => .ok (id, n)
    | none => .error .noEntry

/-- The names that lead from the root directory to `dir`, unless it is removed. -/
def namesTo (t : FileTree) : Nat → FileId → Option (List Name)
  | 0, _ => none
  | depth + 1, dir =>
    if dir = rootId then some []
    else
      let up := t.parent dir
      match ((t.node? up).map Node.entries).bind fun es => es.find? (·.2 == dir) with
      | some (name, _) => (t.namesTo depth up).map (· ++ [name])
      | none => none

/-- The absolute path name of the directory `dir`. -/
def pathTo (t : FileTree) (dir : FileId) : Option Path :=
  (t.namesTo (t.nodes.size + 1) dir).map Path.ofParts

/-- What follows in a path name requires that what stands before it is a directory. -/
def requiresDirectory (trailing : Bool) : List Name → Bool
  | [] => trailing
  | name :: rest =>
    if name = dotDot then true
    else if name = dot then rest.isEmpty || requiresDirectory trailing rest
    else false

/-- Follow `names` from the directory with the path name `done`, which has no links, last name
first; the result is the path name that they lead to. -/
def canonicalFrom (t : FileTree) (user : Nat) (links : Nat) (done : List Name) (trailing : Bool) :
    List Name → Except Errno (List Name)
  | [] => .ok done.reverse
  | name :: rest =>
    if name = dot then canonicalFrom t user links done trailing rest
    else if name = dotDot then canonicalFrom t user links done.tail trailing rest
    else
      let here := Path.ofParts (name :: done).reverse
      match t.findNode { user := user, dir := rootId } here false with
      | .error e => .error e
      | .ok (_, ⟨.link target, _, _, _⟩) =>
        match links with
        | 0 => .error .tooManyLinks
        | links + 1 =>
          let start := if target.isAbsolute then [] else done
          let trailing := if rest.isEmpty then trailing || target.endsInSlash else trailing
          canonicalFrom t user links start trailing (target.parts ++ rest)
      | .ok (_, node) =>
        if requiresDirectory trailing rest && !node.isDirectory then .error .notDirectory
        else canonicalFrom t user links (name :: done) trailing rest
termination_by names => (links, names.length)

/-- The absolute path name of a file without links, `.` and `..`. -/
def canonical (t : FileTree) (v : Viewer) (p : Path) : Except Errno Path :=
  if p.bytes.isEmpty then .error .noEntry
  else
    match if p.isAbsolute then some [] else t.namesTo (t.nodes.size + 1) v.dir with
    | none => .error .noEntry
    | some names =>
      match t.canonicalFrom v.user linkLimit names.reverse p.endsInSlash p.parts with
      | .error e => .error e
      | .ok parts => .ok (Path.ofParts parts)

end FileTree

end LineShell
