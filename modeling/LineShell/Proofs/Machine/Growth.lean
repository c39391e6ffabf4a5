import LineShell.Machine.Files
import Mathlib.Data.List.Basic

/-!
# Trees that grow

Writing to files and making new ones changes a file tree in few ways only: regular files hold other bytes, and
directories get further names, each for a new regular file of its own. A path name then leads where it led before, but
for a name that was vacant, which may have become that of a new file.

* `FileTree.Grows`: what such changes keep.
* `FileTree.Grows.setBytes`, `FileTree.Grows.addNamed`: the two changes.
* `FileTree.Grows.locate`: where a path name leads in the tree that has grown.
-/

namespace LineShell

/-! ## Files but for what they hold -/

/-- The file without its bytes, its names and its time. -/
def Node.hollow (n : Node) : Node where
  content := match n.content with
    | .directory parent _ => .directory parent []
    | .regular _ => .regular []
    | c => c
  mode := n.mode
  owner := n.owner

namespace Node

variable {n n' : Node}

theorem isDirectory_eq_of_hollow (h : n'.hollow = n.hollow) : n'.isDirectory = n.isDirectory := by
  have hhollow (n : Node) : n.hollow.isDirectory = n.isDirectory := by
    obtain ⟨c, _, _, _⟩ := n
    cases c <;> rfl
  rw [← hhollow n', h, hhollow n]

theorem allows_eq_of_hollow (h : n'.hollow = n.hollow) (user : Nat) (a : Access) :
    n'.allows user a = n.allows user a := by
  have hmode : n'.hollow.mode = n.hollow.mode := congrArg Node.mode h
  have howner : n'.hollow.owner = n.hollow.owner := congrArg Node.owner h
  change n'.mode = n.mode at hmode
  change n'.owner = n.owner at howner
  rw [allows, allows, isDirectory_eq_of_hollow h, hmode, howner]

theorem content_hollow_eq_link {target : Path} : n.hollow.content = .link target ↔ n.content = .link target := by
  obtain ⟨c, _, _, _⟩ := n
  cases c <;> simp [hollow]

end Node

namespace FileTree

variable {t t' : FileTree}

theorem lt_of_node? {id : FileId} {n : Node} (hnode : t.node? id = some n) : id < t.nodes.size :=
  (Array.getElem?_eq_some_iff.1 hnode).1

theorem parent_eq_of_hollow {dir : FileId} (h : (t'.node? dir).map Node.hollow = (t.node? dir).map Node.hollow) :
    t'.parent dir = t.parent dir := by
  unfold parent
  cases hnode : t.node? dir with
  | none =>
    rw [hnode, Option.map_none, Option.map_eq_none_iff] at h
    rw [h]
  | some n =>
    rw [hnode, Option.map_some] at h
    obtain ⟨n', hnode', hhollow⟩ := Option.map_eq_some_iff.1 h
    have hcontent := congrArg Node.content hhollow
    rw [hnode']
    obtain ⟨c, _, _, _⟩ := n
    obtain ⟨c', _, _, _⟩ := n'
    cases c <;> cases c' <;> cases hcontent <;> rfl

/-- The bytes of a regular file. -/
def bytesAt? (t : FileTree) (id : FileId) : Option Bytes :=
  match (t.node? id).map Node.content with
  | some (.regular bytes) => some bytes
  | _ => none

theorem bytesAt?_eq_some {id : FileId} {bytes : Bytes} :
    t.bytesAt? id = some bytes ↔ ∃ n, t.node? id = some n ∧ n.content = .regular bytes := by
  unfold bytesAt?
  cases t.node? id with
  | none => simp
  | some n => cases hcontent : n.content <;> simp [hcontent]

/-! ## Changes of one file -/

theorem node?_modify (t : FileTree) (id : FileId) (f : Node → Node) (id' : FileId) :
    (t.modify id f).node? id' = if id' = id then (t.node? id).map f else t.node? id' := by
  unfold modify
  cases hnode : t.node? id with
  | none =>
    by_cases h : id' = id
    · rw [if_pos h, h]
      exact hnode
    · rw [if_neg h]
  | some n =>
    have hlt : id < t.nodes.size := lt_of_node? hnode
    simp only [setNode, node?, Array.getElem?_setIfInBounds]
    by_cases h : id' = id
    · rw [if_pos h, if_pos h.symm, if_pos hlt]
      rfl
    · rw [if_neg h, if_neg (Ne.symm h)]

theorem size_modify (t : FileTree) (id : FileId) (f : Node → Node) : (t.modify id f).nodes.size = t.nodes.size := by
  unfold modify
  cases t.node? id with
  | none => rfl
  | some n => exact Array.size_setIfInBounds

theorem node?_add (t : FileTree) (n : Node) (id : FileId) :
    (t.add n).2.node? id = if id = t.nodes.size then some { n with time := t.now } else t.node? id := by
  simp only [add, node?, Array.getElem?_push]

theorem bytesAt?_setContent {id : FileId} {old : Bytes} (hold : t.bytesAt? id = some old) (bytes : Bytes) (id' : FileId) :
    (t.setContent id (.regular bytes)).bytesAt? id' = if id' = id then some bytes else t.bytesAt? id' := by
  obtain ⟨n, hnode, -⟩ := bytesAt?_eq_some.1 hold
  simp only [bytesAt?, setContent, node?_modify]
  by_cases h : id' = id
  · rw [if_pos h, if_pos h, hnode]
    rfl
  · rw [if_neg h, if_neg h]

/-- Writing to a regular file changes no directory. -/
theorem child?_setContent {id : FileId} {old : Bytes} (hold : t.bytesAt? id = some old) (bytes : Bytes) (dir : FileId)
    (name : Name) : (t.setContent id (.regular bytes)).child? dir name = t.child? dir name := by
  obtain ⟨n, hnode, hcontent⟩ := bytesAt?_eq_some.1 hold
  simp only [child?, setContent, node?_modify]
  by_cases h : dir = id
  · simp [h, hnode, Node.entries, hcontent]
  · rw [if_neg h]

theorem lookup_unbind (es : List (Name × FileId)) (name name' : Name) :
    (es.filter (·.1 != name)).lookup name' = if name' = name then none else es.lookup name' := by
  induction es with
  | nil => simp
  | cons e es ih =>
    obtain ⟨key, value⟩ := e
    by_cases hkey : key = name
    · have hdropped : ((key, value) :: es).filter (·.1 != name) = es.filter (·.1 != name) := by simp [hkey]
      rw [hdropped, ih, List.lookup_cons]
      by_cases h : name' = name
      · rw [if_pos h, if_pos h]
      · rw [if_neg h, if_neg h, beq_eq_false_iff_ne.2 fun heq => h (heq.trans hkey)]
    · have hkept : ((key, value) :: es).filter (·.1 != name) = (key, value) :: es.filter (·.1 != name) := by
        simp [hkey]
      rw [hkept, List.lookup_cons, List.lookup_cons, ih]
      by_cases h : name' = key
      · rw [beq_iff_eq.2 h]
        exact (if_neg fun heq => hkey (h.symm.trans heq)).symm
      · rw [beq_eq_false_iff_ne.2 h]

theorem lookup_bind (es : List (Name × FileId)) (name : Name) (id : FileId) (name' : Name) :
    (es.filter (·.1 != name) ++ [(name, id)]).lookup name' = if name' = name then some id else es.lookup name' := by
  rw [List.lookup_append, lookup_unbind]
  by_cases h : name' = name
  · simp [h]
  · simp [List.lookup_cons, beq_eq_false_iff_ne.2 h, h]

/-- The names of a directory after one of them was given to a file. -/
theorem child?_bindName {dir : FileId} (hdir : (t.node? dir).any Node.isDirectory = true) (name : Name) (id dir' : FileId)
    (name' : Name) :
    (t.bindName dir name id).child? dir' name' =
      if dir' = dir ∧ name' = name then some id else t.child? dir' name' := by
  obtain ⟨n, hnode, hisDirectory⟩ := (Option.any_eq_true ..).1 hdir
  obtain ⟨c, _, _, _⟩ := n
  cases c with
  | directory parent es =>
    simp only [child?, bindName, modifyEntries, node?_modify]
    by_cases h : dir' = dir
    · subst h
      simp [hnode, Node.entries, lookup_bind]
    · simp [h]
  | _ => cases hisDirectory

/-! ## New files -/

/-- Other names in a directory leave all files alone but for these names. -/
theorem node?_modifyEntries (t : FileTree) (dir : FileId) (f : List (Name × FileId) → List (Name × FileId)) (id : FileId) :
    ((t.modifyEntries dir f).node? id).map Node.hollow = (t.node? id).map Node.hollow ∧
      (t.modifyEntries dir f).bytesAt? id = t.bytesAt? id := by
  simp only [bytesAt?, modifyEntries, node?_modify]
  by_cases h : id = dir
  · subst h
    cases t.node? id with
    | none => simp
    | some n =>
      obtain ⟨c, _, _, _⟩ := n
      cases c <;> simp [Node.hollow]
  · simp [h]

variable {dir : FileId} {name : Name} {n : Node} {bytes : Bytes}

theorem node?_size (t : FileTree) : t.node? t.nodes.size = none :=
  Array.getElem?_eq_none (Nat.le_refl _)

/-- A new file with no names in it changes no directory. -/
theorem child?_add (hn : n.entries = []) (dir : FileId) (name : Name) :
    (t.add n).2.child? dir name = t.child? dir name := by
  rw [child?, child?, node?_add]
  by_cases h : dir = t.nodes.size
  · rw [if_pos h, h, node?_size, Option.bind_some]
    change n.entries.lookup name = none
    rw [hn, List.lookup_nil]
  · rw [if_neg h]

theorem size_addNamed (t : FileTree) (dir : FileId) (name : Name) (n : Node) :
    (t.addNamed dir name n).2.nodes.size = t.nodes.size + 1 := by
  simp only [addNamed, bindName, modifyEntries, size_modify, add, Array.size_push]

theorem hollow_addNamed (t : FileTree) (dir : FileId) (name : Name) (n : Node) {id : FileId} (hid : id < t.nodes.size) :
    ((t.addNamed dir name n).2.node? id).map Node.hollow = (t.node? id).map Node.hollow := by
  rw [addNamed]
  exact (node?_modifyEntries _ dir _ id).1.trans (by rw [node?_add, if_neg (Nat.ne_of_lt hid)])

theorem bytesAt?_addNamed (t : FileTree) (dir : FileId) (name : Name) (hn : n.content = .regular bytes) (id : FileId) :
    (t.addNamed dir name n).2.bytesAt? id = if id = t.nodes.size then some bytes else t.bytesAt? id := by
  rw [addNamed]
  refine (node?_modifyEntries _ dir _ id).2.trans ?_
  unfold bytesAt?
  rw [node?_add]
  by_cases h : id = t.nodes.size
  · rw [if_pos h, if_pos h]
    simp [hn]
  · rw [if_neg h, if_neg h]

/-- The name is that of the new file, and all other names are as they were. -/
theorem child?_addNamed (hdir : (t.node? dir).any Node.isDirectory = true) (hn : n.content = .regular bytes)
    (dir' : FileId) (name' : Name) :
    (t.addNamed dir name n).2.child? dir' name' =
      if dir' = dir ∧ name' = name then some t.nodes.size else t.child? dir' name' := by
  obtain ⟨parent, hparent, -⟩ := (Option.any_eq_true ..).1 hdir
  have hlt : dir < t.nodes.size := lt_of_node? hparent
  have hdir' : ((t.add n).2.node? dir).any Node.isDirectory = true := by
    rw [node?_add, if_neg (Nat.ne_of_lt hlt)]
    exact hdir
  have hempty : n.entries = [] := by rw [Node.entries, hn]
  rw [addNamed]
  exact (child?_bindName hdir' name _ dir' name').trans (by rw [child?_add hempty]; rfl)

/-! ## Growth -/

/-- Every name leads to a file that is there. -/
structure Sound (t : FileTree) : Prop where
  root : rootId < t.nodes.size
  child {dir : FileId} {name : Name} {id : FileId} : t.child? dir name = some id → id < t.nodes.size
  parent (dir : FileId) : t.parent dir < t.nodes.size

/-- The tree `t'` has come from `t` by writing to regular files and by making new ones. -/
structure Grows (t t' : FileTree) : Prop where
  size : t.nodes.size ≤ t'.nodes.size
  hollow {id : FileId} : id < t.nodes.size → (t'.node? id).map Node.hollow = (t.node? id).map Node.hollow
  fresh {id : FileId} : t.nodes.size ≤ id → id < t'.nodes.size → (t'.bytesAt? id).isSome = true
  kept {dir : FileId} {name : Name} {id : FileId} : t.child? dir name = some id → t'.child? dir name = some id
  added {dir : FileId} {name : Name} {id : FileId} :
    t.child? dir name = none → t'.child? dir name = some id → t.nodes.size ≤ id ∧ id < t'.nodes.size
  unique {dir dir' : FileId} {name name' : Name} {id : FileId} : t.nodes.size ≤ id →
    t'.child? dir name = some id → t'.child? dir' name' = some id → dir = dir' ∧ name = name'

theorem Grows.refl (h : t.Sound) : t.Grows t where
  size := Nat.le_refl _
  hollow _ := rfl
  fresh hlow hhigh := absurd hhigh (Nat.not_lt.2 hlow)
  kept h := h
  added hnone hsome := nomatch hnone.symm.trans hsome
  unique hlow hchild _ := absurd (h.child hchild) (Nat.not_lt.2 hlow)

namespace Grows

variable (h : t.Grows t')

include h

/-- Whether a file is a regular one does not change. -/
theorem isSome_bytesAt? {id : FileId} (hid : id < t.nodes.size) :
    (t'.bytesAt? id).isSome = (t.bytesAt? id).isSome := by
  have hregular (t : FileTree) : (t.bytesAt? id).isSome =
      (((t.node? id).map Node.hollow).map Node.content == some (.regular [])) := by
    unfold bytesAt?
    cases t.node? id with
    | none => rfl
    | some n =>
      obtain ⟨c, _, _, _⟩ := n
      cases c <;> simp [Node.hollow]
  rw [hregular t', hregular t, h.hollow hid]

theorem node? {id : FileId} {n : Node} (hnode : t.node? id = some n) :
    ∃ n', t'.node? id = some n' ∧ n'.hollow = n.hollow := by
  have hid : id < t.nodes.size := lt_of_node? hnode
  have hhollow := h.hollow hid
  rw [hnode, Option.map_some] at hhollow
  exact Option.map_eq_some_iff.1 hhollow

/-- Writing to a regular file. -/
theorem setBytes {id : FileId} {old : Bytes} (hold : t'.bytesAt? id = some old) (bytes : Bytes) :
    t.Grows (t'.setContent id (.regular bytes)) where
  size := by
    rw [setContent, size_modify]
    exact h.size
  hollow {id'} hid := by
    obtain ⟨n, hnode, hcontent⟩ := bytesAt?_eq_some.1 hold
    rw [← h.hollow hid, setContent, node?_modify]
    by_cases heq : id' = id
    · rw [if_pos heq, heq, hnode]
      simp [Node.hollow, hcontent]
    · rw [if_neg heq]
  fresh {id'} hlow hhigh := by
    rw [setContent, size_modify] at hhigh
    rw [bytesAt?_setContent hold]
    split
    · rfl
    · exact h.fresh hlow hhigh
  kept hchild := (child?_setContent hold bytes _ _).trans (h.kept hchild)
  added hnone hchild := by
    rw [child?_setContent hold] at hchild
    rw [setContent, size_modify]
    exact h.added hnone hchild
  unique hlow hchild hchild' := by
    rw [child?_setContent hold] at hchild hchild'
    exact h.unique hlow hchild hchild'

/-- A name belongs to a file that is there. -/
theorem child_lt (hsound : t.Sound) {dir : FileId} {name : Name} {id : FileId} (hchild : t'.child? dir name = some id) :
    id < t'.nodes.size := by
  cases hbefore : t.child? dir name with
  | none => exact (h.added hbefore hchild).2
  | some id' =>
    obtain rfl : id' = id := Option.some.inj ((h.kept hbefore).symm.trans hchild)
    exact Nat.lt_of_lt_of_le (hsound.child hbefore) h.size

/-- Making a new file under a name that was vacant. -/
theorem addNamed (hsound : t.Sound) (hdir : (t'.node? dir).any Node.isDirectory = true)
    (hvacant : t'.child? dir name = none) (hn : n.content = .regular bytes) :
    t.Grows (t'.addNamed dir name n).2 where
  size := by
    rw [size_addNamed]
    exact Nat.le_succ_of_le h.size
  hollow hid := (hollow_addNamed t' dir name n (Nat.lt_of_lt_of_le hid h.size)).trans (h.hollow hid)
  fresh {id} hlow hhigh := by
    rw [size_addNamed] at hhigh
    rw [bytesAt?_addNamed t' dir name hn]
    split
    · rfl
    · next hne => exact h.fresh hlow (Nat.lt_of_le_of_ne (Nat.le_of_lt_succ hhigh) hne)
  kept {dir' name' id} hchild := by
    have hbefore := h.kept hchild
    rw [child?_addNamed hdir hn, if_neg]
    · exact hbefore
    · rintro ⟨rfl, rfl⟩
      exact nomatch hvacant.symm.trans hbefore
  added {dir' name' id} hnone hchild := by
    rw [size_addNamed]
    rw [child?_addNamed hdir hn] at hchild
    split at hchild
    · obtain rfl := Option.some.inj hchild
      exact ⟨h.size, Nat.lt_succ_self _⟩
    · obtain ⟨hlow, hhigh⟩ := h.added hnone hchild
      exact ⟨hlow, Nat.lt_succ_of_lt hhigh⟩
  unique {dir₁ dir₂ name₁ name₂ id} hlow hchild₁ hchild₂ := by
    -- The number of the new file is that of no file before.
    have hbefore {d : FileId} {nm : Name} (hchild : t'.child? d nm = some id) : id ≠ t'.nodes.size :=
      Nat.ne_of_lt (h.child_lt hsound hchild)
    rw [child?_addNamed hdir hn] at hchild₁ hchild₂
    split at hchild₁ <;> split at hchild₂
    · next h₁ h₂ => exact ⟨h₁.1.trans h₂.1.symm, h₁.2.trans h₂.2.symm⟩
    · exact absurd (Option.some.inj hchild₁).symm (hbefore hchild₂)
    · exact absurd (Option.some.inj hchild₂).symm (hbefore hchild₁)
    · exact h.unique hlow hchild₁ hchild₂

end Grows

/-! ## Where path names lead -/

/-- Where a path name leads in the tree `t`, and where in the tree `t'` that has come from it. -/
inductive Leads (t t' : FileTree) : Except Errno Place → Except Errno Place → Prop
  | found {id : FileId} (hid : id < t.nodes.size) : Leads t t' (.ok (.found id)) (.ok (.found id))
  | vacant {dir : FileId} {name : Name} (hdir : (t'.node? dir).any Node.isDirectory = true)
      (hbefore : t.child? dir name = none) (hvacant : t'.child? dir name = none) :
      Leads t t' (.ok (.vacant dir name)) (.ok (.vacant dir name))
  | filled {dir : FileId} {name : Name} {id : FileId} (hbefore : t.child? dir name = none)
      (hchild : t'.child? dir name = some id) : Leads t t' (.ok (.vacant dir name)) (.ok (.found id))
  | error {e e' : Errno} : Leads t t' (.error e) (.error e')

/-- No path name leads on from an ordinary file. -/
theorem walk_of_regular (user : Nat) (aim : Aim) (links : Nat) (wantsDir : Bool) {id : FileId} {bytes : Bytes}
    (hcontent : (t.node? id).map Node.content = some (.regular bytes)) {names : List Name} (hnames : names ≠ []) :
    ∃ e, t.walk user aim links id wantsDir names = .error e := by
  obtain ⟨n, hnode, hregular⟩ := Option.map_eq_some_iff.1 hcontent
  have hfile : n.isDirectory = false := by rw [Node.isDirectory, hregular]
  obtain ⟨name, rest, rfl⟩ := List.exists_cons_of_ne_nil hnames
  exact ⟨.notDirectory, by simp [walk, hnode, hfile]⟩

namespace Grows

variable (h : t.Grows t')

include h

/-- A name that was vacant can only have become that of an ordinary file. -/
theorem content_of_added {dir : FileId} {name : Name} {id : FileId} (hbefore : t.child? dir name = none)
    (hchild : t'.child? dir name = some id) : ∃ bytes, (t'.node? id).map Node.content = some (.regular bytes) := by
  obtain ⟨hlow, hhigh⟩ := h.added hbefore hchild
  obtain ⟨bytes, hbytes⟩ := Option.isSome_iff_exists.1 (h.fresh hlow hhigh)
  obtain ⟨n, hnode, hcontent⟩ := bytesAt?_eq_some.1 hbytes
  exact ⟨bytes, by rw [hnode, Option.map_some, hcontent]⟩

theorem parent {dir : FileId} (hdir : dir < t.nodes.size) : t'.parent dir = t.parent dir :=
  parent_eq_of_hollow (h.hollow hdir)

/-- A tree that has grown is as sound as it was. -/
theorem sound (hsound : t.Sound) : t'.Sound where
  root := Nat.lt_of_lt_of_le hsound.root h.size
  child hchild := h.child_lt hsound hchild
  parent dir := by
    by_cases hdir : dir < t.nodes.size
    · rw [h.parent hdir]
      exact Nat.lt_of_lt_of_le (hsound.parent dir) h.size
    suffices hroot : t'.parent dir = rootId by
      rw [hroot]
      exact Nat.lt_of_lt_of_le hsound.root h.size
    unfold FileTree.parent
    by_cases hnew : dir < t'.nodes.size
    · obtain ⟨bytes, hbytes⟩ := Option.isSome_iff_exists.1 (h.fresh (Nat.le_of_not_lt hdir) hnew)
      obtain ⟨n, hnode, hcontent⟩ := bytesAt?_eq_some.1 hbytes
      rw [hnode, Option.map_some, hcontent]
    · have hnone : t'.node? dir = none := Array.getElem?_eq_none (Nat.le_of_not_lt hnew)
      rw [hnone, Option.map_none]

theorem content_eq_link {id : FileId} (hid : id < t.nodes.size) {target : Path} :
    (t'.node? id).map Node.content = some (.link target) ↔ (t.node? id).map Node.content = some (.link target) := by
  have hlink (t : FileTree) : (t.node? id).map Node.content = some (.link target) ↔
      ((t.node? id).map Node.hollow).map Node.content = some (.link target) := by
    cases t.node? id with
    | none => simp
    | some n => simp [Node.content_hollow_eq_link]
  rw [hlink t', hlink t, h.hollow hid]

theorem any_isDirectory {dir : FileId} (hdir : dir < t.nodes.size) :
    (t'.node? dir).any Node.isDirectory = (t.node? dir).any Node.isDirectory := by
  obtain ⟨n, hnode⟩ : ∃ n, t.node? dir = some n := ⟨_, Array.getElem?_eq_getElem hdir⟩
  obtain ⟨n', hnode', hhollow⟩ := h.node? hnode
  rw [hnode, hnode', Option.any_some, Option.any_some, Node.isDirectory_eq_of_hollow hhollow]

/-- A directory lets the same users pass. -/
theorem passes (user : Nat) {dir : FileId} {n : Node} (hnode : t.node? dir = some n) :
    ∃ n', t'.node? dir = some n' ∧ n'.isDirectory = n.isDirectory ∧
      n'.allows user .execute = n.allows user .execute := by
  obtain ⟨n', hnode', hhollow⟩ := h.node? hnode
  exact ⟨n', hnode', Node.isDirectory_eq_of_hollow hhollow, Node.allows_eq_of_hollow hhollow user .execute⟩

/-- One step on the way, from a directory that was there before. -/
theorem walk_cons {user : Nat} {aim : Aim} {links : Nat} {dir : FileId} {wantsDir : Bool} {name : Name} {rest : List Name}
    {node : Node} (hnode : t.node? dir = some node) :
    t'.walk user aim links dir wantsDir (name :: rest) =
      if !node.isDirectory then .error .notDirectory
      else if !node.allows user .execute then .error .accessDenied
      else if name = dot then t'.walk user aim links dir wantsDir rest
      else if name = dotDot then t'.walk user aim links (t'.parent dir) wantsDir rest
      else if aim.create && wantsDir && rest.isEmpty then .error .isDirectory
      else if name.length > nameLimit then .error .nameTooLong
      else
        match t'.child? dir name with
        | none => if rest.isEmpty then .ok (.vacant dir name) else .error .noEntry
        | some id =>
          match (t'.node? id).map Node.content with
          | some (.link target) =>
            if rest.isEmpty && !aim.follow && !wantsDir then .ok (.found id)
            else
              match links with
              | 0 => .error .tooManyLinks
              | links + 1 =>
                if target.bytes.isEmpty then .error .noEntry
                else t'.walk user aim links (if target.isAbsolute then rootId else dir)
                  (wantsDir || (rest.isEmpty && target.endsInSlash)) (target.parts ++ rest)
          | _ => t'.walk user aim links id wantsDir rest := by
  obtain ⟨node', hnode', hkind, hallows⟩ := h.passes user hnode
  rw [FileTree.walk, hnode']
  exact if_congr (by rw [hkind]) rfl (if_congr (by rw [hallows]) rfl rfl)

/-- **A path name that is to be created leads where it led before**, but for a vacant name, which may be that of a new
file now. -/
theorem walk (hsound : t.Sound) {user : Nat} {aim : Aim} (haim : aim.create = true) (links : Nat) {dir : FileId}
    (hdir : dir < t.nodes.size) (wantsDir : Bool) (names : List Name) :
    Leads t t' (t.walk user aim links dir wantsDir names) (t'.walk user aim links dir wantsDir names) := by
  fun_induction FileTree.walk t user aim links dir wantsDir names with
  | case1 links dir wantsDir hends =>
    have hends' : (wantsDir && !(t'.node? dir).any Node.isDirectory) = true := by
      rwa [h.any_isDirectory hdir]
    rw [FileTree.walk, if_pos hends']
    exact .error
  | case2 links dir wantsDir hends =>
    have hends' : ¬ (wantsDir && !(t'.node? dir).any Node.isDirectory) = true := by
      rwa [h.any_isDirectory hdir]
    rw [FileTree.walk, if_neg hends']
    exact .found hdir
  | case3 links dir wantsDir name rest hnone =>
    exact absurd (Array.getElem?_eq_none_iff.1 hnone) (Nat.not_le.2 hdir)
  | case4 links dir wantsDir name rest node hnode hfile =>
    rw [h.walk_cons hnode, if_pos hfile]
    exact .error
  | case5 links dir wantsDir name rest node hnode hdirectory hbarred =>
    rw [h.walk_cons hnode, if_neg hdirectory, if_pos hbarred]
    exact .error
  | case6 links dir wantsDir rest node hnode hdirectory hopen ih =>
    rw [h.walk_cons hnode, if_neg hdirectory, if_neg hopen, if_pos rfl]
    exact ih hdir
  | case7 links dir wantsDir rest node hnode hdirectory hopen hdots ih =>
    rw [h.walk_cons hnode, if_neg hdirectory, if_neg hopen, if_neg hdots, if_pos rfl, h.parent hdir]
    exact ih (hsound.parent dir)
  | case8 links dir wantsDir name rest node hnode hdirectory hopen hdot hdotDot hends =>
    rw [h.walk_cons hnode, if_neg hdirectory, if_neg hopen, if_neg hdot, if_neg hdotDot, if_pos hends]
    exact .error
  | case9 links dir wantsDir name rest node hnode hdirectory hopen hdot hdotDot hends hlong =>
    rw [h.walk_cons hnode, if_neg hdirectory, if_neg hopen, if_neg hdot, if_neg hdotDot, if_neg hends, if_pos hlong]
    exact .error
  | case10 links dir wantsDir name rest node hnode hdirectory hopen hdot hdotDot hends hshort hchild hlast =>
    rw [h.walk_cons hnode, if_neg hdirectory, if_neg hopen, if_neg hdot, if_neg hdotDot, if_neg hends, if_neg hshort]
    cases hchild' : t'.child? dir name with
    | none =>
      have hdir' : (t'.node? dir).any Node.isDirectory = true := by
        rw [h.any_isDirectory hdir, hnode]
        simpa using hdirectory
      simp only [hlast, if_true]
      exact .vacant hdir' hchild hchild'
    | some id =>
      obtain rfl := List.isEmpty_iff.1 hlast
      have hplain : wantsDir = false := by simpa [haim] using hends
      obtain ⟨bytes, hcontent⟩ := h.content_of_added hchild hchild'
      simp only [hcontent, FileTree.walk, hplain, Bool.false_and, Bool.false_eq_true, if_false]
      exact .filled hchild hchild'
  | case11 links dir wantsDir name rest node hnode hdirectory hopen hdot hdotDot hends hshort hchild hmore =>
    rw [h.walk_cons hnode, if_neg hdirectory, if_neg hopen, if_neg hdot, if_neg hdotDot, if_neg hends, if_neg hshort]
    cases hchild' : t'.child? dir name with
    | none =>
      simp only [hmore]
      exact .error
    | some id =>
      obtain ⟨bytes, hcontent⟩ := h.content_of_added hchild hchild'
      obtain ⟨e, hfails⟩ := walk_of_regular user aim links wantsDir hcontent fun hrest => hmore (List.isEmpty_iff.2 hrest)
      simp only [hcontent, hfails]
      exact .error
  | case12 links dir wantsDir name rest node hnode hdirectory hopen hdot hdotDot hends hshort id hchild target hlink
      hstops =>
    have hid := hsound.child hchild
    rw [h.walk_cons hnode, if_neg hdirectory, if_neg hopen, if_neg hdot, if_neg hdotDot, if_neg hends, if_neg hshort]
    simp only [h.kept hchild, (h.content_eq_link hid).2 hlink, hstops, if_true]
    exact .found hid
  | case13 dir wantsDir name rest node hnode hdirectory hopen hdot hdotDot hends hshort id hchild target hlink hgoes =>
    rw [h.walk_cons hnode, if_neg hdirectory, if_neg hopen, if_neg hdot, if_neg hdotDot, if_neg hends, if_neg hshort]
    simp only [h.kept hchild, (h.content_eq_link (hsound.child hchild)).2 hlink, hgoes, if_false, Bool.false_eq_true]
    exact .error
  | case14 dir wantsDir name rest node hnode hdirectory hopen hdot hdotDot hends hshort id hchild target hlink hgoes links
      hempty =>
    rw [h.walk_cons hnode, if_neg hdirectory, if_neg hopen, if_neg hdot, if_neg hdotDot, if_neg hends, if_neg hshort]
    simp only [h.kept hchild, (h.content_eq_link (hsound.child hchild)).2 hlink, hgoes, hempty, if_true, if_false,
      Bool.false_eq_true]
    exact .error
  | case15 dir wantsDir name rest node hnode hdirectory hopen hdot hdotDot hends hshort id hchild target hlink hgoes links
      htarget start wantsDir' ih =>
    rw [h.walk_cons hnode, if_neg hdirectory, if_neg hopen, if_neg hdot, if_neg hdotDot, if_neg hends, if_neg hshort]
    simp only [h.kept hchild, (h.content_eq_link (hsound.child hchild)).2 hlink, hgoes, htarget, if_false,
      Bool.false_eq_true]
    refine ih ?_
    by_cases habsolute : target.isAbsolute = true
    · simp only [start, habsolute, dite_true]
      exact hsound.root
    · simp only [start, habsolute, dite_false, Bool.false_eq_true]
      exact hdir
  | case16 links dir wantsDir name rest node hnode hdirectory hopen hdot hdotDot hends hshort id hchild hplain ih =>
    have hid := hsound.child hchild
    rw [h.walk_cons hnode, if_neg hdirectory, if_neg hopen, if_neg hdot, if_neg hdotDot, if_neg hends, if_neg hshort]
    simp only [h.kept hchild]
    split
    · next target hlink => exact absurd ((h.content_eq_link hid).1 hlink) (hplain target)
    · exact ih hid

theorem locate (hsound : t.Sound) {v : Viewer} (hdir : v.dir < t.nodes.size) (aim : Aim) (haim : aim.create = true)
    (p : Path) : Leads t t' (t.locate v aim p) (t'.locate v aim p) := by
  unfold FileTree.locate
  by_cases hempty : p.bytes.isEmpty = true
  · rw [if_pos hempty, if_pos hempty]
    exact .error
  by_cases hlong : p.bytes.length ≥ pathLimit
  · rw [if_neg hempty, if_neg hempty, if_pos hlong, if_pos hlong]
    exact .error
  rw [if_neg hempty, if_neg hempty, if_neg hlong, if_neg hlong]
  refine h.walk hsound haim linkLimit ?_ _ _
  by_cases habsolute : p.isAbsolute = true
  · rw [if_pos habsolute]
    exact hsound.root
  · rw [if_neg habsolute]
    exact hdir

end Grows

end FileTree

end LineShell
