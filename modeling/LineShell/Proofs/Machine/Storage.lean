import LineShell.Machine.System
import LineShell.Proofs.Machine.Soundness
import LineShell.Proofs.Run.Dropped
import LineShell.Proofs.Run.Session

/-!
# The files of a machine

What the answers of a machine do to its ordinary files. A path name leads to a `Place`: a file, or a name that is
vacant and may become that of a new file. As long as no program is started and the line editor is left alone, places
stay what they are, and each request has its whole effect on the file of its place, or none.

* `FileTree.opens_of_openFile`: what opening a file for writing does to the tree.
* `Machine.Descends`: what such requests keep of the machine at the start.
* `Machine.Descends.answered`: what one request does.
* `Machine.fileSystem`: the places as a file system, with its further laws `Machine.firm_fileSystem` and
  `Machine.allOrNothing_fileSystem`.
* `Machine.failsClean_answer`: creations that fail leave any machine as it is.
* `Machine.bytesOf_run`, `Machine.bytesOf_handleAll`: what a smooth run, and a session, leaves in the files of a machine.
-/

namespace LineShell

open FileTree (Place Opening)

/-! ## Files that are opened for writing -/

namespace FileTree

variable {t t' : FileTree} {v : Viewer} {p : Path} {o : Opening} {id : FileId}

theorem exists_opening (append : Bool) :
    ∃ o : Opening, (if append then .appending else .replacing) = o ∧ o.create = true ∧ o.isNew = false ∧
      o.truncate = !append := by
  cases append <;> exact ⟨_, rfl, rfl, rfl, rfl⟩

/-- What opening a file for writing does to the tree. -/
inductive Opens (t : FileTree) (v : Viewer) (p : Path) (o : Opening) : FileId → FileTree → Prop
  /-- A new file is made. -/
  | made {dir : FileId} {name : Name} {n : Node} (hvacant : t.locate v { create := true } p = .ok (.vacant dir name))
      (hcontent : n.content = .regular []) : Opens t v p o t.nodes.size (t.addNamed dir name n).2
  /-- An ordinary file is there. -/
  | regular {id : FileId} {old : Bytes} (hfound : t.locate v { create := true } p = .ok (.found id))
      (hold : t.bytesAt? id = some old) :
      Opens t v p o id (if o.truncate then t.setContent id (.regular []) else t)
  /-- Something else is there. -/
  | other {id : FileId} (hfound : t.locate v { create := true } p = .ok (.found id)) (hnone : t.bytesAt? id = none) :
      Opens t v p o id t

theorem opens_of_openFile (hcreate : o.create = true) (hnew : o.isNew = false) :
    Ensures (t.openFile v p o) fun opened => t.Opens v p o opened.1 opened.2 := by
  refine .bind (.self _) fun place hplace => ?_
  rw [hcreate, hnew] at hplace
  cases place with
  | vacant dir name => exact .check (.bind (.any _) fun _ _ => .pure (.made hplace rfl))
  | found id =>
    simp only
    cases hnode : t.node? id with
    | none => exact .throw _
    | some n =>
      refine .check (.check (.check (.check ?_)))
      cases hcontent : n.content with
      | regular old => exact .pure (.regular hplace (bytesAt?_eq_some.2 ⟨n, hnode, hcontent⟩))
      | _ => exact .pure (.other hplace (by simp [bytesAt?, hnode, hcontent]))

theorem lt_of_bytesAt? {bytes : Bytes} (h : t.bytesAt? id = some bytes) : id < t.nodes.size := by
  obtain ⟨n, hnode, -⟩ := bytesAt?_eq_some.1 h
  exact lt_of_node? hnode

theorem stream?_of_bytesAt? {bytes : Bytes} (h : t.bytesAt? id = some bytes) : t.stream? id = none := by
  obtain ⟨n, hnode, hcontent⟩ := bytesAt?_eq_some.1 h
  rw [stream?, hnode, Option.map_some, hcontent]

theorem stream?_addNamed (t : FileTree) (dir : FileId) (name : Name) {n : Node} (hcontent : n.content = .regular []) :
    (t.addNamed dir name n).2.stream? t.nodes.size = none :=
  stream?_of_bytesAt? ((bytesAt?_addNamed t dir name hcontent t.nodes.size).trans (if_pos rfl))

/-- Nothing happens to a file that stands for a stream. -/
theorem Opens.stream? (h : t.Opens v p o id t') : t'.stream? id = none ∨ t' = t := by
  cases h with
  | made hvacant hcontent => exact .inl (stream?_addNamed t _ _ hcontent)
  | regular hfound hold =>
    by_cases htruncate : o.truncate = true
    · rw [if_pos htruncate]
      exact .inl (stream?_of_bytesAt? ((bytesAt?_setContent hold [] _).trans (if_pos rfl)))
    · exact .inr (if_neg htruncate)
  | other hfound hnone => exact .inr rfl

theorem write_size {old : Bytes} (hold : t.bytesAt? id = some old) (bytes : Bytes) :
    t.write id (t.size id) bytes =
      .ok (if bytes.isEmpty then t else t.setContent id (.regular (old ++ bytes))) := by
  obtain ⟨n, hnode, hcontent⟩ := bytesAt?_eq_some.1 hold
  simp [write, size, hnode, hcontent, overwritten]

end FileTree

namespace Machine

variable {m₀ m : Machine} {f : Place} {id : FileId}

/-! ## Places -/

/-- What the output streams of the shell's process go to. -/
def streamChannels (m : Machine) : List Channel :=
  [1, 2].filterMap fun i => (m.opened[i]?).map OpenFile.channel

/-- The file is an ordinary one, and no output stream of the shell's process. -/
def isPlain (m : Machine) (id : FileId) : Bool :=
  (m.tree.bytesAt? id).isSome && !m.streamChannels.contains (.file id)

/-- The place that a path name leads to. -/
def placeOf (m : Machine) (p : Path) : Option Place :=
  match m.tree.locate m.viewer { create := true } p with
  | .ok (.found id) => if m.isPlain id then some (.found id) else none
  | .ok (.vacant dir name) => some (.vacant dir name)
  | .error _ => none

/-- The file of a place in the tree `t`, where places are those of the machine `m₀`. -/
def fileAt? (m₀ : Machine) (t : FileTree) : Place → Option FileId
  | .found id => if m₀.isPlain id then some id else none
  | .vacant dir name => if (m₀.tree.child? dir name).isNone then t.child? dir name else none

/-- The bytes of a place. -/
def bytesOf (m₀ : Machine) (t : FileTree) (f : Place) : Option Bytes :=
  (m₀.fileAt? t f).bind t.bytesAt?

/-- The channel does not go to a place. -/
def Foreign (m₀ : Machine) (c : Channel) : Prop :=
  ∀ id, c = .file id → id < m₀.tree.nodes.size ∧ m₀.isPlain id = false

/-- The channel goes to the place, if there is one. -/
inductive Aimed (m₀ : Machine) (t : FileTree) : Option Place → Channel → Prop
  | plain {f : Place} {id : FileId} (hfile : m₀.fileAt? t f = some id) : Aimed m₀ t (some f) (.file id)
  | foreign {c : Channel} (hforeign : m₀.Foreign c) : Aimed m₀ t none c

/-! ## What stays -/

/-- The files, the directory and the streams of the shell's process are there. -/
structure Sound (m : Machine) : Prop where
  tree : m.tree.Sound
  dir : m.dir < m.tree.nodes.size
  opened : 2 < m.opened.size
  stream {id : FileId} : .file id ∈ m.streamChannels → id < m.tree.nodes.size

/-- A machine is sound at the start of the shell's process, whose output goes to the screens. -/
theorem sound_start {t : FileTree} (ht : t.Sound) (user : Nat) (vars : Environment) {dir : FileId}
    (hdir : dir < t.nodes.size) (input : Bytes) : (start t user vars dir input).Sound where
  tree := ht.add ht.root nofun
  dir := Nat.lt_of_lt_of_le hdir (Array.size_push _ ▸ Nat.le_succ _)
  opened := Nat.lt_succ_self 2
  stream hid := by simp [start, streamChannels] at hid

/-- So is one whose files have been laid out, whoever was given the file `id` and what is in it. -/
theorem sound_start_layOut (base : Path) (entries : List Entry) (owner depth : Nat) (id : FileId) (user : Nat)
    (vars : Environment) (input : Bytes) :
    (start (.giveTo owner depth (FileTree.bare.layOut base entries) id) user vars FileTree.rootId input).Sound :=
  have ht := (FileTree.sound_bare.layOut base entries).giveTo owner depth id
  sound_start ht user vars ht.root input

/-- The machine `m` has come from `m₀` by opening files and writing to them. -/
structure Descends (m₀ m : Machine) : Prop where
  tree : m₀.tree.Grows m.tree
  user : m.user = m₀.user
  dir : m.dir = m₀.dir
  channel {i : Nat} : i < m₀.opened.size →
    (m.opened[i]?).map OpenFile.channel = (m₀.opened[i]?).map OpenFile.channel

/-! ## The bytes of places -/

theorem isPlain_iff : m.isPlain id = true ↔ (m.tree.bytesAt? id).isSome = true ∧ .file id ∉ m.streamChannels := by
  simp [isPlain]

theorem lt_of_isPlain (h : m.isPlain id = true) : id < m.tree.nodes.size := by
  obtain ⟨bytes, hbytes⟩ := Option.isSome_iff_exists.1 (isPlain_iff.1 h).1
  exact FileTree.lt_of_bytesAt? hbytes

variable {t : FileTree} {f' : Place}

theorem fileAt?_cases (hfile : m₀.fileAt? t f = some id) :
    (f = .found id ∧ m₀.isPlain id = true) ∨
      ∃ dir name, f = .vacant dir name ∧ m₀.tree.child? dir name = none ∧ t.child? dir name = some id := by
  cases f with
  | found id' =>
    simp only [fileAt?, Option.ite_none_right_eq_some, Option.some.injEq] at hfile
    obtain ⟨hplain, rfl⟩ := hfile
    exact .inl ⟨rfl, hplain⟩
  | vacant dir name =>
    simp only [fileAt?, Option.ite_none_right_eq_some, Option.isNone_iff_eq_none] at hfile
    exact .inr ⟨dir, name, rfl, hfile.1, hfile.2⟩

section Grown

variable (h : m₀.tree.Grows t)

include h

/-- Different places have different files. -/
theorem fileAt?_inj (hfile : m₀.fileAt? t f = some id) (hfile' : m₀.fileAt? t f' = some id) : f = f' := by
  -- A file that has been made has a number that no file had at the start.
  have hnew {dir : FileId} {name : Name} (hbefore : m₀.tree.child? dir name = none)
      (hchild : t.child? dir name = some id) : ¬ m₀.isPlain id = true :=
    fun hplain => Nat.not_lt.2 (h.added hbefore hchild).1 (lt_of_isPlain hplain)
  rcases fileAt?_cases hfile with ⟨rfl, hplain⟩ | ⟨dir, name, rfl, hbefore, hchild⟩ <;>
    rcases fileAt?_cases hfile' with ⟨rfl, hplain'⟩ | ⟨dir', name', rfl, hbefore', hchild'⟩
  · rfl
  · exact absurd hplain (hnew hbefore' hchild')
  · exact absurd hplain' (hnew hbefore hchild)
  · obtain ⟨rfl, rfl⟩ := h.unique (h.added hbefore hchild).1 hchild hchild'
    rfl

theorem exists_bytesAt? (hfile : m₀.fileAt? t f = some id) : ∃ bytes, t.bytesAt? id = some bytes := by
  rw [← Option.isSome_iff_exists]
  rcases fileAt?_cases hfile with ⟨-, hplain⟩ | ⟨dir, name, -, hbefore, hchild⟩
  · rw [h.isSome_bytesAt? (lt_of_isPlain hplain)]
    exact (isPlain_iff.1 hplain).1
  · obtain ⟨hlow, hhigh⟩ := h.added hbefore hchild
    exact h.fresh hlow hhigh

theorem not_foreign (hfile : m₀.fileAt? t f = some id) : ¬ m₀.Foreign (.file id) := by
  intro hforeign
  obtain ⟨hlt, hplain⟩ := hforeign id rfl
  rcases fileAt?_cases hfile with ⟨-, hplain'⟩ | ⟨dir, name, -, hbefore, hchild⟩
  · exact Bool.false_ne_true (hplain.symm.trans hplain')
  · exact Nat.not_lt.2 (h.added hbefore hchild).1 hlt

end Grown

theorem fileAt?_setContent {old : Bytes} (hold : t.bytesAt? id = some old) (bytes : Bytes) (f : Place) :
    m₀.fileAt? (t.setContent id (.regular bytes)) f = m₀.fileAt? t f := by
  cases f with
  | found id' => rfl
  | vacant dir name => rw [fileAt?, fileAt?, FileTree.child?_setContent hold]

theorem bytesOf_setContent {old : Bytes} (hold : t.bytesAt? id = some old) (bytes : Bytes) (f : Place) :
    m₀.bytesOf (t.setContent id (.regular bytes)) f =
      if m₀.fileAt? t f = some id then some bytes else m₀.bytesOf t f := by
  rw [bytesOf, bytesOf, fileAt?_setContent hold]
  cases m₀.fileAt? t f with
  | none => rfl
  | some id' =>
    rw [Option.bind_some, Option.bind_some, FileTree.bytesAt?_setContent hold]
    simp only [Option.some.injEq]

theorem bytesOf_setContent_place (h : m₀.tree.Grows t) (hfile : m₀.fileAt? t f = some id) (bytes : Bytes) (f' : Place) :
    m₀.bytesOf (t.setContent id (.regular bytes)) f' = if f' = f then some bytes else m₀.bytesOf t f' := by
  obtain ⟨old, hold⟩ := exists_bytesAt? h hfile
  rw [bytesOf_setContent hold]
  refine if_congr ⟨fun hfile' => fileAt?_inj h hfile' hfile, ?_⟩ rfl rfl
  rintro rfl
  exact hfile

theorem bytesOf_setContent_foreign (h : m₀.tree.Grows t) (hforeign : m₀.Foreign (.file id)) {old : Bytes}
    (hold : t.bytesAt? id = some old) (bytes : Bytes) (f : Place) :
    m₀.bytesOf (t.setContent id (.regular bytes)) f = m₀.bytesOf t f := by
  rw [bytesOf_setContent hold, if_neg fun hfile => not_foreign h hfile hforeign]

theorem emptied (h : m₀.tree.Grows t) {old : Bytes} (hold : t.bytesAt? id = some old) (truncate : Bool) :
    let t' := if truncate then t.setContent id (.regular []) else t
    m₀.tree.Grows t' ∧ t'.bytesAt? id = some (if truncate then [] else old) ∧
      (∀ f, m₀.fileAt? t' f = m₀.fileAt? t f) ∧
      ∀ f, m₀.bytesOf t' f =
        if m₀.fileAt? t f = some id then some (if truncate then [] else old) else m₀.bytesOf t f := by
  cases truncate with
  | true =>
    refine ⟨h.setBytes hold [], ?_, fileAt?_setContent hold [], bytesOf_setContent hold []⟩
    exact (FileTree.bytesAt?_setContent hold [] id).trans (if_pos rfl)
  | false =>
    refine ⟨h, hold, fun _ => rfl, fun f => ?_⟩
    by_cases hfile : m₀.fileAt? t f = some id
    · rw [if_pos hfile]
      show (m₀.fileAt? t f).bind t.bytesAt? = some old
      rw [hfile, Option.bind_some, hold]
    · exact (if_neg hfile).symm

/-- A new file is that of the place whose name was vacant. -/
theorem bytesOf_addNamed (h : m₀.tree.Grows t) {dir : FileId} {name : Name} {n : Node} {bytes : Bytes}
    (hdir : (t.node? dir).any Node.isDirectory = true) (hbefore : m₀.tree.child? dir name = none)
    (hn : n.content = .regular bytes) (f : Place) :
    m₀.bytesOf (t.addNamed dir name n).2 f = if f = .vacant dir name then some bytes else m₀.bytesOf t f := by
  by_cases hf : f = .vacant dir name
  · subst hf
    have hfile : m₀.fileAt? (t.addNamed dir name n).2 (.vacant dir name) = some t.nodes.size := by
      simp [fileAt?, hbefore, FileTree.child?_addNamed hdir hn]
    rw [if_pos rfl, bytesOf, hfile, Option.bind_some, FileTree.bytesAt?_addNamed t dir name hn, if_pos rfl]
  · have hfile : m₀.fileAt? (t.addNamed dir name n).2 f = m₀.fileAt? t f := by
      cases f with
      | found id => rfl
      | vacant dir' name' =>
        have hother : ¬ (dir' = dir ∧ name' = name) := by
          rintro ⟨rfl, rfl⟩
          exact hf rfl
        rw [fileAt?, fileAt?, FileTree.child?_addNamed hdir hn, if_neg hother]
    rw [if_neg hf, bytesOf, bytesOf, hfile]
    cases hplace : m₀.fileAt? t f with
    | none => rfl
    | some id =>
      obtain ⟨old, hold⟩ := exists_bytesAt? h hplace
      rw [Option.bind_some, Option.bind_some, FileTree.bytesAt?_addNamed t dir name hn,
        if_neg (Nat.ne_of_lt (FileTree.lt_of_bytesAt? hold))]

/-! ## Steps of the machine -/

namespace Descends

theorem refl (h : m.Sound) : m.Descends m where
  tree := .refl h.tree
  user := rfl
  dir := rfl
  channel _ := rfl

theorem viewer (h : m₀.Descends m) : m.viewer = m₀.viewer := by
  rw [Machine.viewer, Machine.viewer, h.user, h.dir]

theorem withTree (h : m₀.Descends m) (ht : m₀.tree.Grows t) : m₀.Descends { m with tree := t } where
  tree := ht
  user := h.user
  dir := h.dir
  channel := h.channel

theorem lt_size (h : m₀.Descends m) {i : Nat} (hi : i < m₀.opened.size) : i < m.opened.size := by
  have hchannel := h.channel hi
  rw [Array.getElem?_eq_getElem hi, Option.map_some] at hchannel
  obtain ⟨file, hfile, -⟩ := Option.map_eq_some_iff.1 hchannel
  exact (Array.getElem?_eq_some_iff.1 hfile).1

theorem addOpened (h : m₀.Descends m) (file : OpenFile) : m₀.Descends (m.addOpened file).2 where
  tree := h.tree
  user := h.user
  dir := h.dir
  channel {i} hi := by
    rw [Machine.addOpened, Array.getElem?_push, if_neg (Nat.ne_of_lt (h.lt_size hi))]
    exact h.channel hi

theorem setOpened (h : m₀.Descends m) {i : Nat} {file file' : OpenFile} (hfile : m.opened[i]? = some file)
    (hchannel : file'.channel = file.channel) :
    m₀.Descends { m with opened := m.opened.setIfInBounds i file' } where
  tree := h.tree
  user := h.user
  dir := h.dir
  channel {j} hj := by
    rw [← h.channel hj, Array.getElem?_setIfInBounds]
    by_cases heq : i = j
    · subst heq
      rw [if_pos rfl, if_pos (Array.getElem?_eq_some_iff.1 hfile).1, hfile, Option.map_some, Option.map_some, hchannel]
    · rw [if_neg heq]

/-- A machine is as sound as the one that it has come from, so that its own places can be looked at. -/
theorem sound (hsound : m₀.Sound) (h : m₀.Descends m) : m.Sound where
  tree := h.tree.sound hsound.tree
  dir := by
    rw [h.dir]
    exact Nat.lt_of_lt_of_le hsound.dir h.tree.size
  opened := h.lt_size hsound.opened
  stream {id} hid := by
    have hsame : m.streamChannels = m₀.streamChannels := by
      refine List.filterMap_congr fun i hi => h.channel (Nat.lt_of_le_of_lt ?_ hsound.opened)
      rcases List.mem_pair.1 hi with rfl | rfl <;> omega
    rw [hsame] at hid
    exact Nat.lt_of_lt_of_le (hsound.stream hid) h.tree.size

/-- The output streams of the shell's process go to no place. -/
theorem exists_stream (hsound : m₀.Sound) (h : m₀.Descends m) {i : Nat} (hi : i = 1 ∨ i = 2) :
    ∃ file, m.opened[i]? = some file ∧ m₀.Foreign file.channel := by
  have hlt : i < m₀.opened.size := Nat.lt_of_le_of_lt (by omega) hsound.opened
  have hbefore : m₀.opened[i]? = some m₀.opened[i] := Array.getElem?_eq_getElem hlt
  have hchannel := h.channel hlt
  rw [hbefore, Option.map_some] at hchannel
  obtain ⟨file, hfile, hsame⟩ := Option.map_eq_some_iff.1 hchannel
  refine ⟨file, hfile, fun id hid => ?_⟩
  have hstream : .file id ∈ m₀.streamChannels := by
    refine List.mem_filterMap.2 ⟨i, by simpa using hi, ?_⟩
    rw [hbefore, Option.map_some, ← hsame, hid]
  refine ⟨hsound.stream hstream, Bool.not_eq_true _ ▸ fun hplain => ?_⟩
  exact (isPlain_iff.1 hplain).2 hstream

theorem emptyChannel (h : m₀.Descends m) {c : Channel} (hforeign : m₀.Foreign c) :
    m₀.Descends (m.emptyChannel c) ∧ ∀ f, m₀.bytesOf (m.emptyChannel c).tree f = m₀.bytesOf m.tree f := by
  cases c with
  | pipe id => exact ⟨h, fun _ => rfl⟩
  | screen s => cases s <;> exact ⟨⟨h.tree, h.user, h.dir, h.channel⟩, fun _ => rfl⟩
  | file id =>
    simp only [Machine.emptyChannel]
    split
    · next old hcontent =>
      have hold : m.tree.bytesAt? id = some old := by
        unfold FileTree.bytesAt?
        rw [hcontent]
      exact ⟨h.withTree (h.tree.setBytes hold []), bytesOf_setContent_foreign h.tree hforeign hold []⟩
    · exact ⟨h, fun _ => rfl⟩

/-! ### Opening a file -/

theorem placeOf_of_vacant (hsound : m₀.Sound) (h : m₀.Descends m) {p : Path} {dir : FileId} {name : Name}
    (hvacant : m.tree.locate m.viewer { create := true } p = .ok (.vacant dir name)) :
    m₀.placeOf p = some (.vacant dir name) ∧ (m.tree.node? dir).any Node.isDirectory = true ∧
      m₀.tree.child? dir name = none ∧ m.tree.child? dir name = none := by
  have hleads := h.tree.locate hsound.tree (v := m₀.viewer) hsound.dir { create := true } rfl p
  rw [← h.viewer, hvacant, h.viewer] at hleads
  unfold placeOf
  generalize m₀.tree.locate m₀.viewer { create := true } p = place at hleads
  cases hleads with
  | vacant hdir hbefore hvacant => exact ⟨rfl, hdir, hbefore, hvacant⟩

/-- What a path name leads to is the file of its place, if it has one. -/
theorem aimed_of_found (hsound : m₀.Sound) (h : m₀.Descends m) {p : Path} {id : FileId}
    (hfound : m.tree.locate m.viewer { create := true } p = .ok (.found id)) :
    m₀.Aimed m.tree (m₀.placeOf p) (.file id) := by
  have hleads := h.tree.locate hsound.tree (v := m₀.viewer) hsound.dir { create := true } rfl p
  rw [← h.viewer, hfound, h.viewer] at hleads
  unfold placeOf
  generalize m₀.tree.locate m₀.viewer { create := true } p = place at hleads
  -- The file was there at the start, or its name was vacant then.
  cases hleads with
  | found hid =>
    by_cases hplain : m₀.isPlain id = true
    · simp only [hplain, if_true]
      exact .plain (if_pos hplain)
    · simp only [hplain]
      refine .foreign fun id' heq => ?_
      obtain rfl := Channel.file.inj heq
      exact ⟨hid, eq_false_of_ne_true hplain⟩
  | filled hbefore hchild =>
    refine .plain ?_
    rw [fileAt?, hbefore]
    exact hchild

end Descends

/-- What opening a file for writing comes to: the place of the path name is there, emptied where it is to be, and the
open file goes to it. -/
structure Opened (m₀ m : Machine) (p : Path) (o : Opening) (i : Nat) (m' : Machine) : Prop where
  descends : m₀.Descends m'
  bytes (f : Place) : m₀.bytesOf m'.tree f =
    if m₀.placeOf p = some f then some (if o.truncate then [] else (m₀.bytesOf m.tree f).getD [])
    else m₀.bytesOf m.tree f
  file : ∃ file, m'.opened[i]? = some file ∧ file.append = o.append ∧ file.writable = o.write ∧
    m₀.Aimed m'.tree (m₀.placeOf p) file.channel

namespace Opened

variable {p : Path} {o : Opening}

theorem addOpened (m' : Machine) (h' : m₀.Descends m') {c : Channel}
    (hbytes : ∀ f, m₀.bytesOf m'.tree f =
      if m₀.placeOf p = some f then some (if o.truncate then [] else (m₀.bytesOf m.tree f).getD [])
      else m₀.bytesOf m.tree f)
    (haimed : m₀.Aimed m'.tree (m₀.placeOf p) c) :
    let opened := m'.addOpened { channel := c, append := o.append, readable := o.read, writable := o.write }
    Opened m₀ m p o opened.1 opened.2 where
  descends := h'.addOpened _
  bytes := hbytes
  file := ⟨_, Array.getElem?_push_size, rfl, rfl, haimed⟩

end Opened

namespace Descends

/-- Opening what is no place once more, as a stream of the shell's process. -/
theorem reopen (hsound : m₀.Sound) (h : m₀.Descends m) {p : Path} (hplace : m₀.placeOf p = none) (o : Opening)
    (s : Stream) : ∃ i m', m.reopen (m.viewer.opened s) o = (.ok i, m') ∧ Opened m₀ m p o i m' := by
  obtain ⟨j, hj, hopened⟩ : ∃ j, (j = 1 ∨ j = 2) ∧ m.viewer.opened s = some j := by
    cases s
    · exact ⟨1, .inl rfl, rfl⟩
    · exact ⟨2, .inr rfl, rfl⟩
  obtain ⟨file, hfile, hforeign⟩ := h.exists_stream hsound hj
  obtain ⟨m', hm', hdescends, hbytes⟩ : ∃ m', (if o.truncate then m.emptyChannel file.channel else m) = m' ∧
      m₀.Descends m' ∧ ∀ f, m₀.bytesOf m'.tree f = m₀.bytesOf m.tree f := by
    by_cases htruncate : o.truncate = true
    · exact ⟨_, if_pos htruncate, h.emptyChannel hforeign⟩
    · exact ⟨_, if_neg htruncate, h, fun _ => rfl⟩
  refine ⟨_, _, ?_, Opened.addOpened (c := file.channel) _ hdescends (fun f => ?_) ?_⟩
  · rw [Machine.reopen, hopened, Option.bind_some, hfile, ← hm']
  · rw [hbytes, hplace, if_neg (Option.some_ne_none f).symm]
  · rw [hplace]
    exact .foreign hforeign

theorem opened_made (hsound : m₀.Sound) (h : m₀.Descends m) {p : Path} {o : Opening} {dir : FileId} {name : Name} {n : Node}
    (hvacant : m.tree.locate m.viewer { create := true } p = .ok (.vacant dir name)) (hcontent : n.content = .regular []) :
    let opened := { m with tree := (m.tree.addNamed dir name n).2 }.addOpened
      { channel := .file m.tree.nodes.size, append := o.append, readable := o.read, writable := o.write }
    Opened m₀ m p o opened.1 opened.2 := by
  obtain ⟨hplace, hdir, hbefore, hnone⟩ := h.placeOf_of_vacant hsound hvacant
  refine .addOpened _ (h.withTree (h.tree.addNamed hsound.tree hdir hnone hcontent)) (fun f => ?_) ?_
  · rw [bytesOf_addNamed h.tree hdir hbefore hcontent, hplace]
    by_cases hf : f = .vacant dir name
    · subst hf
      have hempty : m₀.bytesOf m.tree (.vacant dir name) = none := by simp [bytesOf, fileAt?, hnone]
      rw [if_pos rfl, if_pos rfl, hempty, Option.getD_none, ite_self]
    · rw [if_neg hf, if_neg fun heq => hf (Option.some.inj heq).symm]
  · rw [hplace]
    refine .plain ?_
    simp [fileAt?, hbefore, FileTree.child?_addNamed hdir hcontent]

theorem opened_regular (hsound : m₀.Sound) (h : m₀.Descends m) {p : Path} {o : Opening} {id : FileId} {old : Bytes}
    (hfound : m.tree.locate m.viewer { create := true } p = .ok (.found id)) (hold : m.tree.bytesAt? id = some old) :
    let opened := { m with tree := if o.truncate then m.tree.setContent id (.regular []) else m.tree }.addOpened
      { channel := .file id, append := o.append, readable := o.read, writable := o.write }
    Opened m₀ m p o opened.1 opened.2 := by
  obtain ⟨hgrows, -, hfiles, hbytes⟩ := emptied h.tree hold o.truncate
  have haimed := h.aimed_of_found hsound hfound
  refine .addOpened _ (h.withTree hgrows) (fun f => ?_) ?_
  · rw [hbytes]
    generalize m₀.placeOf p = place at haimed
    cases haimed with
    | @plain f' id hfile =>
      by_cases hf : f' = f
      · subst hf
        have hcontents : m₀.bytesOf m.tree f' = some old := by rw [bytesOf, hfile, Option.bind_some, hold]
        rw [if_pos hfile, if_pos rfl, hcontents, Option.getD_some]
      · rw [if_neg fun hfile' => hf (fileAt?_inj h.tree hfile hfile'), if_neg fun heq => hf (Option.some.inj heq)]
    | foreign hforeign =>
      rw [if_neg fun hfile => not_foreign h.tree hfile hforeign, if_neg (Option.some_ne_none f).symm]
  · generalize m₀.placeOf p = place at haimed
    cases haimed with
    | plain hfile => exact .plain ((hfiles _).trans hfile)
    | foreign hforeign => exact .foreign hforeign

theorem placeOf_of_other (hsound : m₀.Sound) (h : m₀.Descends m) {p : Path} {id : FileId}
    (hfound : m.tree.locate m.viewer { create := true } p = .ok (.found id)) (hnone : m.tree.bytesAt? id = none) :
    m₀.placeOf p = none ∧ m₀.Foreign (.file id) := by
  have haimed := h.aimed_of_found hsound hfound
  generalize m₀.placeOf p = place at haimed
  cases haimed with
  | plain hfile =>
    obtain ⟨bytes, hbytes⟩ := exists_bytesAt? h.tree hfile
    cases hnone.symm.trans hbytes
  | foreign hforeign => exact ⟨rfl, hforeign⟩

/-- **Opening a file for writing** fails and changes nothing, or does to the place of the path name what it is
meant to do. -/
theorem openFile (hsound : m₀.Sound) (h : m₀.Descends m) {o : Opening} (hcreate : o.create = true) (hnew : o.isNew = false)
    (p : Path) : (∃ e, m.openFile m.viewer p o = (.error e, m)) ∨
      ∃ i m', m.openFile m.viewer p o = (.ok i, m') ∧ Opened m₀ m p o i m' := by
  unfold Machine.openFile
  cases htree : m.tree.openFile m.viewer p o with
  | error e => exact .inl ⟨e, rfl⟩
  | ok opened =>
    right
    obtain ⟨id, t⟩ := opened
    have hopens : m.tree.Opens m.viewer p o id t := FileTree.opens_of_openFile hcreate hnew _ htree
    cases hopens with
    | @made dir name n hvacant hcontent =>
      simp only [FileTree.stream?_addNamed m.tree dir name hcontent]
      exact ⟨_, _, rfl, h.opened_made hsound hvacant hcontent⟩
    | regular hfound hold =>
      obtain ⟨-, hthere, -⟩ := emptied h.tree hold o.truncate
      simp only [FileTree.stream?_of_bytesAt? hthere]
      exact ⟨_, _, rfl, h.opened_regular hsound hfound hold⟩
    | other hfound hnone =>
      obtain ⟨hplace, hforeign⟩ := h.placeOf_of_other hsound hfound hnone
      simp only
      -- A device may stand for a stream of the shell's process, which is opened in its place.
      cases m.tree.stream? id with
      | some s => exact h.reopen hsound hplace o s
      | none =>
        refine ⟨_, _, rfl, Opened.addOpened _ h (fun f => ?_) ?_⟩
        · rw [hplace, if_neg (Option.some_ne_none f).symm]
        · rw [hplace]
          exact .foreign hforeign

end Descends

/-- A machine that fails to open a file for writing stays as it is. -/
theorem eq_of_openFile_error {v : FileTree.Viewer} {p : Path} {o : Opening} (hcreate : o.create = true)
    (hnew : o.isNew = false) {e : Errno} {m' : Machine} (h : m.openFile v p o = (.error e, m')) : m' = m := by
  unfold Machine.openFile at h
  cases htree : m.tree.openFile v p o with
  | error e =>
    rw [htree] at h
    cases h
    rfl
  | ok opened =>
    obtain ⟨id, t⟩ := opened
    rw [htree] at h
    simp only at h
    have hopens : m.tree.Opens v p o id t := FileTree.opens_of_openFile hcreate hnew _ htree
    rcases hopens.stream? with hstream | rfl
    · rw [hstream] at h
      cases h
    · cases hstream : m.tree.stream? id with
      | none =>
        rw [hstream] at h
        cases h
      | some s =>
        rw [hstream] at h
        simp only [Machine.reopen] at h
        split at h
        · cases h
          rfl
        · cases h

theorem failsClean_answer : answer.FailsClean := by
  intro t m fault h
  obtain ⟨o, ho, hcreate, hnew, -⟩ := FileTree.exists_opening t.append
  simp only [answer, Machine.create, ho, Machine.withFile] at h ⊢
  split at h
  · next hnul => rw [if_pos hnul]
  · next hnul =>
    rw [if_neg hnul]
    cases hopen : m.openFile m.viewer t.path o with
    | mk result m' =>
      rw [hopen] at h
      cases result with
      | error e => exact eq_of_openFile_error hcreate hnew hopen
      | ok i => cases h

/-! ### Writing to an open file -/

namespace Descends

variable {i : Nat} {file : OpenFile}

/-- Writing to what is no place changes no place, whatever comes of it. -/
theorem write_foreign (h : m₀.Descends m) (hfile : m.opened[i]? = some file) (hforeign : m₀.Foreign file.channel)
    (bytes : Bytes) : m₀.Descends (m.write i bytes).2 ∧
      ∀ f, m₀.bytesOf (m.write i bytes).2.tree f = m₀.bytesOf m.tree f := by
  obtain ⟨c, offset, append, readable, writable⟩ := file
  simp only [Machine.write, hfile]
  by_cases hbarred : (!writable) = true
  · rw [if_pos hbarred]
    exact ⟨h, fun _ => rfl⟩
  rw [if_neg hbarred]
  cases c with
  | screen s => cases s <;> exact ⟨⟨h.tree, h.user, h.dir, h.channel⟩, fun _ => rfl⟩
  | pipe id =>
    simp only
    split
    · exact ⟨h, fun _ => rfl⟩
    · exact ⟨⟨h.tree, h.user, h.dir, h.channel⟩, fun _ => rfl⟩
  | file id =>
    simp only
    cases hwrite : m.tree.write id (if append then m.tree.size id else offset) bytes with
    | error e => exact ⟨h, fun _ => rfl⟩
    | ok t =>
      rcases FileTree.eq_or_eq_setContent_of_write hwrite with rfl | ⟨old, new, hold, rfl⟩
      · exact ⟨h.setOpened hfile rfl, fun _ => rfl⟩
      · exact ⟨(h.withTree (h.tree.setBytes hold new)).setOpened hfile rfl,
          bytesOf_setContent_foreign h.tree hforeign hold new⟩

/-- Bytes that are written to a place are added at its end. -/
theorem write_plain (h : m₀.Descends m) (hfile : m.opened[i]? = some file) (happend : file.append = true)
    (hwritable : file.writable = true) (hchannel : file.channel = .file id) (hplace : m₀.fileAt? m.tree f = some id)
    (bytes : Bytes) : ∃ m', m.write i bytes = (.ok (), m') ∧ m₀.Descends m' ∧
      ∀ f', m₀.bytesOf m'.tree f' =
        if f' = f then some ((m₀.bytesOf m.tree f).getD [] ++ bytes) else m₀.bytesOf m.tree f' := by
  obtain ⟨c, offset, append, readable, writable⟩ := file
  subst happend hwritable hchannel
  obtain ⟨old, hold⟩ := exists_bytesAt? h.tree hplace
  have hcontents : m₀.bytesOf m.tree f = some old := by rw [bytesOf, hplace, Option.bind_some, hold]
  have hwrite := FileTree.write_size hold bytes
  simp only [Machine.write, hfile, if_true, Bool.not_true, Bool.false_eq_true, if_false, hwrite, hcontents,
    Option.getD_some]
  by_cases hempty : bytes.isEmpty = true
  · obtain rfl := List.isEmpty_iff.1 hempty
    refine ⟨_, rfl, h.setOpened hfile rfl, fun f' => ?_⟩
    by_cases hf : f' = f
    · subst hf
      rw [if_pos rfl, List.append_nil, ← hcontents]
      rfl
    · exact (if_neg hf).symm
  · simp only [hempty]
    refine ⟨_, rfl, (h.withTree (h.tree.setBytes hold (old ++ bytes))).setOpened hfile rfl, fun f' => ?_⟩
    exact bytesOf_setContent_place h.tree hplace (old ++ bytes) f'

end Descends

/-! ## The answers -/

/-- A program that cannot be started changes nothing. -/
theorem execute_error {n : Nat} {p : Path} {process : Process} {e : Errno} {m' : Machine}
    (h : execute n p process m = (.error e, m')) : m' = m := by
  cases n with
  | zero =>
    cases h
    rfl
  | succ n =>
    simp only [execute, bind, StateT.bind, get, getThe, MonadStateOf.get, StateT.get, pure] at h
    revert h
    generalize (m.startable _ _ p).bind _ = image
    rcases image with fault | ⟨tool, argv⟩
    · rintro ⟨⟩
      rfl
    · cases tool <;> intro h <;> cases h

/-- What a request comes to: the machine descends from `m₀`, and the request has had its whole effect on the places if
it went well, and none if it failed. -/
structure Answered (m₀ m : Machine) (r : Request) (a : r.Answer) (m' : Machine) : Prop where
  descends : m₀.Descends m'
  done : Event.Smooth ⟨r, a⟩ → ∀ f, m₀.bytesOf m'.tree f = r.effect m₀.placeOf f (m₀.bytesOf m.tree f)
  refused : ¬ Event.Smooth ⟨r, a⟩ → ∀ f, m₀.bytesOf m'.tree f = m₀.bytesOf m.tree f

theorem Answered.of_refused {r : Request} {a : r.Answer} (h : m₀.Descends m) (hfailed : ¬ Event.Smooth ⟨r, a⟩) :
    Answered m₀ m r a m where
  descends := h
  done hsmooth := absurd hsmooth hfailed
  refused _ _ := rfl

theorem Answered.of_still {r : Request} {a : r.Answer} {m' : Machine} (h' : m₀.Descends m')
    (hbytes : ∀ f, m₀.bytesOf m'.tree f = m₀.bytesOf m.tree f) (heffect : ∀ f c, r.effect m₀.placeOf f c = c) :
    Answered m₀ m r a m' where
  descends := h'
  done _ f := (hbytes f).trans (heffect f _).symm
  refused _ f := hbytes f

namespace Descends

variable (hsound : m₀.Sound) (h : m₀.Descends m)

include hsound h

theorem withFile {α : Type} {o : Opening} (hcreate : o.create = true) (hnew : o.isNew = false) (p : Path)
    (f : Nat → Machine → Except Errno α × Machine) : (∃ fault, m.withFile p o f = (.error fault, m)) ∨
      ∃ i m', Opened m₀ m p o i m' ∧ m.withFile p o f = (asFault (f i m').1, (f i m').2) := by
  unfold Machine.withFile
  by_cases hnul : p.hasNul = true
  · exact .inl ⟨.nulInPath, if_pos hnul⟩
  rw [if_neg hnul]
  rcases h.openFile hsound hcreate hnew p with ⟨e, hopen⟩ | ⟨i, m', hopen, hopened⟩
  · exact .inl ⟨.system e, by rw [hopen]⟩
  · exact .inr ⟨i, m', hopened, by rw [hopen]⟩

theorem answered_create (t : Target) : Answered m₀ m (.create t) (answer (.create t) m).1 (answer (.create t) m).2 := by
  simp only [answer, Machine.create]
  obtain ⟨o, ho, hcreate, hnew, htruncate⟩ := FileTree.exists_opening t.append
  rw [ho]
  rcases h.withFile hsound hcreate hnew t.path fun _ m => ((.ok (), m) : Except Errno Unit × Machine) with
    ⟨fault, hrefused⟩ | ⟨i, m', hopened, hdone⟩
  · rw [hrefused]
    exact .of_refused h fun hsmooth => nomatch (hsmooth : Except.error fault = .ok ())
  · rw [hdone]
    refine ⟨hopened.descends, fun _ f => ?_, fun hfailed => absurd rfl hfailed⟩
    rw [hopened.bytes, htruncate, Request.effect]
    cases t.append <;> rfl

theorem answered_openAppend (p : Path) :
    Answered m₀ m (.openAppend p) (answer (.openAppend p) m).1 (answer (.openAppend p) m).2 := by
  simp only [answer, Machine.openAppend]
  rcases h.withFile hsound (o := .appending) rfl rfl p fun i m => ((.ok ⟨i⟩, m) : Except Errno Handle × Machine) with
    ⟨fault, hrefused⟩ | ⟨i, m', hopened, hdone⟩
  · rw [hrefused]
    exact .of_refused h fun ⟨_, hok⟩ => nomatch hok
  · rw [hdone]
    exact ⟨hopened.descends, fun _ => hopened.bytes, fun hfailed => absurd ⟨_, rfl⟩ hfailed⟩

theorem answered_appendLine (p : Path) (line : String) :
    Answered m₀ m (.appendLine p line) (answer (.appendLine p line) m).1 (answer (.appendLine p line) m).2 := by
  simp only [answer]
  rcases h.withFile hsound (o := .appending) rfl rfl p fun i m => m.write i (Bytes.ofString (line ++ "\n")) with
    ⟨fault, hrefused⟩ | ⟨i, m', hopened, hdone⟩
  · rw [hrefused]
    exact .of_refused h fun hsmooth => nomatch (hsmooth : Except.error fault = .ok ())
  rw [hdone]
  obtain ⟨file, hfile, happend, hwritable, haimed⟩ := hopened.file
  -- Only what is no place can refuse the line, once it is open.
  cases hplace : m₀.placeOf p with
  | none =>
    rw [hplace] at haimed
    cases haimed with
    | foreign hforeign =>
      obtain ⟨hdescends, hbytes⟩ := hopened.descends.write_foreign hfile hforeign (Bytes.ofString (line ++ "\n"))
      refine .of_still hdescends (fun f => ?_) fun f c => ?_
      · rw [hbytes, hopened.bytes, hplace, if_neg (Option.some_ne_none f).symm]
      · rw [Request.effect, hplace, if_neg (Option.some_ne_none f).symm]
  | some f =>
    have hthere : m₀.bytesOf m'.tree f = some ((m₀.bytesOf m.tree f).getD []) := by
      rw [hopened.bytes, if_pos hplace]
      rfl
    rw [hplace] at haimed
    generalize hchannel : file.channel = c at haimed
    cases haimed with
    | plain hfileAt =>
      obtain ⟨m'', hwrite, hdescends, hbytes⟩ :=
        hopened.descends.write_plain hfile happend hwritable hchannel hfileAt (Bytes.ofString (line ++ "\n"))
      rw [hwrite]
      refine ⟨hdescends, fun _ f' => ?_, fun hfailed => absurd rfl hfailed⟩
      rw [hbytes, Request.effect, hplace]
      by_cases hf : f' = f
      · subst hf
        rw [if_pos rfl, if_pos rfl, hthere, Option.getD_some]
      · rw [if_neg hf, if_neg fun heq => hf (Option.some.inj heq).symm, hopened.bytes, hplace,
          if_neg fun heq => hf (Option.some.inj heq).symm]

theorem writeStream (s : Stream) (text : String) : m₀.Descends (m.writeStream s text).2 ∧
    ∀ f, m₀.bytesOf (m.writeStream s text).2.tree f = m₀.bytesOf m.tree f := by
  have hstream (i : Nat) (hi : i = 1 ∨ i = 2) : m₀.Descends (m.write i (Bytes.ofString text)).2 ∧
      ∀ f, m₀.bytesOf (m.write i (Bytes.ofString text)).2.tree f = m₀.bytesOf m.tree f := by
    obtain ⟨file, hfile, hforeign⟩ := h.exists_stream hsound hi
    exact h.write_foreign hfile hforeign _
  cases s with
  | stdout => exact hstream 1 (.inl rfl)
  | stderr => exact hstream 2 (.inr rfl)

omit hsound in
theorem startChild {c : Child} {fault : Fault} (hfailed : (m.startChild c).1 = .error (.spawn fault)) :
    m₀.Descends (m.startChild c).2 ∧ ∀ f, m₀.bytesOf (m.startChild c).2.tree f = m₀.bytesOf m.tree f := by
  -- A new process takes a number and a tick of the clock, and no file is asked for either.
  have hgrows : m₀.tree.Grows { m.tree with now := m.tree.now + 1 } :=
    ⟨h.tree.size, h.tree.hollow, h.tree.fresh, h.tree.kept, h.tree.added, h.tree.unique⟩
  have hnewProcess : m₀.Descends m.newProcess.2 := ⟨hgrows, h.user, h.dir, h.channel⟩
  revert hfailed
  unfold Machine.startChild
  by_cases hnul : childHasNul c = true
  · rw [if_pos hnul]
    exact fun _ => ⟨h, fun _ => rfl⟩
  rw [if_neg hnul]
  cases m.startDirectory c.directory with
  | error e => exact fun _ => ⟨h, fun _ => rfl⟩
  | ok dir =>
    simp only
    split
    · next hexecute => nofun
    · next e m' hexecute =>
      obtain rfl := execute_error hexecute
      exact fun _ => ⟨hnewProcess, fun _ => rfl⟩

end Descends

end Machine

/-! ## Machines as file systems -/

/-- No program is started, and the line editor is left alone. -/
def Event.calm : Event → Bool
  | ⟨.start _, .error (.spawn _)⟩ => true
  | ⟨.start _, _⟩ | ⟨.editor _, _⟩ => false
  | _ => true

theorem Event.exists_spawn_of_calm {c : Child} {answer : Except ChildFault Ending}
    (h : Event.calm ⟨.start c, answer⟩ = true) : ∃ fault, answer = .error (.spawn fault) := by
  rcases answer with (fault | fault) | ending
  · exact ⟨fault, rfl⟩
  · cases h
  · cases h

theorem Event.calm_of_smooth {e : Event} (h : e.Smooth) : e.calm = true := by
  obtain ⟨r, a⟩ := e
  cases r with
  | start c =>
    obtain ⟨fault, rfl⟩ := h
    rfl
  | editor q => exact h.elim
  | _ => rfl

namespace Machine

variable {m₀ m : Machine} (hsound : m₀.Sound)

include hsound

/-- **What one request does** to a machine that descends from `m₀`. -/
theorem Descends.answered (h : m₀.Descends m) (r : Request) (hcalm : Event.calm ⟨r, (Machine.answer r m).1⟩ = true) :
    Answered m₀ m r (Machine.answer r m).1 (Machine.answer r m).2 := by
  have hlook {r : Request} {a : r.Answer} (heffect : ∀ f c, r.effect m₀.placeOf f c = c) : Answered m₀ m r a m :=
    .of_still h (fun _ => rfl) heffect
  cases r with
  | create t => exact h.answered_create hsound t
  | appendLine p line => exact h.answered_appendLine hsound p line
  | openAppend p => exact h.answered_openAppend hsound p
  | canonicalize p => exact hlook fun _ _ => rfl
  | inspect p => exact hlook fun _ _ => rfl
  | canList p => exact hlook fun _ _ => rfl
  | start c =>
    obtain ⟨fault, hfailed⟩ := Event.exists_spawn_of_calm hcalm
    obtain ⟨hdescends, hbytes⟩ := h.startChild hfailed
    exact .of_still hdescends hbytes fun _ _ => rfl
  | print s line =>
    obtain ⟨hdescends, hbytes⟩ := h.writeStream hsound s (line ++ "\n")
    exact .of_still hdescends hbytes fun _ _ => rfl
  | complain line =>
    obtain ⟨hdescends, hbytes⟩ := h.writeStream hsound .stderr (line ++ "\n")
    exact .of_still hdescends hbytes fun _ _ => rfl
  | editor q => cases hcalm

omit hsound in
/-- The machine `m₀` and what it becomes, where no program is started and the line editor is not at hand. -/
def calm (hsound : m₀.Sound) : System { m // m₀.Descends m } := fun r m =>
  if h : Event.calm ⟨r, (answer r m.1).1⟩ = true then
    ((answer r m.1).1, ⟨(answer r m.1).2, (m.2.answered hsound r h).descends⟩)
  else System.bare r m

theorem calm_eq_answer {r : Request} {m : { m // m₀.Descends m }} (h : Event.calm ⟨r, (answer r m.1).1⟩ = true) :
    (calm hsound r m).1 = (answer r m.1).1 ∧ (calm hsound r m).2.1 = (answer r m.1).2 := by
  rw [calm, dif_pos h]
  exact ⟨rfl, rfl⟩

/-- What a request does to the places, be it answered by the machine or not. -/
theorem answered_calm (r : Request) (m : { m // m₀.Descends m }) :
    Answered m₀ m.1 r (calm hsound r m).1 (calm hsound r m).2.1 := by
  by_cases h : Event.calm ⟨r, (answer r m.1).1⟩ = true
  · obtain ⟨hanswer, hleft⟩ := calm_eq_answer hsound h
    rw [hanswer, hleft]
    exact m.2.answered hsound r h
  · rw [calm, dif_neg h]
    cases r with
    | start c => exact .of_still m.2 (fun _ => rfl) fun _ _ => rfl
    | editor q => exact .of_still m.2 (fun _ => rfl) fun _ _ => rfl
    | _ => exact absurd rfl h

omit hsound in
/-- The places of a machine are a file system. -/
def fileSystem (hsound : m₀.Sound) : FileSystem (calm hsound) Place where
  file := m₀.placeOf
  contents m := m₀.bytesOf m.1.tree
  contents_after r m f hsmooth := (answered_calm hsound r m).done hsmooth f

theorem firm_fileSystem : (fileSystem hsound).Firm :=
  fun r m f hfailed _ _ => (answered_calm hsound r m).refused hfailed f

theorem allOrNothing_fileSystem : (fileSystem hsound).AllOrNothing := by
  intro p line m f fault hrefused
  refine (answered_calm hsound _ m).refused ?_ f
  rw [hrefused]
  exact fun hsmooth => nomatch (hsmooth : Except.error fault = .ok ())

variable {α : Type}

/-- Where no program is started and the line editor is left alone, a run is the same on both. -/
theorem run_calm (x : Action α) (m : { m // m₀.Descends m }) (h : ∀ e ∈ x.trace answer m.1, e.calm = true) :
    x.trace (calm hsound) m = x.trace answer m.1 ∧
      (x.run (calm hsound) m).1 = (x.run answer m.1).1 ∧ (x.run (calm hsound) m).2.1 = (x.run answer m.1).2 := by
  induction x generalizing m with
  | done a => exact ⟨rfl, rfl, rfl⟩
  | ask r k ih =>
    obtain ⟨hfirst, hrest⟩ := List.forall_mem_cons.1 h
    obtain ⟨hanswer, hleft⟩ := calm_eq_answer hsound hfirst
    rw [← hleft] at hrest
    obtain ⟨htrace, hresult, hend⟩ := ih _ (calm hsound r m).2 hrest
    rw [Action.trace_ask, Action.trace_ask, Action.run_ask, Action.run_ask, hanswer, htrace, hresult, hend, hleft]
    exact ⟨rfl, rfl, rfl⟩

/-- **What a smooth run leaves in the files of a machine**: those before, changed by the marks of the run. -/
theorem bytesOf_run (x : Action α) (h : Smooth (x.trace answer m₀)) (f : Place) :
    m₀.bytesOf (x.run answer m₀).2.tree f =
      effects m₀.placeOf f (marks (x.trace answer m₀)) (m₀.bytesOf m₀.tree f) := by
  obtain ⟨htrace, -, hend⟩ := run_calm hsound x ⟨m₀, .refl hsound⟩ fun e he => Event.calm_of_smooth (h e he)
  rw [← htrace] at h ⊢
  rw [← hend]
  exact (fileSystem hsound).contents_run f x _ h

/-- **What a session leaves in the files of a machine**, when its run goes smoothly: what its accounts say, one line
after the other. -/
theorem bytesOf_handleAll (sh : Shell) (lines : List String) (h : Smooth ((sh.handleAll lines).trace answer m₀))
    (f : Place) : m₀.bytesOf ((sh.handleAll lines).run answer m₀).2.tree f =
      Account.settle m₀.placeOf f ((sh.recount lines).run answer m₀).1.2 (m₀.bytesOf m₀.tree f) := by
  rw [Shell.handleAll_eq_recount, Action.trace_map] at h
  obtain ⟨htrace, hresult, hend⟩ :=
    run_calm hsound (sh.recount lines) ⟨m₀, .refl hsound⟩ fun e he => Event.calm_of_smooth (h e he)
  rw [← htrace] at h
  rw [Shell.handleAll_eq_recount, Action.run_map, ← hend, ← hresult]
  exact sh.contents_recount (fileSystem hsound) f h

end Machine

end LineShell
