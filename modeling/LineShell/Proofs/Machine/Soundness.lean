import LineShell.Machine.Layout
import LineShell.Proofs.Machine.Growth

/-!
# Sound trees

Files are never given up, so that every name in a tree leads to a file that is there. Each request that changes a tree
keeps it so. Trees that are laid out come from the empty one by such requests, and are sound for that reason.

* `FileTree.Sound.walk`: path names lead to files that are there.
* `FileTree.Sound.openFile`, `FileTree.Sound.write`, `FileTree.Sound.makeDirectory`, `FileTree.Sound.makeLink`,
  `FileTree.Sound.hardLink`, `FileTree.Sound.unlink`, `FileTree.Sound.removeDirectory`, `FileTree.Sound.rename`,
  `FileTree.Sound.changeMode`: what the requests leave.
* `FileTree.sound_bare`, `FileTree.Sound.layOut`, `FileTree.Sound.giveTo`: trees that are laid out.
-/

namespace LineShell

/-! ## What requests yield -/

/-- Whatever the request yields has the property. -/
def Ensures {α : Type} (x : Except Errno α) (P : α → Prop) : Prop :=
  ∀ a, x = .ok a → P a

namespace Ensures

variable {α β : Type} {x : Except Errno α} {P : α → Prop}

protected theorem pure {a : α} (h : P a) : Ensures (pure a) P := by
  rintro _ ⟨⟩
  exact h

protected theorem throw (e : Errno) : Ensures (throw e) P :=
  nofun

protected theorem bind {f : α → Except Errno β} {Q : β → Prop} (hx : Ensures x P) (hf : ∀ a, P a → Ensures (f a) Q) :
    Ensures (x >>= f) Q := by
  intro b h
  cases x with
  | error e => cases h
  | ok a => exact hf a (hx a rfl) b h

/-- A check that may fail, and what comes after it. -/
theorem check {c : Prop} [Decidable c] {e : Errno} {f : Unit → Except Errno α} (h : Ensures (f ()) P) :
    Ensures (if c then throw e >>= f else f ()) P := by
  split
  · exact Ensures.throw e
  · exact h

theorem self (x : Except Errno α) : Ensures x fun a => x = .ok a :=
  fun _ h => h

theorem any (x : Except Errno α) : Ensures x fun _ => True :=
  fun _ _ => trivial

end Ensures

/-! ## Changes of one file -/

/-- The file has no names in it, and if it is a directory, it is one in `dir`. -/
def Node.IsNewIn (n : Node) (dir : FileId) : Prop :=
  ∀ parent es, n.content = .directory parent es → parent = dir ∧ es = []

theorem Node.IsNewIn.entries {n : Node} {dir : FileId} (h : n.IsNewIn dir) : n.entries = [] := by
  unfold Node.entries
  split
  · next hcontent => exact (h _ _ hcontent).2
  · rfl

namespace FileTree

variable {t t' : FileTree} {v : Viewer}

theorem child?_eq_of_content {dir : FileId} (h : (t'.node? dir).map Node.content = (t.node? dir).map Node.content)
    (name : Name) : t'.child? dir name = t.child? dir name := by
  unfold child?
  cases hnode : t.node? dir with
  | none =>
    rw [hnode, Option.map_none, Option.map_eq_none_iff] at h
    rw [h]
  | some n =>
    rw [hnode, Option.map_some] at h
    obtain ⟨n', hnode', hcontent⟩ := Option.map_eq_some_iff.1 h
    rw [hnode', Option.bind_some, Option.bind_some, Node.entries, Node.entries, hcontent]

theorem setNode_eq_modify {id : FileId} {n : Node} (hnode : t.node? id = some n) (f : Node → Node) :
    t.setNode id (f n) = t.modify id f := by
  rw [modify, hnode]

theorem sound_empty : empty.Sound where
  root := Nat.one_pos
  child {dir name id} hchild := by
    obtain ⟨n, hnode, hentry⟩ := Option.bind_eq_some_iff.1 hchild
    obtain ⟨hlt, rfl⟩ := Array.getElem?_eq_some_iff.1 hnode
    obtain rfl : dir = 0 := Nat.lt_one_iff.1 hlt
    cases hentry
  parent dir := by
    unfold parent
    split
    · next p es hcontent =>
      obtain ⟨n, hnode, hdirectory⟩ := Option.map_eq_some_iff.1 hcontent
      obtain ⟨hlt, rfl⟩ := Array.getElem?_eq_some_iff.1 hnode
      obtain rfl : dir = 0 := Nat.lt_one_iff.1 hlt
      cases hdirectory
      exact Nat.one_pos
    · exact Nat.one_pos

namespace Sound

variable (h : t.Sound)

include h

/-- Other permission bits, owners and times. -/
theorem modify (id : FileId) {f : Node → Node} (hf : ∀ n, (f n).content = n.content) : (t.modify id f).Sound := by
  have hcontent (id' : FileId) : ((t.modify id f).node? id').map Node.content = (t.node? id').map Node.content := by
    rw [node?_modify]
    by_cases heq : id' = id
    · subst heq
      simp [Function.comp_def, hf]
    · rw [if_neg heq]
  have hsize := size_modify t id f
  refine ⟨hsize ▸ h.root, fun {dir name id'} hchild => ?_, fun dir => ?_⟩
  · rw [child?_eq_of_content (hcontent dir)] at hchild
    exact hsize ▸ h.child hchild
  · rw [hsize, FileTree.parent, hcontent]
    exact h.parent dir

/-- Other bytes. -/
theorem setBytes {id : FileId} {old : Bytes} (hold : t.bytesAt? id = some old) (bytes : Bytes) :
    (t.setContent id (.regular bytes)).Sound :=
  ((Grows.refl h).setBytes hold bytes).sound h

/-- Other names in a directory, each that of a file that had the name before, or that is there. -/
theorem modifyEntries (dir : FileId) {f : List (Name × FileId) → List (Name × FileId)}
    (hf : ∀ es name id, (f es).lookup name = some id → es.lookup name = some id ∨ id < t.nodes.size) :
    (t.modifyEntries dir f).Sound := by
  have hsize : (t.modifyEntries dir f).nodes.size = t.nodes.size := size_modify t dir _
  refine ⟨hsize ▸ h.root, fun {dir' name id} hchild => ?_, fun dir' => ?_⟩
  · rw [hsize]
    obtain ⟨n', hnode', hentry⟩ := Option.bind_eq_some_iff.1 hchild
    rw [FileTree.modifyEntries, node?_modify] at hnode'
    by_cases heq : dir' = dir
    · rw [if_pos heq] at hnode'
      obtain ⟨n, hnode, rfl⟩ := Option.map_eq_some_iff.1 hnode'
      obtain ⟨c, _, _, _⟩ := n
      cases c with
      | directory parent es =>
        rcases hf es name id hentry with hbefore | hid
        · exact h.child (Option.bind_eq_some_iff.2 ⟨_, hnode, hbefore⟩)
        · exact hid
      | _ => cases hentry
    · rw [if_neg heq] at hnode'
      exact h.child (Option.bind_eq_some_iff.2 ⟨n', hnode', hentry⟩)
  · rw [hsize, parent_eq_of_hollow (node?_modifyEntries t dir f dir').1]
    exact h.parent dir'

theorem bindName (dir : FileId) (name : Name) {id : FileId} (hid : id < t.nodes.size) :
    (t.bindName dir name id).Sound := by
  refine h.modifyEntries dir fun es name' id' hentry => ?_
  rw [lookup_bind] at hentry
  split at hentry
  · exact .inr (Option.some.inj hentry ▸ hid)
  · exact .inl hentry

theorem unbindName (dir : FileId) (name : Name) : (t.unbindName dir name).Sound := by
  refine h.modifyEntries dir fun es name' id' hentry => ?_
  rw [lookup_unbind] at hentry
  split at hentry
  · cases hentry
  · exact .inl hentry

/-- A new file. -/
theorem add {dir : FileId} (hdir : dir < t.nodes.size) {n : Node} (hn : n.IsNewIn dir) : (t.add n).2.Sound := by
  have hsize : t.nodes.size ≤ (t.add n).2.nodes.size := Array.size_push _ ▸ Nat.le_succ _
  refine ⟨Nat.lt_of_lt_of_le h.root hsize, fun {dir' name id} hchild => ?_, fun dir' => ?_⟩
  · rw [child?_add hn.entries] at hchild
    exact Nat.lt_of_lt_of_le (h.child hchild) hsize
  · refine Nat.lt_of_lt_of_le ?_ hsize
    rw [FileTree.parent, node?_add]
    by_cases heq : dir' = t.nodes.size
    · rw [if_pos heq]
      split
      · next parent es hcontent =>
        obtain ⟨rfl, -⟩ := hn parent es (Option.some.inj hcontent)
        exact hdir
      · exact h.root
    · rw [if_neg heq]
      exact h.parent dir'

theorem addNamed {dir : FileId} (hdir : dir < t.nodes.size) (name : Name) {n : Node} (hn : n.IsNewIn dir) :
    (t.addNamed dir name n).2.Sound :=
  (h.add hdir hn).bindName dir name (Array.size_push _ ▸ Nat.lt_succ_self _)

end Sound

/-! ## Path names -/

/-- A path name leads to a file that is there. -/
theorem Sound.walk (h : t.Sound) (user : Nat) (aim : Aim) (links : Nat) {dir : FileId} (hdir : dir < t.nodes.size)
    (wantsDir : Bool) (names : List Name) :
    Ensures (t.walk user aim links dir wantsDir names) fun place => ∀ id, place = .found id → id < t.nodes.size := by
  fun_induction FileTree.walk t user aim links dir wantsDir names with
  | case1 | case3 | case4 | case5 | case8 | case9 | case11 | case13 | case14 => exact .throw _
  | case2 links dir wantsDir hends =>
    refine .pure ?_
    rintro _ ⟨⟩
    exact hdir
  | case6 links dir wantsDir rest node hnode hdirectory hopen ih => exact ih hdir
  | case7 links dir wantsDir rest node hnode hdirectory hopen hdots ih => exact ih (h.parent dir)
  | case10 =>
    refine .pure ?_
    rintro _ ⟨⟩
  | case12 links dir wantsDir name rest node hnode hdirectory hopen hdot hdotDot hends hshort id hchild =>
    refine .pure ?_
    rintro _ ⟨⟩
    exact h.child hchild
  | case15 dir wantsDir name rest node hnode hdirectory hopen hdot hdotDot hends hshort id hchild target hlink hgoes links
      htarget start wantsDir' ih =>
    refine ih ?_
    by_cases habsolute : target.isAbsolute = true
    · simp only [start, habsolute, dite_true]
      exact h.root
    · simp only [start, habsolute, dite_false, Bool.false_eq_true]
      exact hdir
  | case16 links dir wantsDir name rest node hnode hdirectory hopen hdot hdotDot hends hshort id hchild hplain ih =>
    exact ih (h.child hchild)

theorem Sound.find (h : t.Sound) (hdir : v.dir < t.nodes.size) (p : Path) (follow : Bool) :
    Ensures (t.find v p follow) (· < t.nodes.size) := by
  have hplace : Ensures (t.locate v { follow := follow } p) fun place => ∀ id, place = .found id → id < t.nodes.size := by
    unfold FileTree.locate
    split
    · exact .throw _
    split
    · exact .throw _
    refine h.walk _ _ _ ?_ _ _
    split
    · exact h.root
    · exact hdir
  intro id hfind
  unfold FileTree.find at hfind
  split at hfind
  · cases hfind
  · next hfound =>
    cases hfind
    exact hplace _ hfound _ rfl
  · cases hfind

theorem ensures_findNode (t : FileTree) (v : Viewer) (p : Path) (follow : Bool) :
    Ensures (t.findNode v p follow) fun found => t.node? found.1 = some found.2 := by
  intro found hfound
  unfold findNode at hfound
  split at hfound
  · cases hfound
  split at hfound
  · next hnode =>
    cases hfound
    exact hnode
  · cases hfound

theorem ensures_mayChange (t : FileTree) (user : Nat) (dir : FileId) :
    Ensures (t.mayChange user dir) fun _ => dir < t.nodes.size := by
  intro _ h
  unfold mayChange at h
  split at h
  · cases h
  · next hnode => exact lt_of_node? hnode

theorem ensures_vacancy (t : FileTree) (v : Viewer) (p : Path) (directory : Bool) :
    Ensures (t.vacancy v p directory) fun vacant => vacant.1 < t.nodes.size := by
  refine .bind (.any _) fun place _ => ?_
  cases place with
  | found id => exact .throw _
  | vacant dir name =>
    refine .check (.check ?_)
    exact .bind (ensures_mayChange t v.user dir) fun _ hdir => .pure hdir

/-! ## Requests -/

/-- Writing to a file changes the bytes of an ordinary one, and nothing else. -/
theorem eq_or_eq_setContent_of_write {id : FileId} {offset : Nat} {bytes : Bytes} (h : t.write id offset bytes = .ok t') :
    t' = t ∨ ∃ old new, t.bytesAt? id = some old ∧ t' = t.setContent id (.regular new) := by
  unfold write at h
  split at h
  · cases h
  · next old hcontent =>
    cases h
    by_cases hempty : bytes.isEmpty = true
    · exact .inl (if_pos hempty)
    · refine .inr ⟨old, _, ?_, if_neg hempty⟩
      unfold bytesAt?
      rw [hcontent]
  · split at h
    · cases h
      exact .inl rfl
    · cases h
  · cases h
    exact .inl rfl

namespace Sound

variable (h : t.Sound)

include h

theorem openFile (v : Viewer) (p : Path) (o : Opening) :
    Ensures (t.openFile v p o) fun opened => opened.2.Sound := by
  refine .bind (.any _) fun place _ => ?_
  cases place with
  | vacant dir name =>
    refine .check (.bind (ensures_mayChange t v.user dir) fun _ hdir => .pure ?_)
    exact h.addNamed hdir name nofun
  | found id =>
    simp only
    cases hnode : t.node? id with
    | none => exact .throw _
    | some n =>
      -- It must be allowed to be there, no directory, and open to the user for reading and writing.
      refine .check (.check (.check (.check ?_)))
      cases hcontent : n.content with
      | regular old =>
        refine .pure ?_
        split
        · exact h.setBytes (bytesAt?_eq_some.2 ⟨n, hnode, hcontent⟩) []
        · exact h
      | _ => exact .pure h

theorem write (id : FileId) (offset : Nat) (bytes : Bytes) : Ensures (t.write id offset bytes) Sound := by
  intro t' hwrite
  rcases eq_or_eq_setContent_of_write hwrite with rfl | ⟨old, new, hold, rfl⟩
  · exact h
  · exact h.setBytes hold new

theorem make (v : Viewer) (p : Path) (directory : Bool) {n : FileId → Node} (hn : ∀ dir, (n dir).IsNewIn dir) :
    Ensures (t.make v p directory n) Sound := by
  refine .bind (ensures_vacancy t v p directory) fun vacant hdir => .pure ?_
  exact h.addNamed hdir vacant.2 (hn vacant.1)

theorem makeDirectory (v : Viewer) (p : Path) (mode : Nat) : Ensures (t.makeDirectory v p mode) Sound := by
  refine h.make v p true fun dir parent es hcontent => ?_
  obtain ⟨rfl, rfl⟩ := Content.directory.inj hcontent
  exact ⟨rfl, rfl⟩

theorem makeLink (v : Viewer) (target p : Path) : Ensures (t.makeLink v target p) Sound := by
  unfold FileTree.makeLink
  split
  · exact .throw _
  · exact h.make v p false fun _ => nofun

theorem hardLink (hdir : v.dir < t.nodes.size) (old new : Path) : Ensures (t.hardLink v old new) Sound := by
  refine .bind (h.find hdir old false) fun id hid => .bind (.any _) fun vacant _ => .check (.pure ?_)
  exact h.bindName vacant.1 vacant.2 hid

theorem unlink (v : Viewer) (p : Path) : Ensures (t.unlink v p) Sound := by
  refine .bind (.any _) fun entry _ => .check (.check (.bind (.any _) fun _ _ => .check (.pure ?_)))
  exact h.unbindName entry.1 entry.2.1

theorem removeDirectory (v : Viewer) (p : Path) : Ensures (t.removeDirectory v p) Sound := by
  unfold FileTree.removeDirectory
  refine .check (.bind (.any _) fun entry _ => .check (.check (.bind (.any _) fun _ _ => ?_)))
  split
  · exact .throw _
  · exact .check (.check (.pure (h.unbindName entry.1 entry.2.1)))

theorem rename (hdir : v.dir < t.nodes.size) (old new : Path) : Ensures (t.rename v old new) Sound := by
  -- The file of the new name is the one that the old name leads to, and that is there.
  refine .bind (h.find hdir old false) fun id hid => ?_
  refine .bind (.any _) fun oldName _ => .bind (.any _) fun newName _ => ?_
  refine .bind (.any _) fun _ _ => .bind (.any _) fun _ _ => .pure ?_
  refine (h.unbindName oldName.1 oldName.2).bindName newName.1 newName.2 ?_
  exact (size_modify t oldName.1 _).symm ▸ hid

theorem changeMode (v : Viewer) (p : Path) (f : Node → Nat) : Ensures (t.changeMode v p f) Sound := by
  refine .bind (ensures_findNode t v p true) fun found hnode => .check (.pure ?_)
  rw [setNode_eq_modify hnode fun n => { n with mode := f n }]
  exact h.modify found.1 fun _ => rfl

end Sound

/-! ## Trees that are laid out -/

namespace Sound

variable (h : t.Sound)

include h

theorem orSame {changed : Except Errno FileTree} (hchanged : Ensures changed Sound) : (t.orSame changed).Sound := by
  cases changed with
  | error e => exact h
  | ok t' => exact hchanged t' rfl

theorem ensureDirectories (done : Path) (names : List Name) : (t.ensureDirectories done names).Sound := by
  induction names generalizing t done with
  | nil => exact h
  | cons name names ih => exact ih (h.orSame (h.makeDirectory builder _ newDirectoryMode)) _

theorem place (base p : Path) (kind : EntryKind) : (t.place base p kind).Sound := by
  have hway := h.ensureDirectories base p.parts.dropLast
  cases kind with
  | directory => exact hway.orSame (hway.makeDirectory builder _ newDirectoryMode)
  | link target => exact hway.orSame (hway.makeLink builder target _)
  | file bytes =>
    simp only [FileTree.place]
    split
    · next id t' hopen =>
      have hopened : t'.Sound := hway.openFile builder _ .replacing _ hopen
      exact hopened.orSame (hopened.write id 0 bytes)
    · exact hway

theorem layOut (base : Path) (entries : List Entry) : (t.layOut base entries).Sound := by
  have hplaced : (entries.foldl (fun t e => t.place base e.path e.kind) t).Sound :=
    List.foldlRecOn entries _ h fun _ ht e _ => ht.place base e.path e.kind
  refine List.foldlRecOn entries _ hplaced fun t ht e _ => ?_
  split
  · exact ht.orSame (ht.changeMode builder _ _)
  · exact ht

theorem giveTo (user depth : Nat) (id : FileId) : (FileTree.giveTo user depth t id).Sound := by
  induction depth generalizing t id with
  | zero => exact h
  | succ depth ih =>
    have howned : (t.modify id fun n => { n with owner := user }).Sound := h.modify id fun _ => rfl
    simp only [FileTree.giveTo]
    split
    · exact List.foldlRecOn _ _ howned fun _ ht id _ => ih ht id
    · exact howned

theorem placeSpecial (p : String) (content : Content) (mode : Nat)
    (hcontent : ∀ parent es, content ≠ .directory parent es) : (t.placeSpecial p content mode).Sound :=
  h.orSame (h.make builder _ false fun _ parent es hdirectory => absurd hdirectory (hcontent parent es))

end Sound

theorem sound_bare : bare.Sound := by
  unfold bare
  extract_lets directories tmp root bin tools null full stdout stderr
  have hdirectories : directories.Sound :=
    List.foldlRecOn _ _ sound_empty fun _ ht _ _ => ht.orSame (ht.makeDirectory builder _ _)
  have htmp : tmp.Sound := hdirectories.orSame (hdirectories.changeMode builder _ _)
  have hroot : root.Sound := htmp.orSame (htmp.changeMode builder _ _)
  have hbin : bin.Sound := hroot.orSame (hroot.makeLink builder _ _)
  have htools : tools.Sound := List.foldlRecOn _ _ hbin fun _ ht tool _ => ht.placeSpecial _ (.program tool.2) _ nofun
  have hnull : null.Sound := htools.placeSpecial _ (.device .null) _ nofun
  have hfull : full.Sound := hnull.placeSpecial _ (.device .full) _ nofun
  have hstdout : stdout.Sound := hfull.placeSpecial _ (.device (.stream .stdout)) _ nofun
  have hstderr : stderr.Sound := hstdout.placeSpecial _ (.device (.stream .stderr)) _ nofun
  exact hstderr.placeSpecial _ (.device .commandLine) _ nofun

end FileTree

end LineShell
