import LineShell.State
import Mathlib.Data.List.Basic
import Mathlib.Tactic.SplitIfs

/-!
# Joining path names

When a joined path name is absolute, when two directories lead to the same path name, and what comes of joining twice.

* `Path.isAbsolute_join`: a join is absolute where one of its sides is.
* `Path.join_eq_join_iff`: two directories show a path name in the same way where it is absolute, or where
  they are the same directory but for a slash at the end.
* `Path.isAbsolute_ofString`: a name without a slash is never absolute.
* `Path.join_assoc`: joining is associative.
* `Path.exists_join_ofString`: the join of two texts is a text.
-/

namespace LineShell

/-! ## Bytes of a text -/

namespace Bytes

theorem ofString_eq_flatMap (s : String) : ofString s = s.toList.flatMap String.utf8EncodeChar := by
  have hencode : s.toUTF8 = (s.toList.flatMap String.utf8EncodeChar).toByteArray :=
    String.utf8Encode_toList.symm
  rw [ofString, hencode, List.data_toByteArray, List.toList_toArray]

theorem ofString_append (s t : String) : ofString (s ++ t) = ofString s ++ ofString t := by
  rw [ofString_eq_flatMap, String.toList_append, List.flatMap_append, ← ofString_eq_flatMap, ← ofString_eq_flatMap]

/-- A byte of ASCII is in the encoding of no character but its own. -/
theorem toNat_of_mem_encode {b : UInt8} {c : Char} (hb : b.toNat < 128) (hmem : b ∈ String.utf8EncodeChar c) :
    c.val.toNat = b.toNat := by
  have hother (n : Nat) (hlow : 128 ≤ n) (hhigh : n < 256) : b ≠ UInt8.ofNat n := by
    rintro rfl
    rw [UInt8.toNat_ofNat'] at hb
    omega
  simp only [String.utf8EncodeChar] at hmem
  split_ifs at hmem with h1 h2 h3
  · obtain rfl := List.mem_singleton.1 hmem
    rw [UInt8.toNat_ofNat']
    omega
  -- All bytes of the encodings of several bytes are above those of ASCII.
  all_goals simp only [List.mem_cons, List.not_mem_nil, or_false] at hmem
  · rcases hmem with h | h <;> exact absurd h (hother _ (by omega) (by omega))
  · rcases hmem with h | h | h <;> exact absurd h (hother _ (by omega) (by omega))
  · rcases hmem with h | h | h | h <;> exact absurd h (hother _ (by omega) (by omega))

/-- A byte of ASCII stands for its own character. -/
theorem mem_ofString_iff {b : UInt8} {c : Char} (hb : b.toNat < 128) (hc : c.val.toNat = b.toNat) {text : String} :
    b ∈ ofString text ↔ c ∈ text.toList := by
  rw [ofString_eq_flatMap, List.mem_flatMap]
  constructor
  · rintro ⟨d, hd, hmem⟩
    have hval : d.val.toNat = c.val.toNat := (toNat_of_mem_encode hb hmem).trans hc.symm
    rwa [show d = c from Char.ext (UInt32.toNat_inj.1 hval)] at hd
  · intro hmem
    have hascii : b.toNat ≤ 127 := by omega
    refine ⟨c, hmem, ?_⟩
    simp only [String.utf8EncodeChar, hc, if_pos hascii, UInt8.ofNat_toNat, List.mem_singleton]

/-- Of all characters only the slash is encoded with the byte of the slash in front. -/
theorem eq_slash_of_head?_encode {c : Char} (h : (String.utf8EncodeChar c).head? = some Path.slash) : c = '/' := by
  have hval := toNat_of_mem_encode (by decide) (List.mem_of_head? h)
  exact Char.ext (UInt32.toNat_inj.1 hval)

end Bytes

namespace Path

/-! ## Absolute path names -/

/-- The text of an absolute path name starts with a slash. -/
theorem head?_of_isAbsolute {text : String} (h : (ofString text).isAbsolute = true) :
    text.toList.head? = some '/' := by
  rw [isAbsolute, ofString, Bytes.ofString_eq_flatMap, beq_iff_eq] at h
  cases htext : text.toList with
  | nil => simp [htext] at h
  | cons c cs =>
    rw [htext, List.flatMap_cons, List.head?_append_of_ne_nil _ String.utf8EncodeChar_ne_nil] at h
    rw [Bytes.eq_slash_of_head?_encode h]
    rfl

/-- A name without a slash is no absolute path name. -/
theorem isAbsolute_ofString {name : String} (h : hasSeparator name = false) :
    (ofString name).isAbsolute = false := by
  rw [hasSeparator, List.contains_eq_mem, decide_eq_false_iff_not] at h
  rw [Bool.eq_false_iff]
  intro habsolute
  exact h (List.mem_of_head? (head?_of_isAbsolute habsolute))

/-- **A join is absolute where one of its sides is.** -/
theorem isAbsolute_join (base p : Path) :
    (base.join p).isAbsolute = (p.isAbsolute || base.isAbsolute) := by
  unfold join
  cases hp : p.isAbsolute with
  | true => simp [hp]
  | false =>
    obtain ⟨bytes⟩ := base
    cases bytes with
    | nil => simpa [isAbsolute] using hp
    | cons b bs =>
      simp only [Bool.false_eq_true, if_false, Bool.false_or]
      split <;> rfl

theorem isAbsolute_resolve {state : State} (h : state.currentDir.isAbsolute = true) (p : Path) :
    (state.resolve p).isAbsolute = true := by
  rw [State.resolve_eq_join, isAbsolute_join, h, Bool.or_true]

/-! ## Directories that show the same -/

/-- The path name of a directory with the slash that names in it are appended to. -/
def asDirectory (p : Path) : Path :=
  p.join ⟨[]⟩

/-- A relative path name is appended to the directory. -/
theorem join_of_relative {p : Path} (h : p.isAbsolute = false) (base : Path) :
    base.join p = ⟨base.asDirectory.bytes ++ p.bytes⟩ := by
  have hempty : (⟨[]⟩ : Path).isAbsolute = false := rfl
  unfold asDirectory join
  simp only [h, hempty, Bool.false_eq_true, if_false]
  split
  · rw [List.append_nil]
  · rw [List.append_assoc, List.singleton_append]

/-- **When a path name means the same seen from two directories**: when it is absolute, or when they are
the same directory. -/
theorem join_eq_join_iff (base base' p : Path) :
    base.join p = base'.join p ↔ p.isAbsolute = true ∨ base.asDirectory = base'.asDirectory := by
  cases h : p.isAbsolute with
  | true => simp [join_of_isAbsolute _ h]
  | false =>
    simp only [join_of_relative h, mk.injEq, List.append_left_inj, Bool.false_eq_true, false_or]
    exact ⟨fun heq => congrArg mk heq, fun heq => congrArg bytes heq⟩

/-! ## Joining twice

Whether a slash is inserted depends on the last byte of the left side, and where the left side is a join of its own
this is the last byte of its right part, unless that part is empty. -/

/-- A name can be appended to the path name as it is. -/
def IsOpen (p : Path) : Prop :=
  p.bytes = [] ∨ p.bytes.getLast? = some slash

theorem asDirectory_of_isOpen {p : Path} (h : p.IsOpen) : p.asDirectory = p := by
  have hopen : (p.bytes.isEmpty || p.bytes.getLast? == some slash) = true := by simpa [IsOpen] using h
  have hempty : (⟨[]⟩ : Path).isAbsolute = false := rfl
  simp only [asDirectory, join, hempty, hopen, Bool.false_eq_true, if_false, if_true, List.append_nil]

theorem asDirectory_of_not_isOpen {p : Path} (h : ¬ p.IsOpen) : p.asDirectory = ⟨p.bytes ++ [slash]⟩ := by
  have hclosed : (p.bytes.isEmpty || p.bytes.getLast? == some slash) = false := by simpa [IsOpen] using h
  have hempty : (⟨[]⟩ : Path).isAbsolute = false := rfl
  simp only [asDirectory, join, hempty, hclosed, Bool.false_eq_true, if_false]

theorem isOpen_asDirectory (p : Path) : p.asDirectory.IsOpen := by
  by_cases h : p.IsOpen
  · rwa [asDirectory_of_isOpen h]
  · rw [asDirectory_of_not_isOpen h]
    exact .inr List.getLast?_concat

theorem isOpen_append {bs cs : Bytes} (hne : cs ≠ []) : IsOpen ⟨bs ++ cs⟩ ↔ IsOpen ⟨cs⟩ := by
  have hlast : (bs ++ cs).getLast? = cs.getLast? := List.getLast?_append_of_ne_nil bs hne
  simp only [IsOpen, hlast, List.append_eq_nil_iff, hne, and_false]

theorem asDirectory_join {a : Path} (ha : a.isAbsolute = false) (c : Path) :
    (c.join a).asDirectory.bytes = c.asDirectory.bytes ++ a.asDirectory.bytes := by
  rw [join_of_relative ha]
  -- The last byte of the join is that of `a`, unless there is none.
  by_cases hempty : a.bytes = []
  · have hopen : a.IsOpen := .inl hempty
    rw [hempty, List.append_nil, asDirectory_of_isOpen c.isOpen_asDirectory, asDirectory_of_isOpen hopen, hempty,
      List.append_nil]
  by_cases hopen : a.IsOpen
  · rw [asDirectory_of_isOpen ((isOpen_append hempty).2 hopen), asDirectory_of_isOpen hopen]
  · rw [asDirectory_of_not_isOpen (mt (isOpen_append hempty).1 hopen), asDirectory_of_not_isOpen hopen]
    exact List.append_assoc _ _ _

/-- **Joining is associative**, whichever of the parts are empty or absolute, or end in a slash. -/
theorem join_assoc (c a b : Path) : (c.join a).join b = c.join (a.join b) := by
  -- An absolute part starts afresh, and nothing before it counts.
  by_cases hb : b.isAbsolute = true
  · simp only [join_of_isAbsolute _ hb]
  by_cases ha : a.isAbsolute = true
  · have hab : (a.join b).isAbsolute = true := by rw [isAbsolute_join, ha, Bool.or_true]
    rw [join_of_isAbsolute c ha, join_of_isAbsolute c hab]
  rw [Bool.not_eq_true] at ha hb
  have hab : (a.join b).isAbsolute = false := by rw [isAbsolute_join, ha, hb, Bool.or_false]
  calc (c.join a).join b
      = ⟨(c.join a).asDirectory.bytes ++ b.bytes⟩ := join_of_relative hb _
    _ = ⟨c.asDirectory.bytes ++ (a.asDirectory.bytes ++ b.bytes)⟩ := by
        rw [asDirectory_join ha, List.append_assoc]
    _ = ⟨c.asDirectory.bytes ++ (a.join b).bytes⟩ := by rw [join_of_relative hb a]
    _ = c.join (a.join b) := (join_of_relative hab c).symm

/-! ## Path names that are texts -/

theorem ofString_injective : Function.Injective ofString := by
  intro s t h
  rw [← display_ofString s, h, display_ofString]

theorem bytes_ofString_ne_nil {text : String} (h : text ≠ "") : (ofString text).bytes ≠ [] := by
  intro hbytes
  have hempty : ofString text = ofString "" := congrArg mk hbytes
  exact h (ofString_injective hempty)

theorem slash_mem_ofString {name : String} : slash ∈ (ofString name).bytes ↔ hasSeparator name = true := by
  rw [hasSeparator, List.contains_eq_mem, decide_eq_true_iff]
  exact Bytes.mem_ofString_iff (by decide) (by decide)

/-- Joining two texts gives a text. -/
theorem exists_join_ofString (dir name : String) :
    ∃ text, (ofString dir).join (ofString name) = ofString text := by
  unfold join
  split_ifs
  · exact ⟨name, rfl⟩
  · exact ⟨dir ++ name, congrArg mk (Bytes.ofString_append dir name).symm⟩
  · refine ⟨dir ++ ("/" ++ name), congrArg mk ?_⟩
    rw [Bytes.ofString_append, Bytes.ofString_append]
    rfl

/-- What is joined stands last. -/
theorem suffix_join (base p : Path) : p.bytes <:+ (base.join p).bytes := by
  cases hp : p.isAbsolute with
  | true =>
    have hself : (base.join p).bytes = p.bytes := congrArg bytes (join_of_isAbsolute base hp)
    exact ⟨[], hself.symm⟩
  | false =>
    rw [join_of_relative hp base]
    exact List.suffix_append base.asDirectory.bytes p.bytes

/-- A name in a directory has a slash before it. -/
theorem slash_mem_join {base p : Path} (hbase : base.bytes ≠ []) (hp : p.isAbsolute = false) :
    slash ∈ (base.join p).bytes := by
  rw [join_of_relative hp]
  refine List.mem_append_left _ ?_
  by_cases hopen : base.IsOpen
  · rw [asDirectory_of_isOpen hopen]
    exact List.mem_of_getLast? (hopen.resolve_left hbase)
  · rw [asDirectory_of_not_isOpen hopen]
    exact List.mem_append_right _ List.mem_cons_self

end Path

end LineShell
