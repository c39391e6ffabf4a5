import LineShell.Text.Lines
import LineShell.Fault
import LineShell.Proofs.Path.Join
import LineShell.Text.Blank

/-!
# Texts without a newline

A text without a newline is *unbroken*: written with a newline behind it, it is one line, and it is this line that is
read back. Texts that are put together from unbroken texts are unbroken. So is what is shown of a path name, be it
UTF-8 or not: the byte of the newline is the encoding of nothing but the newline, and no other bytes are shown as one.

* `Unbroken`: the text has no newline.
* `Path.unbroken_display`: what is shown of a path name has a newline only where the path name has its byte.
* `Input.rawLines_append`, `Input.rawLines_lines`: unbroken texts are read back one by one.
-/

namespace LineShell

/-- The text has no newline. -/
def Unbroken (text : String) : Prop :=
  '\n' ∉ text.toList

instance (text : String) : Decidable (Unbroken text) :=
  inferInstanceAs (Decidable ('\n' ∉ text.toList))

/-! ## Texts made of texts -/

theorem Unbroken.of_subset {text part : String} (h : Unbroken text) (hpart : part.toList ⊆ text.toList) :
    Unbroken part :=
  fun hmem => h (hpart hmem)

@[simp] theorem unbroken_append {s t : String} : Unbroken (s ++ t) ↔ Unbroken s ∧ Unbroken t := by
  rw [Unbroken, String.toList_append, List.mem_append, not_or]
  rfl

theorem unbroken_intercalate {sep : String} {parts : List String} (hsep : Unbroken sep)
    (hparts : ∀ part ∈ parts, Unbroken part) : Unbroken (sep.intercalate parts) := by
  induction parts with
  | nil =>
    rw [String.intercalate_nil]
    decide
  | cons part parts ih =>
    obtain ⟨hpart, hrest⟩ := List.forall_mem_cons.1 hparts
    cases parts with
    | nil => rwa [String.intercalate_singleton]
    | cons next parts =>
      rw [String.intercalate_cons_cons, unbroken_append, unbroken_append]
      exact ⟨⟨hpart, hsep⟩, ih hrest⟩

theorem Unbroken.trimBlanks {text : String} (h : Unbroken text) : Unbroken (trimBlanks text) := by
  refine h.of_subset ?_
  rw [LineShell.trimBlanks, String.toList_ofList]
  intro c hc
  have hend := (List.dropWhile_suffix isBlank).subset (List.mem_reverse.1 hc)
  exact (List.dropWhile_suffix isBlank).subset (List.mem_reverse.1 hend)

theorem unbroken_repr_nat (n : Nat) : Unbroken n.repr := by
  intro hmem
  rw [Nat.toList_repr] at hmem
  exact absurd (Nat.isDigit_of_mem_toDigits (by decide) (by decide) hmem) (by decide)

theorem unbroken_repr_int (n : Int) : Unbroken n.repr := by
  cases n with
  | ofNat n => exact unbroken_repr_nat n
  | negSucc n =>
    show Unbroken ("-" ++ n.succ.repr)
    exact unbroken_append.2 ⟨by decide, unbroken_repr_nat _⟩

/-! ## Bytes -/

namespace Bytes

theorem newline_mem_ofString {text : String} : Input.newline ∈ ofString text ↔ '\n' ∈ text.toList :=
  mem_ofString_iff (by decide) (by decide)

theorem ofString_of_decode? {bs : Bytes} {text : String} (h : decode? bs = some text) : ofString text = bs := by
  unfold decode? String.fromUTF8? at h
  split at h
  · obtain rfl := Option.some.inj h
    rfl
  · cases h

/-! ### What is shown of bytes that are no text -/

theorem le_following {n v v' : Nat} {lo hi : UInt8} {bs : Bytes} (h : (following n lo hi v bs).1 = some v') :
    v ≤ v' := by
  induction n generalizing lo hi v bs with
  | zero => exact Nat.le_of_eq (Option.some.inj h)
  | succ n ih =>
    cases bs with
    | nil => cases h
    | cons b bs =>
      simp only [following] at h
      split_ifs at h
      · have hrest := ih h
        omega

theorem following_suffix (n v : Nat) (lo hi : UInt8) (bs : Bytes) : (following n lo hi v bs).2 <:+ bs := by
  induction n generalizing lo hi v bs with
  | zero => exact List.suffix_refl bs
  | succ n ih =>
    cases bs with
    | nil => exact List.suffix_refl []
    | cons b bs =>
      simp only [following]
      split_ifs
      · exact (ih _ _ _ bs).trans (List.suffix_cons b bs)
      · exact List.suffix_refl _

theorem lead?_bounds {b : UInt8} {n v : Nat} {lo hi : UInt8} (h : lead? b = some (n, lo, hi, v)) :
    0 < n ∧ 16 ≤ v * 64 + (lo.toNat - 0x80) := by
  simp only [lead?, UInt8.le_iff_toNat_le, UInt8.reduceToNat] at h
  split_ifs at h <;> cases h <;> simp only [UInt8.reduceToNat] <;> omega

/-- What is read as a character of several bytes is beyond the newline. -/
theorem sixteen_le_of_following {b : UInt8} {n v v' : Nat} {lo hi : UInt8} {bs : Bytes}
    (hlead : lead? b = some (n, lo, hi, v)) (h : (following n lo hi v bs).1 = some v') : 16 ≤ v' := by
  obtain ⟨hn, hv⟩ := lead?_bounds hlead
  cases n with
  | zero => cases hn
  | succ n =>
    cases bs with
    | nil => cases h
    | cons b bs =>
      simp only [following] at h
      split_ifs at h with hb
      · have hlo := UInt8.le_iff_toNat_le.1 hb.1
        have hrest := le_following h
        omega

theorem eq_ten_of_ofNat {n : Nat} (h : Char.ofNat n = '\n') : n = 10 := by
  by_cases hvalid : n.isValidChar
  · have hchar : Char.ofNat n = Char.ofNatAux n hvalid := dif_pos hvalid
    rw [hchar] at h
    exact congrArg (fun c => c.val.toNat) h
  · have hchar : Char.ofNat n = _ := dif_neg hvalid
    rw [hchar] at h
    cases h

/-- A newline that is shown is one of the bytes. -/
theorem newline_mem_of_decodeChars {bs : Bytes} (h : '\n' ∈ decodeChars bs) : Input.newline ∈ bs := by
  induction bs using decodeChars.induct with
  | case1 => simp [decodeChars] at h
  | case2 b bs hascii ih =>
    rw [decodeChars, if_pos hascii] at h
    rcases List.mem_cons.1 h with hfirst | hrest
    · have hb := eq_ten_of_ofNat hfirst.symm
      rw [show b = Input.newline from UInt8.toNat_inj.1 hb]
      exact List.mem_cons_self
    · exact List.mem_cons_of_mem _ (ih hrest)
  | case3 b bs hascii hlead ih =>
    rw [decodeChars, if_neg hascii, hlead] at h
    rcases List.mem_cons.1 h with hfirst | hrest
    · exact absurd hfirst (by decide)
    · exact List.mem_cons_of_mem _ (ih hrest)
  | case4 b bs hascii n lo hi v hlead _ ih =>
    rw [decodeChars, if_neg hascii, hlead] at h
    rcases List.mem_cons.1 h with hfirst | hrest
    · cases hshown : (following n lo hi v bs).1 with
      | none =>
        rw [hshown] at hfirst
        exact absurd hfirst (by decide)
      | some v' =>
        rw [hshown] at hfirst
        have hv := sixteen_le_of_following hlead hshown
        have heq := eq_ten_of_ofNat hfirst.symm
        omega
    · exact List.mem_cons_of_mem _ ((following_suffix n v lo hi bs).subset (ih hrest))

end Bytes

/-! ## Faults -/

theorem Errno.unbroken_text (e : Errno) : Unbroken e.text := by
  rw [Errno.text]
  cases hlookup : Errno.texts.lookup e.code with
  | none => exact unbroken_append.2 ⟨by decide, unbroken_repr_int _⟩
  | some text =>
    have htexts : ∀ p ∈ Errno.texts, Input.newline ∉ Bytes.ofString p.2 := by decide +kernel
    obtain ⟨before, after, htable, -⟩ := List.lookup_eq_some_iff.1 hlookup
    refine mt Bytes.newline_mem_ofString.2 (htexts (e.code, text) ?_)
    rw [htable]
    exact List.mem_append_right _ List.mem_cons_self

/-- The text of a fault is unbroken unless it is one that the system has made up. -/
theorem Fault.unbroken_message {fault : Fault} (h : ∀ text, fault = .other text → Unbroken text) :
    Unbroken fault.message := by
  cases fault with
  | system e =>
    have hcode : Unbroken (toString e.code) := unbroken_repr_int e.code
    simp only [message, unbroken_append]
    exact ⟨⟨⟨e.unbroken_text, by decide⟩, hcode⟩, by decide⟩
  | nulInPath | nulInData | notUtf8 => decide
  | other text => exact h text rfl

/-! ## Path names -/

namespace Path

/-- The path name has no newline. -/
def Unbroken (p : Path) : Prop :=
  Input.newline ∉ p.bytes

instance (p : Path) : Decidable p.Unbroken :=
  inferInstanceAs (Decidable (Input.newline ∉ p.bytes))

theorem unbroken_ofString {text : String} : (ofString text).Unbroken ↔ LineShell.Unbroken text :=
  not_congr Bytes.newline_mem_ofString

theorem Unbroken.join {base p : Path} (hbase : base.Unbroken) (hp : p.Unbroken) : (base.join p).Unbroken := by
  have hslash : Input.newline ≠ slash := by decide
  unfold Path.join
  split_ifs
  · exact hp
  · simpa [Unbroken] using ⟨hbase, hp⟩
  · simpa [Unbroken] using ⟨hbase, hslash, hp⟩

/-- **What is shown of a path name without a newline** has none, be the path name a text or not. -/
theorem unbroken_display {p : Path} (h : p.Unbroken) : LineShell.Unbroken p.display := by
  rw [display, Bytes.decodeLossy]
  cases hdecode : Bytes.decode? p.bytes with
  | some text =>
    rw [Unbroken, ← Bytes.ofString_of_decode? hdecode] at h
    exact mt Bytes.newline_mem_ofString.2 h
  | none =>
    intro hmem
    rw [Option.getD_none, String.toList_ofList] at hmem
    exact h (Bytes.newline_mem_of_decodeChars hmem)

end Path

/-! ## Reading back -/

namespace Input

/-- The line that is written for a text. -/
def RawLine.ofText (text : String) : RawLine :=
  ⟨Bytes.ofString text, true⟩

theorem rawLinesFrom_line (cur : Bytes) {bs : Bytes} (h : newline ∉ bs) (bs' : Bytes) :
    rawLinesFrom cur (bs ++ newline :: bs') = ⟨cur.reverse ++ bs, true⟩ :: rawLines bs' := by
  induction bs generalizing cur with
  | nil => simp [rawLinesFrom, rawLines]
  | cons b bs ih =>
    rw [List.mem_cons, not_or] at h
    rw [List.cons_append, rawLinesFrom, if_neg (Ne.symm h.1), ih _ h.2, List.reverse_cons, List.append_assoc,
      List.singleton_append]

theorem rawLinesFrom_append {cur bs : Bytes} (h : ∀ l ∈ rawLinesFrom cur bs, l.ended = true) (bs' : Bytes) :
    rawLinesFrom cur (bs ++ bs') = rawLinesFrom cur bs ++ rawLines bs' := by
  induction bs generalizing cur with
  | nil =>
    cases cur with
    | nil => rfl
    | cons b cur => exact absurd (h _ (List.mem_singleton_self _)) Bool.false_ne_true
  | cons b bs ih =>
    simp only [List.cons_append, rawLinesFrom] at h ⊢
    split_ifs at h ⊢
    · rw [ih (List.forall_mem_cons.1 h).2, List.cons_append]
    · exact ih h

/-- What comes after whole lines is read by itself. -/
theorem rawLines_append {bs : Bytes} (h : ∀ l ∈ rawLines bs, l.ended = true) (bs' : Bytes) :
    rawLines (bs ++ bs') = rawLines bs ++ rawLines bs' :=
  rawLinesFrom_append h bs'

/-- **Unbroken texts are read back one by one.** -/
theorem rawLines_lines {lines : List String} (h : ∀ line ∈ lines, Unbroken line) :
    rawLines (lines.flatMap fun line => Bytes.ofString (line ++ "\n")) = lines.map RawLine.ofText := by
  induction lines with
  | nil => rfl
  | cons line lines ih =>
    obtain ⟨hline, hlines⟩ := List.forall_mem_cons.1 h
    have hend : Bytes.ofString "\n" = [newline] := by decide
    rw [List.flatMap_cons, Bytes.ofString_append, hend, List.append_assoc, List.singleton_append, rawLines,
      rawLinesFrom_line [] (mt Bytes.newline_mem_ofString.1 hline), ih hlines]
    rfl

end Input

end LineShell
