import GridFormula.Grid.SheetName
import Mathlib.Tactic.Common

/-!
# Classes of characters

Below U+0080 all properties of characters are known one by one, and all characters with a job of
their own in a formula lie there. So whether two classes of such characters overlap is found by
looking at each of them. Such a character is a single byte, and no byte of another character looks
like one of them, so a text can be searched for them byte by byte.
-/

namespace GridFormula

namespace Text

/-- What holds of each character below U+0080 holds of all of them. -/
lemma forall_ascii {p : Char → Prop} (h : ∀ n < 128, p (Char.ofNat n)) {c : Char}
    (hc : c.toNat < 128) : p c := by
  rw [← Char.ofNat_toNat c]
  exact h c.toNat hc

/-- Letters are below U+0080. -/
lemma toNat_lt_of_isAlpha {c : Char} (h : c.isAlpha = true) : c.toNat < 128 := by
  rcases Bool.or_eq_true_iff.mp h with h | h
  · have hle : c.val ≤ 'Z'.val := (of_decide_eq_true h).2
    exact Nat.lt_of_le_of_lt (UInt32.le_iff_toNat_le.mp hle) (by decide)
  · have hle : c.val ≤ 'z'.val := of_decide_eq_true (Bool.and_eq_true_iff.mp h).2
    exact Nat.lt_of_le_of_lt (UInt32.le_iff_toNat_le.mp hle) (by decide)

/-- Digits are below U+0080. -/
lemma toNat_lt_of_isDigit {c : Char} (h : c.isDigit = true) : c.toNat < 128 := by
  simp only [Char.isDigit, Bool.and_eq_true, decide_eq_true_eq] at h
  exact Nat.lt_of_le_of_lt (UInt32.le_iff_toNat_le.mp h.2) (by decide)

/-- A digit is no letter. -/
lemma isAlpha_of_isDigit {c : Char} (h : c.isDigit = true) : c.isAlpha = false :=
  forall_ascii (p := fun c => c.isDigit = true → c.isAlpha = false) (by decide)
    (toNat_lt_of_isDigit h) h

/-- The characters of names, and all those from U+0080 on, of which none has a job of its own. -/
def isWord (c : Char) : Bool :=
  c = '_' || c = '.' || c.isAlpha || c.isDigit || decide (0x80 ≤ c.toNat)

/-- Digits are characters of words. -/
lemma isWord_of_isDigit {c : Char} (h : c.isDigit = true) : isWord c = true := by
  simp [isWord, h]

/-- From U+0080 on all characters are of words. -/
lemma isWord_of_le {c : Char} (h : 0x80 ≤ c.toNat) : isWord c = true := by
  simp [isWord, h]

/-! ## Bytes -/

/-- Below U+0080 a character is one byte. -/
lemma utf8EncodeChar_of_lt {c : Char} (h : c.toNat < 0x80) :
    String.utf8EncodeChar c = [UInt8.ofNat c.toNat] :=
  if_pos (Nat.le_of_lt_succ h)

/-- Below U+0080 the byte of a character leads back to it. -/
lemma ofUInt8_ofNat {c : Char} (h : c.toNat < 0x80) : Char.ofUInt8 (UInt8.ofNat c.toNat) = c :=
  forall_ascii (p := fun c => Char.ofUInt8 (UInt8.ofNat c.toNat) = c) (by decide) h

/-- No byte of a character from U+0080 on is one of a character below. -/
lemma le_of_mem_utf8EncodeChar {c : Char} (h : 0x80 ≤ c.toNat) :
    ∀ b ∈ String.utf8EncodeChar c, 0x80 ≤ b.toNat := by
  have hval : 0x80 ≤ c.val.toNat := h
  fun_cases String.utf8EncodeChar c with
  | case1 => omega
  | case2 | case3 | case4 =>
    simp only [List.forall_mem_cons, List.not_mem_nil, false_implies, implies_true, and_true,
      UInt8.toNat_ofNat']
    omega

/-- A character is a letter of the alphabet if its bytes are. -/
lemma forall_mem_utf8EncodeChar_isAlpha_iff {c : Char} :
    (∀ b ∈ String.utf8EncodeChar c, (Char.ofUInt8 b).isAlpha = true) ↔ c.isAlpha = true := by
  by_cases hc : c.toNat < 0x80
  · rw [utf8EncodeChar_of_lt hc, List.forall_mem_singleton, ofUInt8_ofNat hc]
  · refine iff_of_false (fun hbytes => ?_) fun halpha => hc (toNat_lt_of_isAlpha halpha)
    obtain ⟨b, hb⟩ := List.exists_mem_of_ne_nil _ (String.utf8EncodeChar_ne_nil (c := c))
    have hlt : b.toNat < 0x80 := toNat_lt_of_isAlpha (hbytes b hb)
    exact Nat.not_le.mpr hlt (le_of_mem_utf8EncodeChar (Nat.le_of_not_lt hc) b hb)

/-- All bytes of a text are letters exactly if all its characters are. -/
lemma forall_mem_bytes_isAlpha_iff {s : Text} :
    (∀ b ∈ s.bytes, (Char.ofUInt8 b).isAlpha = true) ↔ ∀ c ∈ s, c.isAlpha = true := by
  simp only [bytes, List.forall_mem_flatMap, forall_mem_utf8EncodeChar_isAlpha_iff]

/-- Letters of the alphabet are found again in their bytes. -/
lemma map_ofUInt8_bytes {s : Text} (hs : ∀ c ∈ s, c.isAlpha = true) :
    s.bytes.map Char.ofUInt8 = s := by
  induction s with
  | nil => rfl
  | cons c s ih =>
    obtain ⟨hc, hs⟩ := List.forall_mem_cons.mp hs
    have hlt := toNat_lt_of_isAlpha hc
    rw [bytes, List.flatMap_cons, utf8EncodeChar_of_lt hlt, List.map_append, List.map_singleton,
      ofUInt8_ofNat hlt, List.singleton_append]
    exact congrArg (c :: ·) (ih hs)

end Text

/-- A letter starts a name. -/
lemma startsName_of_isAlpha {c : Char} (h : c.isAlpha = true) : startsName c = true :=
  Text.forall_ascii (p := fun c => c.isAlpha = true → startsName c = true) (by decide)
    (Text.toNat_lt_of_isAlpha h) h

/-- A digit starts no name. -/
lemma startsName_of_isDigit {c : Char} (h : c.isDigit = true) : startsName c = false :=
  Text.forall_ascii (p := fun c => c.isDigit = true → startsName c = false) (by decide)
    (Text.toNat_lt_of_isDigit h) h

/-- A digit goes on with a name. -/
lemma continuesName_of_isDigit {c : Char} (h : c.isDigit = true) : continuesName c = true :=
  Text.forall_ascii (p := fun c => c.isDigit = true → continuesName c = true) (by decide)
    (Text.toNat_lt_of_isDigit h) h

/-- A letter goes on with a name. -/
lemma continuesName_of_isAlpha {c : Char} (h : c.isAlpha = true) : continuesName c = true :=
  continuesName_of_startsName (startsName_of_isAlpha h)

/-- What goes on with a name is a character of words. -/
lemma isWord_of_continuesName {c : Char} (h : continuesName c = true) : Text.isWord c = true := by
  by_cases hc : c.toNat < 0x80
  · simp only [continuesName, Text.isLetter_of_lt hc, Text.isNumeric_of_lt hc] at h
    unfold Text.isWord
    grind
  · exact Text.isWord_of_le (Nat.le_of_not_lt hc)

end GridFormula
