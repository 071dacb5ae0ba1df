import GridFormula.Proofs.Text.Character
import GridFormula.Text.Upper

/-!
# Upper case of words

A word in upper case is still a word. Not all of its characters need be letters then: the upper-case
form of `ǰ` is a `J` with a mark of its own behind it. But none of them is a character with a job in
a formula, and the form of a character is never empty.
-/

namespace GridFormula

namespace CodePoint

/-- The rows of a block are those of its characters. -/
lemma all_rows_ofList {p : List Nat → Bool} {block : List Char}
    (h : (readRows none [] block).all p = true) : (rows (String.ofList block)).all p = true := by
  rwa [rows, String.toList_ofList]

/-- What a table gives is in one of its rows. -/
lemma mem_of_row? {n : Nat} {image : List Nat} {table : List (List Nat)}
    (h : row? n table = some image) : ∃ m, m :: image ∈ table := by
  fun_induction row? n table with
  | case1 =>
    cases h
    exact ⟨n, List.mem_cons_self⟩
  | case2 _ _ _ _ ih =>
    obtain ⟨m, hm⟩ := ih h
    exact ⟨m, List.mem_cons_of_mem _ hm⟩
  | case3 _ ih =>
    obtain ⟨m, hm⟩ := ih h
    exact ⟨m, List.mem_cons_of_mem _ hm⟩
  | case4 => cases h

/-- Without a row of its own a code point has no image. -/
lemma row?_eq_none {n : Nat} {table : List (List Nat)} (h : ∀ row ∈ table, row.head? ≠ some n) :
    row? n table = none := by
  fun_induction row? n table with
  | case1 => exact absurd rfl (h _ List.mem_cons_self)
  | case2 _ _ _ _ ih => exact ih (List.forall_mem_cons.mp h).2
  | case3 _ ih => exact ih (List.forall_mem_cons.mp h).2
  | case4 => rfl

end CodePoint

namespace Text

/-- The row gives a form, all of whose characters are those of words. Of the letters below U+0080
they are capital ones. -/
def isWordForm (row : List Nat) : Bool :=
  !row.tail.isEmpty && row.tail.all fun n =>
    isWord (Char.ofNat n) && (0x80 ≤ (Char.ofNat n).toNat || (Char.ofNat n).isUpper)

set_option maxRecDepth 100000 in
/-- All forms in upper case are words. -/
lemma isWordForm_upperForms : upperForms.all isWordForm = true := by
  unfold upperForms
  apply CodePoint.all_rows_ofList
  decide +kernel

/-- The row is not that of a capital letter from `À` to `Þ`. -/
def isNotLatinCapital (row : List Nat) : Bool :=
  row.head?.all fun n => n < 0xC0 || 0xDE < n

set_option maxRecDepth 100000 in
/-- No form in the table is that of a Latin capital. -/
lemma isNotLatinCapital_upperForms : upperForms.all isNotLatinCapital = true := by
  unfold upperForms
  apply CodePoint.all_rows_ofList
  decide +kernel

/-- Capital letters are their own form. -/
lemma upperForm_of_isLatinCapital {c : Char} (h : 0xC0 ≤ c.toNat ∧ c.toNat ≤ 0xDE) :
    upperForm c = [c] := by
  have hrow : CodePoint.row? c.toNat upperForms = none := by
    refine CodePoint.row?_eq_none fun row hrow hhead => ?_
    have hnot := List.all_eq_true.mp isNotLatinCapital_upperForms row hrow
    rw [isNotLatinCapital, hhead, Option.all_some] at hnot
    simp only [Bool.or_eq_true, decide_eq_true_eq] at hnot
    omega
  rw [upperForm, if_neg (by omega), CodePoint.image?, hrow]
  rfl

/-- A character of words has words as its form in upper case. -/
lemma upperForm_spec {c : Char} (h : isWord c = true) :
    upperForm c ≠ [] ∧ ∀ d ∈ upperForm c, isWord d = true := by
  by_cases hc : c.toNat < 0x80
  · rw [upperForm_of_lt hc]
    refine ⟨List.cons_ne_nil _ _, fun d hd => ?_⟩
    obtain rfl := List.mem_singleton.mp hd
    exact forall_ascii (p := fun c => isWord c = true → isWord c.toUpper = true)
      (by decide +kernel) hc h
  · rw [upperForm, if_neg hc]
    unfold CodePoint.image?
    cases hrow : CodePoint.row? c.toNat upperForms with
    | none =>
      refine ⟨List.cons_ne_nil _ _, fun d hd => ?_⟩
      obtain rfl := List.mem_singleton.mp hd
      exact h
    | some image =>
      obtain ⟨m, hm⟩ := CodePoint.mem_of_row? hrow
      have hform := List.all_eq_true.mp isWordForm_upperForms _ hm
      simp only [isWordForm, List.tail_cons, Bool.and_eq_true, List.all_eq_true] at hform
      refine ⟨fun hnil => ?_, fun d hd => ?_⟩
      · obtain rfl := List.map_eq_nil_iff.mp hnil
        cases hform.1
      · obtain ⟨n, hn, rfl⟩ := List.mem_map.mp hd
        exact (hform.2 n hn).1

/-- A character below U+0080 is the form of one below U+0080, or a capital letter. -/
lemma eq_toUpper_of_mem_upperForm {c d : Char} (hd : d ∈ upperForm c) (hlt : d.toNat < 0x80) :
    c.toNat < 0x80 ∧ d = c.toUpper ∨ d.isUpper = true := by
  by_cases hc : c.toNat < 0x80
  · rw [upperForm_of_lt hc] at hd
    exact Or.inl ⟨hc, List.mem_singleton.mp hd⟩
  · rw [upperForm, if_neg hc] at hd
    unfold CodePoint.image? at hd
    cases hrow : CodePoint.row? c.toNat upperForms with
    | none =>
      rw [hrow] at hd
      rw [List.mem_singleton.mp hd] at hlt
      exact absurd hlt hc
    | some image =>
      rw [hrow] at hd
      obtain ⟨m, hm⟩ := CodePoint.mem_of_row? hrow
      have hform := List.all_eq_true.mp isWordForm_upperForms _ hm
      simp only [isWordForm, List.tail_cons, Bool.and_eq_true, List.all_eq_true] at hform
      obtain ⟨n, hn, rfl⟩ := List.mem_map.mp hd
      have hupper := (hform.2 n hn).2
      rw [decide_eq_false (Nat.not_le.mpr hlt), Bool.false_or] at hupper
      exact Or.inr hupper

/-- A word stays one in upper case. -/
theorem isWord_upper {s : Text} (h : ∀ c ∈ s, isWord c = true) : ∀ c ∈ upper s, isWord c = true := by
  intro d hd
  obtain ⟨c, hc, hd⟩ := List.mem_flatMap.mp hd
  exact (upperForm_spec (h c hc)).2 d hd

/-- A word is not empty in upper case. -/
lemma upper_ne_nil {s : Text} (h : ∀ c ∈ s, isWord c = true) (hs : s ≠ []) : upper s ≠ [] := by
  obtain ⟨c, s, rfl⟩ := List.exists_cons_of_ne_nil hs
  rw [upper_cons]
  intro hnil
  exact (upperForm_spec (h c List.mem_cons_self)).1 (List.append_eq_nil_iff.mp hnil).1

/-! ## Words below U+0080 -/

/-- All characters of the text are below U+0080. -/
def IsAscii (s : Text) : Prop :=
  ∀ c ∈ s, c.toNat < 0x80

instance (s : Text) : Decidable s.IsAscii :=
  List.decidableBAll _ s

/-- Whether the character is known to be its own upper-case form. -/
def isOwnForm (c : Char) : Bool :=
  c.toNat < 0x80 && c.toUpper = c || 0xC0 ≤ c.toNat && c.toNat ≤ 0xDE

/-- A character that is its own form is so in upper case. -/
lemma upperForm_of_isOwnForm {c : Char} (h : isOwnForm c = true) : upperForm c = [c] := by
  simp only [isOwnForm, Bool.or_eq_true, Bool.and_eq_true, decide_eq_true_eq] at h
  rcases h with ⟨hlt, hc⟩ | hcapital
  · rw [upperForm_of_lt hlt, hc]
  · exact upperForm_of_isLatinCapital hcapital

/-- A text of characters that are their own forms is the same in upper case. -/
lemma upper_eq_self {s : Text} (h : ∀ c ∈ s, isOwnForm c = true) : upper s = s := by
  induction s with
  | nil => rfl
  | cons c s ih =>
    obtain ⟨hc, hs⟩ := List.forall_mem_cons.mp h
    rw [upper_cons, upperForm_of_isOwnForm hc, ih hs]
    rfl

/-- Below U+0080 a form in upper case is in upper case. -/
lemma toUpper_of_mem_upperForm {c d : Char} (hd : d ∈ upperForm c) (hlt : d.toNat < 0x80) :
    d.toUpper = d := by
  rcases eq_toUpper_of_mem_upperForm hd hlt with ⟨hc, rfl⟩ | hupper
  · exact forall_ascii (p := fun c => c.toUpper.toUpper = c.toUpper) (by decide +kernel) hc
  · exact forall_ascii (p := fun d => d.isUpper = true → d.toUpper = d) (by decide +kernel) hlt
      hupper

/-- What is in upper case stays as it is. -/
theorem upper_upper {s : Text} (h : IsAscii (upper s)) : upper (upper s) = upper s := by
  refine upper_eq_self fun d hd => ?_
  obtain ⟨c, -, hmem⟩ := List.mem_flatMap.mp hd
  simp [isOwnForm, toUpper_of_mem_upperForm hmem (h d hd), h d hd]

end Text

end GridFormula
