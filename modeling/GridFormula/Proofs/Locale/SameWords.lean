import GridFormula.Proofs.Formula.Fronts

/-!
# Locales with the same words

How a text is cut into lexemes depends on the separators and the tables of its locale, but not on
the size of the sheets. It depends on the blanks of the locale only where a lexeme could start with
one, and none does but the blanks themselves. So the parts of a formula are read alike in all
locales with the words of the United States.
-/

namespace GridFormula

/-- The locales have the same separators and call functions and error values alike. Their sheets and
the blanks in their formulas may differ. -/
structure Locale.SameWords (l l' : Locale) : Prop where
  decimal : l.decimal = l'.decimal
  argument : l.argument = l'.argument
  arrayColumn : l.arrayColumn = l'.arrayColumn
  arrayRow : l.arrayRow = l'.arrayRow
  functionNames : l.functionNames = l'.functionNames
  errorNames : l.errorNames = l'.errorNames

instance (l l' : Locale) : Decidable (l.SameWords l') :=
  decidable_of_iff (l.decimal = l'.decimal ∧ l.argument = l'.argument ∧
      l.arrayColumn = l'.arrayColumn ∧ l.arrayRow = l'.arrayRow ∧
      l.functionNames = l'.functionNames ∧ l.errorNames = l'.errorNames)
    ⟨fun ⟨h₁, h₂, h₃, h₄, h₅, h₆⟩ => ⟨h₁, h₂, h₃, h₄, h₅, h₆⟩,
      fun ⟨h₁, h₂, h₃, h₄, h₅, h₆⟩ => ⟨h₁, h₂, h₃, h₄, h₅, h₆⟩⟩

/-! ## Blanks of any script -/

namespace CodePoint

/-- No code point lies in both ranges. -/
def areApart : List Nat → List Nat → Bool
  | [a, b], [c, d] => b < c || d < a
  | _, _ => true

/-- A number in some ranges is in one of them. -/
lemma exists_of_inRanges {n : Nat} {ranges : List (List Nat)} (h : inRanges n ranges = true) :
    ∃ a b, [a, b] ∈ ranges ∧ a ≤ n ∧ n ≤ b := by
  fun_induction inRanges n ranges with
  | case1 a b ranges ih =>
    rcases (Bool.or_eq_true _ _).mp h with h | h
    · simp only [Bool.and_eq_true, decide_eq_true_eq] at h
      exact ⟨a, b, List.mem_cons_self, h⟩
    · obtain ⟨c, d, hmem, hn⟩ := ih h
      exact ⟨c, d, List.mem_cons_of_mem _ hmem, hn⟩
  | case2 _ _ _ ih =>
    obtain ⟨c, d, hmem, hn⟩ := ih h
    exact ⟨c, d, List.mem_cons_of_mem _ hmem, hn⟩
  | case3 => cases h

/-- A number in some ranges is in no range apart from all of them. -/
lemma not_inRanges_of_areApart {n : Nat} {ranges others : List (List Nat)}
    (hapart : ranges.all (fun row => others.all (areApart row)) = true)
    (h : inRanges n ranges = true) : inRanges n others = false := by
  by_contra hother
  obtain ⟨a, b, hmem, ha, hb⟩ := exists_of_inRanges h
  obtain ⟨c, d, hmem', hc, hd⟩ := exists_of_inRanges (by simpa using hother)
  have hrow := List.all_eq_true.mp (List.all_eq_true.mp hapart _ hmem) _ hmem'
  simp only [areApart, Bool.or_eq_true, decide_eq_true_eq] at hrow
  omega

end CodePoint

namespace Text

set_option maxRecDepth 100000 in
/-- The ranges of letters are apart from those of blanks. -/
lemma areApart_letterRanges :
    letterRanges.all (fun row => blankRanges.all (CodePoint.areApart row)) = true := by
  unfold letterRanges
  apply CodePoint.all_rows_ofList
  decide +kernel

/-- No letter is a blank in any script. -/
lemma isBlank_of_isLetter {c : Char} (h : isLetter c = true) : isBlank c = false := by
  by_cases hc : c.toNat < 0x80
  · exact forall_ascii (p := fun c => isLetter c = true → isBlank c = false) (by decide) hc h
  · rw [isLetter, if_neg hc] at h
    exact CodePoint.not_inRanges_of_areApart areApart_letterRanges h

end Text

/-- What starts a name is no blank. -/
lemma isBlank_of_startsName {c : Char} (h : startsName c = true) : Text.isBlank c = false := by
  simp only [startsName, Bool.or_eq_true, decide_eq_true_eq] at h
  rcases h with rfl | h
  · decide
  · exact Text.isBlank_of_isLetter h

/-- A digit is no blank. -/
lemma isBlank_of_isDigit {c : Char} (h : c.isDigit = true) : Text.isBlank c = false :=
  Text.forall_ascii (p := fun c => c.isDigit = true → Text.isBlank c = false) (by decide)
    (Text.toNat_lt_of_isDigit h) h

/-- What is no blank in any script is none in the formulas of a locale. -/
lemma Locale.isBlank_eq_false (l : Locale) {c : Char} (h : Text.isBlank c = false) :
    l.isBlank c = false := by
  unfold Locale.isBlank Spacing.admits
  split
  · by_contra hplain
    have hblank := Text.isBlank_of_isPlainBlank (by simpa using hplain)
    cases h.symm.trans hblank
  · exact h

/-! ## What is read -/

namespace Scan

variable {l l' : Locale} {n n' : Nesting} {rest : Text} {symbol : Symbol}

/-- Behind the blanks, locales with the same words read alike. -/
lemma front_eq_of_sameWords (h : l.SameWords l') {c : Char} (hc : Text.isBlank c = false)
    (n : Nesting) (s : Text) : front l n c s = front l' n c s := by
  have hseparator : separator? l n c = separator? l' n c := by
    simp only [separator?, arraySeparator, h.argument, h.arrayColumn, h.arrayRow]
  have herror : errorFront l n s = errorFront l' n s := by
    simp only [errorFront, h.errorNames]
  have hcanonical : l.canonicalName = l'.canonicalName := by
    funext name
    rw [Locale.canonicalName, Locale.canonicalName, h.functionNames]
  have hname : nameFront l n c s = nameFront l' n c s := by
    unfold nameFront
    rw [hcanonical]
  have hplain : plainFront l n c s = plainFront l' n c s := by
    simp only [plainFront, numberFront?, wordFront, h.decimal, hname]
  rw [front, front, l.isBlank_eq_false hc, l'.isBlank_eq_false hc, hseparator, herror, hplain,
    if_neg Bool.false_ne_true, if_neg Bool.false_ne_true]

/-- What is read in one locale is read in all locales with the same words, if it does not start with
a blank. -/
lemma ReadsFront.of_sameWords {c : Char} {s : Text} (h : ReadsFront l' n (c :: s) rest symbol n')
    (hwords : l.SameWords l') (hc : Text.isBlank c = false) :
    ReadsFront l n (c :: s) rest symbol n' := by
  obtain ⟨d, u, hdu, hfront⟩ := h
  obtain ⟨rfl, rfl⟩ := List.cons.inj hdu
  exact ⟨c, s, rfl, (front_eq_of_sameWords hwords hc n _).trans hfront⟩

end Scan

end GridFormula
