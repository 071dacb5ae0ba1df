import GridFormula.Proofs.Text.Character
import Mathlib.Data.List.Induction

/-!
# The name of a column denotes it

The letters of a number denote the number again, and letters are, but for their case, those of the
number that they denote. The columns of an ordinary sheet have names of one to three letters.
-/

namespace GridFormula.ColumnName

/-- A letter made from a digit has its value. -/
lemma digit_letter {d : Nat} (h : d < 26) : digit (letter d) = d + 1 := by
  have hall : ∀ d < 26, digit (letter d) = d + 1 := by decide
  exact hall d h

/-- Digits make letters. -/
lemma isAlpha_letter {d : Nat} (h : d < 26) : (letter d).isAlpha = true := by
  have hall : ∀ d < 26, (letter d).isAlpha = true := by decide
  exact hall d h

/-- The letters of a number have its value. -/
theorem value_letters (n : Nat) : value (letters n) = n := by
  induction n using Nat.strongRecOn with
  | ind n ih =>
    cases n with
    | zero => rw [letters_zero, value_nil]
    | succ n =>
      rw [letters_succ, value_concat, ih (n / 26) (by omega), digit_letter (Nat.mod_lt n (by decide))]
      omega

/-- The digit of a letter makes the letter in upper case. -/
lemma letter_digit {c : Char} (h : c.isAlpha = true) :
    1 ≤ digit c ∧ digit c ≤ 26 ∧ letter (digit c - 1) = c.toUpper :=
  Text.forall_ascii
    (p := fun c => c.isAlpha = true → 1 ≤ digit c ∧ digit c ≤ 26 ∧ letter (digit c - 1) = c.toUpper)
    (by decide) (Text.toNat_lt_of_isAlpha h) h

/-- The letters of the number that letters denote are these letters in upper case. -/
theorem letters_value {s : Text} (hs : ∀ c ∈ s, c.isAlpha = true) :
    letters (value s) = s.map Char.toUpper := by
  induction s using List.reverseRecOn with
  | nil => exact letters_zero
  | append_singleton s c ih =>
    obtain ⟨hs, hc⟩ := List.forall_mem_append.mp hs
    obtain ⟨hpos, hle, hletter⟩ := letter_digit (hc c (List.mem_singleton.mpr rfl))
    have hvalue : value (s ++ [c]) = 26 * value s + (digit c - 1) + 1 := by
      rw [value_concat]
      omega
    have hdiv : (26 * value s + (digit c - 1)) / 26 = value s := by omega
    have hmod : (26 * value s + (digit c - 1)) % 26 = digit c - 1 := by omega
    rw [hvalue, letters_succ, hdiv, hmod, hletter, ih hs, List.map_append]
    rfl

/-- Letters have a value. -/
lemma value_ne_zero {s : Text} (hs : ∀ c ∈ s, c.isAlpha = true) (hne : s ≠ []) : value s ≠ 0 := by
  intro hzero
  have hletters := letters_value hs
  rw [hzero, letters_zero] at hletters
  exact hne (List.map_eq_nil_iff.mp hletters.symm)

/-- The letters of a number are letters. -/
lemma isAlpha_of_mem_letters {n : Nat} : ∀ c ∈ letters n, c.isAlpha = true := by
  induction n using Nat.strongRecOn with
  | ind n ih =>
    cases n with
    | zero =>
      rw [letters_zero]
      exact fun c hc => absurd hc List.not_mem_nil
    | succ n =>
      rw [letters_succ]
      intro c hc
      rcases List.mem_append.mp hc with hc | hc
      · exact ih (n / 26) (by omega) c hc
      · rw [List.mem_singleton.mp hc]
        exact isAlpha_letter (Nat.mod_lt n (by decide))

/-- A number that is not zero has letters. -/
lemma letters_ne_nil (n : Nat) : letters (n + 1) ≠ [] := by
  rw [letters_succ]
  exact List.append_ne_nil_of_right_ne_nil _ (List.cons_ne_nil _ _)

/-- One letter more denotes more than twenty-six times as many numbers. -/
lemma length_letters_le_succ {k b : Nat} (h : ∀ n ≤ b, (letters n).length ≤ k) :
    ∀ n ≤ 26 * b + 26, (letters n).length ≤ k + 1 := by
  intro n hn
  cases n with
  | zero =>
    rw [letters_zero]
    exact Nat.zero_le _
  | succ n =>
    rw [letters_succ, List.length_append]
    exact Nat.succ_le_succ (h (n / 26) (by omega))

/-- Three letters are enough for the columns of an ordinary sheet, and for some more. -/
theorem length_letters_le {n : Nat} (h : n ≤ 18278) : (letters n).length ≤ 3 := by
  have hnone : ∀ n ≤ 0, (letters n).length ≤ 0 := by
    intro n hn
    rw [Nat.le_zero.mp hn, letters_zero]
    exact Nat.le_refl _
  exact length_letters_le_succ (length_letters_le_succ (length_letters_le_succ hnone)) n h

end GridFormula.ColumnName
