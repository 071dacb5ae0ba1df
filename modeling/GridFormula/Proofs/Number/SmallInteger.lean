import GridFormula.Number.Numeral
import GridFormula.Proofs.Text.Character
import GridFormula.Proofs.Text.Cutting
import Mathlib.Data.Nat.Digits.Defs

/-!
# Small integers are kept

A natural number with fewer than sixteen digits is a number of 64 bits itself: rounding to a
mantissa of 53 bits only moves its binary point. Read back as an integer it is the same number
again.
-/

namespace GridFormula

namespace Binary64

/-- The mantissa of a natural number of up to 53 bits: its leading bit is moved to the front. -/
def leadingMantissa (n : Nat) : Nat :=
  n * twoTo (52 - n.log2)

/-- A number below 2⁵³ has no more than 53 binary digits. -/
lemma log2_le {n : Nat} (hn : n ≠ 0) (hlt : n < twoTo 53) : n.log2 ≤ 52 :=
  Nat.le_of_lt_succ ((Nat.log2_lt hn).mpr hlt)

/-- A power of two with a sum in the exponent is a product. -/
lemma twoTo_add (m n : Nat) : twoTo (m + n) = twoTo m * twoTo n :=
  Nat.pow_add 2 m n

/-- The mantissa of a small number has 53 binary digits. -/
lemma leadingMantissa_spec {n : Nat} (hn : n ≠ 0) (hlt : n < twoTo 53) :
    twoTo 52 ≤ leadingMantissa n ∧ leadingMantissa n < twoTo 53 := by
  have hlog := log2_le hn hlt
  have hlow : twoTo n.log2 ≤ n := Nat.log2_self_le hn
  have hhigh : n < twoTo (n.log2 + 1) := Nat.lt_log2_self
  have hpos : 0 < twoTo (52 - n.log2) := Nat.two_pow_pos _
  constructor
  · calc twoTo 52 = twoTo (n.log2 + (52 - n.log2)) := by rw [Nat.add_sub_cancel' hlog]
      _ = twoTo n.log2 * twoTo (52 - n.log2) := twoTo_add _ _
      _ ≤ leadingMantissa n := Nat.mul_le_mul_right _ hlow
  · calc leadingMantissa n < twoTo (n.log2 + 1) * twoTo (52 - n.log2) :=
          Nat.mul_lt_mul_of_pos_right hhigh hpos
      _ = twoTo (n.log2 + 1 + (52 - n.log2)) := (twoTo_add _ _).symm
      _ = twoTo 53 := by rw [show n.log2 + 1 + (52 - n.log2) = 53 by omega]

/-- A number of up to 53 bits needs no smaller exponent than the one that moves its leading bit to
the front. -/
lemma quotientExponent_one {n : Nat} (hn : n ≠ 0) (hlt : n < twoTo 53) :
    quotientExponent n 1 = (n.log2 : Int) - 52 := by
  have hlog := log2_le hn hlt
  have hguess : (n.log2 : Int) - (Nat.log2 1 : Nat) - 52 = (n.log2 : Int) - 52 := by
    rw [show Nat.log2 1 = 0 by decide]
    omega
  have hdown : (-((n.log2 : Int) - 52)).toNat = 52 - n.log2 := by omega
  have hup : ((n.log2 : Int) - 52).toNat = 0 := by omega
  have hfull : ¬n * twoTo (52 - n.log2) < twoTo 52 * (1 * twoTo 0) :=
    Nat.not_lt.mpr (leadingMantissa_spec hn hlt).1
  rw [quotientExponent, hguess]
  dsimp only
  rw [hdown, hup, if_neg hfull]
  omega

/-- A division by one is not rounded. -/
lemma roundedQuotient_one (n : Nat) : roundedQuotient n 1 = n := by
  simp [roundedQuotient, Nat.mod_one]

/-- The exponent of a number of up to 53 bits stands above the mantissa, whose leading bit adds one.
-/
lemma nearestMagnitude_one {n : Nat} (hn : n ≠ 0) (hlt : n < twoTo 53) :
    nearestMagnitude n 1 = (n.log2 + 1022) * twoTo 52 + leadingMantissa n := by
  have hlog := log2_le hn hlt
  have hdown : (-((n.log2 : Int) - 52)).toNat = 52 - n.log2 := by omega
  have hup : ((n.log2 : Int) - 52).toNat = 0 := by omega
  have hexponent : ((n.log2 : Int) - 52 + 1074).toNat = n.log2 + 1022 := by omega
  have hone : roundedQuotient (n * twoTo (52 - n.log2)) (1 * twoTo 0) = leadingMantissa n :=
    roundedQuotient_one _
  have hfinite : (n.log2 + 1022) * twoTo 52 + leadingMantissa n ≤ infinite := by
    have hmantissa := (leadingMantissa_spec hn hlt).2
    have hdouble : twoTo 53 = 2 * twoTo 52 := rfl
    have hexponent : (n.log2 + 1022) * twoTo 52 ≤ 1074 * twoTo 52 :=
      Nat.mul_le_mul_right _ (by omega)
    unfold infinite
    omega
  rw [nearestMagnitude, if_neg hn, quotientExponent_one hn hlt]
  dsimp only
  rw [hdown, hup, hexponent, hone, Nat.min_eq_right hfinite]

/-- The exponent and the mantissa of a number of up to 53 bits. -/
lemma parts_nearestMagnitude {n : Nat} (hn : n ≠ 0) (hlt : n < twoTo 53) :
    let x : Binary64 := ⟨false, nearestMagnitude n 1⟩
    x.magnitude < infinite ∧ x.exponent = (n.log2 : Int) - 52 ∧ x.mantissa = leadingMantissa n := by
  intro x
  have hlog := log2_le hn hlt
  obtain ⟨hlow, hhigh⟩ := leadingMantissa_spec hn hlt
  have hmagnitude : x.magnitude = (n.log2 + 1022) * twoTo 52 + leadingMantissa n :=
    nearestMagnitude_one hn hlt
  have hbit : twoTo 52 = 4503599627370496 := rfl
  have hbit' : twoTo 53 = 9007199254740992 := rfl
  rw [hbit] at hlow hmagnitude
  rw [hbit'] at hhigh
  have hnormal : ¬x.magnitude < twoTo 52 := by
    rw [hbit]
    omega
  refine ⟨?_, ?_, ?_⟩
  · rw [infinite, hbit]
    omega
  · rw [exponent, if_neg hnormal, hbit]
    omega
  · rw [mantissa, if_neg hnormal, hbit]
    omega

/-- A small natural number is kept. -/
theorem smallInt?_nearestMagnitude {n : Nat} (hlt : n < tenTo 15) :
    smallInt? ⟨false, nearestMagnitude n 1⟩ = some (n : Int) := by
  by_cases hn : n = 0
  · subst hn
    decide +kernel
  · have hbits : n < twoTo 50 := Nat.lt_trans hlt (by decide)
    have hlog : n.log2 < 50 := (Nat.log2_lt hn).mpr hbits
    obtain ⟨hfinite, hexponent, hmantissa⟩ :=
      parts_nearestMagnitude hn (Nat.lt_trans hbits (by decide))
    have hdown : (-((n.log2 : Int) - 52)).toNat = 52 - n.log2 := by omega
    have hmod : leadingMantissa n % twoTo (52 - n.log2) = 0 := Nat.mul_mod_left _ _
    have hdiv : leadingMantissa n / twoTo (52 - n.log2) = n :=
      Nat.mul_div_cancel _ (Nat.two_pow_pos _)
    rw [smallInt?, if_neg (Nat.not_le.mpr hfinite), hexponent, hmantissa, if_neg (by omega)]
    dsimp only
    rw [hdown, if_pos hmod, hdiv]
    dsimp only
    rw [if_pos hlt]
    rfl

/-- A natural number with few digits is no power of ten beyond the finite numbers. -/
lemma ofDecimal_zero {n : Nat} (hlt : n < tenTo 15) :
    ofDecimal false n 0 = ⟨false, nearestMagnitude n 1⟩ := by
  have hlength : (Nat.toDigits 10 n).length ≤ 15 :=
    Nat.toDigits_length 10 n 15 (by decide) hlt
  have hscaled : n * tenTo (0 : Int).toNat = n := Nat.mul_one n
  have hone : tenTo (-0 : Int).toNat = 1 := rfl
  rw [ofDecimal, hscaled, hone]
  by_cases hn : n = 0
  · rw [if_pos (Or.inl hn), nearestMagnitude, if_pos hn]
  · rw [if_neg (by omega), if_neg (by omega)]

end Binary64

namespace Numeral

/-- No special value is called like digits. -/
lemma not_sameLetters {s : Text} (hs : ∀ c ∈ s, c.isDigit = true) {d : Char} {t : Text}
    (hd : d.toLower.isDigit = false) : ¬Text.sameLetters s (d :: t) = true := by
  intro h
  have h : s.map Char.toLower = d.toLower :: t.map Char.toLower := of_decide_eq_true h
  cases s with
  | nil => cases h
  | cons c s =>
    have hc : c.toLower.isDigit = true :=
      Text.forall_ascii (p := fun c => c.isDigit = true → c.toLower.isDigit = true) (by decide)
        (Text.toNat_lt_of_isDigit (hs c List.mem_cons_self)) (hs c List.mem_cons_self)
    rw [(List.cons.inj h).1] at hc
    cases hc.symm.trans hd

/-- Digits are read as the number that they denote. -/
theorem read?_digits {s : Text} (hne : s ≠ []) (hs : ∀ c ∈ s, c.isDigit = true) :
    read? s = some (Binary64.ofDecimal false (Text.toNat s) 0) := by
  have hsign : splitSign s = (false, s) := by
    unfold splitSign
    split
    · exact absurd (hs '+' List.mem_cons_self) (by decide)
    · exact absurd (hs '-' List.mem_cons_self) (by decide)
    · rfl
  have hwhole : s.takeWhile Char.isDigit = s := by
    simpa using Text.takeWhile_append hs (Text.stopsAt_nil _)
  have hrest : s.dropWhile Char.isDigit = [] := by
    simpa using Text.dropWhile_append hs (Text.stopsAt_nil _)
  have hinf : ¬(Text.sameLetters s "inf".toList = true ∨ Text.sameLetters s "infinity".toList = true) :=
    not_or.mpr ⟨not_sameLetters hs (by decide), not_sameLetters hs (by decide)⟩
  have hnan : ¬Text.sameLetters s "nan".toList = true := not_sameLetters hs (by decide)
  rw [read?, hsign]
  dsimp only
  rw [if_neg hinf, if_neg hnan, hwhole, hrest]
  simp [splitFraction, exponent?, hne]

/-- Digits that denote a small number are read as this number. -/
theorem smallInt?_digits {s : Text} (hne : s ≠ []) (hs : ∀ c ∈ s, c.isDigit = true)
    (hlt : Text.toNat s < tenTo 15) :
    (read? s).bind Binary64.smallInt? = some (Text.toNat s : Int) := by
  rw [read?_digits hne hs, Option.bind_some, Binary64.ofDecimal_zero hlt,
    Binary64.smallInt?_nearestMagnitude hlt]

end Numeral

end GridFormula
