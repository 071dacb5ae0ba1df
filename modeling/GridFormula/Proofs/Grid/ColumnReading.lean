import GridFormula.Proofs.Grid.ColumnName
import Mathlib

/-!
# Columns and their names correspond

The name of a column is read byte by byte, and after each byte what has been read so far is letters
and denotes a number that is not too great. The number only grows, so a name is read to its end
unless the number that the whole name denotes is too great. Each column that an address can hold is
found under its own name and under no other one but for case.
-/

namespace GridFormula.ColumnName

variable {s : Text} {n m : Nat} {column : Int}

/-! ## Letters as digits -/

/-- The last letter of a name is the lowest digit of its number in base 26. -/
lemma value_eq_ofDigits (s : Text) : value s = Nat.ofDigits 26 (s.map digit).reverse := by
  induction s using List.reverseRecOn with
  | nil => rfl
  | append_singleton s c ih =>
    rw [value_concat, ih, List.map_append, List.map_singleton, List.reverse_append,
      List.reverse_singleton, List.singleton_append, Nat.ofDigits_cons, Nat.add_comm]

/-! ## Reading byte by byte -/

/-- A number passes the check if it fits, and is kept. -/
lemma checked?_eq_some_iff : checked? n = some m ↔ n = m ∧ m ≤ greatestCoordinate := by
  rw [checked?, Option.ite_none_right_eq_some, Option.some.injEq, and_comm]
  exact and_congr_right fun h => h ▸ Iff.rfl

/-- Of the product and the sum only the sum needs to be looked at, which is not the smaller one. -/
lemma append?_eq_some_iff {b : UInt8} :
    append? n b = some m ↔
      (Char.ofUInt8 b).isAlpha = true ∧ 26 * n + digit (Char.ofUInt8 b) = m ∧
        m ≤ greatestCoordinate := by
  simp only [append?, Option.ite_none_right_eq_some, Option.bind_eq_bind, Option.bind_eq_some_iff,
    checked?_eq_some_iff]
  refine and_congr_right fun _ => ⟨?_, fun h => ?_⟩
  · rintro ⟨_, ⟨rfl, -⟩, h⟩
    exact h
  · exact ⟨26 * n, ⟨rfl, by omega⟩, h⟩

/-- Bytes are read to their end if they are letters and denote a number that is not too great. -/
theorem foldlM_append?_eq_some_iff {bs : List UInt8} :
    bs.foldlM append? 0 = some n ↔
      (∀ b ∈ bs, (Char.ofUInt8 b).isAlpha = true) ∧ value (bs.map Char.ofUInt8) = n ∧
        n ≤ greatestCoordinate := by
  -- The last byte is taken off. If the number with it is not too great, neither is the one before it.
  induction bs using List.reverseRecOn generalizing n with
  | nil =>
    rw [List.foldlM_nil, Option.pure_def, Option.some.injEq, List.map_nil, value_nil]
    exact ⟨fun h => ⟨nofun, h, h ▸ Nat.zero_le _⟩, fun h => h.2.1⟩
  | append_singleton bs b ih =>
    simp only [List.foldlM_append, List.foldlM_cons, List.foldlM_nil, bind_pure]
    simp only [Option.bind_eq_bind, Option.bind_eq_some_iff, ih, append?_eq_some_iff,
      List.forall_mem_append, List.forall_mem_singleton, List.map_append, List.map_singleton,
      value_concat]
    constructor
    · rintro ⟨m, ⟨hbs, rfl, -⟩, hb, h⟩
      exact ⟨⟨hbs, hb⟩, h⟩
    · rintro ⟨⟨hbs, hb⟩, hvalue, hle⟩
      exact ⟨_, ⟨hbs, rfl, by omega⟩, hb, hvalue, hle⟩

/-- A text is the name of a column if it is letters and denotes a number that is not too great. -/
theorem index?_eq_some_iff_value :
    index? s = some column ↔
      s ≠ [] ∧ (∀ c ∈ s, c.isAlpha = true) ∧ value s ≤ greatestCoordinate ∧
        (value s : Int) - 1 = column := by
  simp only [index?, Option.ite_none_left_eq_some, Option.map_eq_some_iff,
    foldlM_append?_eq_some_iff, Text.forall_mem_bytes_isAlpha_iff]
  refine and_congr_right fun _ => ⟨?_, ?_⟩
  · rintro ⟨_, ⟨hs, rfl, hle⟩, hcolumn⟩
    rw [Text.map_ofUInt8_bytes hs] at hle hcolumn
    exact ⟨hs, hle, hcolumn⟩
  · rintro ⟨hs, hle, hcolumn⟩
    exact ⟨value s, ⟨hs, by rw [Text.map_ofUInt8_bytes hs], hle⟩, hcolumn⟩

/-! ## Names and columns -/

/-- The name of a column is made of the letters of its number, counted from one. -/
lemma ofIndex_of_nonneg (h : 0 ≤ column) : ofIndex column = letters (column.toNat + 1) :=
  if_neg (Int.not_lt.mpr h)

/-- A column is found under its name. -/
lemma index?_ofIndex_iff :
    index? (ofIndex column) = some column ↔ 0 ≤ column ∧ column < greatestCoordinate := by
  rw [index?_eq_some_iff_value]
  by_cases h : 0 ≤ column
  · rw [ofIndex_of_nonneg h, value_letters]
    constructor
    · rintro ⟨-, -, hle, -⟩
      omega
    · rintro ⟨-, hlt⟩
      exact ⟨letters_ne_nil _, isAlpha_of_mem_letters, by omega, by omega⟩
  · exact iff_of_false (fun hname => hname.1 (if_pos (Int.not_le.mp h))) fun hlt => h hlt.1

/-- A text is the name of a column if in upper case it is the name that the column is given. -/
lemma index?_eq_some_iff_ofIndex :
    index? s = some column ↔
      0 ≤ column ∧ column < greatestCoordinate ∧ ofIndex column = s.map Char.toUpper := by
  rw [index?_eq_some_iff_value]
  constructor
  · rintro ⟨hne, hs, hle, rfl⟩
    have hpos : value s ≠ 0 := value_ne_zero hs hne
    have hsucc : ((value s : Int) - 1).toNat + 1 = value s := by omega
    refine ⟨by omega, by omega, ?_⟩
    rw [ofIndex_of_nonneg (by omega), hsucc, letters_value hs]
  · rintro ⟨hnonneg, hlt, hname⟩
    rw [ofIndex_of_nonneg hnonneg] at hname
    have hs : ∀ c ∈ s, c.isAlpha = true := by
      intro c hc
      rw [← Char.isAlpha_toUpper_eq_isAlpha]
      exact isAlpha_of_mem_letters _ (hname ▸ List.mem_map_of_mem hc)
    have hvalue : value s = column.toNat + 1 := by
      rw [← value_letters (value s), letters_value hs, ← hname, value_letters]
    have hne : s ≠ [] := by
      rintro rfl
      exact letters_ne_nil _ hname
    exact ⟨hne, hs, by omega, by omega⟩

/-- A text is no column if it is empty, has something else than letters, or is too great. -/
lemma index?_eq_none_iff_value :
    index? s = none ↔
      s = [] ∨ ¬ (∀ c ∈ s, c.isAlpha = true) ∨ greatestCoordinate < value s := by
  rw [Option.eq_none_iff_forall_ne_some]
  simp only [ne_eq, index?_eq_some_iff_value]
  constructor
  · intro h
    by_contra hne
    push Not at hne
    exact h _ ⟨hne.1, hne.2.1, hne.2.2, rfl⟩
  · rintro h column ⟨hne, hs, hle, -⟩
    rcases h with h | h | h
    · exact hne h
    · exact h hs
    · exact Nat.not_lt.mpr hle h

/-- The columns that an address can hold and their names correspond: such a column, and no other
one, is found under the name it is given, and it is found under no other name than this one in
letters of any case. The texts that are no names are the empty one, those with a byte that is no
letter and those whose letters, as digits from one to twenty-six, denote a number in base 26 that is
too great. -/
theorem index?_inverts_ofIndex (s : Text) (column : Int) :
    (index? (ofIndex column) = some column ↔ 0 ≤ column ∧ column < greatestCoordinate) ∧
    (index? s = some column ↔
      0 ≤ column ∧ column < greatestCoordinate ∧ ofIndex column = s.map Char.toUpper) ∧
    (index? s = none ↔
      s = [] ∨ (∃ b ∈ s.bytes, (Char.ofUInt8 b).isAlpha = false) ∨
        greatestCoordinate < Nat.ofDigits 26 (s.map digit).reverse) := by
  refine ⟨index?_ofIndex_iff, index?_eq_some_iff_ofIndex, ?_⟩
  rw [index?_eq_none_iff_value, ← Text.forall_mem_bytes_isAlpha_iff, value_eq_ofDigits]
  simp only [not_forall, Bool.not_eq_true, exists_prop]

/-- The last column is found under its name in small letters. The name that would follow is none. -/
example : ofIndex 2147483646 = "FXSHRXW".toList ∧
    index? "fxshrxw".toList = some 2147483646 ∧ index? "FXSHRXX".toList = none := by
  decide +kernel

end GridFormula.ColumnName
