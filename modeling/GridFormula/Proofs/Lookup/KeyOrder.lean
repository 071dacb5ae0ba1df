import GridFormula.Lookup.Key
import Mathlib.Data.List.Lex
import Mathlib.Data.Sum.Order

/-!
# The order of keys

All keys stand in one line: first the numbers by their size, then the texts, by the first character
in which they differ, then the two truth values. Both zeros are one number, so of two keys of values
that are not the same one stands in front of the other.
-/

namespace GridFormula

/-- The order of texts is that of the lists of their code points. -/
lemma Text.before_iff {s t : Text} :
    Text.before s t = true ↔ s.map Char.toNat < t.map Char.toNat := by
  induction s generalizing t with
  | nil => cases t <;> simp [Text.before]
  | cons a s ih =>
    cases t with
    | nil => simp [Text.before]
    | cons b t => simp [Text.before, List.cons_lt_cons_iff, ih]

namespace LookupKey

/-- The place of a key in the line of all keys. -/
def place : LookupKey → Int ⊕ₗ List Nat ⊕ₗ Bool
  | number x => Sum.inlₗ x.rank
  | text s => Sum.inrₗ (Sum.inlₗ (s.map Char.toNat))
  | bool b => Sum.inrₗ (Sum.inrₗ b)

/-- One key comes before another one if its place is in front of that of the other. -/
theorem before_iff {a b : LookupKey} : a.before b = true ↔ a.place < b.place := by
  cases a <;> cases b
  case bool.bool a b => cases a <;> cases b <;> decide
  all_goals simp [before, place, kindRank, Text.before_iff]

/-- One key does not come before another one if its place is not in front of that of the other. -/
theorem before_eq_false_iff {a b : LookupKey} : a.before b = false ↔ b.place ≤ a.place := by
  rw [← not_lt, ← before_iff, Bool.not_eq_true]

/-- A key in which both zeros are one number. -/
def IsNormal : LookupKey → Prop
  | number x => x.isZero = true → x = .zero
  | _ => True

/-- The key of a value is normal. -/
lemma isNormal_of_key? {fold : Text → Text} {v : Value} {k : LookupKey}
    (h : v.key? fold = some k) : k.IsNormal := by
  cases v with
  | number x =>
    rw [Value.key?] at h
    split at h
    · cases h
    · split at h
      · cases h
        exact fun _ => rfl
      · next hzero =>
        cases h
        exact fun hx => absurd hx hzero
  | text s =>
    cases h
    trivial
  | bool b =>
    cases h
    trivial
  | empty => cases h
  | error e => cases h

/-- Numbers of the same size are the same, zeros apart. -/
lemma eq_of_rank_eq {x y : Binary64} (hx : x.isZero = true → x = .zero)
    (hy : y.isZero = true → y = .zero) (h : x.rank = y.rank) : x = y := by
  obtain ⟨negative, magnitude⟩ := x
  obtain ⟨negative', magnitude'⟩ := y
  have hsize : magnitude = magnitude' := by
    unfold Binary64.rank at h
    dsimp only at h
    split at h <;> split at h <;> omega
  subst hsize
  by_cases hzero : magnitude = 0
  · rw [hx (by simp [Binary64.isZero, hzero]), hy (by simp [Binary64.isZero, hzero])]
  · unfold Binary64.rank at h
    dsimp only at h
    cases negative <;> cases negative' <;> simp at h ⊢ <;> omega

/-- Two keys of values with the same place are the same. -/
theorem eq_of_place_eq {a b : LookupKey} (ha : a.IsNormal) (hb : b.IsNormal)
    (h : a.place = b.place) : a = b := by
  cases a <;> cases b
  case number.number x y => rw [eq_of_rank_eq ha hb (Sum.inl_injective h)]
  case text.text s t =>
    have hmap : s.map Char.toNat = t.map Char.toNat :=
      Sum.inl_injective (Sum.inr_injective h)
    rw [List.map_injective_iff.mpr (fun _ _ => Char.toNat_inj.mp) hmap]
  case bool.bool a b => rw [Sum.inr_injective (Sum.inr_injective h)]
  all_goals cases h

end LookupKey

end GridFormula
