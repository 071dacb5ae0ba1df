import GridFormula.Proofs.Lookup.Finding
import GridFormula.Proofs.Lookup.KeyOrder
import Mathlib.Order.Interval.Set.Defs

/-!
# Searching values that ascend

In values that ascend the ones with a given key stand next to each other. Halving finds where they
begin and where they end, and so it finds the first and the last of them, as a search from one end
to the other does. This holds whichever kinds of values there are, and also where no value has the
key or where the value looked for has none.
-/

namespace GridFormula

/-- The border lies behind just the places of the members that satisfy the test. -/
lemma lt_partitionLength_iff {α : Type} {p : α → Bool} {xs : List α} (h : ComesFirst p xs) {n : Nat} :
    n < partitionLength p xs ↔ n ∈ placesOf p xs := by
  obtain ⟨hle, htake, hdrop⟩ := partitionLength_spec h
  rw [mem_placesOf_iff_getElem]
  constructor
  · intro hn
    exact ⟨by omega, htake _ (List.mem_take_iff_getElem.mpr ⟨n, by omega, rfl⟩)⟩
  · rintro ⟨hn, hp⟩
    by_contra hge
    obtain ⟨m, rfl⟩ := Nat.exists_eq_add_of_le (not_lt.mp hge)
    rw [hdrop _ (List.mem_drop_iff_getElem.mpr ⟨m, by omega, rfl⟩)] at hp
    cases hp

/-- The values with a key come first, with their keys in ascending order, and behind them come those
without one. -/
def AscendByKey (fold : Text → Text) (values : List Value) : Prop :=
  ∃ (keys : List LookupKey) (count : Nat),
    values.map (Value.key? fold) = keys.map some ++ List.replicate count none ∧
      keys.Pairwise fun k k' => k'.before k = false

section

variable {fold : Text → Text} {values : List Value} {key : LookupKey}

/-- In front of a value with a key stand only values with keys that do not come after it. -/
lemma AscendByKey.pairwise (h : AscendByKey fold values) :
    values.Pairwise fun v w => ∀ k', w.key? fold = some k' →
      ∃ k, v.key? fold = some k ∧ k'.before k = false := by
  obtain ⟨keys, count, hkeys, hascend⟩ := h
  have hpairwise : (values.map (Value.key? fold)).Pairwise fun a b =>
      ∀ k', b = some k' → ∃ k, a = some k ∧ k'.before k = false := by
    rw [hkeys, List.pairwise_append, List.pairwise_map]
    refine ⟨hascend.imp ?_, List.pairwise_replicate.mpr (Or.inr ?_), ?_⟩
    · rintro k k' hbefore _ ⟨⟩
      exact ⟨k, rfl, hbefore⟩
    · rintro k' ⟨⟩
    · rintro a - b hb k' rfl
      cases List.eq_of_mem_replicate hb
  exact List.pairwise_map.mp hpairwise

/-- A test that a key passes with every key after it is passed by the values in front of a place. -/
lemma AscendByKey.lt_partitionLength_iff (h : AscendByKey fold values) {q : LookupKey → Bool}
    (hq : ∀ k k' : LookupKey, k'.before k = false → q k' = true → q k = true) {n : Nat} :
    n < partitionLength (fun v => (v.key? fold).any q) values ↔
      ∃ v k, values[n]? = some v ∧ v.key? fold = some k ∧ q k = true := by
  have hfirst : ComesFirst (fun v : Value => (v.key? fold).any q) values :=
    h.pairwise.imp fun {v w} hbefore hw => by
      obtain ⟨k', hk', hqk'⟩ := (Option.any_eq_true _ _).mp hw
      obtain ⟨k, hk, hkk'⟩ := hbefore k' hk'
      exact (Option.any_eq_true _ _).mpr ⟨k, hk, hq k k' hkk' hqk'⟩
  rw [GridFormula.lt_partitionLength_iff hfirst]
  constructor
  · rintro ⟨v, hv, hany⟩
    obtain ⟨k, hk, hqk⟩ := (Option.any_eq_true _ _).mp hany
    exact ⟨v, k, hv, hk, hqk⟩
  · rintro ⟨v, k, hv, hk, hqk⟩
    exact ⟨v, hv, (Option.any_eq_true _ _).mpr ⟨k, hk, hqk⟩⟩

/-- Where the values with a key begin. -/
def beginOf (fold : Text → Text) (key : LookupKey) (values : List Value) : Nat :=
  partitionLength (fun v => (v.key? fold).any fun k => k.before key) values

/-- Where the values with a key end. -/
def endOf (fold : Text → Text) (key : LookupKey) (values : List Value) : Nat :=
  partitionLength (fun v => (v.key? fold).any fun k => !key.before k) values

/-- In front of where the values with a key begin are those with a smaller one. -/
lemma lt_beginOf_iff (h : AscendByKey fold values) {n : Nat} :
    n < beginOf fold key values ↔
      ∃ v k, values[n]? = some v ∧ v.key? fold = some k ∧ k.place < key.place := by
  simp only [← LookupKey.before_iff]
  refine h.lt_partitionLength_iff fun k k' hkk' hk' => ?_
  rw [LookupKey.before_iff] at hk' ⊢
  exact (LookupKey.before_eq_false_iff.mp hkk').trans_lt hk'

/-- In front of where the values with a key end are those with no greater one. -/
lemma lt_endOf_iff (h : AscendByKey fold values) {n : Nat} :
    n < endOf fold key values ↔
      ∃ v k, values[n]? = some v ∧ v.key? fold = some k ∧ k.place ≤ key.place := by
  simp only [← LookupKey.before_eq_false_iff, ← Bool.not_eq_true']
  refine h.lt_partitionLength_iff fun k k' hkk' hk' => ?_
  rw [Bool.not_eq_true', LookupKey.before_eq_false_iff] at *
  exact hkk'.trans hk'

/-- The values with a key do not end before they begin. -/
lemma beginOf_le_endOf (h : AscendByKey fold values) :
    beginOf fold key values ≤ endOf fold key values := by
  by_contra hlt
  obtain ⟨v, k, hv, hk, hplace⟩ := (lt_beginOf_iff h).mp (not_le.mp hlt)
  exact lt_irrefl _ ((lt_endOf_iff h).mpr ⟨v, k, hv, hk, hplace.le⟩)

/-- The values with a key stand between its two borders. -/
lemma placesOf_key (h : AscendByKey fold values) (hkey : key.IsNormal) :
    placesOf (fun v : Value => v.key? fold = some key) values =
      Set.Ico (beginOf fold key values) (endOf fold key values) := by
  ext n
  rw [Set.mem_Ico, ← not_lt, lt_beginOf_iff h, lt_endOf_iff h]
  constructor
  · rintro ⟨v, hv, hk⟩
    have hk : v.key? fold = some key := of_decide_eq_true hk
    refine ⟨?_, v, key, hv, hk, le_rfl⟩
    rintro ⟨w, k, hw, hk', hlt⟩
    cases hv.symm.trans hw
    cases hk.symm.trans hk'
    exact lt_irrefl _ hlt
  · rintro ⟨hbegin, v, k, hv, hk, hle⟩
    have hge : key.place ≤ k.place := not_lt.mp fun hlt => hbegin ⟨v, k, hv, hk, hlt⟩
    have hsame := LookupKey.eq_of_place_eq (LookupKey.isNormal_of_key? hk) hkey (le_antisymm hle hge)
    exact ⟨v, hv, decide_eq_true (hsame ▸ hk)⟩

/-- In values that ascend, halving finds what a search from one end to the other finds. -/
lemma searchSorted_eq_searchAll (h : AscendByKey fold values) (hkey : key.IsNormal) (o : Occurrence) :
    searchSorted fold key values o = searchAll fold key values o := by
  have hplaces := placesOf_key h hkey
  have hle : beginOf fold key values ≤ endOf fold key values := beginOf_le_endOf h
  ext n
  -- The values with the key are those from `beginOf` up to `endOf`. What is found, with either
  -- search, is the first or the last of them.
  cases o with
  | first =>
    have hsorted : searchSorted fold key values .first =
        if beginOf fold key values = endOf fold key values then none
        else some (beginOf fold key values) := rfl
    rw [hsorted, searchAll, findIdx?_eq_some_iff_isLeast, hplaces]
    split
    · next hnone =>
      rw [hnone, Set.Ico_self]
      simp [IsLeast]
    · next hne =>
      have hleast := isLeast_Ico (hle.lt_of_ne hne)
      rw [Option.some_inj]
      exact ⟨fun hn => hn ▸ hleast, hleast.unique⟩
  | last =>
    have hsorted : searchSorted fold key values .last =
        if beginOf fold key values = endOf fold key values then none
        else some (endOf fold key values - 1) := rfl
    rw [hsorted, searchAll, lastIndex?_eq_some_iff_isGreatest, hplaces]
    split
    · next hnone =>
      rw [hnone, Set.Ico_self]
      simp [IsGreatest]
    · next hne =>
      have hgreatest : IsGreatest (Set.Ico (beginOf fold key values) (endOf fold key values))
          (endOf fold key values - 1) :=
        ⟨Set.mem_Ico.mpr ⟨by omega, by omega⟩, fun m hm => by have := (Set.mem_Ico.mp hm).2; omega⟩
      rw [Option.some_inj]
      exact ⟨fun hn => hn ▸ hgreatest, hgreatest.unique⟩

end

/-- If the values with a key ascend and come before all others, then a search by halving finds what
a search from one end to the other finds, for the first as for the last of several values. -/
theorem searchValues_ascending {fold : Text → Text} {values : List Value} (h : AscendByKey fold values)
    (value : Value) (o : Occurrence) :
    searchValues fold value values ⟨true, o⟩ = searchValues fold value values ⟨false, o⟩ := by
  unfold searchValues
  cases hkey : value.key? fold with
  | none => rfl
  | some key => exact searchSorted_eq_searchAll h (LookupKey.isNormal_of_key? hkey) o

/-- A text is found that stands twice among numbers, texts and truth values. -/
theorem searchValues_ascending_text :
    let fold := Collation.fold ⟨true, true⟩
    let values : List Value := [.number ⟨true, 5⟩, .number ⟨true, 0⟩, .number .zero,
      .text "apfel".toList, .text "birne".toList, .text "birne".toList, .bool true, .empty, .empty]
    AscendByKey fold values ∧
      searchValues fold (.text "birne".toList) values ⟨true, .last⟩ = some 5 ∧
      searchValues fold (.text "birne".toList) values ⟨false, .last⟩ = some 5 := by
  intro fold values
  have hascend : AscendByKey fold values :=
    ⟨values.filterMap (Value.key? fold), 2, by decide +kernel, by decide +kernel⟩
  have hfound : searchValues fold (.text "birne".toList) values ⟨false, .last⟩ = some 5 := by
    decide +kernel
  exact ⟨hascend, (searchValues_ascending hascend _ _).trans hfound, hfound⟩

end GridFormula
