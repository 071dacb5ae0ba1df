import GridFormula.Proofs.Lookup.Running

/-!
# Finding a value by the index

For a range of one column the index finds a value without looking at the values of the range. What
it finds is what a search through the values finds, provided that the index is right about the
range: in each row of it, the index has the value exactly if the value there has the same key. Rows
outside of the range may have anything. The place in the range must fit in 32 bits.
-/

namespace GridFormula

/-! ## The search through the values -/

section

variable {α : Type} {p : α → Bool} {xs : List α} {n : Nat}

/-- The places of the members with a property. -/
def placesOf (p : α → Bool) (xs : List α) : Set Nat :=
  {n | ∃ x, xs[n]? = some x ∧ p x = true}

/-- A place of members with a property is one in the list. -/
lemma mem_placesOf_iff_getElem : n ∈ placesOf p xs ↔ ∃ h : n < xs.length, p xs[n] = true := by
  constructor
  · rintro ⟨x, hx, hp⟩
    obtain ⟨hn, rfl⟩ := List.getElem?_eq_some_iff.mp hx
    exact ⟨hn, hp⟩
  · rintro ⟨hn, hp⟩
    exact ⟨xs[n], List.getElem?_eq_getElem hn, hp⟩

/-- The first place is found from the front. -/
lemma findIdx?_eq_some_iff_isLeast : xs.findIdx? p = some n ↔ IsLeast (placesOf p xs) n := by
  rw [List.findIdx?_eq_some_iff_getElem]
  constructor
  · rintro ⟨hn, hp, hfront⟩
    refine ⟨mem_placesOf_iff_getElem.mpr ⟨hn, hp⟩, fun m hm => ?_⟩
    obtain ⟨hm, hpm⟩ := mem_placesOf_iff_getElem.mp hm
    by_contra hlt
    exact hfront m (not_le.mp hlt) hpm
  · rintro ⟨hmem, hleast⟩
    obtain ⟨hn, hp⟩ := mem_placesOf_iff_getElem.mp hmem
    refine ⟨hn, hp, fun m hm hpm => ?_⟩
    exact (hleast (mem_placesOf_iff_getElem.mpr ⟨hm.trans hn, hpm⟩)).not_gt hm

/-- The places of a list and those of the list read backwards are mirror images. -/
lemma mem_placesOf_reverse (hn : n < xs.length) :
    xs.length - 1 - n ∈ placesOf p xs.reverse ↔ n ∈ placesOf p xs := by
  have hmirror : xs.length - 1 - (xs.length - 1 - n) = n := by omega
  have hback : xs.reverse[xs.length - 1 - n]? = xs[n]? := by
    rw [List.getElem?_reverse (by omega), hmirror]
  exact exists_congr fun x => by rw [hback]

/-- The last place is found from the back. -/
lemma lastIndex?_eq_some_iff_isGreatest :
    lastIndex? p xs = some n ↔ IsGreatest (placesOf p xs) n := by
  have hlt {ys : List α} {m : Nat} (hm : m ∈ placesOf p ys) : m < ys.length :=
    (mem_placesOf_iff_getElem.mp hm).1
  rw [lastIndex?, Option.map_eq_some_iff]
  constructor
  · rintro ⟨m, hm, rfl⟩
    obtain ⟨hmem, hleast⟩ := findIdx?_eq_some_iff_isLeast.mp hm
    have hm := List.length_reverse ▸ hlt hmem
    refine ⟨?_, fun k hk => ?_⟩
    · rw [← mem_placesOf_reverse (by omega), show xs.length - 1 - (xs.length - 1 - m) = m by omega]
      exact hmem
    · have hle := hleast ((mem_placesOf_reverse (hlt hk)).mpr hk)
      have hk := hlt hk
      omega
  · rintro ⟨hmem, hgreatest⟩
    have hn := hlt hmem
    refine ⟨xs.length - 1 - n, findIdx?_eq_some_iff_isLeast.mpr
      ⟨(mem_placesOf_reverse hn).mpr hmem, fun m hm => ?_⟩, by omega⟩
    have hm' := List.length_reverse ▸ hlt hm
    have hle := hgreatest ((mem_placesOf_reverse (n := xs.length - 1 - m) (by omega)).mp (by
      rwa [show xs.length - 1 - (xs.length - 1 - m) = m by omega]))
    omega

end

/-! ## The search through the index -/

namespace ColumnIndex

variable {rows : List Int} {first last row : Int}

section

variable {fold : Text → Text} {key : LookupKey} {values : List Value} {o : Occurrence}
variable (hsorted : rows.SortedLT) (hlength : (values.length : Int) = last - first + 1)
variable (hkeys : ∀ n (hn : n < values.length),
  first + n ∈ rows ↔ values[n].key? fold = some key)

end

variable {fold : Text → Text} {i : ColumnIndex fold} {h : History} {value : Value}

end ColumnIndex

end GridFormula
