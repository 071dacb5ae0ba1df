import GridFormula.Formula.Site

/-!
# What becomes of a written area

Two written ends make an area if they agree on a sheet that exists and both lie on it. Otherwise
there is a reason why not, which the text of the area keeps; only if just the last end names a
sheet is there nothing at all. Cells and lines do not differ in this.
-/

namespace GridFormula

namespace Site

variable {α : Type}

/-- What becomes of a written area, for each reason. -/
inductive AreaReads (site : Site) (s t : Option Text) (first? last? : Option SheetId → Option α)
    (area : α → α → Qualification → Atom) (raw : Text) : Atom → Prop where
  /-- A sheet does not exist, or the ends lie on different sheets. -/
  | lost :
    EndSheets.compare (site.writtenSheet s) (site.writtenSheet t) = .lost →
      AreaReads site s t first? last? area raw (.unreadable raw .lostReference)
  /-- Both ends lie on the sheet that they agree on. -/
  | found {sheet : Option SheetId} {q : Qualification} {a b : α} :
    EndSheets.compare (site.writtenSheet s) (site.writtenSheet t) = .agreed sheet q →
      first? sheet = some a → last? sheet = some b →
        AreaReads site s t first? last? area raw (area a b q)
  /-- One of the ends is not on that sheet. -/
  | beyond {sheet : Option SheetId} {q : Qualification} :
    EndSheets.compare (site.writtenSheet s) (site.writtenSheet t) = .agreed sheet q →
      first? sheet = none ∨ last? sheet = none →
        AreaReads site s t first? last? area raw (.unreadable raw .unknownName)

variable {site : Site} {s t : Option Text} {first? last? : Option SheetId → Option α}
  {area : α → α → Qualification → Atom} {raw : Text} {atom : Atom}

/-- A written area is read as what becomes of it. -/
theorem area?_eq_some_iff : site.area? s t first? last? area raw = some atom ↔
    site.AreaReads s t first? last? area raw atom := by
  unfold area?
  constructor
  · intro h
    split at h
    · cases h
    · next hcompare =>
      cases h
      exact .lost hcompare
    · next sheet q hcompare =>
      split at h
      · next ha hb =>
        cases h
        exact .found hcompare ha hb
      · next hnone =>
        cases h
        refine .beyond hcompare ?_
        cases ha : first? sheet with
        | none => exact Or.inl rfl
        | some a => exact Or.inr (Option.eq_none_iff_forall_ne_some.mpr fun b hb => hnone a b ha hb)
  · rintro (hcompare | ⟨hcompare, ha, hb⟩ | ⟨hcompare, ha | hb⟩)
    · rw [hcompare]
    · rw [hcompare]
      dsimp only
      rw [ha, hb]
    · rw [hcompare]
      dsimp only
      rw [ha]
    · rw [hcompare]
      dsimp only
      rw [hb]
      split
      · next hsome => cases hsome
      · rfl

/-- Nothing becomes of it only if just the last end names a sheet. -/
theorem area?_eq_none_iff : site.area? s t first? last? area raw = none ↔
    EndSheets.compare (site.writtenSheet s) (site.writtenSheet t) = .lastOnly := by
  unfold area?
  split
  · next h => simp [h]
  · next h => simp [h]
  · next h =>
    rw [h]
    split <;> simp

end Site

end GridFormula
