import GridFormula.Proofs.Edit.Coherence

/-!
# Where an edit puts the ends of an area

Inserting or removing rows or columns changes at most one stored number of each end of an area. So
an end is known as soon as it is known on which line it is afterwards, as seen from the new place of
the formula. When lines are inserted, every end follows its line. When lines are removed, an end
that would lose its line is first put on the nearest line of the area that stays, and follows that.
-/

namespace GridFormula

/-- Two moves of a coordinate are one. -/
lemma Coord.shift_shift (c : Coord) (m n : Int) : (c.shift m).shift n = c.shift (m + n) := by
  simp only [shift, Int.add_assoc]

/-! ## One end -/

namespace Grip

variable {α : Type} [Qualified α] {g : Grip α} {r s t : α} {origin i : Int}

/-- The index of the line that the reference means in a formula at index `origin`. -/
def index (g : Grip α) (r : α) (origin : Int) : Int :=
  (g.coord r).resolve origin

/-- The reference `s` is `r` with another stored number, and means the line `i` in a formula at
index `origin`. -/
structure Repoints (g : Grip α) (r s : α) (origin i : Int) : Prop where
  eq_shift : ∃ n, s = g.shift r n
  index_eq : g.index s origin = i

section

variable (hg : g.IsLawful)

include hg

/-- Moving a reference moves its coordinate. -/
lemma IsLawful.coord_shift (r : α) (n : Int) : g.coord (g.shift r n) = (g.coord r).shift n :=
  hg.coord_withCoord r _

/-- Two moves of a reference are one. -/
lemma IsLawful.shift_shift (r : α) (m n : Int) : g.shift (g.shift r m) n = g.shift r (m + n) := by
  have hcoord : (g.coord (g.shift r m)).shift n = (g.coord r).shift (m + n) := by
    rw [hg.coord_shift, Coord.shift_shift]
  unfold shift at hcoord ⊢
  rw [hcoord, hg.withCoord_withCoord]

/-- Moving a reference moves the line that it means. -/
lemma IsLawful.index_shift (r : α) (n origin : Int) :
    g.index (g.shift r n) origin = g.index r origin + n := by
  unfold index
  rw [hg.coord_shift, Coord.resolve_shift]

/-- Every shift is known by the line that it leads to. -/
lemma IsLawful.repoints_shift (r : α) (origin i : Int) :
    g.Repoints r (g.shift r (i - g.index r origin)) origin i := by
  refine ⟨⟨_, rfl⟩, ?_⟩
  rw [hg.index_shift]
  omega

/-- A reference that stays points to the line that it means. -/
lemma IsLawful.repoints_self (r : α) (origin : Int) : g.Repoints r r origin (g.index r origin) :=
  ⟨⟨0, (hg.shift_zero r).symm⟩, rfl⟩

/-- What is given another line twice is given the second one. -/
lemma Repoints.trans {o : Int} {j : Int} (h : g.Repoints r s origin i) (h' : g.Repoints s t o j) :
    g.Repoints r t o j := by
  obtain ⟨m, rfl⟩ := h.eq_shift
  obtain ⟨n, rfl⟩ := h'.eq_shift
  exact ⟨⟨m + n, hg.shift_shift r m n⟩, h'.index_eq⟩

/-- A reference that means the old line from the old place is the old one. -/
lemma Repoints.eq_self (h : g.Repoints r s origin (g.index r origin)) : s = r := by
  obtain ⟨n, rfl⟩ := h.eq_shift
  have hindex := h.index_eq
  rw [hg.index_shift] at hindex
  have hn : n = 0 := by omega
  rw [hn, hg.shift_zero]

/-- Giving a reference another line keeps its anchor. -/
lemma Repoints.anchor_eq (h : g.Repoints r s origin i) :
    (g.coord s).anchor = (g.coord r).anchor := by
  obtain ⟨n, rfl⟩ := h.eq_shift
  rw [hg.coord_shift, Coord.anchor_shift]

/-- Giving a reference another line keeps its sheet. -/
lemma Repoints.sheet_eq (h : g.Repoints r s origin i) : Qualified.sheet s = Qualified.sheet r := by
  obtain ⟨n, rfl⟩ := h.eq_shift
  exact hg.keepsSheet r _

/-- A reference that follows a target points to it from the new place of the formula. -/
lemma IsLawful.repoints_follow (r : α) (m n origin : Int) :
    g.Repoints r ((g.follow r m n).getD r) (origin + n) (g.index r origin + m) := by
  rw [hg.getD_follow]
  refine ⟨⟨_, rfl⟩, ?_⟩
  unfold index
  rw [hg.coord_shift]
  exact resolve_shift_follow (g.coord r) m n origin

end

end Grip

/-! ## Both ends -/

namespace Area

variable {α : Type} [Qualified α] {g : Grip α} {r s t : Area α} {origin i j : Int}

/-- The area `s` is `r` with another stored number in each end, and goes from the line `i` to the
line `j` in a formula at index `origin`. -/
structure Resized (g : Grip α) (r s : Area α) (origin i j : Int) : Prop where
  first : g.Repoints r.first s.first origin i
  last : g.Repoints r.last s.last origin j
  qualification : s.qualification = r.qualification

/-- What is given other lines twice is given the second ones. -/
lemma Resized.trans (hg : g.IsLawful) {o k l : Int} (h : Resized g r s origin i j)
    (h' : Resized g s t o k l) : Resized g r t o k l where
  first := h.first.trans hg h'.first
  last := h.last.trans hg h'.last
  qualification := h'.qualification.trans h.qualification

/-- An area that is given the lines of its own ends stays as it is. -/
lemma Resized.eq_self (hg : g.IsLawful)
    (h : Resized g r s origin (g.index r.first origin) (g.index r.last origin)) : s = r :=
  Area.ext (h.first.eq_self hg) (h.last.eq_self hg) h.qualification

/-- Giving an area other lines keeps the sheet that it is on. -/
lemma Resized.resolvedSheet_eq (hg : g.IsLawful) (h : Resized g r s origin i j)
    (home : SheetId) : s.resolvedSheet home = r.resolvedSheet home :=
  congrArg (Option.getD · home) (h.first.sheet_eq hg)

end Area

/-! ## Lines that are inserted or removed -/

namespace Band

/-- The index that a line has when the lines of the band have been inserted. -/
def afterInsertion (b : Band) (sheet : SheetId) (i : Int) : Int :=
  i + b.insertionShift sheet i

/-- The index that a line has when the lines of the band have been removed. -/
def afterRemoval (b : Band) (sheet : SheetId) (i : Int) : Int :=
  i + b.removalShift sheet i

/-- The line `i` or, if it is removed, the line `k` in its place. -/
def keptOr (b : Band) (sheet : SheetId) (i k : Int) : Int :=
  if sheet = b.sheet ∧ i ∈ b then k else i

/-- All lines from `i` to `j` are removed. -/
def Covers (b : Band) (sheet : SheetId) (i j : Int) : Prop :=
  sheet = b.sheet ∧ b.start ≤ i ∧ j ≤ b.last

/-- Along its axis an insertion moves a cell with its line. -/
lemma along_place_insertion (b : Band) (axis : Axis) (c : Cell) :
    ((b.insertion axis).place c).along axis = b.afterInsertion c.sheet (c.along axis) :=
  c.along_shift axis _

/-- Along its axis a removal moves a cell with its line. -/
lemma along_place_removal (b : Band) (axis : Axis) (c : Cell) :
    ((b.removal axis).place c).along axis = b.afterRemoval c.sheet (c.along axis) :=
  c.along_shift axis _

/-- A line that is put in the place of a removed one must not be removed itself. -/
lemma keptOr_stays {b : Band} {k : Int} (hk : k ∉ b) (sheet : SheetId) (i : Int) :
    ¬(sheet = b.sheet ∧ b.keptOr sheet i k ∈ b) := by
  unfold keptOr
  split
  · exact fun h => hk h.2
  · next hout => exact hout

/-- A line outside of the band is kept. -/
lemma keptOr_eq_self {b : Band} {sheet : SheetId} {i : Int} (h : ¬(sheet = b.sheet ∧ i ∈ b))
    (k : Int) : b.keptOr sheet i k = i :=
  if_neg h

/-- The line behind the band is not in it. -/
lemma last_add_one_not_mem (b : Band) : b.last + 1 ∉ b := by
  rw [mem_iff]
  omega

/-- The line in front of the band is not in it. -/
lemma start_sub_one_not_mem (b : Band) : b.start - 1 ∉ b := by
  rw [mem_iff]
  omega

/-- If a line from `i` to `j` stays, the line that `i` is replaced by is one of these. -/
lemma le_keptOr_first {b : Band} {sheet : SheetId} {i j : Int} (hij : i ≤ j)
    (h : ¬b.Covers sheet i j) :
    i ≤ b.keptOr sheet i (b.last + 1) ∧ b.keptOr sheet i (b.last + 1) ≤ j := by
  unfold keptOr
  split
  · next hin =>
    obtain ⟨hs, hmem⟩ := hin
    rw [mem_iff] at hmem
    have hj : ¬j ≤ b.last := fun hle => h ⟨hs, hmem.1, hle⟩
    omega
  · exact ⟨Int.le_refl i, hij⟩

/-- If a line from `i` to `j` stays, the line that `j` is replaced by is one of these. -/
lemma keptOr_last_le {b : Band} {sheet : SheetId} {i j : Int} (hij : i ≤ j)
    (h : ¬b.Covers sheet i j) :
    i ≤ b.keptOr sheet j (b.start - 1) ∧ b.keptOr sheet j (b.start - 1) ≤ j := by
  unfold keptOr
  split
  · next hin =>
    obtain ⟨hs, hmem⟩ := hin
    rw [mem_iff] at hmem
    have hi : ¬b.start ≤ i := fun hle => h ⟨hs, hle, hmem.2⟩
    omega
  · exact ⟨hij, Int.le_refl j⟩

/-- No line that stays comes before the one that the first line is replaced by. -/
lemma keptOr_first_le {b : Band} {sheet : SheetId} {i k : Int} (hik : i ≤ k)
    (hk : ¬(sheet = b.sheet ∧ k ∈ b)) : b.keptOr sheet i (b.last + 1) ≤ k := by
  unfold keptOr
  split
  · next hin =>
    obtain ⟨hs, hmem⟩ := hin
    have hk' : ¬k ∈ b := fun hmem => hk ⟨hs, hmem⟩
    rw [mem_iff] at hmem hk'
    omega
  · exact hik

/-- No line that stays comes behind the one that the last line is replaced by. -/
lemma le_keptOr_last {b : Band} {sheet : SheetId} {j k : Int} (hkj : k ≤ j)
    (hk : ¬(sheet = b.sheet ∧ k ∈ b)) : k ≤ b.keptOr sheet j (b.start - 1) := by
  unfold keptOr
  split
  · next hin =>
    obtain ⟨hs, hmem⟩ := hin
    have hk' : ¬k ∈ b := fun hmem => hk ⟨hs, hmem⟩
    rw [mem_iff] at hmem hk'
    omega
  · exact hkj

/-- Lines stay in order when others are inserted. -/
lemma afterInsertion_le_afterInsertion {b : Band} (hb : 0 ≤ b.count) (sheet : SheetId) {i j : Int}
    (hij : i ≤ j) : b.afterInsertion sheet i ≤ b.afterInsertion sheet j := by
  unfold afterInsertion insertionShift
  by_cases hs : sheet = b.sheet
  · simp only [hs, true_and]
    split <;> split <;> omega
  · simp only [hs, false_and, if_false]
    omega

/-- Lines that stay are in order when others have been removed. -/
lemma afterRemoval_le_afterRemoval {b : Band} {sheet : SheetId} {i j : Int} (hij : i ≤ j)
    (hj : ¬(sheet = b.sheet ∧ j ∈ b)) : b.afterRemoval sheet i ≤ b.afterRemoval sheet j := by
  unfold afterRemoval removalShift
  by_cases hs : sheet = b.sheet
  · rw [mem_iff, last] at hj
    simp only [hs, true_and] at hj ⊢
    split <;> split <;> omega
  · simp only [hs, false_and, if_false]
    omega

section

variable {α : Type} [Qualified α] {g : Grip α} (b : Band) (axis : Axis)

/-- An insertion does not lose an area. -/
lemma insertArea_ne_lost (r : Area α) (formula : Cell) : b.insertArea axis g r formula ≠ .lost := by
  unfold insertArea
  split <;> simp

/-- An insertion moves the ends of an area one by one. -/
lemma getD_insertArea (r : Area α) (formula : Cell) :
    (b.insertArea axis g r formula).getD r =
      r.withEnds ((b.insertReference axis g r.first formula).getD r.first)
        ((b.insertReference axis g r.last formula).getD r.last) := by
  unfold insertArea
  split
  · next hfirst hlast =>
    rw [hfirst, hlast]
    rfl
  · rfl

/-- A removal cuts no area of another sheet. -/
lemma removeArea_of_ne {r : Area α} {formula : Cell}
    (h : r.resolvedSheet formula.sheet ≠ b.sheet) :
    b.removeArea axis g r formula = b.removeClipped axis g r r.first r.last false formula :=
  if_pos h

/-- A removal loses the areas that its band covers. -/
lemma removeArea_eq_lost {r : Area α} {formula : Cell}
    (h : b.Covers (r.resolvedSheet formula.sheet) (g.index r.first (formula.along axis))
      (g.index r.last (formula.along axis))) : b.removeArea axis g r formula = .lost :=
  (if_neg (not_not.mpr h.1)).trans (if_pos h.2)

/-- An area that the band does not cover is cut at the band. -/
lemma removeArea_eq_removeClipped {r : Area α} {formula : Cell}
    (hs : r.resolvedSheet formula.sheet = b.sheet)
    (h : ¬(b.start ≤ g.index r.first (formula.along axis) ∧
      g.index r.last (formula.along axis) ≤ b.last)) :
    b.removeArea axis g r formula =
      b.removeClipped axis g r (b.clippedFirst g r.first (formula.along axis))
        (b.clippedLast g r.last (formula.along axis))
        (g.index r.first (formula.along axis) ∈ b || g.index r.last (formula.along axis) ∈ b)
        formula :=
  (if_neg (not_not.mpr hs)).trans (if_neg h)

section

variable (hg : g.IsLawful)

include hg

/-- After an insertion a reference points to the new place of its line. -/
lemma repoints_insertReference (r : α) (formula : Cell) :
    g.Repoints r ((b.insertReference axis g r formula).getD r)
      (b.afterInsertion formula.sheet (formula.along axis))
      (b.afterInsertion (Qualified.resolvedSheet r formula.sheet)
        (g.index r (formula.along axis))) :=
  hg.repoints_follow r _ _ _

/-- Both ends of an area follow their lines when others are inserted. -/
theorem resized_insertArea {r : Area α} (hs : Qualified.sheet r.last = Qualified.sheet r.first)
    (formula : Cell) :
    Area.Resized g r ((b.insertArea axis g r formula).getD r)
      (b.afterInsertion formula.sheet (formula.along axis))
      (b.afterInsertion (r.resolvedSheet formula.sheet) (g.index r.first (formula.along axis)))
      (b.afterInsertion (r.resolvedSheet formula.sheet) (g.index r.last (formula.along axis))) := by
  have hlast := repoints_insertReference b axis hg r.last formula
  have hsheet : Qualified.resolvedSheet r.last formula.sheet = r.resolvedSheet formula.sheet :=
    congrArg (Option.getD · formula.sheet) hs
  rw [hsheet] at hlast
  rw [getD_insertArea]
  exact ⟨repoints_insertReference b axis hg r.first formula, hlast, rfl⟩

/-- An end on a removed line is put on another line. -/
lemma repoints_clipped (r : α) (origin k : Int) :
    g.Repoints r (if g.index r origin ∈ b then g.shift r (k - g.index r origin) else r) origin
      (b.keptOr b.sheet (g.index r origin) k) := by
  unfold keptOr
  by_cases hmem : g.index r origin ∈ b
  · simp only [hmem, and_self, if_true]
    exact hg.repoints_shift r origin k
  · simp only [hmem, and_false, if_false]
    exact hg.repoints_self r origin

/-- An end on a line that stays follows its line. -/
lemma repoints_removeReference {r : α} {formula : Cell}
    (h : ¬(Qualified.resolvedSheet r formula.sheet = b.sheet ∧
      g.index r (formula.along axis) ∈ b)) :
    b.removeReference axis g r formula ≠ .lost ∧
      g.Repoints r ((b.removeReference axis g r formula).getD r)
        (b.afterRemoval formula.sheet (formula.along axis))
        (b.afterRemoval (Qualified.resolvedSheet r formula.sheet)
          (g.index r (formula.along axis))) := by
  have hfollow : b.removeReference axis g r formula =
      g.follow r
        (b.removalShift (Qualified.resolvedSheet r formula.sheet)
          (g.index r (formula.along axis)))
        (b.removalShift formula.sheet (formula.along axis)) := by
    have hshift := survivorShift?_eq h
    unfold removeReference
    unfold Grip.index at hshift ⊢
    rw [hshift]
  rw [hfollow]
  exact ⟨follow_ne_lost g r _ _, hg.repoints_follow r _ _ _⟩

/-- Ends that have been put on lines that stay follow these lines. -/
lemma resized_removeClipped {r : Area α} {first last : α} {isClipped : Bool} {formula : Cell}
    {i j : Int} (hs : Qualified.sheet r.last = Qualified.sheet r.first)
    (hfirst : g.Repoints r.first first (formula.along axis) i)
    (hlast : g.Repoints r.last last (formula.along axis) j)
    (hi : ¬(r.resolvedSheet formula.sheet = b.sheet ∧ i ∈ b))
    (hj : ¬(r.resolvedSheet formula.sheet = b.sheet ∧ j ∈ b))
    (hclip : isClipped = false → first = r.first ∧ last = r.last) :
    b.removeClipped axis g r first last isClipped formula ≠ .lost ∧
      Area.Resized g r ((b.removeClipped axis g r first last isClipped formula).getD r)
        (b.afterRemoval formula.sheet (formula.along axis))
        (b.afterRemoval (r.resolvedSheet formula.sheet) i)
        (b.afterRemoval (r.resolvedSheet formula.sheet) j) := by
  have hfirstSheet : Qualified.resolvedSheet first formula.sheet = r.resolvedSheet formula.sheet :=
    congrArg (Option.getD · formula.sheet) (hfirst.sheet_eq hg)
  have hlastSheet : Qualified.resolvedSheet last formula.sheet = r.resolvedSheet formula.sheet :=
    congrArg (Option.getD · formula.sheet) ((hlast.sheet_eq hg).trans hs)
  rw [← hfirstSheet, ← hfirst.index_eq] at hi
  rw [← hlastSheet, ← hlast.index_eq] at hj
  obtain ⟨hfirstStays, hfirstFollows⟩ := repoints_removeReference b axis hg hi
  obtain ⟨hlastStays, hlastFollows⟩ := repoints_removeReference b axis hg hj
  rw [hfirstSheet, hfirst.index_eq] at hfirstFollows
  rw [hlastSheet, hlast.index_eq] at hlastFollows
  have hends : Area.Resized g r
      (r.withEnds ((b.removeReference axis g first formula).getD first)
        ((b.removeReference axis g last formula).getD last))
      (b.afterRemoval formula.sheet (formula.along axis))
      (b.afterRemoval (r.resolvedSheet formula.sheet) i)
      (b.afterRemoval (r.resolvedSheet formula.sheet) j) :=
    ⟨hfirst.trans hg hfirstFollows, hlast.trans hg hlastFollows, rfl⟩
  -- No end is lost. If neither changes, the area is as it was or it has been clipped to these ends.
  unfold removeClipped
  split
  · next hlost => exact absurd hlost hfirstStays
  · next hlost _ => exact absurd hlost hlastStays
  · next hfirstSame hlastSame =>
    rw [hfirstSame, hlastSame] at hends
    cases isClipped with
    | true => exact ⟨by simp, hends⟩
    | false =>
      obtain ⟨rfl, rfl⟩ := hclip rfl
      exact ⟨by simp, hends⟩
  · exact ⟨by simp, hends⟩

/-- An area that keeps a line goes from the first line that stays to the last one. -/
theorem resized_removeArea {r : Area α} (hs : Qualified.sheet r.last = Qualified.sheet r.first)
    {formula : Cell}
    (hkept : ¬b.Covers (r.resolvedSheet formula.sheet) (g.index r.first (formula.along axis))
      (g.index r.last (formula.along axis))) :
    b.removeArea axis g r formula ≠ .lost ∧
      Area.Resized g r ((b.removeArea axis g r formula).getD r)
        (b.afterRemoval formula.sheet (formula.along axis))
        (b.afterRemoval (r.resolvedSheet formula.sheet)
          (b.keptOr (r.resolvedSheet formula.sheet) (g.index r.first (formula.along axis))
            (b.last + 1)))
        (b.afterRemoval (r.resolvedSheet formula.sheet)
          (b.keptOr (r.resolvedSheet formula.sheet) (g.index r.last (formula.along axis))
            (b.start - 1))) := by
  have hi := keptOr_stays b.last_add_one_not_mem (r.resolvedSheet formula.sheet)
    (g.index r.first (formula.along axis))
  have hj := keptOr_stays b.start_sub_one_not_mem (r.resolvedSheet formula.sheet)
    (g.index r.last (formula.along axis))
  -- On another sheet no line is removed, so no end has to be put on another line.
  by_cases hsheet : r.resolvedSheet formula.sheet = b.sheet
  · rw [removeArea_eq_removeClipped b axis hsheet fun h => hkept ⟨hsheet, h⟩]
    have hkeeps : (g.index r.first (formula.along axis) ∈ b ||
        g.index r.last (formula.along axis) ∈ b : Bool) = false →
        b.clippedFirst g r.first (formula.along axis) = r.first ∧
          b.clippedLast g r.last (formula.along axis) = r.last := by
      intro hclip
      obtain ⟨hfirst, hlast⟩ := Bool.or_eq_false_iff.mp hclip
      exact ⟨if_neg (of_decide_eq_false hfirst), if_neg (of_decide_eq_false hlast)⟩
    rw [hsheet] at hi hj
    have hends := resized_removeClipped b axis hg hs
      (repoints_clipped b hg r.first (formula.along axis) (b.last + 1))
      (repoints_clipped b hg r.last (formula.along axis) (b.start - 1))
      (fun h => hi ⟨rfl, h.2⟩) (fun h => hj ⟨rfl, h.2⟩) hkeeps
    rw [hsheet] at hends ⊢
    exact hends
  · rw [keptOr_eq_self (fun h => hsheet h.1), keptOr_eq_self (fun h => hsheet h.1),
      removeArea_of_ne b axis hsheet]
    exact resized_removeClipped b axis hg hs (hg.repoints_self _ _) (hg.repoints_self _ _)
      (fun h => hsheet h.1) (fun h => hsheet h.1) fun _ => ⟨rfl, rfl⟩

end

end

end Band

end GridFormula
