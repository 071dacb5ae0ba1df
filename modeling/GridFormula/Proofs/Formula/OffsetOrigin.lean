import GridFormula.Proofs.Formula.OffsetMarks

/-!
# Offsets that mean the same in every cell

An offset from a cell that is written with a relative coordinate means something else in another
cell, and so do offsets from such an offset. If no offset starts from a cell written like this, all
offsets start from absolute cells, and what they are resolved to is absolute as well.
-/

namespace GridFormula

namespace Reader

variable {site : Site}

/-- Where no offset is bound to its place, none is further on. -/
lemma isPlaceBound_of_isSuffix {xs ys : List Spaced} (hys : ys <:+ xs)
    (h : isPlaceBound xs = false) : isPlaceBound ys = false := by
  refine of_isSuffix (P := fun xs => isPlaceBound xs = false) (fun x xs h => ?_) hys h
  cases xs with
  | nil => rfl
  | cons y xs =>
    rw [isPlaceBound, Bool.or_eq_false_iff] at h
    exact h.2

/-- The cell is written with the coordinates of the first lexeme. -/
def IsWrittenFirst (r : CellRef) (xs : List Spaced) : Prop :=
  ∃ x ∈ xs.head?, ∃ w, x.symbol = .cell w ∧ r.column.anchor = w.column.anchor ∧
    r.row.anchor = w.row.anchor

/-- A written cell keeps the kinds of its coordinates. -/
lemma anchor_of_cell {w : WrittenCell} {raw : Text} {r : CellRef}
    (h : site.cell w raw = .cell r) :
    r.column.anchor = w.column.anchor ∧ r.row.anchor = w.row.anchor := by
  have hcoord : ∀ {axis w c}, site.coord? axis w = some c → c.anchor = w.anchor := by
    intro axis w c h
    unfold Site.coord? at h
    split at h
    · cases h
      rfl
    · cases h
  unfold Site.cell at h
  split at h
  · cases h
  · split at h
    · next r' hr =>
      cases h
      unfold Site.cellRef? at hr
      split at hr
      · next column row hcolumn hrow =>
        cases hr
        exact ⟨hcoord hcolumn, hcoord hrow⟩
      · cases hr
    · cases h

/-- What an offset starts from and what it means have the same kinds of coordinates. -/
lemma anchor_of_offsetFrom {origin r : CellRef} {rows columns height width : Int}
    (h : site.offsetFrom origin rows columns height width = .cell r) :
    r.column.anchor = origin.column.anchor ∧ r.row.anchor = origin.row.anchor := by
  unfold Site.offsetFrom at h
  dsimp only at h
  split at h
  · cases h
  · split at h
    · cases h
      exact ⟨rfl, rfl⟩
    · cases h

/-- An operand put behind a tree does not leave an atom. -/
lemma append_ne_atom (s : Tree) (lead : Option Text) (op : BinaryOp) (right : Tree)
    (lead' : Option Text) (a : Atom) : s.append lead op right ≠ .atom lead' a := by
  fun_cases Tree.append s lead op right <;> simp

/-- The cells that a phrase can be an offset's origin with are absolute, or are written as its first
lexeme. -/
def Phrase.Origin (site : Site) (p : Phrase) (xs : List Spaced) : Prop :=
  match p with
  | expression t | operand t | primary t =>
    ∀ lead r, t = .atom lead (.cell r) → r.isAbsolute = true ∨ IsWrittenFirst r xs
  | chain s t | percents s t => ∀ lead a, t = .atom lead a → s = t
  | reference a => ∀ r, a = .cell r → r.isAbsolute = true ∨ IsWrittenFirst r xs
  | areaEnd (.written w raw) => ∀ r, site.cell w raw = .cell r → IsWrittenFirst r xs
  | areaEnd (.resolved a) => ∀ r, a = .cell r → r.isAbsolute = true
  | arguments ts _ =>
    ∀ lead r, ts.head? = some (.atom lead (.cell r)) → r.isAbsolute = true ∨ IsWrittenFirst r xs
  | rows .. => True

/-- A cell with the coordinates of one that is written with no relative one is absolute. -/
lemma isAbsolute_of_anchor {r : CellRef} {w : WrittenCell}
    (hw : (w.column.anchor = .relative || w.row.anchor = .relative) = false)
    (hcolumn : r.column.anchor = w.column.anchor) (hrow : r.row.anchor = w.row.anchor) :
    r.isAbsolute = true := by
  rw [CellRef.isAbsolute, Coord.isAbsolute, Coord.isAbsolute, hcolumn, hrow]
  revert hw
  cases w.column.anchor <;> cases w.row.anchor <;> decide

/-- Behind an offset that is not bound to its place an absolute cell is written. -/
lemma isAbsolute_of_isWrittenFirst {x : Spaced} {xs : List Spaced} {r : CellRef}
    (hx : x.symbol = .offsetCall) (hbound : isPlaceBound (x :: xs) = false)
    (h : IsWrittenFirst r xs) : r.isAbsolute = true := by
  obtain ⟨y, hy, w, hw, hcolumn, hrow⟩ := h
  cases xs with
  | nil => cases hy
  | cons z xs =>
    cases hy
    rw [isPlaceBound, hx, hw, Bool.or_eq_false_iff] at hbound
    exact isAbsolute_of_anchor hbound.1 hcolumn hrow

/-- The cell that an offset starts from is absolute. -/
lemma Phrase.Origin.isAbsolute {x : Spaced} {xs : List Spaced} {ts : List Tree}
    {inner lead : Option Text} {r : CellRef} (h : (arguments ts inner).Origin site xs)
    (hx : x.symbol = .offsetCall) (hbound : isPlaceBound (x :: xs) = false)
    (hr : (withoutSoleOmission (ts, inner)).1.head? = some (.atom lead (.cell r))) :
    r.isAbsolute = true := by
  rcases withoutSoleOmission_cases ts inner with ⟨lead', -, heq⟩ | ⟨-, heq⟩
  · rw [heq] at hr
    cases hr
  · rw [heq] at hr
    exact (h lead r hr).elim id (isAbsolute_of_isWrittenFirst hx hbound)

/-- Two written cells do not make a reference to one. -/
lemma cells?_ne_cell {w w' : WrittenCell} {raw : Text} {a : Atom}
    (h : site.cells? w w' raw = some a) (r : CellRef) : a ≠ .cell r := by
  rintro rfl
  cases Site.area?_eq_some_iff.mp h

/-- A written run of lines does not make a reference to a cell. -/
lemma lines?_ne_cell {axis : Axis} {w w' : WrittenLine} {raw : Text} {a : Atom}
    (h : site.lines? axis w w' raw = some a) (r : CellRef) : a ≠ .cell r := by
  rintro rfl
  cases Site.area?_eq_some_iff.mp h

/-- An area is no cell. -/
lemma area_ne_cell {raw : Text} {e e' : AreaEnd} {a : Atom} {r : CellRef}
    (h : area site raw e e' = .ok a) : a ≠ .cell r := by
  have hjoined : ∀ {b b'}, joined site raw b b' = .ok a → a ≠ .cell r := by
    rintro b b' h rfl
    unfold joined at h
    split at h
    · split at h <;> cases h
    all_goals cases h
  unfold area at h
  split at h
  · split at h
    · next hcells =>
      cases h
      exact cells?_ne_cell hcells r
    · cases h
  · exact hjoined h

/-- Where no offset is bound to its place, all cells that are read as origins are absolute. -/
theorem Reads.origin {p : Phrase} {xs rest : List Spaced} (h : Reads site p xs rest)
    (hbound : isPlaceBound xs = false) : p.Origin site xs := by
  have htail : ∀ {x : Spaced} {xs : List Spaced}, isPlaceBound (x :: xs) = false →
      isPlaceBound xs = false :=
    fun h => isPlaceBound_of_isSuffix (List.suffix_cons _ _) h
  -- A phrase that adds anything to a cell makes another tree of it. So the cell that is read comes
  -- from the one rule for cells, or it is an offset that has been worked out.
  induction h with
  | expression hs hc ihs ihc =>
    rintro lead r rfl
    have hc := ihc (isPlaceBound_of_isSuffix hs.isSuffix hbound) lead _ rfl
    exact ihs hbound lead r hc
  | chainEnd _ => exact fun _ _ _ => rfl
  | chainStep _ hr hc _ ihc =>
    rintro lead a rfl
    have hbound' := isPlaceBound_of_isSuffix hr.isSuffix (htail hbound)
    exact absurd (ihc hbound' lead a rfl) (append_ne_atom _ _ _ _ _ _)
  | sign _ _ _ => exact fun lead r h => by cases h
  | unsigned _ hs _ ihs ihp =>
    rintro lead r rfl
    have hp := ihp (isPlaceBound_of_isSuffix hs.isSuffix hbound) lead _ rfl
    exact ihs hbound lead r hp
  | percentsEnd _ => exact fun _ _ _ => rfl
  | percentsStep _ _ ih =>
    rintro lead a rfl
    cases ih (htail hbound) lead a rfl
  | @constant x a xs hcell ha =>
    rintro lead r heq
    cases heq
    unfold Site.mark? at ha
    split at ha
    case h_5 w hx => exact absurd hx (hcell w)
    case h_6 axis a b hx =>
      obtain ⟨a', ha', heq⟩ := Option.map_eq_some_iff.mp ha
      cases heq
      exact absurd rfl (lines?_ne_cell ha' r)
    all_goals cases ha
  | reference _ ih =>
    intro lead r heq
    cases heq
    exact ih hbound r rfl
  | call _ _ _ => exact fun lead r h => by cases h
  | parens _ _ _ _ => exact fun lead r h => by cases h
  | array _ _ _ _ => exact fun lead r h => by cases h
  | @lone e xs rest _ _ ih =>
    intro r hr
    cases e with
    | written w raw => exact Or.inr (ih hbound r hr)
    | resolved a => exact Or.inl (ih hbound r hr)
  | area _ _ _ ha _ _ => exact fun r hr => absurd hr (area_ne_cell ha)
  | cell hx => exact fun r hr => ⟨_, rfl, _, hx, anchor_of_cell hr⟩
  | @offset x ts inner a xs rest hx _ ha ih =>
    intro r hr
    obtain ⟨lead, origin, numbers, rows, columns, height, width, hts, -, -, rfl⟩ :=
      offset_eq_ok ha
    -- The origin of this offset is absolute, and an offset has the anchors of its origin.
    have horigin : origin.isAbsolute = true :=
      (ih (htail hbound)).isAbsolute hx hbound (congrArg List.head? hts)
    obtain ⟨hcolumn, hrow⟩ := anchor_of_offsetFrom hr
    rw [CellRef.isAbsolute, Coord.isAbsolute, Coord.isAbsolute] at horigin ⊢
    rw [hcolumn, hrow]
    exact horigin
  | lastOmitted _ => exact fun lead r h => by cases h
  | omitted _ _ _ => exact fun lead r h => by cases h
  | lastArgument _ _ ih =>
    intro lead r h
    exact ih hbound lead r (Option.some.inj h)
  | argument _ _ _ ih _ =>
    intro lead r h
    exact ih hbound lead r (Option.some.inj h)
  | lastRow _ _ _ => trivial
  | column _ _ _ _ _ => trivial
  | row _ _ _ _ _ => trivial

end Reader

end GridFormula
