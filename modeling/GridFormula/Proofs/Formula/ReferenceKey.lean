import GridFormula.Proofs.Formula.Ends

/-!
# Keys of references tell them apart

In a key stands for a reference what the reference holds, number by number. The letters between the
numbers show where each of them ends, and the two letters behind the sheet show whether a cell or a
line follows. Error values start with the same mark as references, but none of them goes on like
one.
-/

namespace GridFormula

/-! ## Coordinates and sheets -/

/-- The letter of an anchor tells it from the other one. -/
lemma Anchor.letter_injective {a b : Anchor} (h : a.letter = b.letter) : a = b := by
  cases a <;> cases b <;> first | rfl | exact absurd h (by decide)

/-- An anchor has one of two letters. -/
lemma Anchor.letter_cases (a : Anchor) : a.letter = 'R' ∨ a.letter = 'A' := by
  cases a
  · exact Or.inl rfl
  · exact Or.inr rfl

/-- The key of a coordinate does not start with a digit. -/
lemma Coord.stopsAt_key (c : Coord) (rest : Text) : Text.StopsAt Char.isDigit (c.key ++ rest) := by
  rw [Coord.key, List.cons_append]
  refine Text.stopsAt_cons ?_ _
  cases c.anchor <;> rfl

/-- A coordinate ends where no digit follows. -/
lemma Coord.key_append_cancel {c d : Coord} {rest rest' : Text}
    (hrest : Text.StopsAt Char.isDigit rest) (hrest' : Text.StopsAt Char.isDigit rest')
    (h : c.key ++ rest = d.key ++ rest') : c = d ∧ rest = rest' := by
  rw [Coord.key, Coord.key, List.cons_append, List.cons_append] at h
  obtain ⟨hletter, h⟩ := List.cons.inj h
  obtain ⟨hvalue, hrest⟩ := Text.ofInt_append_cancel hrest hrest' h
  exact ⟨Coord.ext (Anchor.letter_injective hletter) hvalue, hrest⟩

/-- The sheet that is written, if one is. -/
def writtenSheet (isWritten : Bool) (sheet : Option SheetId) : Option SheetId :=
  if isWritten then sheet else none

/-- The key of a sheet is a number sign and the number of the sheet, where it is written. -/
lemma sheetKey_eq (isWritten : Bool) (sheet : Option SheetId) :
    sheetKey isWritten sheet =
      '#' :: ((writtenSheet isWritten sheet).map Text.ofNat).getD [] := by
  cases isWritten <;> rfl

/-- The key of a sheet starts with a number sign. -/
lemma sheetKey_append_head (b : Bool) (sheet : Option SheetId) (rest : Text) :
    ∃ s, sheetKey b sheet ++ rest = '#' :: s := by
  rw [sheetKey_eq]
  exact ⟨_, rfl⟩

/-- The number of a sheet ends where no digit follows. -/
lemma sheetKey_append_cancel {b b' : Bool} {s s' : Option SheetId} {rest rest' : Text}
    (hrest : Text.StopsAt Char.isDigit rest) (hrest' : Text.StopsAt Char.isDigit rest')
    (h : sheetKey b s ++ rest = sheetKey b' s' ++ rest') :
    writtenSheet b s = writtenSheet b' s' ∧ rest = rest' := by
  have hdigits : ∀ s : Option SheetId, ∀ c ∈ (s.map Text.ofNat).getD [], c.isDigit = true := by
    intro s
    cases s with
    | none => exact fun c hc => absurd hc List.not_mem_nil
    | some n => exact Text.isDigit_ofNat n
  rw [sheetKey_eq, sheetKey_eq, List.cons_append, List.cons_append] at h
  obtain ⟨hsheet, hrest⟩ :=
    Text.append_cancel (hdigits _) (hdigits _) hrest hrest' (List.cons.inj h).2
  refine ⟨?_, hrest⟩
  cases hs : writtenSheet b s with
  | none =>
    cases hs' : writtenSheet b' s' with
    | none => rfl
    | some n =>
      rw [hs, hs'] at hsheet
      exact absurd hsheet.symm (Text.ofNat_ne_nil n)
  | some m =>
    cases hs' : writtenSheet b' s' with
    | none =>
      rw [hs, hs'] at hsheet
      exact absurd hsheet (Text.ofNat_ne_nil m)
    | some n =>
      rw [hs, hs'] at hsheet
      rw [Text.ofNat_injective hsheet]

/-! ## Ends of areas -/

/-- The title of an axis does not start with a digit. -/
lemma Axis.stopsAt_title (axis : Axis) (rest : Text) :
    Text.StopsAt Char.isDigit (axis.title ++ rest) := by
  cases axis <;> exact Text.stopsAt_cons rfl _

/-- The key of a reference to a cell gives it back, with its sheet where that is written. -/
lemma CellRef.key_append_cancel {b b' : Bool} {r r' : CellRef} {rest rest' : Text}
    (hrest : Text.StopsAt Char.isDigit rest) (hrest' : Text.StopsAt Char.isDigit rest')
    (h : r.key b ++ rest = r'.key b' ++ rest') :
    (writtenSheet b r.sheet = writtenSheet b' r'.sheet ∧ r.column = r'.column ∧ r.row = r'.row) ∧
      rest = rest' := by
  rw [CellRef.key, CellRef.key, List.append_assoc, List.append_assoc, List.append_assoc,
    List.append_assoc] at h
  obtain ⟨hsheet, h⟩ := sheetKey_append_cancel (Coord.stopsAt_key _ _) (Coord.stopsAt_key _ _) h
  obtain ⟨hcolumn, h⟩ :=
    Coord.key_append_cancel (Coord.stopsAt_key _ _) (Coord.stopsAt_key _ _) h
  obtain ⟨hrow, h⟩ := Coord.key_append_cancel hrest hrest' h
  exact ⟨⟨hsheet, hcolumn, hrow⟩, h⟩

/-- The key of a reference to a line gives it back, with its sheet where that is written. -/
lemma LineRef.key_append_cancel {b b' : Bool} {axis axis' : Axis} {r r' : LineRef}
    {rest rest' : Text} (hrest : Text.StopsAt Char.isDigit rest)
    (hrest' : Text.StopsAt Char.isDigit rest') (h : r.key axis b ++ rest = r'.key axis' b' ++ rest') :
    (writtenSheet b r.sheet = writtenSheet b' r'.sheet ∧ axis = axis' ∧
      r.position = r'.position) ∧ rest = rest' := by
  rw [LineRef.key, LineRef.key, List.append_assoc, List.append_assoc, List.append_assoc,
    List.append_assoc] at h
  obtain ⟨hsheet, h⟩ :=
    sheetKey_append_cancel (Axis.stopsAt_title _ _) (Axis.stopsAt_title _ _) h
  have haxis : axis = axis' := by
    cases axis <;> cases axis' <;> first | rfl | cases (List.cons.inj h).1
  subst haxis
  obtain ⟨hposition, h⟩ := Coord.key_append_cancel hrest hrest' (List.append_cancel_left h)
  exact ⟨⟨hsheet, rfl, hposition⟩, h⟩

/-- Behind the sheet a coordinate goes on with a number, and the name of an axis does not. -/
lemma Coord.key_append_ne_title (c : Coord) (axis : Axis) (rest rest' : Text) :
    c.key ++ rest ≠ axis.title ++ rest' := by
  obtain ⟨d, s, hvalue, hd⟩ := Text.head_ofInt c.value
  rw [Coord.key, List.cons_append, hvalue, List.cons_append]
  intro h
  cases axis with
  | row =>
    obtain ⟨rfl, -⟩ := List.cons.inj (List.cons.inj h).2
    rcases hd with hd | hd <;> cases hd
  | column =>
    obtain ⟨hletter, -⟩ := List.cons.inj h
    rcases c.anchor.letter_cases with hc | hc <;> rw [hc] at hletter <;> cases hletter

/-- The key of a reference to a cell is never that of a reference to a line. -/
lemma CellRef.key_append_ne_line {b b' : Bool} {r : CellRef} {axis : Axis} {r' : LineRef}
    (rest rest' : Text) : r.key b ++ rest ≠ r'.key axis b' ++ rest' := by
  intro h
  rw [CellRef.key, LineRef.key, List.append_assoc, List.append_assoc, List.append_assoc,
    List.append_assoc] at h
  obtain ⟨-, h⟩ := sheetKey_append_cancel (Coord.stopsAt_key _ _) (Axis.stopsAt_title _ _) h
  exact Coord.key_append_ne_title _ _ _ _ h

/-! ## Error values -/

/-- Behind its first mark a reference goes on with a number, with the letter of a coordinate and a
number, or with the name of an axis. -/
def GoesOnAsReference (s : Text) : Prop :=
  ∃ c d t, s = '#' :: c :: d :: t ∧
    (c.isDigit = true ∨ (c = 'R' ∨ c = 'A' ∨ c = 'C') ∧ (d.isDigit = true ∨ d = '-' ∨ d = 'O'))

/-- Behind the key of a sheet, a letter and a number go on as a reference. -/
lemma goesOnAsReference_sheetKey {b : Bool} {sheet : Option SheetId} {c d : Char} {t : Text}
    (hc : c = 'R' ∨ c = 'A' ∨ c = 'C') (hd : d.isDigit = true ∨ d = '-' ∨ d = 'O') :
    GoesOnAsReference (sheetKey b sheet ++ c :: d :: t) := by
  rw [sheetKey_eq]
  cases writtenSheet b sheet with
  | none => exact ⟨c, d, t, rfl, Or.inr ⟨hc, hd⟩⟩
  | some n =>
    obtain ⟨e, s, hn, he⟩ := Text.head_ofNat n
    rw [Option.map_some, Option.getD_some, hn]
    cases s with
    | nil => exact ⟨e, c, _, rfl, Or.inl he⟩
    | cons f s => exact ⟨e, f, _, rfl, Or.inl he⟩

/-- The key of a reference to a cell goes on as one. -/
lemma CellRef.goesOnAsReference (b : Bool) (r : CellRef) (rest : Text) :
    GoesOnAsReference (r.key b ++ rest) := by
  obtain ⟨d, s, hvalue, hd⟩ := Text.head_ofInt r.column.value
  rw [CellRef.key, List.append_assoc, List.append_assoc, Coord.key, List.cons_append, hvalue,
    List.cons_append]
  refine goesOnAsReference_sheetKey ?_ ?_
  · rcases r.column.anchor.letter_cases with h | h <;> simp [h]
  · rcases hd with hd | hd
    · exact Or.inl hd
    · exact Or.inr (Or.inl hd)

/-- The key of a reference to a line goes on as one. -/
lemma LineRef.goesOnAsReference (axis : Axis) (b : Bool) (r : LineRef) (rest : Text) :
    GoesOnAsReference (r.key axis b ++ rest) := by
  rw [LineRef.key, List.append_assoc, List.append_assoc]
  cases axis with
  | row => exact goesOnAsReference_sheetKey (Or.inl rfl) (Or.inr (Or.inr rfl))
  | column => exact goesOnAsReference_sheetKey (Or.inr (Or.inr rfl)) (Or.inr (Or.inr rfl))

/-- The code of an error value does not go on as a reference. -/
lemma ErrorValue.not_goesOnAsReference (e : ErrorValue) (rest : Text) :
    ¬GoesOnAsReference (e.code ++ rest) := by
  rintro ⟨c, d, t, h, hcd⟩
  cases e <;> cases h <;> revert hcd <;> decide

/-- No code of an error value is the start of another. -/
lemma ErrorValue.eq_of_isPrefix {e e' : ErrorValue} (h : e.code <+: e'.code) : e = e' := by
  have hall : ∀ e ∈ all, ∀ e' ∈ all, e.code <+: e'.code → e = e' := by decide
  exact hall e (mem_all e) e' (mem_all e') h

/-- The code of an error value gives it back. -/
lemma ErrorValue.code_append_cancel {e e' : ErrorValue} {rest rest' : Text}
    (h : e.code ++ rest = e'.code ++ rest') : e = e' ∧ rest = rest' := by
  have heq : e = e' := by
    rcases List.prefix_or_prefix_of_prefix ⟨rest, h⟩ (List.prefix_append e'.code rest') with hp | hp
    · exact eq_of_isPrefix hp
    · exact (eq_of_isPrefix hp).symm
  subst heq
  exact ⟨rfl, List.append_cancel_left h⟩

/-! ## Atoms -/

/-- The atom is a reference or an error value. -/
def Atom.isHashed : Atom → Bool
  | .errorValue _ | .cell _ | .cells _ | .lines .. => true
  | _ => false

/-- An area whose ends lie on one sheet is given by them and by the sheets that are written. -/
lemma Area.eq_of_writtenSheet {α : Type} [Qualified α] {r r' : Area α} (h : r.IsCoherent)
    (h' : r'.IsCoherent)
    (hfirst : writtenSheet (r.qualification ≠ .neither) (Qualified.sheet r.first) =
      writtenSheet (r'.qualification ≠ .neither) (Qualified.sheet r'.first))
    (hlast : writtenSheet (r.qualification = .both) (Qualified.sheet r.last) =
      writtenSheet (r'.qualification = .both) (Qualified.sheet r'.last)) :
    Qualified.sheet r.first = Qualified.sheet r'.first ∧
      Qualified.sheet r.last = Qualified.sheet r'.last ∧ r.qualification = r'.qualification := by
  -- The first sheet is always written if there is one, the last one only if both are to be.
  have hwritten : ∀ {r : Area α}, r.IsCoherent →
      writtenSheet (r.qualification ≠ .neither) (Qualified.sheet r.first) =
        Qualified.sheet r.first := by
    intro r h
    by_cases hq : r.qualification = .neither
    · rw [h.qualified.mp hq]
      simp [writtenSheet]
    · simp [writtenSheet, hq]
  have hboth : ∀ {r : Area α}, r.IsCoherent →
      (writtenSheet (r.qualification = .both) (Qualified.sheet r.last) ≠ none ↔
        r.qualification = .both) := by
    intro r h
    constructor
    · intro hne
      by_contra hq
      exact hne (by simp [writtenSheet, hq])
    · intro hq
      have hsheet : ¬Qualified.sheet r.first = none := by
        rw [← h.qualified, hq]
        nofun
      simpa [writtenSheet, hq, h.sheets] using hsheet
  rw [hwritten h, hwritten h'] at hfirst
  refine ⟨hfirst, by rw [h.sheets, h'.sheets, hfirst], ?_⟩
  have hneither : r.qualification = .neither ↔ r'.qualification = .neither := by
    rw [h.qualified, h'.qualified, hfirst]
  have hboth' : r.qualification = .both ↔ r'.qualification = .both := by
    rw [← hboth h, ← hboth h', hlast]
  cases hq : r.qualification <;> cases hq' : r'.qualification <;> simp_all

/-- The key of an area is that of its ends with a colon between them. -/
lemma Area.key_append {α : Type} (key : Bool → α → Text) (r : Area α) (rest : Text) :
    r.key key ++ rest = key (r.qualification ≠ .neither) r.first ++
      ':' :: (key (r.qualification = .both) r.last ++ rest) := by
  rw [Area.key, List.append_assoc, List.cons_append]

/-- The key of a coherent area of cells gives it back. -/
lemma Area.key_cells_cancel {r r' : Area CellRef} (h : r.IsCoherent) (h' : r'.IsCoherent)
    {rest rest' : Text} (hrest : Text.StopsAt Char.isDigit rest)
    (hrest' : Text.StopsAt Char.isDigit rest')
    (hkey : r.key CellRef.key ++ rest = r'.key CellRef.key ++ rest') : r = r' ∧ rest = rest' := by
  rw [Area.key_append, Area.key_append] at hkey
  obtain ⟨⟨hsheet, hcolumn, hrow⟩, hkey⟩ :=
    CellRef.key_append_cancel (Text.stopsAt_cons rfl _) (Text.stopsAt_cons rfl _) hkey
  obtain ⟨⟨hsheet', hcolumn', hrow'⟩, hrest⟩ :=
    CellRef.key_append_cancel hrest hrest' (List.cons.inj hkey).2
  obtain ⟨hfirst, hlast, hq⟩ := Area.eq_of_writtenSheet h h' hsheet hsheet'
  exact ⟨Area.ext (CellRef.ext hcolumn hrow hfirst) (CellRef.ext hcolumn' hrow' hlast) hq, hrest⟩

/-- The key of coherent rows or columns gives them back. -/
lemma Area.key_lines_cancel {axis axis' : Axis} {r r' : Area LineRef} (h : r.IsCoherent)
    (h' : r'.IsCoherent) {rest rest' : Text} (hrest : Text.StopsAt Char.isDigit rest)
    (hrest' : Text.StopsAt Char.isDigit rest')
    (hkey : r.key (LineRef.key axis) ++ rest = r'.key (LineRef.key axis') ++ rest') :
    (axis = axis' ∧ r = r') ∧ rest = rest' := by
  rw [Area.key_append, Area.key_append] at hkey
  obtain ⟨⟨hsheet, haxis, hposition⟩, hkey⟩ :=
    LineRef.key_append_cancel (Text.stopsAt_cons rfl _) (Text.stopsAt_cons rfl _) hkey
  obtain ⟨⟨hsheet', -, hposition'⟩, hrest⟩ :=
    LineRef.key_append_cancel hrest hrest' (List.cons.inj hkey).2
  obtain ⟨hfirst, hlast, hq⟩ := Area.eq_of_writtenSheet h h' hsheet hsheet'
  exact ⟨⟨haxis, Area.ext (LineRef.ext hposition hfirst) (LineRef.ext hposition' hlast) hq⟩, hrest⟩

/-- A cell is no area, because no colon with a second cell follows it. -/
lemma CellRef.key_append_ne_area {r : CellRef} {r' : Area CellRef} {rest rest' : Text}
    (hrest : Text.StopsAt Char.isDigit rest) (hcolon : ∀ s, rest ≠ ':' :: '#' :: s) :
    r.key true ++ rest ≠ r'.key CellRef.key ++ rest' := by
  rw [Area.key_append]
  intro h
  obtain ⟨-, rfl⟩ := CellRef.key_append_cancel hrest (Text.stopsAt_cons rfl _) h
  rw [CellRef.key, List.append_assoc, List.append_assoc] at hcolon
  obtain ⟨s, hs⟩ := sheetKey_append_head (r'.qualification = .both) r'.last.sheet
    (r'.last.column.key ++ (r'.last.row.key ++ rest'))
  exact hcolon s (congrArg _ hs)

/-- The key of a reference starts in a way in which no error value does. -/
lemma Atom.goesOnAsReference {a : Atom} (ha : a.isHashed = true) (hne : ∀ e, a ≠ .errorValue e)
    (rest : Text) : GoesOnAsReference (a.key ++ rest) := by
  cases a with
  | cell r => exact r.goesOnAsReference _ _
  | cells r =>
    rw [Atom.key, Area.key_append]
    exact r.first.goesOnAsReference _ _
  | lines axis r =>
    rw [Atom.key, Area.key_append]
    exact r.first.goesOnAsReference _ _ _
  | errorValue e => exact absurd rfl (hne e)
  | _ => cases ha

/-- The key of a reference starts with `#`. -/
lemma Atom.exists_key_eq_hash {a : Atom} (ha : a.isHashed = true) (hne : ∀ e, a ≠ .errorValue e) :
    ∃ s, a.key = '#' :: s := by
  obtain ⟨c, d, t, ht, -⟩ := goesOnAsReference ha hne []
  rw [List.append_nil] at ht
  exact ⟨_, ht⟩

/-- References and error values are told apart by their keys. -/
theorem Atom.key_append_cancel_of_isHashed {l : Locale} {sheets sheets' : SheetNames} {a a' : Atom}
    {rest rest' : Text} (ha : a.isHashed = true) (ha' : a'.isHashed = true)
    (hlegible : a.Legible l sheets) (hlegible' : a'.Legible l sheets')
    (hrest : a.EndsBefore rest) (hrest' : a'.EndsBefore rest')
    (h : a.key ++ rest = a'.key ++ rest') : a = a' ∧ rest = rest' := by
  have hdigit := hrest.stopsAt_isDigit
  have hdigit' := hrest'.stopsAt_isDigit
  by_cases herror : ∃ e, a = .errorValue e
  · obtain ⟨e, rfl⟩ := herror
    by_cases herror' : ∃ e', a' = .errorValue e'
    · obtain ⟨e', rfl⟩ := herror'
      obtain ⟨rfl, hrest⟩ := ErrorValue.code_append_cancel h
      exact ⟨rfl, hrest⟩
    · have hgoes := goesOnAsReference ha' (fun e' he' => herror' ⟨e', he'⟩) rest'
      rw [← h] at hgoes
      exact absurd hgoes (e.not_goesOnAsReference rest)
  · have hgoes := goesOnAsReference ha (fun e he => herror ⟨e, he⟩) rest
    -- References of different kinds have different keys already up to what follows the first end.
    cases a with
    | cell r =>
      cases a' with
      | errorValue e' => exact absurd (h ▸ hgoes) (e'.not_goesOnAsReference rest')
      | cell r' =>
        obtain ⟨⟨hsheet, hcolumn, hrow⟩, hrest⟩ := CellRef.key_append_cancel hdigit hdigit' h
        exact ⟨congrArg _ (CellRef.ext hcolumn hrow hsheet), hrest⟩
      | cells r' => exact absurd h (CellRef.key_append_ne_area hdigit hrest.ne_colon_hash)
      | lines axis' r' =>
        rw [Atom.key, Atom.key, Area.key_append] at h
        exact absurd h (CellRef.key_append_ne_line _ _)
      | _ => cases ha'
    | cells r =>
      cases a' with
      | errorValue e' => exact absurd (h ▸ hgoes) (e'.not_goesOnAsReference rest')
      | cell r' => exact absurd h.symm (CellRef.key_append_ne_area hdigit' hrest'.ne_colon_hash)
      | cells r' =>
        obtain ⟨rfl, hrest⟩ := Area.key_cells_cancel hlegible hlegible' hdigit hdigit' h
        exact ⟨rfl, hrest⟩
      | lines axis' r' =>
        rw [Atom.key, Atom.key, Area.key_append, Area.key_append] at h
        exact absurd h (CellRef.key_append_ne_line _ _)
      | _ => cases ha'
    | lines axis r =>
      cases a' with
      | errorValue e' => exact absurd (h ▸ hgoes) (e'.not_goesOnAsReference rest')
      | cell r' =>
        rw [Atom.key, Atom.key, Area.key_append] at h
        exact absurd h.symm (CellRef.key_append_ne_line _ _)
      | cells r' =>
        rw [Atom.key, Atom.key, Area.key_append, Area.key_append] at h
        exact absurd h.symm (CellRef.key_append_ne_line _ _)
      | lines axis' r' =>
        obtain ⟨⟨rfl, rfl⟩, hrest⟩ := Area.key_lines_cancel hlegible hlegible' hdigit hdigit' h
        exact ⟨rfl, hrest⟩
      | _ => cases ha'
    | errorValue e => exact absurd ⟨e, rfl⟩ herror
    | _ => cases ha

end GridFormula
