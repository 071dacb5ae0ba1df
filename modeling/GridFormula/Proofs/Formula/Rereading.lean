import GridFormula.Proofs.Formula.OffsetOrigin
import GridFormula.Proofs.Formula.Shape
import GridFormula.Proofs.Formula.WordKey

/-!
# Reading the same marks in another cell

Where lexemes are a formula, all lexemes that make the same marks are one too, also in another cell.
The two trees have one shape, and their atoms are the same. There is one exception: an area with an
offset at one of its ends makes no mark of its own, so that nothing in the marks tells in which
order its ends are. What is shown here is that nothing else can differ.
-/

namespace GridFormula

/-! ## Trees that differ in areas -/

/-- Whether the atom can be what the ends of an area of cells are joined to. -/
def Atom.isArea : Atom → Bool
  | cells _ | unreadable .. => true
  | _ => false

/-- The relation holds of every atom and itself, and else only of what areas can be joined to. -/
structure ChangesAreas (R : Atom → Atom → Prop) : Prop where
  refl : ∀ a, R a a
  eq_or : ∀ {a b}, R a b → a = b ∨ a.isArea = true ∧ b.isArea = true

namespace Tree

variable {R : Atom → Atom → Prop}

/-- Like operands put behind like trees make like trees. -/
lemma Alike.append {s s' u u' : Tree} (hs : s.Alike R s') (hu : u.Alike R u')
    (lead : Option Text) (op : BinaryOp) :
    (s.append lead op u).Alike R (s'.append lead op u') := by
  fun_induction Tree.append s lead op u generalizing s' with
  | case1 lead' op' s t hlt ih =>
    cases hs with
    | binary hs ht =>
      rw [Tree.append, if_pos hlt]
      exact .binary hs (ih ht)
  | case2 lead' op' s t hlt =>
    cases hs with
    | binary hs ht =>
      rw [Tree.append, if_neg hlt]
      exact .binary (.binary hs ht) hu
  | case3 s hne =>
    have happend : s'.append lead op u' = .binary lead op s' u' := by
      cases hs with
      | binary _ _ => exact absurd rfl (hne _ _ _ _)
      | _ => rfl
    rw [happend]
    exact .binary hs hu

/-- The integer that a tree writes out is not in an area. -/
lemma Alike.staticInteger?_eq {s t : Tree} (hR : ChangesAreas R) (h : s.Alike R t) :
    t.staticInteger? = s.staticInteger? := by
  induction s using memberInduction generalizing t with
  | atom lead a =>
    cases h with
    | @atom _ _ b hab =>
      rcases hR.eq_or hab with rfl | ⟨ha, hb⟩
      · rfl
      · cases a <;> first | cases ha; done | (cases b <;> first | cases hb; done | rfl)
  | signed lead sign s ih =>
    cases h with
    | signed h => rw [staticInteger?, staticInteger?, ih h]
  | _ =>
    cases h
    rfl

end Tree

namespace Reader

section

variable {R : Atom → Atom → Prop} (hR : ChangesAreas R)

include hR

/-- A sole omitted argument is dropped from both of two like lists or from none. -/
lemma withoutSoleOmission_alike {ts ts' : List Tree} (h : List.Forall₂ (Tree.Alike R) ts ts')
    (inner : Option Text) :
    List.Forall₂ (Tree.Alike R) (withoutSoleOmission (ts, inner)).1
        (withoutSoleOmission (ts', inner)).1 ∧
      (withoutSoleOmission (ts', inner)).2 = (withoutSoleOmission (ts, inner)).2 := by
  rcases withoutSoleOmission_cases ts inner with ⟨lead, rfl, heq⟩ | ⟨hsole, heq⟩
  · obtain ⟨t', ts', ht, hnil, rfl⟩ := List.forall₂_cons_left_iff.mp h
    obtain rfl := List.forall₂_nil_left_iff.mp hnil
    cases ht with
    | atom ha =>
      rcases hR.eq_or ha with rfl | ⟨ha, -⟩
      · exact ⟨.nil, rfl⟩
      · cases ha
  · rcases withoutSoleOmission_cases ts' inner with ⟨lead, rfl, -⟩ | ⟨-, heq'⟩
    · obtain ⟨t, ts, ht, hnil, rfl⟩ := List.forall₂_cons_right_iff.mp h
      obtain rfl := List.forall₂_nil_right_iff.mp hnil
      cases ht with
      | atom ha =>
        rcases hR.eq_or ha with rfl | ⟨-, ha⟩
        · exact absurd ⟨lead, rfl⟩ (hsole _ rfl)
        · cases ha
    · rw [heq, heq']
      exact ⟨h, rfl⟩

/-- Like arguments give an offset the same numbers. -/
lemma offsetNumber_alike {ts ts' : List Tree} (h : List.Forall₂ (Tree.Alike R) ts ts')
    (argument : OffsetArgument) (i : Nat) :
    Site.offsetNumber argument ts'[i]? = Site.offsetNumber argument ts[i]? := by
  induction h generalizing i with
  | nil => rfl
  | cons ht _ ih =>
    cases i with
    | zero =>
      rw [List.getElem?_cons_zero, List.getElem?_cons_zero, Site.offsetNumber, Site.offsetNumber,
        ht.staticInteger?_eq hR]
    | succ i =>
      rw [List.getElem?_cons_succ, List.getElem?_cons_succ]
      exact ih i

omit hR in
/-- An offset from an absolute cell is the same in every cell. -/
lemma offsetFrom_of_isAbsolute {origin : CellRef} (h : origin.isAbsolute = true) (site : Site)
    (base : Cell) (rows columns height width : Int) :
    { site with base }.offsetFrom origin rows columns height width =
      site.offsetFrom origin rows columns height width := by
  simp only [CellRef.isAbsolute, Coord.isAbsolute, Bool.and_eq_true, decide_eq_true_eq] at h
  simp only [Site.offsetFrom, CellRef.resolve, Coord.resolve, h.1, h.2]

/-- Offsets with like arguments are resolved alike, if they start from an absolute cell. -/
lemma offset_alike {ts ts' : List Tree} (h : List.Forall₂ (Tree.Alike R) ts ts')
    (horigin : ∀ lead r, ts.head? = some (.atom lead (.cell r)) → r.isAbsolute = true)
    (site : Site) (base : Cell) : { site with base }.offset ts' = site.offset ts := by
  unfold Site.offset
  rw [h.length_eq]
  split
  · rfl
  · cases h with
    | nil => rfl
    | @cons t t' numbers numbers' ht hnumbers =>
      have hnumber := offsetNumber_alike hR hnumbers
      cases ht with
      | @atom lead a b ha =>
        rcases hR.eq_or ha with rfl | ⟨ha, hb⟩
        · cases a with
          | cell r =>
            simp only [hnumber, offsetFrom_of_isAbsolute (horigin lead r rfl)]
          | _ => rfl
        · cases a <;> first | cases ha; done | (cases b <;> first | cases hb; done | rfl)
      | _ => rfl

end

/-- Like trees put in front of like rows make like rows. -/
lemma intoFirstRow_alike {R : Atom → Atom → Prop} {t t' : Tree} {rows rows' : List (List Tree)}
    (ht : t.Alike R t') (h : List.Forall₂ (List.Forall₂ (Tree.Alike R)) rows rows') :
    List.Forall₂ (List.Forall₂ (Tree.Alike R)) (intoFirstRow t rows) (intoFirstRow t' rows') := by
  cases h with
  | nil => exact .cons (.cons ht .nil) .nil
  | cons hrow hrows => exact .cons (.cons ht hrow) hrows

/-- Rows like even ones are even. -/
lemma areEven_alike {R : Atom → Atom → Prop} {rows rows' : List (List Tree)}
    (h : List.Forall₂ (List.Forall₂ (Tree.Alike R)) rows rows') (heven : areEven rows = true) :
    areEven rows' = true := by
  cases h with
  | nil => rfl
  | @cons row row' rows rows' hrow hrows =>
    have hlengths : List.Forall₂ (· = ·) (rows.map List.length) (rows'.map List.length) :=
      List.forall₂_map_left_iff.mpr
        (List.forall₂_map_right_iff.mpr (hrows.imp fun _ _ h => h.length_eq))
    rw [List.forall₂_eq_eq_eq] at hlengths
    have hall : ∀ rows : List (List Tree), rows.all (fun other => other.length = row.length) =
        (rows.map List.length).all (fun n => n = row.length) := by
      intro rows
      rw [List.all_map]
      rfl
    rw [areEven, ← hrow.length_eq, hall, ← hlengths, ← hall]
    exact heven

/-! ## The same marks -/

variable {site site' : Site}

/-- A lexeme that no area starts with makes the first mark by itself. -/
lemma marks?_cons_eq_some {x : Spaced} {xs : List Spaced} {ms : List Mark}
    (harea : ∀ w, x.symbol = .cell w → NoLastCell xs)
    (h : site.marks? (x :: xs) = some ms) :
    ∃ m ms', site.mark? x = some m ∧ site.marks? xs = some ms' ∧
      ms = Mark.spaces x.lead ++ m :: ms' := by
  unfold Site.marks? at h
  split at h
  · next heq => cases heq
  · next heq =>
    cases heq
    exact absurd rfl (harea _ rfl _ _ _ rfl rfl _)
  · next heq =>
    cases heq
    split at h
    · next m ms' hm hms' =>
      cases h
      exact ⟨m, ms', hm, hms', rfl⟩
    · cases h

/-- Behind an area the marks are those of what is left. -/
lemma marks?_area_eq_some {x y z : Spaced} {xs : List Spaced} {w w' : WrittenCell} {a : Atom}
    {ms : List Mark} (hx : x.symbol = .cell w) (hy : y.symbol = .colon) (hz : z.symbol = .cell w')
    (ha : site.cells? w w' (x.image ++ ':' :: z.image) = some a)
    (h : site.marks? (x :: y :: z :: xs) = some ms) :
    ∃ ms', site.marks? xs = some ms' ∧ ms = Mark.spaces x.lead ++ .atom a :: ms' := by
  obtain ⟨lead, symbol, image⟩ := x
  obtain ⟨lead', symbol', image'⟩ := y
  obtain ⟨lead'', symbol'', image''⟩ := z
  dsimp only at hx hy hz ha
  subst hx hy hz
  rw [Site.marks?, ha] at h
  split at h
  · next a' ms' heq hms' =>
    cases heq
    cases h
    exact ⟨ms', hms', rfl⟩
  · cases h

/-- Where there is no colon, the marks go on with none. -/
lemma stops_of_noColon {xs : List Spaced} {ms : List Mark} (htidy : Tidy site.locale xs)
    (hxs : NoColon xs) (h : site.marks? xs = some ms) : Stops EndsReference ms := by
  obtain ⟨b, hneat⟩ := htidy.neat
  unfold Site.marks? at h
  split at h
  · cases h
    exact stops_nil
  · split at h
    · cases h
      exact stops_spaces_append rfl (by simp [EndsReference]) _ _
    · cases h
  · next x xs _ =>
    split at h
    · next m ms' hm _ =>
      cases h
      refine stops_spaces_append (isSpace_of_mark? hm hneat.1.notBlank) ?_ _ _
      rintro rfl
      exact hxs x rfl (symbol_of_mark? hm rfl)
    · cases h

/-- Lexemes that make the same marks, each at a site of their own. -/
structure SameMarks (site site' : Site) (xs xs' : List Spaced) : Prop where
  tidy : Tidy site.locale xs
  tidy' : Tidy site'.locale xs'
  marks : ∃ ms, site.marks? xs = some ms ∧ site'.marks? xs' = some ms

namespace SameMarks

variable {x : Spaced} {xs xs' rest : List Spaced}

/-- Making the same marks is symmetric. -/
lemma symm (h : SameMarks site site' xs xs') : SameMarks site' site xs' xs := by
  obtain ⟨ms, hms, hms'⟩ := h.marks
  exact ⟨h.tidy', h.tidy, ms, hms', hms⟩

/-- A lexeme that is told by its symbol stands in both lists. -/
lemma cons (m : Mark) {s : Symbol} (h : SameMarks site site' (x :: xs) xs')
    (hs : m.symbol? = some s) (hx : x.symbol = s) :
    ∃ y ys, xs' = y :: ys ∧ y.lead = x.lead ∧ y.symbol = s ∧ SameMarks site site' xs ys := by
  subst hx
  obtain ⟨ms, hms, hms'⟩ := h.marks
  obtain ⟨b, hneat⟩ := h.tidy'.neat
  obtain ⟨m', ms', hm', htail, rfl⟩ :=
    marks?_cons_eq_some (fun w hw => absurd hw (Mark.ne_cell_of_symbol? hs w)) hms
  cases hm'.symm.trans (Site.mark?_of_symbol? hs site x.lead x.image)
  obtain ⟨y, ys, rfl, hlead, hsymbol, hys⟩ := lexeme_of_marks? x.lead m hneat hs hms'
  exact ⟨y, ys, rfl, hlead, hsymbol, h.tidy.tail, h.tidy'.tail, ms', htail, hys⟩

/-- A symbol that one list does not start with is not at the start of the other one. -/
lemma head_ne (m : Mark) {s : Symbol} (h : SameMarks site site' xs xs') (hs : m.symbol? = some s)
    (hxs : ∀ x ∈ xs.head?, x.symbol ≠ s) : ∀ x ∈ xs'.head?, x.symbol ≠ s := by
  cases xs' with
  | nil => exact fun y hy => absurd hy (Option.not_mem_none y)
  | cons x' xs' =>
    intro y hy hsymbol
    cases hy
    obtain ⟨x, ys, rfl, -, hx, -⟩ := h.symm.cons m hs hsymbol
    exact hxs x rfl hx

/-- Where there are no lexemes there are none with the same marks. -/
lemma nil (h : SameMarks site site' [] xs') : xs' = [] := by
  obtain ⟨ms, hms, hms'⟩ := h.marks
  cases hms
  exact eq_nil_of_marks? hms'

/-- What makes the mark of an atom is read as this atom. -/
lemma reads_atom {lead : Option Text} {a : Atom} {ms : List Mark}
    (h : SameMarks site site' xs xs')
    (hxs : site.marks? xs = some (Mark.spaces lead ++ .atom a :: ms)) (hsuffix : rest <:+ xs)
    (hrest : site.marks? rest = some ms) (hcolon : NoColon rest) :
    ∃ rest', Reads site' (.primary (.atom lead a)) xs' rest' ∧ SameMarks site site' rest rest' := by
  obtain ⟨ms', hms, hms'⟩ := h.marks
  cases hms.symm.trans hxs
  obtain ⟨b, hneat⟩ := h.tidy'.neat
  have htidy := h.tidy.of_suffix hsuffix
  obtain ⟨ys, hread, hys, -⟩ := readsUpTo_atom hneat (stops_of_noColon htidy hcolon hrest) hms'
  exact ⟨ys, hread, htidy, h.tidy'.of_suffix hread.isSuffix, ms, hrest, hys⟩

end SameMarks

/-- A reference that means nothing keeps its text. -/
lemma raw_of_atom? {ref : WrittenReference} {raw raw' : Text} {e : ErrorValue}
    (h : ref.atom? site raw' = some (.unreadable raw e)) : raw = raw' := by
  cases ref with
  | cell w =>
    have h := Option.some.inj h
    rcases cell_eq_or site w raw' with ⟨r, hr⟩ | ⟨e', he⟩
    · cases hr.symm.trans h
    · cases he.symm.trans h
      rfl
  | cells a b =>
    cases Site.area?_eq_some_iff.mp h <;> rfl
  | lines axis a b =>
    cases Site.area?_eq_some_iff.mp h <;> rfl

/-- What means the same as a cell, or is a text like it that means nothing, is written as a cell. -/
lemma exists_cell_of_atom? {ref : WrittenReference} {w : WrittenCell} {raw raw' : Text}
    (hw : Scan.CellText w raw) (href : ref.IsText raw')
    (h : ref.atom? site' raw' = some (site.cell w raw)) : ∃ w', ref = .cell w' := by
  rcases cell_eq_or site w raw with ⟨r, hr⟩ | ⟨e, he⟩
  · rw [hr] at h
    cases ref with
    | cell w' => exact ⟨w', rfl⟩
    | cells a b => exact absurd rfl (cells?_ne_cell h r)
    | lines axis a b => exact absurd rfl (lines?_ne_cell h r)
  · rw [he] at h
    obtain rfl := raw_of_atom? h
    exact ⟨w, href.unique (.cell hw)⟩

/-- The lexeme that makes the mark of a cell is one. -/
lemma exists_cell_of_mark? {y : Spaced} {w : WrittenCell} {raw : Text} (hw : Scan.CellText w raw)
    (hy : y.IsWritten site'.locale) (h : site'.mark? y = some (.atom (site.cell w raw))) :
    ∃ w', y.symbol = .cell w' ∧ site'.cell w' y.image = site.cell w raw := by
  have hwritten := hy.2
  unfold Site.mark? at h
  split at h
  case h_5 w' hs => exact ⟨w', hs, Mark.atom.inj (Option.some.inj h)⟩
  case h_6 axis a b hs =>
    obtain ⟨atom, hatom, heq⟩ := Option.map_eq_some_iff.mp h
    cases heq
    rw [hs] at hwritten
    have htext : (WrittenReference.lines axis a b).IsText y.image := .lines hwritten
    obtain ⟨w', href⟩ := exists_cell_of_atom? hw htext hatom
    cases href
  all_goals
    rcases cell_eq_or site w raw with ⟨r, hr⟩ | ⟨e, he⟩
    · rw [hr] at h
      cases h
    · rw [he] at h
      cases h

/-- A cell that no area starts with stands in both lists, and means the same. -/
lemma SameMarks.cell {x : Spaced} {xs xs' : List Spaced} {w : WrittenCell}
    (h : SameMarks site site' (x :: xs) xs') (hx : x.symbol = .cell w) (harea : NoLastCell xs) :
    ∃ y ys w', xs' = y :: ys ∧ y.lead = x.lead ∧ y.symbol = .cell w' ∧
      site'.cell w' y.image = site.cell w x.image ∧ SameMarks site site' xs ys := by
  obtain ⟨ms, hms, hms'⟩ := h.marks
  obtain ⟨b, hneat⟩ := h.tidy'.neat
  have hw : Scan.CellText w x.image := by
    have hwritten := (h.tidy.written x List.mem_cons_self).2
    rwa [hx] at hwritten
  obtain ⟨m, ms', hm, htail, rfl⟩ := marks?_cons_eq_some (fun _ _ => harea) hms
  have hmark : site.mark? x = some (.atom (site.cell w x.image)) := by simp [Site.mark?, hx]
  cases hm.symm.trans hmark
  rcases lexemes_of_marks? hneat rfl hms' with ⟨y, ys, rfl, hlead, hy, hys⟩ | harea'
  · obtain ⟨w', hw', hcell⟩ :=
      exists_cell_of_mark? hw (h.tidy'.written y List.mem_cons_self) hy
    exact ⟨y, ys, w', rfl, hlead, hw', hcell, h.tidy.tail, h.tidy'.tail, ms', htail, hys⟩
  · obtain ⟨y, y', z, ys, w₁, w₂, a, rfl, -, ha, hy, -, hz, hcells, -⟩ := harea'
    have hfirst := (h.tidy'.written y List.mem_cons_self).2
    have hlast := (h.tidy'.tail.tail.written z List.mem_cons_self).2
    rw [hy] at hfirst
    rw [hz] at hlast
    rw [← Mark.atom.inj ha] at hcells
    have htext : (WrittenReference.cells w₁ w₂).IsText _ := .cells hfirst hlast
    obtain ⟨w', href⟩ := exists_cell_of_atom? hw htext hcells
    cases href

/-! ## Reading the same marks -/

/-- All lexemes that make the same marks as `xs` are read as one of the phrases, up to what makes
the same marks as `rest`. -/
def Rereads (site : Site) (base : Cell) (xs rest : List Spaced) (phrases : Phrase → Prop) : Prop :=
  ∀ xs', SameMarks site { site with base } xs xs' →
    ∃ p rest', phrases p ∧ Reads { site with base } p xs' rest' ∧
      SameMarks site { site with base } rest rest'

/-- At the front of the lexemes stand two ends of an area with a colon between them, and one of them
is an offset. -/
def JoinsEnds (site : Site) (xs : List Spaced) (e e' : AreaEnd) : Prop :=
  ∃ y ys rest, Reads site (.areaEnd e) xs (y :: ys) ∧ y.symbol = .colon ∧
    Reads site (.areaEnd e') ys rest ∧
      ((∃ x ∈ xs.head?, x.symbol = .offsetCall) ∨ ∃ z ∈ ys.head?, z.symbol = .offsetCall)

/-- Ends of areas, one of which is an offset, are joined to related atoms in both cells. -/
def JoinsAlike (R : Atom → Atom → Prop) (site : Site) (base : Cell) (xs : List Spaced) : Prop :=
  ∀ ys, ys <:+ xs → ∀ e e', JoinsEnds site ys e e' → ∀ raw raw' a,
    joined site raw (e.atom site) (e'.atom site) = .ok a →
      ∃ a', joined { site with base } raw' (e.atom site) (e'.atom site) = .ok a' ∧ R a a'

/-- The offsets of the lexemes mean the same at both sites, and areas with offsets at their ends
mean what is related. -/
structure Settles (R : Atom → Atom → Prop) (site : Site) (base : Cell) (xs : List Spaced) :
    Prop where
  bound : isPlaceBound xs = false
  joins : JoinsAlike R site base xs

section

variable {R : Atom → Atom → Prop} {base : Cell}

/-- Lexemes that settle do so up to the end from any place. -/
lemma Settles.of_isSuffix {xs ys : List Spaced} (h : Settles R site base xs) (hys : ys <:+ xs) :
    Settles R site base ys :=
  ⟨isPlaceBound_of_isSuffix hys h.bound, fun zs hzs => h.joins zs (hzs.trans hys)⟩

/-- Lexemes that settle do so behind the first one. -/
lemma Settles.tail {x : Spaced} {xs : List Spaced} (h : Settles R site base (x :: xs)) :
    Settles R site base xs :=
  h.of_isSuffix (List.suffix_cons x xs)

/-- What a phrase is read as again. -/
def Phrase.Reread (R : Atom → Atom → Prop) (site : Site) (base : Cell) (p : Phrase)
    (xs rest : List Spaced) : Prop :=
  match p with
  | expression t =>
    NoColon rest → Rereads site base xs rest fun p => ∃ t', p = .expression t' ∧ t.Alike R t'
  | chain s t =>
    NoColon rest → ∀ s', s.Alike R s' →
      Rereads site base xs rest fun p => ∃ t', p = .chain s' t' ∧ t.Alike R t'
  | operand t =>
    NoColon rest → Rereads site base xs rest fun p => ∃ t', p = .operand t' ∧ t.Alike R t'
  | percents s t =>
    NoColon rest → ∀ s', s.Alike R s' →
      Rereads site base xs rest fun p => ∃ t', p = .percents s' t' ∧ t.Alike R t'
  | primary t =>
    NoColon rest → Rereads site base xs rest fun p => ∃ t', p = .primary t' ∧ t.Alike R t'
  | reference a =>
    NoColon rest → Rereads site base xs rest fun p =>
      ∃ a', p = .primary (.atom (xs.head?.bind Spaced.lead) a') ∧ R a a'
  | areaEnd e =>
    (∃ x w, xs = x :: rest ∧ x.symbol = .cell w ∧ e = .written w x.image) ∨
      ∃ x ys a, xs = x :: ys ∧ x.symbol = .offsetCall ∧ e = .resolved a ∧
        Rereads site base xs rest fun p => p = .areaEnd (.resolved a)
  | arguments ts inner =>
    Rereads site base xs rest fun p =>
      ∃ ts', p = .arguments ts' inner ∧ List.Forall₂ (Tree.Alike R) ts ts'
  | rows ts inner =>
    Rereads site base xs rest fun p =>
      ∃ ts', p = .rows ts' inner ∧ List.Forall₂ (List.Forall₂ (Tree.Alike R)) ts ts'

/-! ## Areas -/

/-- An area with an offset at one end is joined from what its ends mean. -/
lemma area_eq_joined {raw : Text} {e e' : AreaEnd}
    (h : (∃ a, e = .resolved a) ∨ ∃ a, e' = .resolved a) :
    area site raw e e' = joined site raw (e.atom site) (e'.atom site) := by
  rcases h with ⟨a, rfl⟩ | ⟨a, rfl⟩
  · rfl
  · cases e <;> rfl

/-- An end of an area with an offset at one of its ends is read again. -/
lemma reread_areaEnd {e : AreaEnd} {xs xs' rest : List Spaced}
    (he : (Phrase.areaEnd e).Reread R site base xs rest)
    (harea : (∃ x ∈ xs.head?, ∃ w, x.symbol = .cell w) → NoLastCell rest)
    (hsame : SameMarks site { site with base } xs xs') :
    ∃ e' x ys rest', xs' = x :: ys ∧ x.lead = xs.head?.bind Spaced.lead ∧
      Reads { site with base } (.areaEnd e') xs' rest' ∧
        e'.atom { site with base } = e.atom site ∧ (∀ a, e = .resolved a → e' = .resolved a) ∧
          SameMarks site { site with base } rest rest' := by
  rcases he with ⟨x, w, rfl, hx, rfl⟩ | ⟨x, ys, a, rfl, hx, rfl, hoffset⟩
  · obtain ⟨y, ys, w', rfl, hlead, hy, hcell, hsame'⟩ := hsame.cell hx (harea ⟨x, rfl, w, hx⟩)
    exact ⟨_, y, ys, ys, rfl, hlead, .cell hy, hcell, fun _ h => AreaEnd.noConfusion h, hsame'⟩
  · obtain ⟨y, ys', rfl, hlead, -, -⟩ := hsame.cons .offsetCall rfl hx
    obtain ⟨_, rest', rfl, hread, hsame'⟩ := hoffset _ hsame
    exact ⟨_, y, ys', rest', rfl, hlead, hread, rfl, fun _ h => h, hsame'⟩

/-- An end of an area that starts with an offset is resolved. -/
lemma Reads.exists_resolved {e : AreaEnd} {xs rest : List Spaced}
    (h : Reads site (.areaEnd e) xs rest) (hxs : ∃ x ∈ xs.head?, x.symbol = .offsetCall) :
    ∃ a, e = .resolved a := by
  obtain ⟨x, hx, hoffset⟩ := hxs
  cases h with
  | cell hcell =>
    cases hx
    cases hcell.symm.trans hoffset
  | offset _ _ _ => exact ⟨_, rfl⟩

/-- An area is read again. -/
lemma reread_area (hR : ChangesAreas R) {e e' : AreaEnd} {a : Atom} {y : Spaced}
    {xs ys rest : List Spaced} (hsettles : Settles R site base xs)
    (hread : Reads site (.areaEnd e) xs (y :: ys))
    (he : (Phrase.areaEnd e).Reread R site base xs (y :: ys)) (hy : y.symbol = .colon)
    (hread' : Reads site (.areaEnd e') ys rest)
    (he' : (Phrase.areaEnd e').Reread R site base ys rest)
    (ha : area site (writtenUpTo xs rest) e e' = .ok a) (hrest : NoColon rest) :
    Rereads site base xs rest fun p =>
      ∃ a', p = .primary (.atom (xs.head?.bind Spaced.lead) a') ∧ R a a' := by
  intro xs' hsame
  -- Two written cells make one mark with the colon between them. An offset at either end is an atom
  -- before it is joined, and what it is joined to is what `Settles` is about.
  by_cases hoffset : (∃ x ∈ xs.head?, x.symbol = .offsetCall) ∨
      ∃ z ∈ ys.head?, z.symbol = .offsetCall
  · have hjoin := hsettles.joins xs List.suffix_rfl e e' ⟨y, ys, rest, hread, hy, hread', hoffset⟩
    have hresolved : (∃ a, e = .resolved a) ∨ ∃ a, e' = .resolved a :=
      hoffset.imp hread.exists_resolved hread'.exists_resolved
    rw [area_eq_joined hresolved] at ha
    have hfirst : (∃ x ∈ xs.head?, ∃ w, x.symbol = .cell w) → NoLastCell (y :: ys) := by
      rintro ⟨x, hx, w, hw⟩ y' z zs heq - w' hz
      cases heq
      rcases hoffset with ⟨x', hx', hoffset⟩ | ⟨z', ⟨⟩, hoffset⟩
      · cases hx.symm.trans hx'
        cases hw.symm.trans hoffset
      · cases hz.symm.trans hoffset
    obtain ⟨e₁, x', xs₁, ys₁, rfl, hlead, hread₁, hatom₁, hresolved₁, hys₁⟩ :=
      reread_areaEnd he hfirst hsame
    obtain ⟨y', ys', rfl, -, hy', hys'⟩ := hys₁.cons .colon rfl hy
    obtain ⟨e₂, -, -, rest', -, -, hread₂, hatom₂, hresolved₂, hrest'⟩ :=
      reread_areaEnd he' (fun _ => hrest.noLastCell) hys'
    obtain ⟨a', ha', halike⟩ := hjoin _ (writtenUpTo (x' :: xs₁) rest') a ha
    have harea : area { site with base } (writtenUpTo (x' :: xs₁) rest') e₁ e₂ = .ok a' := by
      rw [area_eq_joined, hatom₁, hatom₂, ha']
      exact hresolved.imp (fun ⟨a, ha⟩ => ⟨a, hresolved₁ a ha⟩) fun ⟨a, ha⟩ => ⟨a, hresolved₂ a ha⟩
    rw [← hlead]
    exact ⟨_, rest', ⟨a', rfl, halike⟩,
      .reference (.area hread₁ hy' hread₂ harea), hrest'⟩
  · rw [not_or] at hoffset
    rcases he with ⟨x, w, rfl, hx, rfl⟩ | ⟨x, ys, -, rfl, hx, -⟩
    · rcases he' with ⟨z, w', rfl, hz, rfl⟩ | ⟨z, zs, -, rfl, hz, -⟩
      · obtain ⟨b, hneat⟩ := hsame.tidy.neat
        obtain ⟨ms, hms, -⟩ := hsame.marks
        rw [writtenUpTo_area hneat hy] at ha
        unfold area at ha
        dsimp only at ha
        split at ha
        · next a' hcells =>
          cases ha
          obtain ⟨ms', hms', rfl⟩ := marks?_area_eq_some hx hy hz hcells hms
          have hsuffix := (hread'.isSuffix.trans (List.suffix_cons _ _)).trans hread.isSuffix
          obtain ⟨rest', hprimary, hsame'⟩ := hsame.reads_atom hms hsuffix hms' hrest
          exact ⟨_, rest', ⟨a, rfl, hR.refl a⟩, hprimary, hsame'⟩
        · cases ha
      · exact absurd ⟨z, rfl, hz⟩ hoffset.2
    · exact absurd ⟨x, rfl, hx⟩ hoffset.1

/-! ## All phrases -/

/-- An expression is read again, and so is the symbol behind it, if that is no colon. -/
lemma Phrase.Reread.before (m : Mark) {s : Symbol} {t : Tree} {y : Spaced}
    {xs xs' rest : List Spaced} (ht : (expression t).Reread R site base xs (y :: rest))
    (hy : y.symbol = s) (hs : m.symbol? = some s) (hne : s ≠ .colon)
    (hsame : SameMarks site { site with base } xs xs') :
    ∃ t' y' rest', Reads { site with base } (.expression t') xs' (y' :: rest') ∧ t.Alike R t' ∧
      y'.lead = y.lead ∧ y'.symbol = s ∧ SameMarks site { site with base } rest rest' := by
  obtain ⟨_, ys, ⟨t', rfl, ht'⟩, hread, hys⟩ :=
    ht (noColon_cons (fun hcolon => hne (hy.symm.trans hcolon)) _) xs' hsame
  obtain ⟨y', rest', rfl, hlead, hy', hrest'⟩ := hys.cons m hs hy
  exact ⟨t', y', rest', hread, ht', hlead, hy', hrest'⟩

/-- Whatever makes the same marks is read alike. -/
theorem Reads.reread (hR : ChangesAreas R) {p : Phrase} {xs rest : List Spaced}
    (h : Reads site p xs rest) (hsettles : Settles R site base xs) :
    p.Reread R site base xs rest := by
  -- One case for each rule of the grammar. What the parts of a phrase leave is again of the same
  -- marks, so the rule applies to the other lexemes too. Only an area may come out as another one.
  induction h with
  | expression hs hc ihs ihc =>
    intro hrest xs' hsame
    obtain ⟨_, ys', ⟨s', rfl, hs'⟩, hread, hys⟩ :=
      ihs hsettles (hc.noColon_chain hrest) xs' hsame
    obtain ⟨_, rest', ⟨t', rfl, ht'⟩, hread', hrest'⟩ :=
      ihc (hsettles.of_isSuffix hs.isSuffix) hrest s' hs' ys' hys
    exact ⟨_, rest', ⟨t', rfl, ht'⟩, .expression hread hread', hrest'⟩
  | chainEnd hend =>
    intro _ s' hs' xs' hsame
    have hend' : ∀ x ∈ xs'.head?, ∀ op, x.symbol ≠ .operator op := fun x hx op =>
      hsame.head_ne (.operator op) rfl (fun y hy => hend y hy op) x hx
    exact ⟨_, xs', ⟨s', rfl, hs'⟩, .chainEnd hend', hsame⟩
  | chainStep hx hr hc ihr ihc =>
    intro hrest s' hs' xs' hsame
    obtain ⟨y, ys, rfl, hlead, hy, hsame⟩ :=
      hsame.cons (.operator _) rfl hx
    obtain ⟨_, ys', ⟨r', rfl, hr'⟩, hread, hys⟩ :=
      ihr hsettles.tail (hc.noColon_chain hrest) ys hsame
    obtain ⟨_, rest', ⟨t', rfl, ht'⟩, hread', hrest'⟩ :=
      ihc (hsettles.tail.of_isSuffix hr.isSuffix) hrest _ (hs'.append hr' _ _) ys' hys
    rw [← hlead] at hread'
    exact ⟨_, rest', ⟨t', rfl, ht'⟩, .chainStep hy hread hread', hrest'⟩
  | sign hx _ ih =>
    intro hrest xs' hsame
    obtain ⟨y, ys, rfl, hlead, hy, hsame⟩ := hsame.cons (.operator _) rfl (symbol_of_sign? hx)
    obtain ⟨_, rest', ⟨t', rfl, ht'⟩, hread, hrest'⟩ := ih hsettles.tail hrest ys hsame
    rw [← hlead]
    rw [symbol_of_sign? hx, ← hy] at hx
    exact ⟨_, rest', ⟨_, rfl, .signed ht'⟩, .sign hx hread, hrest'⟩
  | unsigned _ hs hp ihs ihp =>
    intro hrest xs' hsame
    obtain ⟨_, ys', ⟨t', rfl, ht'⟩, hread, hys⟩ :=
      ihs hsettles (hp.noColon_percents hrest) xs' hsame
    obtain ⟨_, rest', ⟨u', rfl, hu'⟩, hread', hrest'⟩ :=
      ihp (hsettles.of_isSuffix hs.isSuffix) hrest t' ht' ys' hys
    obtain ⟨x', zs, rfl, -⟩ := hread.startsOperand_primary
    exact ⟨_, rest', ⟨u', rfl, hu'⟩, .unsigned hread.sign?_primary hread hread', hrest'⟩
  | percentsEnd hend =>
    intro _ s' hs' xs' hsame
    have hend' := hsame.head_ne .percent rfl hend
    exact ⟨_, xs', ⟨s', rfl, hs'⟩, .percentsEnd hend', hsame⟩
  | percentsStep hx _ ih =>
    intro hrest s' hs' xs' hsame
    obtain ⟨y, ys, rfl, hlead, hy, hsame⟩ := hsame.cons .percent rfl hx
    obtain ⟨_, rest', ⟨t', rfl, ht'⟩, hread, hrest'⟩ :=
      ih hsettles.tail hrest _ (.percent hs') ys hsame
    rw [← hlead] at hread
    exact ⟨_, rest', ⟨t', rfl, ht'⟩, .percentsStep hy hread, hrest'⟩
  | @constant x a xs hcell ha =>
    intro hrest xs' hsame
    obtain ⟨ms, hms, -⟩ := hsame.marks
    obtain ⟨m, ms', hm, htail, rfl⟩ :=
      marks?_cons_eq_some (fun w hw => absurd hw (hcell w)) hms
    cases hm.symm.trans ha
    obtain ⟨rest', hread, hrest'⟩ := hsame.reads_atom hms (List.suffix_cons x xs) htail hrest
    exact ⟨_, rest', ⟨_, rfl, .atom (hR.refl a)⟩, hread, hrest'⟩
  | reference _ ih =>
    intro hrest xs' hsame
    obtain ⟨_, rest', ⟨a', rfl, ha'⟩, hread, hrest'⟩ := ih hsettles hrest xs' hsame
    exact ⟨_, rest', ⟨_, rfl, .atom ha'⟩, hread, hrest'⟩
  | @call x function ts inner xs rest hx _ ih =>
    intro _ xs' hsame
    obtain ⟨y, ys, rfl, hlead, hy, hsame⟩ := hsame.cons (.call _) rfl hx
    obtain ⟨_, rest', ⟨ts', rfl, hts'⟩, hread, hrest'⟩ := ih hsettles.tail ys hsame
    obtain ⟨halike, hinner⟩ := withoutSoleOmission_alike hR hts' inner
    rw [← hlead, ← hinner]
    exact ⟨_, rest', ⟨_, rfl, .call halike⟩, .call hy hread, hrest'⟩
  | parens hx _ hz ih =>
    intro _ xs' hsame
    obtain ⟨y, ys, rfl, hlead, hy, hsame⟩ := hsame.cons .openParen rfl hx
    obtain ⟨t', z', rest', hread, ht', hlead', hz', hrest'⟩ :=
      (ih hsettles.tail).before .closeParen hz rfl (by simp) hsame
    rw [← hlead, ← hlead']
    exact ⟨_, rest', ⟨_, rfl, .parens ht'⟩, .parens hy hread hz', hrest'⟩
  | array hx _ heven ih =>
    intro _ xs' hsame
    obtain ⟨y, ys, rfl, hlead, hy, hsame⟩ := hsame.cons .openBrace rfl hx
    obtain ⟨_, rest', ⟨ts', rfl, hts'⟩, hread, hrest'⟩ := ih hsettles.tail ys hsame
    rw [← hlead]
    exact ⟨_, rest', ⟨_, rfl, .array hts'⟩, .array hy hread (areEven_alike hts' heven),
      hrest'⟩
  | lone _ hend ih =>
    intro _ xs' hsame
    obtain ⟨e', x, ys, rest', rfl, hlead, hread, hatom, -, hrest'⟩ :=
      reread_areaEnd (ih hsettles) (fun _ => NoColon.noLastCell hend) hsame
    have hend' := hrest'.head_ne .colon rfl hend
    have hlone := Reads.reference (.lone hread hend')
    rw [hatom, hlead] at hlone
    exact ⟨_, rest', ⟨_, rfl, hR.refl _⟩, hlone, hrest'⟩
  | area he hy he' ha ihe ihe' =>
    intro hrest
    have hsettles' := hsettles.of_isSuffix ((List.suffix_cons _ _).trans he.isSuffix)
    exact reread_area hR hsettles he (ihe hsettles) hy he' (ihe' hsettles') ha hrest
  | cell hx => exact Or.inl ⟨_, _, rfl, hx, rfl⟩
  | @offset x ts inner a xs rest hx hts ha ih =>
    refine Or.inr ⟨x, xs, a, rfl, hx, rfl, fun xs' hsame => ?_⟩
    obtain ⟨y, ys, rfl, -, hy, hsame⟩ := hsame.cons .offsetCall rfl hx
    obtain ⟨_, rest', ⟨ts', rfl, hts'⟩, hread, hrest'⟩ := ih hsettles.tail ys hsame
    obtain ⟨halike, -⟩ := withoutSoleOmission_alike hR hts' inner
    -- Seen from another cell, an offset stays the same only because its origin is absolute.
    have horigin : ∀ lead r,
        (withoutSoleOmission (ts, inner)).1.head? = some (.atom lead (.cell r)) →
          r.isAbsolute = true :=
      fun _ _ => (hts.origin hsettles.tail.bound).isAbsolute hx hsettles.bound
    rw [← offset_alike hR halike horigin site base] at ha
    exact ⟨_, rest', rfl, .offset hy hread ha, hrest'⟩
  | @lastOmitted x xs hx =>
    intro xs' hsame
    obtain ⟨y, ys, rfl, hlead, hy, hsame⟩ := hsame.cons .closeParen rfl hx
    rw [← hlead]
    exact ⟨_, ys, ⟨_, rfl, .cons (.atom (hR.refl _)) .nil⟩, .lastOmitted hy, hsame⟩
  | omitted hx _ ih =>
    intro xs' hsame
    obtain ⟨y, ys, rfl, hlead, hy, hsame⟩ :=
      hsame.cons .argumentSeparator rfl hx
    obtain ⟨_, rest', ⟨ts', rfl, hts'⟩, hread, hrest'⟩ := ih hsettles.tail ys hsame
    rw [← hlead]
    exact ⟨_, rest', ⟨_, rfl, .cons (.atom (hR.refl _)) hts'⟩, .omitted hy hread, hrest'⟩
  | lastArgument _ hy ih =>
    intro xs' hsame
    obtain ⟨t', y', rest', hread, ht', hlead, hy', hrest'⟩ :=
      (ih hsettles).before .closeParen hy rfl (by simp) hsame
    rw [← hlead]
    exact ⟨_, rest', ⟨_, rfl, .cons ht' .nil⟩, .lastArgument hread hy', hrest'⟩
  | argument ht hy _ iht ihts =>
    intro xs' hsame
    obtain ⟨t', y', ys', hread, ht', -, hy', hys'⟩ :=
      (iht hsettles).before .argumentSeparator hy rfl (by simp) hsame
    obtain ⟨_, rest', ⟨ts', rfl, hts'⟩, hread', hrest'⟩ :=
      ihts (hsettles.of_isSuffix ht.isSuffix).tail ys' hys'
    exact ⟨_, rest', ⟨_, rfl, .cons ht' hts'⟩, .argument hread hy' hread', hrest'⟩
  | lastRow _ hy ih =>
    intro xs' hsame
    obtain ⟨t', y', rest', hread, ht', hlead, hy', hrest'⟩ :=
      (ih hsettles).before .closeBrace hy rfl (by simp) hsame
    rw [← hlead]
    exact ⟨_, rest', ⟨_, rfl, .cons (.cons ht' .nil) .nil⟩, .lastRow hread hy', hrest'⟩
  | column ht hy _ iht ihrows =>
    intro xs' hsame
    obtain ⟨t', y', ys', hread, ht', -, hy', hys'⟩ :=
      (iht hsettles).before .columnSeparator hy rfl (by simp) hsame
    obtain ⟨_, rest', ⟨ts', rfl, hts'⟩, hread', hrest'⟩ :=
      ihrows (hsettles.of_isSuffix ht.isSuffix).tail ys' hys'
    exact ⟨_, rest', ⟨_, rfl, intoFirstRow_alike ht' hts'⟩, .column hread hy' hread', hrest'⟩
  | row ht hy _ iht ihrows =>
    intro xs' hsame
    obtain ⟨t', y', ys', hread, ht', -, hy', hys'⟩ :=
      (iht hsettles).before .rowSeparator hy rfl (by simp) hsame
    obtain ⟨_, rest', ⟨ts', rfl, hts'⟩, hread', hrest'⟩ :=
      ihrows (hsettles.of_isSuffix ht.isSuffix).tail ys' hys'
    exact ⟨_, rest', ⟨_, rfl, .cons (.cons ht' .nil) hts'⟩, .row hread hy' hread', hrest'⟩

/-- Lexemes that make the marks of a formula are one too, of a tree that differs in areas only. -/
theorem formula_reread (hR : ChangesAreas R) {xs xs' : List Spaced} {t : Tree}
    (h : formula site xs = .ok t) (hsettles : Settles R site base xs)
    (hsame : SameMarks site { site with base } xs xs') :
    ∃ t', formula { site with base } xs' = .ok t' ∧ t.Alike R t' := by
  obtain ⟨x, ys, rfl, hx, hlead, ht⟩ := formula_eq_ok_iff.mp h
  obtain ⟨y, ys', rfl, hlead', hy, hsame⟩ :=
    hsame.cons (.operator .equal) rfl hx
  obtain ⟨_, rest', ⟨t', rfl, ht'⟩, hread, hrest'⟩ :=
    ht.reread hR hsettles.tail noColon_nil ys' hsame
  obtain rfl := hrest'.nil
  exact ⟨t', formula_eq_ok_iff.mpr ⟨y, ys', rfl, hy, hlead'.trans hlead, hread⟩, ht'⟩

end

end Reader

end GridFormula
