import GridFormula.Proofs.Formula.OffsetFlow
import GridFormula.Proofs.Lexeme.Images

/-!
# The marks of formulas with offsets

The lexemes of a formula make marks that follow each other as those of a formula do, also where
there are offsets among them, which leave no such marks in the tree. This is shown phrase by phrase
along the grammar. What can stand somewhere depends on what follows, so what is left behind a phrase
is known to flow before the phrase is.
-/

namespace GridFormula

open Scan

/-! ## The ends of lists of lexemes -/

namespace Reader

variable {site : Site}

/-- What a phrase leaves is the end of what it was read from. -/
theorem Reads.isSuffix {p : Phrase} {xs rest : List Spaced} (h : Reads site p xs rest) :
    rest <:+ xs := by
  have htail : ∀ {x : Spaced} {xs ys : List Spaced}, x :: xs <:+ ys → xs <:+ ys :=
    fun h => (List.suffix_cons _ _).trans h
  have hcons : ∀ {x : Spaced} {xs ys : List Spaced}, ys <:+ xs → ys <:+ x :: xs :=
    fun h => h.trans (List.suffix_cons _ _)
  induction h with
  | chainEnd _ | percentsEnd _ => exact List.suffix_rfl
  | constant _ _ => exact List.suffix_cons _ _
  | cell _ | lastOmitted _ => exact List.suffix_cons _ _
  | sign _ _ ih | percentsStep _ _ ih | call _ _ ih | omitted _ _ ih => exact hcons ih
  | array _ _ _ ih | offset _ _ _ ih => exact hcons ih
  | parens _ _ _ ih => exact hcons (htail ih)
  | reference _ ih => exact ih
  | lone _ _ ih => exact ih
  | lastArgument _ _ ih | lastRow _ _ ih => exact htail ih
  | expression _ _ ih ih' => exact ih'.trans ih
  | unsigned _ _ _ ih ih' => exact ih'.trans ih
  | chainStep _ _ _ ih ih' => exact hcons (ih'.trans ih)
  | area _ _ _ _ ih ih' => exact ih'.trans (htail ih)
  | argument _ _ _ ih ih' | column _ _ _ ih ih' | row _ _ _ ih ih' => exact ih'.trans (htail ih)

end Reader

/-- What holds of the tail of a list with the list holds of all its ends. -/
lemma of_isSuffix {α : Type} {P : List α → Prop} (htail : ∀ x xs, P (x :: xs) → P xs)
    {xs ys : List α} (hys : ys <:+ xs) (h : P xs) : P ys := by
  induction xs with
  | nil =>
    rw [List.suffix_nil.mp hys]
    exact h
  | cons x xs ih =>
    rcases List.suffix_cons_iff.mp hys with rfl | hys
    · exact h
    · exact ih hys (htail x xs h)

/-- The lexemes are like those of a text: blanks stand in front of them where these have a place,
and each is written as its symbol says. -/
structure Tidy (l : Locale) (xs : List Spaced) : Prop where
  neat : ∃ b, Neat b xs
  written : ∀ x ∈ xs, x.IsWritten l

/-- The end of a tidy list is tidy. -/
lemma Tidy.of_suffix {l : Locale} {xs ys : List Spaced} (h : Tidy l xs) (hys : ys <:+ xs) :
    Tidy l ys := by
  have hneat : ∃ b, Neat b ys :=
    of_isSuffix (P := fun xs => ∃ b, Neat b xs) (fun x xs ⟨_, hneat⟩ => ⟨_, hneat.2⟩) hys h.neat
  exact ⟨hneat, fun x hx => h.written x (hys.subset hx)⟩

/-- A tidy list is tidy behind its first member. -/
lemma Tidy.tail {l : Locale} {x : Spaced} {xs : List Spaced} (h : Tidy l (x :: xs)) : Tidy l xs :=
  h.of_suffix (List.suffix_cons x xs)

/-- No blanks stand in front of a colon, nor behind it. -/
lemma Tidy.lead_colon {l : Locale} {y : Spaced} {ys : List Spaced} (h : Tidy l (y :: ys))
    (hy : y.symbol = .colon) : y.lead = none ∧ ∀ z ∈ ys.head?, z.lead = none := by
  obtain ⟨b, hneat, -⟩ := h.neat
  exact ⟨hneat.tight (by rw [hy]; rfl), (hneat.colon hy).2⟩

/-! ## Marks that flow -/

/-- The marks start with `m`, behind blanks or not. -/
def StartWith (lead : Option Text) (m : Mark) (ms : List Mark) : Prop :=
  ∃ ms', ms = Mark.spaces lead ++ m :: ms'

/-- The marks start an operand. -/
def OpenOperand (ms : List Mark) : Prop :=
  ∃ m ∈ Mark.next ms, m.opensOperand = true

/-- Marks that start with the end of an operand can follow one. -/
lemma StartWith.followOperand {lead : Option Text} {m : Mark} {ms : List Mark}
    (h : StartWith lead m ms) (hspace : m.isSpace = false) (hm : m.endsOperand = true) :
    FollowOperand ms := by
  obtain ⟨ms', rfl⟩ := h
  exact followOperand_spaces_append hspace hm lead ms'

/-- Marks that start with the opening of an operand open one. -/
lemma StartWith.openOperand {lead : Option Text} {m : Mark} {ms : List Mark}
    (h : StartWith lead m ms) (hspace : m.isSpace = false) (hm : m.opensOperand = true) :
    OpenOperand ms := by
  obtain ⟨ms', rfl⟩ := h
  exact ⟨m, Mark.next_spaces_append lead m ms' hspace, hm⟩

/-- The lexemes make marks that start in the given way and flow from where `n` is open. -/
def FlowFrom (site : Site) (n : Nesting) (start : List Mark → Prop) (xs : List Spaced) : Prop :=
  ∃ ms, site.marks? xs = some ms ∧ start ms ∧ FlowsWithOffsets n ms

namespace FlowFrom

variable {site : Site} {n : Nesting} {start : List Mark → Prop} {x : Spaced} {xs : List Spaced}
  {m : Mark}

/-- Lexemes that flow from some starts flow from fewer. -/
lemma mono {start' : List Mark → Prop} (h : FlowFrom site n start xs)
    (hstart : ∀ ms, start ms → start' ms) : FlowFrom site n start' xs := by
  obtain ⟨ms, hms, hs, hflows⟩ := h
  exact ⟨ms, hms, hstart ms hs, hflows⟩

/-- Nothing need be known of the start. -/
lemma start_true (h : FlowFrom site n start xs) : FlowFrom site n (fun _ => True) xs :=
  h.mono fun _ _ => trivial

/-- A lexeme that makes its mark by itself, in front of what the mark can be followed by. -/
lemma front (hx : site.mark? x = some m)
    (harea : ∀ w, x.symbol = .cell w → Reader.NoLastCell xs)
    (hspace : m.isSpace = false) (hfits : m.fitsWithOffsets n = true)
    (hmeets : ∀ ms, start ms → m.MeetsWithOffsets ms) (h : FlowFrom site (m.inside n) start xs) :
    FlowFrom site n (StartWith x.lead m) (x :: xs) := by
  obtain ⟨ms, hms, hstart, hflows⟩ := h
  refine ⟨_, Site.marks?_cons hx hms harea, ⟨ms, rfl⟩, ?_⟩
  exact FlowsWithOffsets.spaces_append hspace ⟨hfits, hmeets ms hstart, hflows⟩ x.lead

/-- The same for a lexeme that is told by its symbol. -/
lemma cons (hx : m.symbol? = some x.symbol) (hfits : m.fitsWithOffsets n = true)
    (hmeets : ∀ ms, start ms → m.MeetsWithOffsets ms) (h : FlowFrom site (m.inside n) start xs) :
    FlowFrom site n (StartWith x.lead m) (x :: xs) := by
  have hspace : m.isSpace = false := by
    cases m <;> first | rfl | cases hx
  exact h.front (Site.mark?_of_symbol? hx site x.lead x.image)
    (fun w hw => absurd hw (Mark.ne_cell_of_symbol? hx w)) hspace hfits hmeets

/-- A lexeme that can stand behind an operand. -/
lemma closing (hx : m.symbol? = some x.symbol) (hends : m.endsOperand = true)
    (hfits : m.fitsWithOffsets n = true) (hmeets : ∀ ms, start ms → m.MeetsWithOffsets ms)
    (h : FlowFrom site (m.inside n) start xs) : FlowFrom site n FollowOperand (x :: xs) := by
  have hspace : m.isSpace = false := by
    cases m <;> first | rfl | cases hends
  exact (h.cons hx hfits hmeets).mono fun ms hms => hms.followOperand hspace hends

/-- A lexeme that starts an operand. -/
lemma opening (hx : m.symbol? = some x.symbol) (hopens : m.opensOperand = true)
    (hfits : m.fitsWithOffsets n = true) (hmeets : ∀ ms, start ms → m.MeetsWithOffsets ms)
    (h : FlowFrom site (m.inside n) start xs) : FlowFrom site n OpenOperand (x :: xs) := by
  have hspace : m.isSpace = false := by
    cases m <;> first | rfl | cases hopens
  exact (h.cons hx hfits hmeets).mono fun ms hms => hms.openOperand hspace hopens

end FlowFrom

/-! ## Areas -/

namespace Reader

variable {site : Site} {n : Nesting}

/-- What a cell means is a cell, or nothing. -/
lemma cell_eq_or (site : Site) (w : WrittenCell) (raw : Text) :
    (∃ r, site.cell w raw = .cell r) ∨ ∃ e, site.cell w raw = .unreadable raw e := by
  unfold Site.cell
  split
  · exact Or.inr ⟨_, rfl⟩
  · split
    · exact Or.inl ⟨_, rfl⟩
    · exact Or.inr ⟨_, rfl⟩

/-- A cell that is written can be an end of an area. -/
lemma isAreaEnd_cell {w : WrittenCell} {raw : Text} (h : CellText w raw) :
    (site.cell w raw).IsAreaEnd := by
  rcases cell_eq_or site w raw with ⟨r, hr⟩ | ⟨e, he⟩
  · exact Or.inl ⟨r, hr⟩
  · exact Or.inr ⟨w, raw, e, he, h⟩

/-- What can stand behind an operand is no colon. -/
lemma noColon_of_flowFrom {xs : List Spaced} (htidy : Tidy site.locale xs)
    (h : FlowFrom site n FollowOperand xs) : NoColon xs := by
  obtain ⟨ms, hms, hfollow, -⟩ := h
  obtain ⟨b, hneat⟩ := htidy.neat
  have hstops : Stops EndsReference ms := by
    rintro m hm rfl
    cases hfollow _ hm
  exact hstops.noColon hneat hms

/-- A cell in front of what can stand behind an operand. -/
lemma flowFrom_cell {x : Spaced} {xs : List Spaced} {w : WrittenCell} (hx : x.symbol = .cell w)
    (hxs : NoColon xs) (h : FlowFrom site n FollowOperand xs) :
    FlowFrom site n (StartWith x.lead (.atom (site.cell w x.image))) (x :: xs) := by
  have hmark : site.mark? x = some (.atom (site.cell w x.image)) := by simp [Site.mark?, hx]
  exact h.front hmark (fun _ _ => hxs.noLastCell) rfl rfl fun _ hms => Or.inl hms

/-- An area between two cells. -/
lemma flowFrom_area {x y z : Spaced} {rest : List Spaced} {w w' : WrittenCell} {a : Atom}
    (htidy : Tidy site.locale (x :: y :: z :: rest)) (hx : x.symbol = .cell w)
    (hy : y.symbol = .colon) (hz : z.symbol = .cell w')
    (ha : area site (writtenUpTo (x :: y :: z :: rest) rest) (.written w x.image)
      (.written w' z.image) = .ok a)
    (h : FlowFrom site n FollowOperand rest) :
    FlowFrom site n OpenOperand (x :: y :: z :: rest) := by
  obtain ⟨ms, hms, hfollow, hflows⟩ := h
  obtain ⟨b, hneat⟩ := htidy.neat
  rw [writtenUpTo_area hneat hy] at ha
  unfold area at ha
  dsimp only at ha
  split at ha
  · next a' hcells =>
    cases ha
    have hatom : FlowsWithOffsets n (.atom a :: ms) := ⟨rfl, Or.inl hfollow, hflows⟩
    exact ⟨_, Site.marks?_area hx hy hz hcells hms,
      ⟨_, Mark.next_spaces_append _ _ _ rfl, rfl⟩, hatom.spaces_append rfl x.lead⟩
  · cases ha

/-- A cell with a colon and an offset behind it. -/
lemma flowFrom_cell_offset {x y z : Spaced} {zs : List Spaced} {w : WrittenCell}
    (htidy : Tidy site.locale (x :: y :: z :: zs)) (hx : x.symbol = .cell w)
    (hy : y.symbol = .colon) (hz : z.symbol = .offsetCall)
    (h : FlowFrom site n (StartWith z.lead .offsetCall) (z :: zs)) :
    FlowFrom site n OpenOperand (x :: y :: z :: zs) := by
  obtain ⟨hylead, hzlead⟩ := htidy.tail.lead_colon hy
  rw [hzlead z rfl] at h
  obtain ⟨ms, hms, ⟨ms', rfl⟩, hflows⟩ := h
  have hwritten : CellText w x.image := by
    have hx' := (htidy.written x List.mem_cons_self).2
    rwa [hx] at hx'
  have hcolon : site.marks? (y :: z :: zs) = some (.colon :: .offsetCall :: ms') := by
    have hmark : site.mark? y = some .colon := by simp [Site.mark?, hy]
    have hmarks := Site.marks?_cons hmark hms fun w hw => by cases hy.symm.trans hw
    rwa [hylead] at hmarks
  have hmark : site.mark? x = some (.atom (site.cell w x.image)) := by simp [Site.mark?, hx]
  have hcell := Site.marks?_cons hmark hcolon <| by
    rintro w' - y' z' ys heq - w'' hw
    cases heq
    cases hz.symm.trans hw
  have hatom : FlowsWithOffsets n (.atom (site.cell w x.image) :: .colon :: .offsetCall :: ms') :=
    ⟨rfl, Or.inr ⟨isAreaEnd_cell hwritten, ms', rfl⟩, rfl, trivial, hflows⟩
  exact ⟨_, hcell, ⟨_, Mark.next_spaces_append _ _ _ rfl, rfl⟩, hatom.spaces_append rfl x.lead⟩

/-! ## All phrases -/

/-- The marks from a phrase on flow if those behind it do. -/
def Phrase.Flow (site : Site) (p : Phrase) (xs rest : List Spaced) : Prop :=
  match p with
  | expression _ | operand _ | primary _ | reference _ =>
    ∀ n, n.Sound → FlowFrom site n FollowOperand rest → FlowFrom site n OpenOperand xs
  | chain .. | percents .. =>
    ∀ n, n.Sound → FlowFrom site n FollowOperand rest → FlowFrom site n FollowOperand xs
  | areaEnd _ =>
    (∃ x w, xs = x :: rest ∧ x.symbol = .cell w) ∨
      ∃ x ys, xs = x :: ys ∧ x.symbol = .offsetCall ∧
        ∀ n, n.Sound → FlowFrom site n (fun _ => True) rest →
          FlowFrom site n (StartWith x.lead .offsetCall) xs
  | arguments .. =>
    ∀ n, n.Sound → n.inCall = true → FlowFrom site n.leave (fun _ => True) rest →
      FlowFrom site n (fun _ => True) xs
  | rows .. =>
    ∀ n, n.Sound → 0 < n.braces → n.inCall = false →
      FlowFrom site n.leaveBrace (fun _ => True) rest → FlowFrom site n (fun _ => True) xs

/-- An area flows whatever its ends are. -/
lemma flow_area {e e' : AreaEnd} {a : Atom} {y : Spaced} {xs ys rest : List Spaced}
    (htidy : Tidy site.locale xs) (hread : Reads site (.areaEnd e) xs (y :: ys))
    (he : (Phrase.areaEnd e).Flow site xs (y :: ys)) (hy : y.symbol = .colon)
    (hread' : Reads site (.areaEnd e') ys rest) (he' : (Phrase.areaEnd e').Flow site ys rest)
    (ha : area site (writtenUpTo xs rest) e e' = .ok a) (hn : n.Sound)
    (hrest : FlowFrom site n FollowOperand rest) : FlowFrom site n OpenOperand xs := by
  rcases he with ⟨x, w, rfl, hx⟩ | ⟨x, xs, rfl, hx, hoffset⟩
  · rcases he' with ⟨z, w', rfl, hz⟩ | ⟨z, zs, rfl, hz, hoffset'⟩
    · cases hread with
      | offset hx' _ _ => cases hx.symm.trans hx'
      | cell hx =>
        cases hread' with
        | offset hz' _ _ => cases hz.symm.trans hz'
        | cell hz => exact flowFrom_area htidy hx hy hz ha hrest
    · exact flowFrom_cell_offset htidy hx hy hz (hoffset' n hn hrest.start_true)
  · have htidy' : Tidy site.locale ys := (htidy.of_suffix hread.isSuffix).tail
    have hlast : FlowFrom site n (fun _ => True) ys := by
      rcases he' with ⟨z, w', rfl, hz⟩ | ⟨z, zs, rfl, hz, hoffset'⟩
      · exact (flowFrom_cell hz (noColon_of_flowFrom htidy'.tail hrest) hrest).start_true
      · exact (hoffset' n hn hrest.start_true).start_true
    have hcolon : FlowFrom site n (StartWith y.lead .colon) (y :: ys) :=
      hlast.cons (congrArg some hy.symm) rfl fun _ _ => trivial
    exact (hoffset n hn hcolon.start_true).mono fun ms hms => hms.openOperand rfl rfl

/-- The marks from what is read on flow if those of what is left do. -/
theorem Reads.flow {p : Phrase} {xs rest : List Spaced} (h : Reads site p xs rest)
    (htidy : Tidy site.locale xs) : p.Flow site xs rest := by
  -- From the back to the front: the last part flows if what is left does, and each part before it
  -- if the next one does. Between brackets the nesting is the inner one.
  induction h with
  | expression hs _ ihs ihc =>
    exact fun n hn hrest => ihs htidy n hn (ihc (htidy.of_suffix hs.isSuffix) n hn hrest)
  | chainEnd _ => exact fun n _ h => h
  | chainStep hx hr _ ihr ihc =>
    intro n hn hrest
    have hright := ihr htidy.tail n hn (ihc (htidy.tail.of_suffix hr.isSuffix) n hn hrest)
    exact hright.closing (m := .operator _) (congrArg some hx.symm) rfl rfl fun _ hms => hms
  | @sign t x sign xs rest hx _ ih =>
    intro n hn hrest
    have hop := congrArg some (symbol_of_sign? hx).symm
    have hopens : (Mark.operator sign.operator).opensOperand = true := by cases sign <;> rfl
    exact (ih htidy.tail n hn hrest).opening (m := .operator sign.operator) hop hopens rfl
      fun _ hms => hms
  | unsigned _ hp _ ihprimary ihp =>
    exact fun n hn hrest => ihprimary htidy n hn (ihp (htidy.of_suffix hp.isSuffix) n hn hrest)
  | percentsEnd _ => exact fun n _ h => h
  | percentsStep hx _ ih =>
    intro n hn hrest
    exact (ih htidy.tail n hn hrest).closing (m := .percent) (congrArg some hx.symm) rfl rfl
      fun _ _ => trivial
  | constant hcell ha =>
    intro n hn hrest
    have hatom := hrest.front ha (fun w hw => absurd hw (hcell w)) rfl rfl fun _ hms => Or.inl hms
    exact hatom.mono fun ms hms => hms.openOperand rfl rfl
  | reference _ ih => exact ih htidy
  | call hx _ ih =>
    intro n hn hrest
    have hargs := ih htidy.tail _ hn.enter_call n.inCall_enter_call hrest.start_true
    exact hargs.opening (m := .call _) (congrArg some hx.symm) rfl rfl fun _ _ => trivial
  | parens hx _ hy ih =>
    intro n hn hrest
    have hclose := hrest.start_true.closing (n := n.enter .plain) (m := .closeParen)
      (congrArg some hy.symm) rfl rfl fun _ _ => trivial
    exact (ih htidy.tail _ hn.enter_plain hclose).opening (m := .openParen)
      (congrArg some hx.symm) rfl rfl fun _ _ => trivial
  | array hx _ _ ih =>
    intro n hn hrest
    have hrows := ih htidy.tail _ hn.enterBrace (Nat.succ_pos _) hn.inCall_enterBrace
      hrest.start_true
    exact hrows.opening (m := .openBrace) (congrArg some hx.symm) rfl rfl fun _ _ => trivial
  | lone _ hend ih =>
    intro n hn hrest
    rcases ih htidy with ⟨x, w, rfl, hx⟩ | ⟨x, ys, rfl, hx, hoffset⟩
    · exact (flowFrom_cell hx hend hrest).mono fun ms hms => hms.openOperand rfl rfl
    · exact (hoffset n hn hrest.start_true).mono fun ms hms => hms.openOperand rfl rfl
  | area he hy he' ha ihe ihe' =>
    intro n hn hrest
    have htidy' := (htidy.of_suffix he.isSuffix).tail
    exact flow_area htidy he (ihe htidy) hy he' (ihe' htidy') ha hn hrest
  | cell hx => exact Or.inl ⟨_, _, rfl, hx⟩
  | offset hx _ _ ih =>
    refine Or.inr ⟨_, _, rfl, hx, fun n hn hrest => ?_⟩
    have hargs := ih htidy.tail _ hn.enter_call n.inCall_enter_call hrest
    exact hargs.cons (m := .offsetCall) (congrArg some hx.symm) rfl fun _ _ => trivial
  | lastOmitted hx =>
    intro n _ _ hrest
    exact (hrest.closing (m := .closeParen) (congrArg some hx.symm) rfl rfl
      fun _ _ => trivial).start_true
  | omitted hx _ ih =>
    intro n hn hcall hrest
    exact ((ih htidy.tail n hn hcall hrest).closing (m := .argumentSeparator)
      (congrArg some hx.symm) rfl hcall fun _ _ => trivial).start_true
  | lastArgument _ hy ih =>
    intro n hn _ hrest
    have hclose := hrest.closing (m := .closeParen) (congrArg some hy.symm) rfl rfl
      fun _ _ => trivial
    exact (ih htidy n hn hclose).start_true
  | argument ht hy _ iht ihts =>
    intro n hn hcall hrest
    have hts := ihts (htidy.of_suffix ht.isSuffix).tail n hn hcall hrest
    have hsep := hts.closing (m := .argumentSeparator) (congrArg some hy.symm) rfl hcall
      fun _ _ => trivial
    exact (iht htidy n hn hsep).start_true
  | lastRow _ hy ih =>
    intro n hn _ _ hrest
    have hclose := hrest.closing (m := .closeBrace) (congrArg some hy.symm) rfl rfl
      fun _ _ => trivial
    exact (ih htidy n hn hclose).start_true
  | column ht hy _ iht ihrows =>
    intro n hn hbraces hcall hrest
    have hrows := ihrows (htidy.of_suffix ht.isSuffix).tail n hn hbraces hcall hrest
    have hfits : Mark.columnSeparator.fitsWithOffsets n = true := by
      simp [Mark.fitsWithOffsets, Mark.fits, hbraces, hcall]
    have hsep := hrows.closing (m := .columnSeparator) (congrArg some hy.symm) rfl hfits
      fun _ _ => trivial
    exact (iht htidy n hn hsep).start_true
  | row ht hy _ iht ihrows =>
    intro n hn hbraces hcall hrest
    have hrows := ihrows (htidy.of_suffix ht.isSuffix).tail n hn hbraces hcall hrest
    have hfits : Mark.rowSeparator.fitsWithOffsets n = true := by
      simp [Mark.fitsWithOffsets, Mark.fits, hbraces, hcall]
    have hsep := hrows.closing (m := .rowSeparator) (congrArg some hy.symm) rfl hfits
      fun _ _ => trivial
    exact (iht htidy n hn hsep).start_true

/-- The marks of a formula flow, also where there are offsets among them. -/
theorem flows_of_formula {xs : List Spaced} {t : Tree} {ms : List Mark}
    (h : formula site xs = .ok t) (htidy : Tidy site.locale xs) (hms : site.marks? xs = some ms) :
    FlowsWithOffsets .empty ms := by
  obtain ⟨x, ys, rfl, hx, -, ht⟩ := formula_eq_ok_iff.mp h
  have hnil : FlowFrom site .empty FollowOperand [] := ⟨[], rfl, followOperand_nil, trivial⟩
  have hflow := (ht.flow htidy.tail .empty Nesting.sound_empty hnil).cons (m := .operator .equal)
    (n := .empty) (congrArg some hx.symm) rfl fun _ hms => hms
  obtain ⟨ms', hms', -, hflows⟩ := hflow
  cases hms.symm.trans hms'
  exact hflows

end Reader

end GridFormula
