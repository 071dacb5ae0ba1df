import GridFormula.Proofs.Formula.Fronts
import GridFormula.Proofs.Formula.WrittenReference

/-!
# Written marks are cut into lexemes again

A formula is written mark by mark. Each mark is written as one lexeme, or as three for an area of
cells, and the lexemes make the mark again. That they are found again in the whole text follows
from the last mark to the first: what stands behind a mark is known when its own end is looked for.
-/

namespace GridFormula

open Scan

/-- The lexemes make the mark in a formula at the site. -/
inductive Mark.Lexed (site : Site) : Mark → List Lexeme → Prop where
  | space {blanks : Text} : Lexed site (.space blanks) [⟨.blank, blanks⟩]
  | single {m : Mark} (symbol : Symbol) {image : Text} :
    m.isSpace = false → m ≠ .colon → (∀ lead, site.mark? ⟨lead, symbol, image⟩ = some m) →
      Lexed site m [⟨symbol, image⟩]
  | area {c d : WrittenCell} {s t : Text} {a : Atom} :
    site.cells? c d (s ++ ':' :: t) = some a →
      Lexed site (.atom a) [⟨.cell c, s⟩, ⟨.colon, [':']⟩, ⟨.cell d, t⟩]

/-- The lexemes make the marks one after the other. -/
inductive LexedAll (site : Site) : List Mark → List Lexeme → Prop where
  | nil : LexedAll site [] []
  | cons {m : Mark} {ms : List Mark} {xs ys : List Lexeme} :
    m.Lexed site xs → LexedAll site ms ys → LexedAll site (m :: ms) (xs ++ ys)

/-- The first lexeme of a mark tells what kind of mark it is. -/
structure Mark.HeadedBy (m : Mark) (x : Lexeme) : Prop where
  blank : x.symbol = .blank ↔ m.isSpace = true
  symbol : ∀ m' s, m'.symbol? = some s → (x.symbol = s ↔ m = m')
  cell : ∀ w, x.symbol = .cell w → ∃ a, m = .atom a
  noColon : x.symbol ≠ .colon

/-- The lexemes of a mark start with one that heads it. -/
lemma Mark.Lexed.head {site : Site} {m : Mark} {xs : List Lexeme} (h : m.Lexed site xs) :
    ∃ x ys, xs = x :: ys ∧ m.HeadedBy x := by
  cases h with
  | space =>
    refine ⟨_, _, rfl, ⟨fun _ => rfl, fun _ => rfl⟩, fun m' s hs => ?_, nofun, nofun⟩
    constructor
    · rintro rfl
      cases m' <;> cases hs
    · rintro rfl
      cases hs
  | single symbol hspace hcolon hmark =>
    refine ⟨_, _, rfl, ⟨?_, fun h => by cases hspace.symm.trans h⟩, fun m' s hs => ?_, ?_, ?_⟩
    · rintro rfl
      cases hmark none
      cases hspace
    · constructor
      · rintro rfl
        exact Option.some.inj ((hmark none).symm.trans (Site.mark?_of_symbol? hs site none _))
      · rintro rfl
        exact Reader.symbol_of_mark? (hmark none) hs
    · rintro w rfl
      exact ⟨_, (Option.some.inj (hmark none)).symm⟩
    · rintro rfl
      exact hcolon (Option.some.inj (hmark none)).symm
  | area _ =>
    refine ⟨_, _, rfl, ⟨nofun, nofun⟩, fun m' s hs => ?_, fun w _ => ⟨_, rfl⟩, nofun⟩
    constructor
    · rintro rfl
      cases m' <;> cases hs
    · rintro rfl
      cases hs

/-- What becomes of a text that starts with an equals sign or a greater-than sign. -/
lemma Scan.symbol_of_comparison {l : Locale} {n n' : Nesting} {c : Char} {s rest : Text}
    {symbol : Symbol} (hl : l.IsPreset) (hc : c = '=' ∨ c = '>')
    (h : front l n c s = .lexeme symbol rest n') :
    ∃ op, symbol = .operator op ∧ op ≠ .plus ∧ op ≠ .minus := by
  have hsigns : c ∈ operatorSigns := by rcases hc with rfl | rfl <;> decide
  have hjobs : c ∉ jobs l := by
    rcases hl with rfl | rfl <;> rcases hc with rfl | rfl <;> decide
  rw [front_eq_plainFront hl hjobs, plainFront, numberFront?_operatorSign hl hsigns,
    Option.none_or] at h
  rcases hc with rfl | rfl
  · cases h
    exact ⟨_, rfl, by decide, by decide⟩
  · simp only [operatorFront?] at h
    split at h
    · next heq =>
      split at heq
      · cases heq
        cases h
        exact ⟨_, rfl, by decide, by decide⟩
      · cases heq
        cases h
        exact ⟨_, rfl, by decide, by decide⟩
    · next heq => split at heq <;> cases heq

/-- The lexemes of marks start with one that heads the first of them. -/
lemma LexedAll.head {site : Site} {m : Mark} {ms : List Mark} {xs : List Lexeme}
    (h : LexedAll site (m :: ms) xs) :
    ∃ x ys, xs = x :: ys ∧ m.HeadedBy x := by
  cases h with
  | cons hm _ =>
    obtain ⟨x, ys, rfl, hx⟩ := hm.head
    exact ⟨x, _, rfl, hx⟩

/-- No offset is among the lexemes of a mark that can stand in a tree. -/
lemma Mark.Lexed.symbol_ne_offsetCall {site : Site} {m : Mark} {xs : List Lexeme} {n : Nesting}
    (h : m.Lexed site xs) (hfits : m.fits n = true) : ∀ x ∈ xs, x.symbol ≠ .offsetCall := by
  cases h with
  | space => simp
  | area _ => simp
  | single symbol _ _ hmark =>
    refine List.forall_mem_singleton.mpr ?_
    rintro rfl
    cases hmark none
    cases hfits

/-- Marks that flow without offsets have lexemes without them. -/
lemma LexedAll.symbol_ne_offsetCall {site : Site} {ms : List Mark} {xs : List Lexeme} {n : Nesting}
    (h : LexedAll site ms xs) (hflows : Flows n ms) : ∀ x ∈ xs, x.symbol ≠ .offsetCall := by
  induction h generalizing n with
  | nil => exact fun x hx => absurd hx List.not_mem_nil
  | cons hm _ ih =>
    obtain ⟨hfits, -, hflows⟩ := hflows
    exact List.forall_mem_append.mpr ⟨hm.symbol_ne_offsetCall hfits, ih hflows⟩

/-! ## What stands behind a mark -/

section

variable {site : Site} {n : Nesting} {ms : List Mark} {xs : List Lexeme} {rest : Text}

/-- Where no blanks come next, no blank stands next. -/
lemma LexedAll.stopsAt_isBlank (h : LexedAll site ms xs) (hscans : Scans site.locale n rest xs)
    (hnext : ∀ m ∈ ms.head?, m.isSpace = false) : Text.StopsAt site.locale.isBlank rest := by
  cases ms with
  | nil =>
    cases h
    cases hscans
    exact Text.stopsAt_nil _
  | cons m ms =>
    obtain ⟨x, ys, rfl, hx⟩ := h.head
    cases hscans with
    | @cons n n' c s symbol rest' ys hfront hrest =>
      refine Text.stopsAt_cons ?_ s
      by_contra hc
      have hc : site.locale.isBlank c = true := by simpa using hc
      rw [front, if_pos hc] at hfront
      cases hfront
      cases (hnext m rfl).symm.trans (hx.blank.mp rfl)

/-- Where an operand comes next, nothing stands next that would make a comparison another one. -/
lemma LexedAll.endsOperator (hl : site.locale.IsPreset) (h : LexedAll site ms xs)
    (hscans : Scans site.locale n rest xs) (hnext : ∃ m ∈ Mark.next ms, m.startsOperand = true) :
    EndsOperator rest := by
  obtain ⟨m', hm', hstarts⟩ := hnext
  cases ms with
  | nil => cases hm'
  | cons m ms =>
    obtain ⟨x, ys, rfl, hx⟩ := h.head
    cases hscans with
    | @cons n n' c s symbol rest' ys hfront hrest =>
      have hne : ¬(c = '=' ∨ c = '>') := by
        intro hc
        obtain ⟨op, rfl, hplus, hminus⟩ := symbol_of_comparison hl hc hfront
        obtain rfl := (hx.symbol (.operator op) _ rfl).mp rfl
        rw [Mark.next_cons rfl] at hm'
        cases hm'
        cases op <;> first | exact hplus rfl | exact hminus rfl | cases hstarts
      obtain ⟨hequal, hgreater⟩ := not_or.mp hne
      exact ⟨by simpa using hequal, by simpa using hgreater⟩

end

/-! ## One atom -/

/-- The text is cut into the lexemes, whatever stands behind it that does not go on with it. -/
def Scan.CutsOperand (l : Locale) (t : Text) (xs : List Lexeme) : Prop :=
  ∀ n rest ys, Terminated l rest → Scans l n rest ys → Scans l n (t ++ rest) (xs ++ ys)

section

variable {l : Locale} {t : Text}

/-- A written reference is cut off as one operand. -/
lemma Scan.cutsOperand_reference {symbol : Symbol} (hl : l.IsPreset) (h : ReferenceText symbol t) :
    CutsOperand l t [⟨symbol, t⟩] :=
  fun _ _ _ hrest hys => (readsFront_reference hl h (hrest.endsReference hl)).scans hys

/-- Two cells with a colon between them are three lexemes. -/
lemma Scan.cutsOperand_area {c d : WrittenCell} {s t : Text} (hl : l.IsPreset) (hs : CellText c s)
    (ht : CellText d t) :
    CutsOperand l (s ++ ':' :: t) [⟨.cell c, s⟩, ⟨.colon, [':']⟩, ⟨.cell d, t⟩] := by
  intro n rest ys hrest hys
  have hlast := (readsFront_reference hl (.cell ht) (hrest.endsReference hl)).scans hys
  have hcolon : ReadsFront l n [':'] (t ++ rest) .colon n :=
    readsFront_operator (s := []) hl rfl
  have hfirst := readsFront_reference (n := n) hl (.cell hs) (endsReference_colon (t ++ rest))
  rw [List.append_assoc, List.cons_append]
  exact hfirst.scans (hcolon.scans hlast)

end

namespace Wording

variable {w : Wording} {base : Cell}

/-- A reference that means nothing is written as it was, and means nothing again. -/
lemma unreadable_spec (base : Cell) {raw : Text} {e : ErrorValue} (hl : w.locale.IsPreset)
    (h : Unreadable w.locale w.sheets raw e) :
    ∃ xs, Mark.Lexed ⟨w.locale, w.sheets, base⟩ (.atom (.unreadable raw e)) xs ∧
      CutsOperand w.locale raw xs := by
  cases h with
  | cell hraw hsite =>
    refine ⟨_, .single (.cell _) rfl nofun fun lead => ?_, cutsOperand_reference hl (.cell hraw)⟩
    exact congrArg (fun a => some (Mark.atom a)) (hsite base)
  | cells hs ht hraw hsite =>
    subst hraw
    exact ⟨_, .area (hsite base), cutsOperand_area hl hs ht⟩
  | lines hraw hsite =>
    refine ⟨_, .single (.lines ..) rfl nofun fun lead => ?_, cutsOperand_reference hl (.lines hraw)⟩
    exact congrArg (Option.map Mark.atom) (hsite base)

/-- An atom is written as a text that is cut into lexemes which make the atom. -/
theorem atom_spec (hl : w.locale.IsPreset) (hnames : w.sheets.IsConsistent)
    (hshown : ∀ name sheet, w.shownName? name sheet = none) {a : Atom} (hne : a ≠ .omitted)
    (ha : a.Legible w.locale w.sheets) (hplaced : a.IsPlaced w base) :
    ∃ t xs, w.atom base a = .ok t ∧ Mark.Lexed ⟨w.locale, w.sheets, base⟩ (.atom a) xs ∧
      CutsOperand w.locale t xs := by
  cases a with
  | omitted => exact absurd rfl hne
  | number numeral =>
    exact ⟨_, _, rfl, .single (.number numeral) rfl (by simp) fun _ => rfl,
      fun _ _ _ hrest hys => (readsFront_number hl ha hrest).scans hys⟩
  | string content =>
    exact ⟨_, _, rfl, .single (.string content) rfl (by simp) fun _ => rfl,
      fun _ _ _ hrest hys => (readsFront_string hl content (hrest.stopsAt_quote hl)).scans hys⟩
  | name word =>
    obtain ⟨hword, hcell⟩ := ha
    refine ⟨word, _, ?_, .single (.name word) rfl (by simp) fun _ => rfl,
      fun _ _ _ hrest hys => (readsFront_name hl hword hcell hrest).scans hys⟩
    rw [atom, hshown]
    rfl
  | errorValue e =>
    exact ⟨_, _, rfl, .single (.errorValue e) rfl (by simp) fun _ => rfl,
      fun _ _ _ _ hys => (readsFront_errorValue hl e).scans hys⟩
  | unreadable raw e =>
    obtain ⟨xs, hlexed, hcuts⟩ := unreadable_spec base hl ha
    exact ⟨raw, xs, rfl, hlexed, hcuts⟩
  | cell r =>
    obtain ⟨c, t, hwrite, ht, hread⟩ := atom_cell hl hnames hplaced
    refine ⟨t, _, hwrite, .single (.cell c) rfl (by simp) fun lead => ?_,
      cutsOperand_reference hl (.cell ht)⟩
    exact congrArg (fun a => some (Mark.atom a)) hread
  | cells r =>
    obtain ⟨c, d, s, t, hwrite, hs, ht, hread⟩ := atom_cells hl hnames ha hplaced
    exact ⟨_, _, hwrite, .area hread, cutsOperand_area hl hs ht⟩
  | lines axis r =>
    obtain ⟨c, d, t, hwrite, ht, hread⟩ := atom_lines hl hnames ha hplaced
    refine ⟨t, _, hwrite, .single (.lines axis c d) rfl (by simp) fun lead => ?_,
      cutsOperand_reference hl (.lines ht)⟩
    exact congrArg (Option.map Mark.atom) hread

end Wording

/-! ## One mark -/

/-- The text behind a mark does not go on with it. -/
def Mark.EndsBefore (l : Locale) (rest : Text) : Mark → Prop
  | .space _ => Text.StopsAt l.isBlank rest
  | .atom _ => Terminated l rest
  | .operator _ => EndsOperator rest
  | _ => True

/-- Seen from a cell, the mark can be written with words that are known. -/
def Mark.IsPlaced (w : Wording) (base : Cell) : Mark → Prop
  | .atom a => a.IsPlaced w base
  | .call function => Text.IsAscii function
  | _ => True

/-- The mark is written as the text, and this is cut into lexemes which make the mark. -/
def Wording.WritesAs (w : Wording) (base : Cell) (n : Nesting) (m : Mark) (t : Text)
    (xs : List Lexeme) : Prop :=
  w.mark base m = .ok t ∧ m.Lexed ⟨w.locale, w.sheets, base⟩ xs ∧
    ∀ rest ys, m.EndsBefore w.locale rest → Scans w.locale (m.inside n) rest ys →
      Scans w.locale n (t ++ rest) (xs ++ ys)

namespace Wording

variable {w : Wording} {base : Cell} {n : Nesting}

/-- A mark that is made by one lexeme is written as it. -/
lemma writesAs_single {m : Mark} (symbol : Symbol) {t : Text} (hwrite : w.mark base m = .ok t)
    (hspace : m.isSpace = false) (hcolon : m ≠ .colon)
    (hmark : ∀ lead, Site.mark? ⟨w.locale, w.sheets, base⟩ ⟨lead, symbol, t⟩ = some m)
    (hreads : ∀ rest, m.EndsBefore w.locale rest →
      ReadsFront w.locale n t rest symbol (m.inside n)) :
    w.WritesAs base n m t [⟨symbol, t⟩] :=
  ⟨hwrite, .single symbol hspace hcolon hmark, fun rest _ hrest hys => (hreads rest hrest).scans hys⟩

/-- A mark is written as a text that is cut into lexemes which make the mark. -/
theorem mark_spec (hl : w.locale.IsPreset) (hnames : w.sheets.IsConsistent)
    (hshown : ∀ name sheet, w.shownName? name sheet = none) {m : Mark}
    (hm : m.Legible w.locale w.sheets) (hplaced : m.IsPlaced w base) (hfits : m.fits n = true) :
    ∃ t xs, w.WritesAs base n m t xs := by
  cases m with
  | space blanks =>
    exact ⟨blanks, _, rfl, .space, fun rest ys hrest hys => (readsFront_blank hm hrest).scans hys⟩
  | atom a =>
    obtain ⟨t, xs, hwrite, hlexed, hcuts⟩ := atom_spec hl hnames hshown hm.1 hm.2 hplaced
    exact ⟨t, xs, hwrite, hlexed, fun rest ys => hcuts n rest ys⟩
  | operator op =>
    exact ⟨_, _, writesAs_single (.operator op) rfl rfl nofun (fun _ => rfl) fun rest hrest =>
      readsFront_symbol hl op hrest⟩
  | percent =>
    exact ⟨_, _, writesAs_single .percent rfl rfl nofun (fun _ => rfl) fun rest _ =>
      readsFront_operator (s := []) hl rfl⟩
  | call function =>
    obtain ⟨word, hword, rfl, hoffset⟩ := hm
    -- The name of the locale is written, and reading gives back the canonical name.
    obtain ⟨hlocal, hcanonical⟩ := localName_spec hl hword hplaced
    refine ⟨_, _, writesAs_single (.call _) rfl rfl nofun (fun _ => rfl) fun rest _ => ?_⟩
    have hread : ReadsFront w.locale n _ rest _ _ :=
      readsFront_call hl hlocal (by rwa [hcanonical])
    rwa [hcanonical] at hread
  | argumentSeparator =>
    exact ⟨_, _, writesAs_single .argumentSeparator rfl rfl nofun (fun _ => rfl) fun rest _ =>
      readsFront_argumentSeparator hl hfits⟩
  | columnSeparator =>
    obtain ⟨hbraces, hcall⟩ := (Bool.and_eq_true _ _).mp hfits
    exact ⟨_, _, writesAs_single .columnSeparator rfl rfl nofun (fun _ => rfl) fun rest _ =>
      readsFront_columnSeparator hl (of_decide_eq_true hbraces) (by simpa using hcall)⟩
  | rowSeparator =>
    obtain ⟨hbraces, hcall⟩ := (Bool.and_eq_true _ _).mp hfits
    exact ⟨_, _, writesAs_single .rowSeparator rfl rfl nofun (fun _ => rfl) fun rest _ =>
      readsFront_rowSeparator hl (of_decide_eq_true hbraces) (by simpa using hcall)⟩
  | openParen =>
    exact ⟨_, _, writesAs_single .openParen rfl rfl nofun (fun _ => rfl) fun rest _ =>
      readsFront_bracket hl rfl⟩
  | closeParen =>
    exact ⟨_, _, writesAs_single .closeParen rfl rfl nofun (fun _ => rfl) fun rest _ =>
      readsFront_bracket hl rfl⟩
  | openBrace =>
    exact ⟨_, _, writesAs_single .openBrace rfl rfl nofun (fun _ => rfl) fun rest _ =>
      readsFront_bracket hl rfl⟩
  | closeBrace =>
    exact ⟨_, _, writesAs_single .closeBrace rfl rfl nofun (fun _ => rfl) fun rest _ =>
      readsFront_bracket hl rfl⟩
  | offsetCall => cases hfits
  | colon => cases hfits

/-! ## All marks -/

/-- How a mark is written, or nothing if it cannot be written. -/
def text (w : Wording) (base : Cell) (m : Mark) : Text :=
  (w.mark base m).toOption.getD []

/-- A mark is written as the text that it is given. -/
lemma WritesAs.text_eq {m : Mark} {t : Text} {xs : List Lexeme} (h : w.WritesAs base n m t xs) :
    w.text base m = t := by
  rw [text, h.1]
  rfl

/-- The texts of marks are written as the locale writes them. -/
lemma writesMarks_text : WritesMarks w.locale (w.text base) where
  space _ := rfl
  ends m hm := by
    cases m with
    | operator op => cases op <;> exact ⟨_, _, rfl, by simp [Locale.terminators]⟩
    | percent => exact ⟨_, _, rfl, by simp [Locale.terminators]⟩
    | argumentSeparator => exact ⟨_, _, rfl, by simp [Locale.terminators]⟩
    | columnSeparator => exact ⟨_, _, rfl, by simp [Locale.terminators]⟩
    | rowSeparator => exact ⟨_, _, rfl, by simp [Locale.terminators]⟩
    | closeParen => exact ⟨_, _, rfl, by simp [Locale.terminators]⟩
    | closeBrace => exact ⟨_, _, rfl, by simp [Locale.terminators]⟩
    | _ => cases hm

/-- Marks that flow are written as a text that is cut into lexemes which make the marks. -/
theorem marks_spec (hl : w.locale.IsPreset) (hnames : w.sheets.IsConsistent)
    (hshown : ∀ name sheet, w.shownName? name sheet = none) {ms : List Mark}
    (hms : ∀ m ∈ ms, m.Legible w.locale w.sheets) (hplaced : ∀ m ∈ ms, m.IsPlaced w base)
    (hflows : Flows n ms) :
    w.marks base ms = .ok (ms.flatMap (w.text base)) ∧
      ∃ xs, LexedAll ⟨w.locale, w.sheets, base⟩ ms xs ∧
        Scans w.locale n (ms.flatMap (w.text base)) xs := by
  induction ms generalizing n with
  | nil => exact ⟨rfl, [], .nil, .nil⟩
  | cons m ms ih =>
    obtain ⟨hfits, hmeets, hflows⟩ := hflows
    obtain ⟨hm, hlegible⟩ := List.forall_mem_cons.mp hms
    obtain ⟨hmplaced, hplaced⟩ := List.forall_mem_cons.mp hplaced
    obtain ⟨hwritten, ys, hlexed, hscans⟩ := ih hlegible hplaced hflows
    obtain ⟨t, xs, hspec⟩ := mark_spec hl hnames hshown hm hmplaced hfits
    obtain ⟨hwrite, hmlexed, hcuts⟩ := id hspec
    have hends : m.EndsBefore w.locale (ms.flatMap (w.text base)) := by
      cases m with
      | space blanks =>
        refine hlexed.stopsAt_isBlank hscans fun m' hm' => ?_
        obtain ⟨m'', hm'', hspace⟩ := hmeets
        cases Option.mem_unique hm' hm''
        exact hspace
      | atom a => exact writesMarks_text.terminated hl hlegible hmeets
      | operator op => exact hlexed.endsOperator hl hscans hmeets
      | _ => trivial
    rw [List.flatMap_cons, hspec.text_eq]
    refine ⟨?_, xs ++ ys, .cons hmlexed hlexed, hcuts _ _ hends hscans⟩
    rw [marks, hwrite, hwritten]
    rfl

/-- Nothing is written for an omitted argument. -/
lemma marks_filter (ms : List Mark) : w.marks base (ms.filter Mark.isWritten) = w.marks base ms := by
  induction ms with
  | nil => rfl
  | cons m ms ih =>
    by_cases hm : m = .atom .omitted
    · subst hm
      have hskip : w.marks base (.atom .omitted :: ms) = w.marks base ms := by
        rw [marks]
        cases w.marks base ms <;> rfl
      rw [hskip, ← ih]
      rfl
    · have hm : m.isWritten = true := by simpa [Mark.isWritten] using hm
      rw [List.filter_cons_of_pos hm, marks, marks, ih]

/-- A formula is written like the marks of its tree behind an equals sign. -/
lemma write_eq (t : Tree) (base : Cell) :
    w.write t base = w.marks base (.operator .equal :: t.spelling) := by
  have hspelling : w.marks base t.marks = w.marks base t.spelling := (marks_filter t.marks).symm
  rw [write, hspelling, marks]
  cases w.marks base t.spelling <;> rfl

end Wording

end GridFormula
