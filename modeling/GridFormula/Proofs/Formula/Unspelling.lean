import GridFormula.Proofs.Formula.Atoms
import GridFormula.Proofs.Formula.Mapping

/-!
# A canonical tree is told by what it spells

An edited formula need not be one that can be read in some cell: its references may reach beyond
every sheet. But how a tree is grouped does not depend on its atoms. With a number in the place of
each atom there are lexemes that make the marks of the tree, and the reader finds the tree of the
numbers again. If the numbers tell the atoms apart, the atoms can be put back.
-/

namespace GridFormula

/-! ## Numbers for atoms -/

namespace Atom

/-- The number that stands for an atom: as many digits as atoms stand in front of it in a list. -/
def numbered (as : List Atom) (a : Atom) : Atom :=
  if a = .omitted then .omitted else .number (List.replicate (as.idxOf a) '0')

/-- The atom that a number stands for. -/
def unnumbered (as : List Atom) : Atom → Atom
  | number digits => as.getD digits.length .omitted
  | a => a

variable {as : List Atom} {a : Atom}

/-- Only an omitted atom is not given a number. -/
lemma numbered_eq_omitted_iff : numbered as a = .omitted ↔ a = .omitted := by
  unfold numbered
  split <;> simp_all

/-- An atom that is not omitted is given a number. -/
lemma exists_number_of_ne_omitted (as : List Atom) (h : a ≠ .omitted) :
    ∃ digits, numbered as a = .number digits :=
  ⟨_, if_neg h⟩

/-- Of the atoms in the list, each is the one that its number stands for. -/
lemma unnumbered_numbered (h : a ∈ as) : unnumbered as (numbered as a) = a := by
  unfold numbered
  split
  · next homitted =>
    rw [homitted]
    rfl
  · have hlt : as.idxOf a < as.length := List.idxOf_lt_length_iff.mpr h
    rw [unnumbered, List.length_replicate, List.getD_eq_getElem?_getD,
      List.getElem?_eq_getElem hlt, Option.getD_some, List.getElem_idxOf]

end Atom

/-- The numbers given to the atoms of a tree lead back to them. -/
lemma Tree.mapAtoms_numbered {as : List Atom} {t : Tree} (h : ∀ a ∈ t.atoms, a ∈ as) :
    (t.mapAtoms (Atom.numbered as)).mapAtoms (Atom.unnumbered as) = t := by
  rw [mapAtoms_mapAtoms]
  exact mapAtoms_eq_self fun a ha => Atom.unnumbered_numbered (h a ha)

/-! ## Lexemes for marks -/

section

variable {site : Site} {n : Nesting} {b : Bool} {m : Mark} {ms : List Mark}

/-- The mark is no other atom than a number. -/
def Mark.IsNumbered (m : Mark) : Prop :=
  ∀ a, m = .atom a → ∃ digits, a = .number digits

/-- One lexeme makes a mark that is no other atom than a number. It has the blanks in front that
the mark has a place for. -/
lemma exists_lexeme_of_mark (site : Site) (hfits : m.fits n = true)
    (hspace : m.isSpace = false) (hnumber : m.IsNumbered) {lead : Option Text}
    (hlead : lead ≠ none → ∀ s ∈ m.symbol?, s.isTight = false ∧ (s = .argumentSeparator → b = true)) :
    ∃ x : Spaced, x.lead = lead ∧ site.mark? x = some m ∧ (∀ w, x.symbol ≠ .cell w) ∧
      (x.symbol = .argumentSeparator ↔ m = .argumentSeparator) ∧ ∀ xs, x.Neat b xs := by
  -- The only atoms here are numbers, and every other mark has a symbol of its own.
  by_cases hatom : ∃ a, m = .atom a
  · obtain ⟨a, rfl⟩ := hatom
    obtain ⟨digits, rfl⟩ := hnumber a rfl
    exact ⟨⟨lead, .number digits, []⟩, rfl, rfl, nofun, ⟨nofun, nofun⟩, fun xs =>
      ⟨nofun, nofun, nofun, nofun⟩⟩
  · obtain ⟨s, hs⟩ : ∃ s, m.symbol? = some s := by
      cases m with
      | space blanks => cases hspace
      | atom a => exact absurd ⟨a, rfl⟩ hatom
      | _ => exact ⟨_, rfl⟩
    have hseparator : s = .argumentSeparator ↔ m = .argumentSeparator := by
      constructor <;> rintro rfl
      · cases m <;> cases hs
        rfl
      · cases hs
        rfl
    have hblank : s ≠ .blank := by
      rintro rfl
      cases m <;> cases hs
    have hcolon : s ≠ .colon := by
      rintro rfl
      cases m <;> cases hs
      cases hfits
    refine ⟨⟨lead, s, []⟩, rfl, site.mark?_of_symbol? hs lead [], Mark.ne_cell_of_symbol? hs,
      hseparator, fun xs => ⟨hblank, fun htight => ?_, fun hargument hb => ?_,
      fun h => absurd h hcolon⟩⟩
    · by_contra hne
      cases htight.symm.trans (hlead hne s hs).1
    · by_contra hne
      cases hb.symm.trans ((hlead hne s hs).2 hargument)

/-- One more mark in front, with or without blanks. -/
lemma exists_neat_cons (lead : Option Text) (hfits : m.fits n = true) (hspace : m.isSpace = false)
    (hnumber : m.IsNumbered)
    (hlead : lead ≠ none → ∀ s ∈ m.symbol?, s.isTight = false ∧ (s = .argumentSeparator → b = true))
    (h : ∃ xs, Neat (m = .argumentSeparator) xs ∧ site.marks? xs = some ms) :
    ∃ xs, Neat b xs ∧ site.marks? xs = some (Mark.spaces lead ++ m :: ms) := by
  obtain ⟨x, rfl, hx, hcell, hseparator, hneatx⟩ :=
    exists_lexeme_of_mark site hfits hspace hnumber hlead
  obtain ⟨xs, hneat, hmarks⟩ := h
  refine ⟨x :: xs, ⟨hneatx xs, ?_⟩, Site.marks?_cons hx hmarks fun w hw => absurd hw (hcell w)⟩
  rwa [decide_eq_decide.mpr hseparator]

/-- Marks without other atoms than numbers are made by some lexemes. -/
lemma exists_neat (site : Site) :
    ∀ (ms : List Mark) {n : Nesting} {b : Bool}, Flows n ms → NeatMarks b ms →
      (∀ m ∈ ms, m.IsNumbered) → ∃ xs, Neat b xs ∧ site.marks? xs = some ms
  | [], _, _, _, _, _ => ⟨[], trivial, rfl⟩
  | m :: ms, n, b, ⟨hfits, hmeets, hflows⟩, ⟨hblanks, hneat⟩, hnumbered => by
    obtain ⟨hm, hms⟩ := List.forall_mem_cons.mp hnumbered
    cases hspace : m.isSpace with
    | false =>
      have hrest := exists_neat site ms hflows hneat hms
      exact exists_neat_cons none hfits hspace hm (fun h => absurd rfl h) hrest
    | true =>
      -- The blanks are made by the lexeme of the mark behind them.
      obtain ⟨blanks, rfl⟩ : ∃ blanks, m = .space blanks := by
        cases m <;> first | exact ⟨_, rfl⟩ | cases hspace
      cases ms with
      | nil => exact absurd hmeets (by rintro ⟨m, ⟨⟩, -⟩)
      | cons m' ms =>
        obtain ⟨_, ⟨⟩, hspace'⟩ := hmeets
        obtain ⟨hm', hms'⟩ := List.forall_mem_cons.mp hms
        have hrest := exists_neat site ms hflows.2.2 hneat.2 hms'
        exact exists_neat_cons (some blanks) hflows.1 hspace' hm'
          (fun _ => hblanks rfl m' rfl) hrest

end

namespace Tree

/-- With numbers for its atoms a tree spells no other atoms. -/
lemma isNumbered_of_mem_spelling {as : List Atom} {t : Tree} :
    ∀ m ∈ (t.mapAtoms (Atom.numbered as)).spelling, m.IsNumbered := by
  rw [spelling_mapAtoms fun _ => Atom.numbered_eq_omitted_iff]
  intro m hm a ha
  obtain ⟨m₀, hm₀, rfl⟩ := List.mem_map.mp hm
  cases m₀ with
  | atom a₀ =>
    have hne : a₀ ≠ .omitted := by
      rintro rfl
      cases (List.mem_filter.mp hm₀).2
    obtain ⟨digits, hdigits⟩ := Atom.exists_number_of_ne_omitted as hne
    exact ⟨digits, (Mark.atom.inj ha).symm.trans hdigits⟩
  | _ => cases ha

/-- Two canonical trees that spell the same marks are the same tree. -/
theorem Canonical.eq_of_spelling_eq {s t : Tree} (hs : s.Canonical) (ht : t.Canonical)
    (hneat : NeatMarks false (.operator .equal :: s.spelling)) (h : s.spelling = t.spelling) :
    s = t := by
  let as := s.atoms ++ t.atoms
  let f := Atom.numbered as
  have hf : ∀ a, f a = .omitted ↔ a = .omitted := fun a => Atom.numbered_eq_omitted_iff
  -- The lexemes of the marks with numbers for the atoms.
  obtain ⟨xs, hneatxs, hxs⟩ : ∃ xs, Neat false xs ∧
      Site.marks? ⟨.unitedStates, ⟨fun _ => none, fun _ => none⟩, ⟨0, 0, 0⟩⟩ xs =
        some (.operator .equal :: (s.mapAtoms f).spelling) := by
    have hcanonical := hs.mapAtoms hf
    have hnext := hcanonical.next_spelling []
    rw [List.append_nil] at hnext
    refine exists_neat _ _ (n := .empty) ⟨rfl, hnext, hcanonical.flows⟩ ?_ ?_
    · rw [spelling_mapAtoms hf]
      exact hneat.map f
    · have hequal : (Mark.operator .equal).IsNumbered := by rintro a ⟨⟩
      exact List.forall_mem_cons.mpr ⟨hequal, isNumbered_of_mem_spelling⟩
  have hnumbers : s.mapAtoms f = t.mapAtoms f := by
    have hsame : (s.mapAtoms f).spelling = (t.mapAtoms f).spelling := by
      rw [spelling_mapAtoms hf, spelling_mapAtoms hf, h]
    have hreads := Reader.formula_of_marks? (hs.mapAtoms hf) hneatxs hxs
    rw [hsame] at hxs
    exact Except.ok.inj (hreads.symm.trans (Reader.formula_of_marks? (ht.mapAtoms hf) hneatxs hxs))
  have hback := congrArg (Tree.mapAtoms (Atom.unnumbered as)) hnumbers
  rwa [mapAtoms_numbered fun a ha => List.mem_append_left _ ha,
    mapAtoms_numbered fun a ha => List.mem_append_right _ ha] at hback

end Tree

end GridFormula
