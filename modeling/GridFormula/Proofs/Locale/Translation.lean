import GridFormula.Proofs.Edit.Keys
import GridFormula.Proofs.Formula.Placed

/-!
# Formulas in another locale

A formula that is read in one locale and written in the other one keeps its numbers, error values
and separators, each in the words of that locale. Its functions are kept only as far as the other
locale has a word for them. A function without an entry in the table is written by its canonical
name, and where this is the local name of another function, the text calls the other function. This
is the only way in which a formula can be changed.
-/

namespace GridFormula

open Scan

/-! ## Names of functions -/

namespace Locale.IsPreset

variable {l l' : Locale}

/-- Sheets have one size in both locales. -/
lemma count_eq (hl : l.IsPreset) (hl' : l'.IsPreset) (axis : Axis) :
    l.count axis = l'.count axis := by
  rcases hl with rfl | rfl <;> rcases hl' with rfl | rfl <;> rfl

/-- The sheets of the presets are no greater than an offset can bear. -/
lemma count_le (hl : l.IsPreset) : l.rowCount ≤ 0x80000000 ∧ l.columnCount ≤ 0x80000000 := by
  rcases hl with rfl | rfl <;> decide

/-- The presets have the same blanks. -/
lemma isBlank_eq (hl : l.IsPreset) (hl' : l'.IsPreset) : l.isBlank = l'.isBlank := by
  rcases hl with rfl | rfl <;> rcases hl' with rfl | rfl <;> rfl

/-- No canonical name is the local name of another function. -/
lemma not_takes_canonicalName (hl : l.IsPreset) (name : Text) : ¬l.Takes (l.canonicalName name) := by
  have htable : ∀ entry ∈ l.functionNames, ¬l.Takes entry.2 := by
    rcases hl with rfl | rfl <;> decide
  rcases l.canonicalName_cases name with hentry | ⟨hnot, heq⟩
  · exact htable _ hentry
  · rwa [heq]

/-- A canonical name below U+0080 is a name in upper case. -/
lemma canonicalName_spec (hl : l.IsPreset) {word : Text} (h : NameText word)
    (hascii : Text.IsAscii (l.canonicalName word)) :
    NameText (l.canonicalName word) ∧ Text.upper (l.canonicalName word) = l.canonicalName word := by
  have htable : ∀ entry ∈ l.functionNames,
      isNameText entry.2 = true ∧ Text.upper entry.2 = entry.2 := by
    rcases hl with rfl | rfl <;> decide
  rcases l.canonicalName_cases word with hentry | ⟨-, heq⟩
  · obtain ⟨hname, hupper⟩ := htable _ hentry
    exact ⟨nameText_of_isNameText hname, hupper⟩
  · rw [heq] at hascii ⊢
    exact ⟨nameText_upper h hascii, Text.upper_upper hascii⟩

end Locale.IsPreset

/-! ## Marks in another locale -/

namespace Site

variable {l l' : Locale} {sheets : SheetNames} {base : Cell}

/-- Of a locale, only the size of a sheet matters for references. -/
lemma coord?_of_count_eq (h : ∀ axis, l.count axis = l'.count axis) :
    coord? ⟨l, sheets, base⟩ = coord? ⟨l', sheets, base⟩ := by
  funext axis w
  simp only [coord?, h]

/-- Where sheets are equally large, a written cell means the same. -/
lemma cell_of_count_eq (h : ∀ axis, l.count axis = l'.count axis) (w : WrittenCell) (raw : Text) :
    cell ⟨l, sheets, base⟩ w raw = cell ⟨l', sheets, base⟩ w raw := by
  simp only [cell, cellRef?, writtenSheet, coord?_of_count_eq h]

/-- Where sheets are equally large, two written cells mean the same. -/
lemma cells?_of_count_eq (h : ∀ axis, l.count axis = l'.count axis) (a b : WrittenCell)
    (raw : Text) : cells? ⟨l, sheets, base⟩ a b raw = cells? ⟨l', sheets, base⟩ a b raw := by
  simp only [cells?, area?, cellRef?, writtenSheet, coord?_of_count_eq h]

/-- Where sheets are equally large, a written run of lines means the same. -/
lemma lines?_of_count_eq (h : ∀ axis, l.count axis = l'.count axis) (axis : Axis)
    (a b : WrittenLine) (raw : Text) :
    lines? ⟨l, sheets, base⟩ axis a b raw = lines? ⟨l', sheets, base⟩ axis a b raw := by
  simp only [lines?, area?, lineRef?, writtenSheet, coord?_of_count_eq h]

end Site

section

variable {l l' : Locale} {sheets : SheetNames}

/-- A reference that means nothing in one locale means nothing in the other. -/
lemma Unreadable.translate {raw : Text} {e : ErrorValue} (h : Unreadable l sheets raw e)
    (hcount : ∀ axis, l.count axis = l'.count axis) : Unreadable l' sheets raw e := by
  cases h with
  | cell hraw hsite =>
    exact .cell hraw fun base => (Site.cell_of_count_eq hcount _ _).symm.trans (hsite base)
  | cells hs ht hraw hsite =>
    exact .cells hs ht hraw fun base =>
      (Site.cells?_of_count_eq hcount _ _ _).symm.trans (hsite base)
  | lines hraw hsite =>
    exact .lines hraw fun base => (Site.lines?_of_count_eq hcount _ _ _ _).symm.trans (hsite base)

/-- Where sheets are equally large, an atom is legible in both locales. -/
lemma Atom.Legible.translate {a : Atom} (h : a.Legible l sheets)
    (hcount : ∀ axis, l.count axis = l'.count axis) : a.Legible l' sheets := by
  cases a with
  | unreadable raw e => exact Unreadable.translate h hcount
  | _ => exact h

/-- A mark stays legible in another locale unless it calls a function whose name is taken there. -/
lemma Mark.Legible.translate {m : Mark} (h : m.Legible l sheets) (hl : l.IsPreset)
    (hl' : l'.IsPreset) (hascii : ∀ f, m = .call f → Text.IsAscii f)
    (hfree : ∀ f, m = .call f → ¬l'.Takes f) : m.Legible l' sheets := by
  cases m with
  | space blanks => exact ⟨h.1, fun c hc => hl.isBlank_eq hl' ▸ h.2 c hc⟩
  | atom a => exact ⟨h.1, h.2.translate (hl.count_eq hl')⟩
  | call function =>
    obtain ⟨word, hword, rfl, hoffset⟩ := h
    obtain ⟨hname, hupper⟩ := hl.canonicalName_spec hword (hascii _ rfl)
    exact ⟨_, hname, (Locale.canonicalName_eq_self (hfree _ rfl) hupper).symm, hoffset⟩
  | _ => trivial

namespace Tree

/-- A legible tree is legible in the other preset if none of its functions is taken there. -/
lemma Legible.translate {t : Tree} (h : t.Legible l sheets) (hl : l.IsPreset) (hl' : l'.IsPreset)
    (hascii : ∀ f ∈ t.functions, Text.IsAscii f) (hfree : ∀ f ∈ t.functions, ¬l'.Takes f) :
    t.Legible l' sheets where
  canonical := h.canonical
  neat := h.neat
  marks m hm := by
    have hmem : ∀ f, m = .call f → f ∈ t.functions := by
      rintro f rfl
      exact List.mem_filterMap.mpr ⟨_, List.mem_of_mem_filter hm, rfl⟩
    exact (h.marks m hm).translate hl hl' (fun f hf => hascii f (hmem f hf))
      fun f hf => hfree f (hmem f hf)

end Tree

end

/-! ## Formulas in another locale -/

namespace Site

/-- The functions that a formula calls go by names that are not taken. -/
theorem not_takes_of_mem_functions (site : Site) (hl : site.locale.IsPreset) (text : Text) :
    ∀ f ∈ (site.read text).tree.functions, ¬site.locale.Takes f := by
  have hensures : site.Ensures fun _ => True := ⟨fun _ _ => trivial, fun _ => trivial,
    fun _ _ _ _ => trivial, fun _ _ _ => trivial, fun _ _ => trivial⟩
  refine (consistsOf_read hensures fun xs hlex x hx f hf => ?_).functions
  obtain ⟨hwritten, -⟩ := isWritten_spaced hl.noDollar hlex
  obtain ⟨-, hsymbol⟩ := hwritten x hx
  rw [hf] at hsymbol
  obtain ⟨word, -, rfl, -⟩ := hsymbol
  exact hl.not_takes_canonicalName word

/-- A formula without offsets that calls functions with names below U+0080 is read in one locale and
written in its cell in another one. It can always be written, and the text is read as the same tree
if and only if no function that it calls goes by a name which is taken in the other locale. -/
theorem read_write_translated_iff {fold : Text → Text} {book : Sheets fold} {l l' : Locale}
    {base : Cell} {text : Text} (hbook : book.IsReachable) (hl : l.IsPreset) (hl' : l'.IsPreset)
    (hfree : hasOffset l text = false)
    (hformula : (Site.read ⟨l, book.directory, base⟩ text).isFormula = true)
    (hascii : ∀ f ∈ (Site.read ⟨l, book.directory, base⟩ text).tree.functions, Text.IsAscii f) :
    let t := (Site.read ⟨l, book.directory, base⟩ text).tree
    ∃ s, Wording.write ⟨l', book.directory, fun _ _ => none⟩ t base = .ok s ∧
      (Site.read ⟨l', book.directory, base⟩ s = ⟨t, [], false⟩ ↔ ∀ f ∈ t.functions, ¬l'.Takes f) := by
  intro t
  let w : Wording := ⟨l', book.directory, fun _ _ => none⟩
  have hnames : w.sheets.IsConsistent := hbook.isConsistent
  have hlegible : t.Legible l book.directory :=
    legible_read ⟨l, book.directory, base⟩ hl hfree hformula
  have hplaced : ∀ a ∈ t.atoms, a.IsPlaced w base :=
    isPlaced_read ⟨l, book.directory, base⟩ rfl hbook.isComplete_directory (hl.count_eq hl')
      hl.count_le.1 hl.count_le.2 text
  obtain ⟨s, hs⟩ := Wording.exists_write_eq_ok (w := w) (fun a ha => (hplaced a ha).isKnown) base
  -- Reading never gives a function whose name is taken, whatever the text. So the condition is
  -- needed; that it is enough follows as for any text that is written.
  refine ⟨s, hs, fun hread => ?_, fun htakes => ?_⟩
  · have hfunctions := not_takes_of_mem_functions ⟨l', book.directory, base⟩ hl' s
    rwa [hread] at hfunctions
  · obtain ⟨s', hs', hread, -⟩ := (hlegible.translate hl hl' hascii htakes).read_write (w := w) hl'
      hnames (fun _ _ => rfl) hascii hplaced
    obtain rfl : s' = s := Except.ok.inj (hs'.symm.trans hs)
    exact hread

/-- A formula of the United States is written in German, where `FOO` has no word of its own. -/
theorem read_write_translated_iff_german :
    let book : Sheets (List.map Char.toUpper) := (Sheets.empty.add "Data".toList).2
    let base : Cell := ⟨0, 4, 4⟩
    let text := "=SUM(1.5, \x7b1,2;3,#N/A\x7d,Foo(Data!B$1:C3))%&E5".toList
    let t := (Site.read ⟨.unitedStates, book.directory, base⟩ text).tree
    let w : Wording := ⟨.germany, book.directory, fun _ _ => none⟩
    let german := "=SUMME(1,5; \x7b1\\2;3\\#NV\x7d;FOO(Data!B$1:C3))%&E5".toList
    book.IsReachable ∧ Locale.unitedStates.IsPreset ∧ Locale.germany.IsPreset ∧
      hasOffset .unitedStates text = false ∧
      (Site.read ⟨.unitedStates, book.directory, base⟩ text).isFormula = true ∧
      (∀ f ∈ t.functions, Text.IsAscii f) ∧ (∀ f ∈ t.functions, ¬Locale.germany.Takes f) ∧
      w.write t base = .ok german ∧
      Site.read ⟨.germany, book.directory, base⟩ german = ⟨t, [], false⟩ := by
  intro book base text t w german
  have hbook : book.IsReachable := .add _ .empty
  have hfree : hasOffset .unitedStates text = false := by decide +kernel
  have hformula : (Site.read ⟨.unitedStates, book.directory, base⟩ text).isFormula = true := by
    decide +kernel
  have hascii : ∀ f ∈ t.functions, Text.IsAscii f := by decide +kernel
  have htakes : ∀ f ∈ t.functions, ¬Locale.germany.Takes f := by decide +kernel
  have hwrite : w.write t base = .ok german := by decide +kernel
  obtain ⟨s, hs, hread⟩ :=
    read_write_translated_iff hbook (Or.inl rfl) (Or.inr rfl) hfree hformula hascii
  obtain rfl : s = german := Except.ok.inj (hs.symm.trans hwrite)
  exact ⟨hbook, Or.inl rfl, Or.inr rfl, hfree, hformula, hascii, htakes, hwrite, hread.mpr htakes⟩

/-- A function `SUMME` of the United States is written as it is called. In German this is the sum.
-/
theorem exists_read_write_translated_ne :
    let book : Sheets (List.map Char.toUpper) := (Sheets.empty.add "Data".toList).2
    let base : Cell := ⟨0, 0, 0⟩
    let text := "=SUMME(1)".toList
    let t := (Site.read ⟨.unitedStates, book.directory, base⟩ text).tree
    book.IsReachable ∧ hasOffset .unitedStates text = false ∧
      (Site.read ⟨.unitedStates, book.directory, base⟩ text).isFormula = true ∧
      (∀ f ∈ t.functions, Text.IsAscii f) ∧
      ∃ s, Wording.write ⟨.germany, book.directory, fun _ _ => none⟩ t base = .ok s ∧
        (Site.read ⟨.germany, book.directory, base⟩ s).isFormula = true ∧
        (Site.read ⟨.germany, book.directory, base⟩ s).tree.functions = ["SUM".toList] ∧
        (Site.read ⟨.germany, book.directory, base⟩ s).tree ≠ t := by
  intro book base text t
  exact ⟨.add _ .empty, by decide +kernel, by decide +kernel, by decide +kernel, text,
    by decide +kernel, by decide +kernel, by decide +kernel, by decide +kernel⟩

end Site

end GridFormula
