import GridFormula.Grid.Sheets
import GridFormula.Proofs.Cache.Soundness
import GridFormula.Proofs.Formula.Resheeting

/-!
# Reading through the cache while the sheets change

Between two readings sheets may be added, removed and renamed. The cache keeps all its entries. An
entry was stored when the sheets were others, and it is given as long as the key of a text is its
key. Nothing that the text refers to can have changed then. Only the error value of a reference
without a meaning can be the one from before, and only if the reference names a sheet and reaches
beyond it.
-/

namespace GridFormula

/-- A workbook whose formulas are read through a cache. -/
structure CachedWorkbook (fold : Text → Text) where
  sheets : Sheets fold
  cache : Cache

/-- What can happen to the workbook. -/
inductive WorkbookStep where
  | read (c : Request)
  | addSheet (name : Text)
  | removeSheet (id : SheetId)
  | renameSheet (id : SheetId) (name : Text)

namespace CachedWorkbook

variable {fold : Text → Text} {l : Locale}

/-- The workbook after one step. Where a sheet cannot be removed or renamed it stays as it is. -/
def step (l : Locale) (b : CachedWorkbook fold) : WorkbookStep → CachedWorkbook fold
  | .read c => { b with cache := (c.readThrough l b.sheets.directory b.cache).2 }
  | .addSheet name => { b with sheets := (b.sheets.add name).2 }
  | .removeSheet id => { b with sheets := ((b.sheets.remove? id).map Prod.snd).getD b.sheets }
  | .renameSheet id name => { b with sheets := (b.sheets.rename? id name).getD b.sheets }

/-- The workbook after some steps, with nothing in its cache before them. -/
def run (l : Locale) (sheets : Sheets fold) (steps : List WorkbookStep) : CachedWorkbook fold :=
  steps.foldl (step l) ⟨sheets, .empty⟩

/-- The texts that are read in some steps have no offsets. -/
def NoOffsets (l : Locale) (steps : List WorkbookStep) : Prop :=
  ∀ c, .read c ∈ steps → hasOffset l c.text = false

end CachedWorkbook

namespace Cache

variable {l : Locale} {sheets : SheetNames} {s : Cache} {c : Request}

/-- Every entry is that of a formula without offsets, read with some sheets, and stands under the
key that the formula had with them. -/
def StoresFormulas (l : Locale) (s : Cache) : Prop :=
  ∀ key entry, s.get? key = some entry → ∃ (sheets : SheetNames) (c : Request),
    hasOffset l c.text = false ∧ (c.reading l sheets).isFormula = true ∧
      c.key? l sheets = some key ∧ entry = .ofTree l (c.reading l sheets).tree

/-- The empty cache stores nothing but formulas. -/
lemma storesFormulas_empty : StoresFormulas l .empty := nofun

/-- The entries that are there stay. -/
lemma StoresFormulas.of_get?_eq {s' : Cache} (h : s.StoresFormulas l)
    (hs : ∀ k, s'.get? k = s.get? k) : s'.StoresFormulas l := by
  intro key entry hentry
  rw [hs] at hentry
  exact h key entry hentry

/-- Reading one more text. -/
lemma StoresFormulas.read (h : s.StoresFormulas l) (sheets : SheetNames)
    (hfree : hasOffset l c.text = false) : (c.readThrough l sheets s).2.StoresFormulas l := by
  rw [Request.readThrough]
  cases hkey : c.key? l sheets with
  | none =>
    rw [read_of_no_key hkey]
    exact h
  | some key =>
    cases hentry : s.get? key with
    | some entry => exact h.of_get?_eq (read_of_stored hkey hentry).2
    | none =>
      cases hformula : (c.reading l sheets).isFormula with
      | false => exact h.of_get?_eq (read_of_fault hkey hentry hformula).2
      | true =>
        have hread := (Site.keyOf?_of_isFormula (c.site l sheets) hfree hformula).1
        have hplace : (c.reading l sheets).isPlaceBound = false := by rw [Request.reading, hread]
        have hget := (read_of_formula hkey hentry hformula hplace).2
        intro k entry hk
        rw [hget] at hk
        split at hk
        · next heq =>
          exact ⟨sheets, c, hfree, hformula, heq ▸ hkey, (Option.some.inj hk).symm⟩
        · exact h k entry hk

end Cache

/-! ## Formulas with one key in two workbooks -/

namespace Site

variable {text text' : Text}

/-- Of two formulas without offsets that have one key in two workbooks, the tree of one is that of
the other with the error values of its own workbook. -/
lemma tree_eq_mapAtoms_revalued (site : Site) (sheets : SheetNames) (base : Cell)
    (hl : site.locale.IsPreset) (hfree : hasOffset site.locale text = false)
    (hfree' : hasOffset site.locale text' = false) (h : (site.read text).isFormula = true)
    (h' : (read ⟨site.locale, sheets, base⟩ text').isFormula = true)
    (hkey : (site.read text).tree.key = (read ⟨site.locale, sheets, base⟩ text').tree.key) :
    (site.read text).tree = (read ⟨site.locale, sheets, base⟩ text').tree.mapAtoms
      (Atom.revalued site.locale site.sheets) := by
  rcases read_eq_cases site hfree with ⟨xs, t, hlex, ht, hread⟩ | hfault
  · rcases read_eq_cases ⟨site.locale, sheets, base⟩ hfree' with
      ⟨xs', t', hlex', ht', hread'⟩ | hfault'
    · rw [hread, hread'] at hkey ⊢
      exact Reader.eq_mapAtoms_revalued_of_key_eq hl hlex hlex' (symbol_ne_of_hasOffset hfree hlex)
        (symbol_ne_of_hasOffset hfree' hlex') ht ht' hkey
    · cases h'.symm.trans hfault'
  · cases h.symm.trans hfault

/-- The references without a meaning in the tree of a formula without offsets. -/
lemma unreadable_of_mem_atoms (site : Site) (hl : site.locale.IsPreset)
    (hfree : hasOffset site.locale text = false) (h : (site.read text).isFormula = true)
    {raw : Text} {e : ErrorValue} (hmem : .unreadable raw e ∈ (site.read text).tree.atoms) :
    Unreadable site.locale site.sheets raw e := by
  rcases read_eq_cases site hfree with ⟨xs, t, hlex, ht, hread⟩ | hfault
  · rw [hread] at hmem
    obtain ⟨m, hm, hatom⟩ := List.mem_filterMap.mp hmem
    obtain rfl : m = .atom (.unreadable raw e) := by
      cases m with
      | atom a => rw [Option.some.inj hatom]
      | _ => cases hatom
    have hspelling : .atom (.unreadable raw e) ∈ t.spelling :=
      List.mem_filter.mpr ⟨hm, isWritten_atom nofun⟩
    exact (legible_of_formula site hl hlex ht (symbol_ne_of_hasOffset hfree hlex) _ hspelling).2
  · cases h.symm.trans hfault

end Site

namespace Cache

variable {l : Locale} {sheets : SheetNames} {s : Cache} {c : Request}

/-- A formula is given its tree with the error values of some workbook. -/
lemma StoresFormulas.exists_sheets (h : s.StoresFormulas l) (hl : l.IsPreset)
    (hfree : hasOffset l c.text = false) (hformula : (c.reading l sheets).isFormula = true) :
    (c.readThrough l sheets s).1.faults = [] ∧ ∃ sheets',
      (c.readThrough l sheets s).1.entry =
        .ofTree l ((c.reading l sheets).tree.mapAtoms (Atom.revalued l sheets')) := by
  obtain ⟨hread, hkey⟩ := Site.keyOf?_of_isFormula (c.site l sheets) hfree hformula
  cases hentry : s.get? (c.reading l sheets).tree.key with
  | none =>
    have hplace : (c.reading l sheets).isPlaceBound = false := by rw [Request.reading, hread]
    have hself := Site.tree_eq_mapAtoms_revalued (c.site l sheets) sheets c.base hl hfree hfree
      hformula hformula rfl
    rw [Request.readThrough, (read_of_formula hkey hentry hformula hplace).1]
    exact ⟨rfl, sheets, congrArg (Entry.ofTree l) hself⟩
  | some entry =>
    obtain ⟨sheets', c', hfree', hformula', hkey', rfl⟩ := h _ entry hentry
    have htree' := (Site.keyOf?_of_isFormula (c'.site l sheets') hfree' hformula').2
    have htrees := Site.tree_eq_mapAtoms_revalued (c'.site l sheets') sheets c.base hl hfree' hfree
      hformula' hformula (Option.some.inj (htree'.symm.trans hkey'))
    rw [Request.readThrough, (read_of_stored hkey hentry).1]
    exact ⟨rfl, sheets', congrArg (Entry.ofTree l) htrees⟩

end Cache

namespace CachedWorkbook

variable {fold : Text → Text} {l : Locale}

/-- A step of the workbook leaves the cache storing formulas, if it reads none with offsets. -/
lemma storesFormulas_step {b : CachedWorkbook fold} (h : b.cache.StoresFormulas l)
    {step : WorkbookStep} (hfree : ∀ c, step = .read c → hasOffset l c.text = false) :
    (b.step l step).cache.StoresFormulas l := by
  cases step with
  | read c => exact h.read b.sheets.directory (hfree c rfl)
  | addSheet name => exact h
  | removeSheet id => exact h
  | renameSheet id name => exact h

/-- After any steps every entry is that of a formula. -/
lemma storesFormulas_run (sheets : Sheets fold) {steps : List WorkbookStep}
    (hfrees : NoOffsets l steps) : (run l sheets steps).cache.StoresFormulas l := by
  induction steps using List.reverseRecOn with
  | nil => exact Cache.storesFormulas_empty
  | append_singleton steps last ih =>
    rw [run, List.foldl_append]
    refine storesFormulas_step (ih fun c hc => hfrees c (List.mem_append_left _ hc)) ?_
    rintro c rfl
    exact hfrees c (List.mem_append_right _ (List.mem_singleton_self _))

/-- After any steps in which sheets may change, a formula without offsets is read without a fault.
What it is given depends on what the formula depends on, and has its tree, except that a reference
that names a sheet and reaches beyond it may have another error value. Where there is no such
reference, it is given exactly what it has without the cache. -/
theorem read_run_of_isFormula (hl : l.IsPreset) (sheets : Sheets fold) {steps : List WorkbookStep}
    (hfrees : NoOffsets l steps) {c : Request} (hfree : hasOffset l c.text = false)
    (hformula :
      (c.reading l (run l sheets steps).sheets.directory).isFormula = true) :
    let b := run l sheets steps
    let cached := (c.readThrough l b.sheets.directory b.cache).1
    let fresh := Entry.ofTree l (c.reading l b.sheets.directory).tree
    cached.faults = [] ∧ cached.entry.dependencies = fresh.dependencies ∧
      cached.entry.isVolatile = fresh.isVolatile ∧
      cached.entry.isStructural = fresh.isStructural ∧
      (∃ f, RevaluesOverreaching l f ∧ cached.entry.tree = fresh.tree.mapAtoms f) ∧
      ((∀ raw e, .unreadable raw e ∈ fresh.tree.atoms → ¬Overreaches l raw) →
        cached.entry = fresh) := by
  intro b cached fresh
  -- What is given was stored while the workbook had the sheets `sheets'`. Only error values tell
  -- these from the sheets of now.
  obtain ⟨hfaults, sheets', hentry⟩ :=
    (storesFormulas_run sheets hfrees).exists_sheets hl hfree hformula
  have hentry : cached.entry = .ofTree l (fresh.tree.mapAtoms (Atom.revalued l sheets')) := hentry
  obtain ⟨f, hf, htree⟩ := exists_revaluesOverreaching sheets' fun raw e hmem =>
    Site.unreadable_of_mem_atoms (c.site l b.sheets.directory) hl hfree hformula hmem
  have htree : fresh.tree.mapAtoms (Atom.revalued l sheets') = fresh.tree.mapAtoms f := htree
  refine ⟨hfaults, ?_, ?_, ?_, ⟨f, hf, ?_⟩, fun hraw => ?_⟩
  · rw [hentry]
    exact Tree.dependencies_mapAtoms_revalued l sheets' fresh.tree
  · rw [hentry, Entry.ofTree, Tree.functions_mapAtoms]
    rfl
  · rw [hentry, Entry.ofTree, Tree.functions_mapAtoms]
    rfl
  · rw [hentry, htree]
    rfl
  · rw [hentry, htree, hf.mapAtoms_eq_self hraw]
    rfl

/-- A sheet is added after a formula has named it, and then given another name. The formula is read
under that one, and is given the entry of the formula before it. -/
theorem read_run_of_isFormula_renamed :
    let l : Locale := .unitedStates
    let sheets : Sheets SheetName.folded := .ofNames ["S".toList]
    let before : Request := ⟨"=F!A1".toList, ⟨0, 1, 0⟩⟩
    let c : Request := ⟨"=B!A1".toList, ⟨0, 1, 0⟩⟩
    let steps : List WorkbookStep :=
      [.read before, .addSheet "F".toList, .read before, .renameSheet 1 "B".toList]
    let b := run l sheets steps
    l.IsPreset ∧ NoOffsets l steps ∧ hasOffset l c.text = false ∧
      (c.reading l b.sheets.directory).isFormula = true ∧
      (c.readThrough l b.sheets.directory b.cache).1.entry =
        .ofTree l (c.reading l b.sheets.directory).tree := by
  intro l sheets before c steps b
  have hl : l.IsPreset := Or.inl rfl
  have hfrees : NoOffsets l steps := by
    have hbefore : hasOffset l before.text = false := by decide +kernel
    intro c hc
    simp only [steps, List.mem_cons, WorkbookStep.read.injEq, reduceCtorEq, List.not_mem_nil,
      false_or, or_false] at hc
    rcases hc with rfl | rfl <;> exact hbefore
  have hfree : hasOffset l c.text = false := by decide +kernel
  have hformula : (c.reading l b.sheets.directory).isFormula = true := by decide +kernel
  have hatoms : (c.reading l b.sheets.directory).tree.atoms =
      [.cell ⟨⟨.relative, -1⟩, ⟨.relative, 0⟩, some 1⟩] := by decide +kernel
  have hraw : ∀ raw e, .unreadable raw e ∈ (c.reading l b.sheets.directory).tree.atoms →
      ¬Overreaches l raw := by
    intro raw e hmem
    rw [hatoms] at hmem
    cases List.mem_singleton.mp hmem
  exact ⟨hl, hfrees, hfree, hformula,
    (read_run_of_isFormula hl sheets hfrees hfree hformula).2.2.2.2.2 hraw⟩

/-- The sheet that a formula names is added after it was read. The reference still means nothing,
because it reaches beyond the sheet, but the error value is another one. The formula is given the
one from before. -/
theorem exists_read_run_ne :
    let l : Locale := .unitedStates
    let sheets : Sheets SheetName.folded := .ofNames ["S".toList]
    let c : Request := ⟨"=F!XFE1".toList, ⟨0, 1, 0⟩⟩
    let b := run l sheets [.read c, .addSheet "F".toList]
    hasOffset l c.text = false ∧ (c.reading l sheets.directory).isFormula = true ∧
      (c.reading l b.sheets.directory).isFormula = true ∧
      (c.readThrough l b.sheets.directory b.cache).1.entry.tree =
        .atom none (.unreadable "F!XFE1".toList .lostReference) ∧
      (c.reading l b.sheets.directory).tree =
        .atom none (.unreadable "F!XFE1".toList .unknownName) := by
  decide +kernel

end CachedWorkbook

end GridFormula
