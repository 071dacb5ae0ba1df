import GridFormula.Cache.ArrayFormula
import GridFormula.Proofs.Cache.Soundness
import GridFormula.Proofs.Edit.Keys

/-!
# Rewriting at once and rewriting later

Array formulas are rewritten with every edit, through the cache: a changed tree is replaced by the
one that has its key. Other formulas are brought up to date when they are needed, from the history
of edits and without the cache. Both come to the same. All trees in the cache are legible, those
that were read and those that come from edits, so a tree with the key of another one is that tree.
A formula can also be brought up to date in several steps, with other edits made in between.
-/

namespace GridFormula

/-! ## Caches whose trees are legible -/

namespace Cache

variable {l : Locale} {sheets : SheetNames} {s : Cache}

/-- Every entry has a legible tree and stands under its key. -/
def HoldsLegible (l : Locale) (sheets : SheetNames) (s : Cache) : Prop :=
  ∀ key entry, s.get? key = some entry → entry.tree.Legible l sheets ∧ key = entry.tree.key

/-- The empty cache holds nothing illegible. -/
lemma holdsLegible_empty : HoldsLegible l sheets .empty := nofun

/-- The entries that are there stay. -/
lemma HoldsLegible.of_get?_eq {s' : Cache} (h : s.HoldsLegible l sheets)
    (hs : ∀ k, s'.get? k = s.get? k) : s'.HoldsLegible l sheets := by
  intro key entry hentry
  rw [hs] at hentry
  exact h key entry hentry

/-- A legible tree is put in under its key. -/
lemma HoldsLegible.of_get?_eq_ite {s' : Cache} {t : Tree} (h : s.HoldsLegible l sheets)
    (ht : t.Legible l sheets)
    (hs : ∀ k, s'.get? k = if k = t.key then some (.ofTree l t) else s.get? k) :
    s'.HoldsLegible l sheets := by
  intro key entry hentry
  rw [hs] at hentry
  split at hentry
  · next hkey =>
    cases hentry
    exact ⟨ht, hkey⟩
  · exact h key entry hentry

/-- A legible tree is kept as it is, whatever has been stored before it. -/
theorem HoldsLegible.remember (h : s.HoldsLegible l sheets) (hl : l.IsPreset) {t : Tree}
    (ht : t.Legible l sheets) :
    (s.remember l t).1.tree = t ∧ (s.remember l t).2.HoldsLegible l sheets := by
  rw [Cache.remember]
  cases hentry : s.get? t.key with
  | none =>
    obtain ⟨htree, hget⟩ := insert_of_get?_eq_none l t hentry
    exact ⟨by rw [htree]; rfl, h.of_get?_eq_ite ht hget⟩
  | some entry =>
    obtain ⟨hlegible, hkey⟩ := h _ entry hentry
    have hinsert : s.insert l t.key t = (entry, s) := by rw [insert, hentry]
    rw [hinsert]
    exact ⟨hlegible.eq_of_key_eq hl ht hkey.symm, h⟩

/-- Reading a text without offsets keeps all trees legible. A tree that is given for it without a
fault is legible too. -/
theorem HoldsLegible.read (h : s.HoldsLegible l sheets) (hl : l.IsPreset) {c : Request}
    (hfree : hasOffset l c.text = false) :
    (c.readThrough l sheets s).2.HoldsLegible l sheets ∧
      ((c.readThrough l sheets s).1.faults = [] →
        (c.readThrough l sheets s).1.entry.tree.Legible l sheets) := by
  have hunstored : (c.reading l sheets).faults = [] → (c.reading l sheets).tree.Legible l sheets :=
    fun hfaults => Site.legible_read (c.site l sheets) hl hfree (List.isEmpty_iff.mpr hfaults)
  rw [Request.readThrough]
  cases hkey : c.key? l sheets with
  | none =>
    rw [read_of_no_key hkey]
    exact ⟨h, hunstored⟩
  | some key =>
    cases hentry : s.get? key with
    | some entry =>
      obtain ⟨hread, hget⟩ := read_of_stored hkey hentry
      rw [hread]
      exact ⟨h.of_get?_eq hget, fun _ => (h key entry hentry).1⟩
    | none =>
      cases hformula : (c.reading l sheets).isFormula with
      | false =>
        obtain ⟨hread, hget⟩ := read_of_fault hkey hentry hformula
        rw [hread]
        exact ⟨h.of_get?_eq hget, hunstored⟩
      | true =>
        obtain ⟨hnew, htree⟩ := Site.keyOf?_of_isFormula (c.site l sheets) hfree hformula
        have hplace : (c.reading l sheets).isPlaceBound = false := by rw [Request.reading, hnew]
        have hlegible := hunstored (List.isEmpty_iff.mp hformula)
        obtain ⟨hread, hget⟩ := read_of_formula hkey hentry hformula hplace
        obtain rfl := Option.some.inj (hkey.symm.trans htree)
        rw [hread]
        exact ⟨h.of_get?_eq_ite hlegible hget, fun _ => hlegible⟩

end Cache

/-! ## Edits -/

/-- A formula in its cell after some edits, without the cache. -/
def FormulaCell.after (edits : List Edit) (c : FormulaCell) : FormulaCell :=
  let (tree, address) := Edit.applyAll edits (c.tree, c.address)
  ⟨tree, address⟩

namespace Cache

variable {l : Locale} {sheets : SheetNames} {s : Cache} {cells : List FormulaCell}

/-- Through the cache a formula becomes what it becomes without it. -/
lemma HoldsLegible.rewrite (h : s.HoldsLegible l sheets) (hl : l.IsPreset) (e : Edit)
    {c : FormulaCell} (hc : c.tree.Legible l sheets) :
    (s.rewrite l e c).1.cell = c.after [e] ∧ (s.rewrite l e c).2.HoldsLegible l sheets := by
  have hedited : (e.rewriting.tree c.tree c.address).Legible l sheets :=
    hc.applyAll [e] c.address
  obtain ⟨htree, hs⟩ := h.remember hl hedited
  have hafter : c.after [e] =
      ⟨e.rewriting.tree c.tree c.address, e.rewriting.place c.address⟩ := rfl
  rw [hafter]
  unfold Cache.rewrite
  dsimp only
  split
  · next hsame => exact ⟨by rw [hsame], h⟩
  · exact ⟨by rw [htree], hs⟩

/-- The same for formulas one after the other. -/
lemma HoldsLegible.rewriteAll (h : s.HoldsLegible l sheets) (hl : l.IsPreset) (e : Edit)
    (hcells : ∀ c ∈ cells, c.tree.Legible l sheets) :
    (s.rewriteAll l e cells).1.map RewrittenCell.cell = cells.map (FormulaCell.after [e]) ∧
      (s.rewriteAll l e cells).2.HoldsLegible l sheets := by
  induction cells generalizing s with
  | nil => exact ⟨rfl, h⟩
  | cons c cells ih =>
    obtain ⟨hc, hcells⟩ := List.forall_mem_cons.mp hcells
    obtain ⟨hcell, hs⟩ := h.rewrite hl e hc
    obtain ⟨hrest, hs⟩ := ih hs hcells
    exact ⟨congrArg₂ List.cons hcell hrest, hs⟩

/-- Rewrites formulas with some edits, all formulas with each edit. -/
def rewriteEach (s : Cache) (l : Locale) :
    List Edit → List FormulaCell → List FormulaCell × Cache
  | [], cells => (cells, s)
  | e :: edits, cells =>
    let (rewritten, s) := s.rewriteAll l e cells
    s.rewriteEach l edits (rewritten.map RewrittenCell.cell)

/-- With each edit all formulas are rewritten as without the cache. -/
lemma HoldsLegible.rewriteEach (h : s.HoldsLegible l sheets) (hl : l.IsPreset)
    (edits : List Edit) (hcells : ∀ c ∈ cells, c.tree.Legible l sheets) :
    (s.rewriteEach l edits cells).1 = cells.map (FormulaCell.after edits) ∧
      (s.rewriteEach l edits cells).2.HoldsLegible l sheets := by
  induction edits generalizing s cells with
  | nil => exact ⟨(List.map_id cells).symm, h⟩
  | cons e edits ih =>
    obtain ⟨hrewritten, hs⟩ := h.rewriteAll hl e hcells
    have hlegible : ∀ c ∈ cells.map (FormulaCell.after [e]), c.tree.Legible l sheets := by
      intro c hc
      obtain ⟨c₀, hc₀, rfl⟩ := List.mem_map.mp hc
      exact (hcells c₀ hc₀).applyAll [e] c₀.address
    have hrest := ih hs hlegible
    rw [List.map_map] at hrest
    rw [Cache.rewriteEach]
    dsimp only
    rw [hrewritten]
    exact hrest

end Cache

/-! ## Catching up in steps -/

namespace History

/-- The history when it had a version. -/
def upTo (h : History) (version : Nat) : History :=
  ⟨h.edits.take version⟩

/-- Brings a formula up to date when the history has the versions `stops`, and once more now. -/
def catchUp (h : History) : Nat → List Nat → Tree × Cell → Tree × Cell
  | version, [], formula => h.bringUpToDate version formula
  | version, stop :: stops, formula =>
    h.catchUp stop stops ((h.upTo stop).bringUpToDate version formula)

/-- The edits since a version are those up to a later one and those since then. -/
lemma since_upTo_append (h : History) {version stop : Nat} (hle : version ≤ stop) :
    (h.upTo stop).since version ++ h.since stop = h.since version := by
  have hsplit : stop = version + (stop - version) := by omega
  rw [since, since, since, upTo, List.drop_take]
  nth_rewrite 2 [hsplit]
  rw [← List.drop_drop, List.take_append_drop]

/-- One stop makes no difference. -/
lemma bringUpToDate_upTo (h : History) {version stop : Nat} (hle : version ≤ stop)
    (formula : Tree × Cell) :
    h.bringUpToDate stop ((h.upTo stop).bringUpToDate version formula) =
      h.bringUpToDate version formula := by
  rw [bringUpToDate, bringUpToDate, bringUpToDate, ← h.since_upTo_append hle, Edit.applyAll,
    Edit.applyAll, Edit.applyAll, List.foldl_append]

/-- However often a formula is brought up to date on the way, it becomes the same. -/
theorem catchUp_eq_bringUpToDate (h : History) {version : Nat} {stops : List Nat}
    (hstops : (version :: stops).IsChain (· ≤ ·)) (formula : Tree × Cell) :
    h.catchUp version stops formula = h.bringUpToDate version formula := by
  induction stops generalizing version formula with
  | nil => rfl
  | cons stop stops ih =>
    obtain ⟨hle, hstops⟩ := List.isChain_cons_cons.mp hstops
    rw [catchUp, ih hstops, h.bringUpToDate_upTo hle]

/-- Edits are recorded in their order. -/
lemma foldl_record (edits : List Edit) (h : History) :
    edits.foldl record h = ⟨h.edits ++ edits⟩ := by
  induction edits generalizing h with
  | nil => rw [List.append_nil, List.foldl_nil]
  | cons e edits ih =>
    rw [List.foldl_cons, ih, record, List.append_assoc, List.singleton_append]

end History

/-! ## Caches in use -/

/-- The tree that a reading through the cache gives, if it has no fault. -/
def CachedReading.tree? (r : CachedReading) : Option Tree :=
  if r.faults.isEmpty then some r.entry.tree else none

namespace Cache

variable {l : Locale} {sheets : SheetNames} {s : Cache} {ts : List Tree}

/-- The cache was filled by reading texts without offsets and by rewriting formulas whose trees it
had given. It is listed which trees it has given. -/
inductive Filled (l : Locale) (sheets : SheetNames) : Cache → List Tree → Prop where
  | empty : Filled l sheets .empty []
  | read {s : Cache} {ts : List Tree} (c : Request) :
    Filled l sheets s ts → hasOffset l c.text = false →
      Filled l sheets (c.readThrough l sheets s).2
        ((c.readThrough l sheets s).1.tree?.toList ++ ts)
  | rewrite {s : Cache} {ts : List Tree} (e : Edit) (cells : List FormulaCell) :
    Filled l sheets s ts → (∀ c ∈ cells, c.tree ∈ ts) →
      Filled l sheets (s.rewriteAll l e cells).2
        ((s.rewriteAll l e cells).1.map (fun c => c.cell.tree) ++ ts)

/-- All trees in the cache are legible, and all that it has given. -/
theorem Filled.holdsLegible (h : Filled l sheets s ts) (hl : l.IsPreset) :
    s.HoldsLegible l sheets ∧ ∀ t ∈ ts, t.Legible l sheets := by
  -- What has been given out belongs to the invariant, because rewriting starts from it.
  induction h with
  | empty => exact ⟨holdsLegible_empty, fun t ht => absurd ht List.not_mem_nil⟩
  | read c _ hfree ih =>
    obtain ⟨hs, hts⟩ := ih
    obtain ⟨hs, hgiven⟩ := hs.read hl hfree
    refine ⟨hs, List.forall_mem_append.mpr ⟨fun t ht => ?_, hts⟩⟩
    rw [Option.mem_toList, CachedReading.tree?] at ht
    split at ht
    · next hfaults =>
      cases ht
      exact hgiven (List.isEmpty_iff.mp hfaults)
    · cases ht
  | rewrite e cells _ hcells ih =>
    obtain ⟨hs, hts⟩ := ih
    have hlegible : ∀ c ∈ cells, c.tree.Legible l sheets := fun c hc => hts _ (hcells c hc)
    obtain ⟨hrewritten, hs⟩ := hs.rewriteAll hl e hlegible
    refine ⟨hs, List.forall_mem_append.mpr ⟨fun t ht => ?_, hts⟩⟩
    obtain ⟨c, hc, rfl⟩ := List.mem_map.mp ht
    have hmem := List.mem_map_of_mem (f := RewrittenCell.cell) hc
    rw [hrewritten] at hmem
    obtain ⟨c₀, hc₀, hcell⟩ := List.mem_map.mp hmem
    rw [← hcell]
    exact (hlegible c₀ hc₀).applyAll [e] c₀.address

/-- Formulas with trees from the cache are rewritten through the cache, with each of some edits in
turn. Then each becomes what it is when it is brought up to date, once and without the cache, from
the history of these edits. From this history a formula can also be brought up to date in several
steps, with stops at any versions on the way. -/
theorem rewriteEach_eq_bringUpToDate (hl : l.IsPreset) (hs : Filled l sheets s ts)
    {cells : List FormulaCell} (hcells : ∀ c ∈ cells, c.tree ∈ ts) (edits : List Edit) :
    let h := edits.foldl History.record .empty
    (s.rewriteEach l edits cells).1 = cells.map (fun c =>
        ⟨(h.bringUpToDate 0 (c.tree, c.address)).1, (h.bringUpToDate 0 (c.tree, c.address)).2⟩) ∧
      ∀ (formula : Tree × Cell) (version : Nat) (stops : List Nat),
        (version :: stops).IsChain (· ≤ ·) →
          h.catchUp version stops formula = h.bringUpToDate version formula := by
  intro h
  obtain ⟨hholds, hts⟩ := hs.holdsLegible hl
  have hedits : h = ⟨edits⟩ := History.foldl_record edits .empty
  refine ⟨?_, fun formula version stops hstops => h.catchUp_eq_bringUpToDate hstops formula⟩
  rw [(hholds.rewriteEach hl edits fun c hc => hts _ (hcells c hc)).1, hedits]
  rfl

/-- Two formulas are read and the first one is rewritten. Then, when a column is removed and a row
is inserted, the second formula gets the tree that the first one had in the beginning. -/
theorem rewriteEach_eq_bringUpToDate_two_formulas :
    let l : Locale := .unitedStates
    let sheets : SheetNames := ⟨fun _ => none, fun _ => none⟩
    let first : Request := ⟨"=SUM(B$2 ,-C3%)".toList, ⟨0, 3, 3⟩⟩
    let second : Request := ⟨"=SUM(B$1 ,-C2%)".toList, ⟨0, 3, 2⟩⟩
    let s := (second.readThrough l sheets (first.readThrough l sheets .empty).2).2
    let t := (first.reading l sheets).tree
    let u := (second.reading l sheets).tree
    let move : Edit := .insert .row ⟨0, 1, 4⟩
    let s' := (s.rewriteAll l move [⟨t, first.base⟩]).2
    let ts := (s.rewriteAll l move [⟨t, first.base⟩]).1.map (fun c => c.cell.tree) ++ [u, t]
    let edits : List Edit := [.remove .column ⟨0, 0, 1⟩, .insert .row ⟨0, 0, 1⟩]
    let h := edits.foldl History.record .empty
    l.IsPreset ∧ Filled l sheets s' ts ∧ u ∈ ts ∧ [0, 1].IsChain (· ≤ ·) ∧
      (s'.rewriteEach l edits [⟨u, second.base⟩]).1 =
        [⟨(h.bringUpToDate 0 (u, second.base)).1, (h.bringUpToDate 0 (u, second.base)).2⟩] ∧
      h.catchUp 0 [1] (u, second.base) = h.bringUpToDate 0 (u, second.base) ∧
      (h.bringUpToDate 0 (u, second.base)).1 = t := by
  intro l sheets first second s t u move s' ts edits h
  have hl : l.IsPreset := Or.inl rfl
  have hfirst : hasOffset l first.text = false := by decide +kernel
  have hsecond : hasOffset l second.text = false := by decide +kernel
  have hgiven : (second.readThrough l sheets
      (first.readThrough l sheets .empty).2).1.tree?.toList ++
        ((first.readThrough l sheets .empty).1.tree?.toList ++ []) = [u, t] := by
    decide +kernel
  have hread : Filled l sheets s [u, t] := hgiven ▸ .read second (.read first .empty hfirst) hsecond
  have hmem : ∀ c ∈ [(⟨t, first.base⟩ : FormulaCell)], c.tree ∈ [u, t] := by
    intro c hc
    obtain rfl := List.mem_singleton.mp hc
    exact List.mem_cons_of_mem _ List.mem_cons_self
  have hs' : Filled l sheets s' ts := .rewrite move _ hread hmem
  have hu : u ∈ ts := List.mem_append_right _ List.mem_cons_self
  have hstops : [0, 1].IsChain (· ≤ ·) := by decide
  have hcells : ∀ c ∈ [(⟨u, second.base⟩ : FormulaCell)], c.tree ∈ ts := by
    intro c hc
    obtain rfl := List.mem_singleton.mp hc
    exact hu
  obtain ⟨heager, hsteps⟩ := rewriteEach_eq_bringUpToDate hl hs' hcells edits
  exact ⟨hl, hs', hu, hstops, heager, hsteps _ 0 [1] hstops, by decide +kernel⟩

end Cache

end GridFormula
