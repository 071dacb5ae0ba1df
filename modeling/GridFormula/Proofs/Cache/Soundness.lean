import GridFormula.Cache.Reader
import GridFormula.Proofs.Formula.KeyReading
import GridFormula.Proofs.Formula.Offsets

/-!
# Reading through the cache

A text read through the cache is looked up by its key before it is known to be a formula. For
formulas this does no harm: the key of one belongs to one tree. But a text that is not a formula can
have the key of one that is. If that one was read earlier, its tree is given as an answer, and no
fault is reported. This is the only way in which reading through the cache differs from reading.
-/

namespace GridFormula

namespace Site

variable {text : Text}

/-- Two formulas of one workbook without offsets that have one key have one tree. -/
lemma tree_eq_of_key_eq (site : Site) (base : Cell) {text' : Text} (hl : site.locale.IsPreset)
    (hfree : hasOffset site.locale text = false) (hfree' : hasOffset site.locale text' = false)
    (h : (site.read text).isFormula = true)
    (h' : (read { site with base } text').isFormula = true)
    (hkey : (site.read text).tree.key = (read { site with base } text').tree.key) :
    (site.read text).tree = (read { site with base } text').tree := by
  rcases read_eq_cases site hfree with ⟨xs, t, hlex, ht, hread⟩ | hfault
  · rcases read_eq_cases { site with base } hfree' with
      ⟨xs', t', hlex', ht', hread'⟩ | hfault'
    · rw [hread, hread'] at hkey ⊢
      exact Reader.eq_of_key_eq hl hlex hlex' (symbol_ne_of_hasOffset hfree hlex)
        (symbol_ne_of_hasOffset hfree' hlex') ht ht' hkey
    · cases h'.symm.trans hfault'
  · cases h.symm.trans hfault

end Site

namespace Cache

variable {s : Cache} {site : Site} {text : Text}

/-- A key without an entry gets the one of the tree. -/
lemma insert_of_get?_eq_none {key : Text} (l : Locale) (t : Tree) (h : s.get? key = none) :
    (s.insert l key t).1 = .ofTree l t ∧
      ∀ k, (s.insert l key t).2.get? k = if k = key then some (.ofTree l t) else s.get? k := by
  have hself := get?_insert_self s l key t
  have hentry : (s.insert l key t).1 = .ofTree l t := by rw [insert, h]
  refine ⟨hentry, fun k => ?_⟩
  split
  · next hk => rw [hk, hself, hentry]
  · next hk => exact get?_insert_of_ne s l hk t

/-- Without a key a text is read as it is. -/
lemma read_of_no_key (h : site.keyOf? text = none) :
    s.read site text = (unstored site (site.read text), s) := by
  unfold Site.keyOf? at h
  unfold read Site.read
  cases hlex : lex site.locale text with
  | error mistakes => rfl
  | ok xs =>
    rw [hlex] at h
    dsimp only at h ⊢
    rw [h]
    rfl

/-- A stored tree is given for every text with its key. -/
lemma read_of_stored {key : Text} {entry : Entry} (h : site.keyOf? text = some key)
    (hentry : s.get? key = some entry) :
    (s.read site text).1 = ⟨entry, [], some key⟩ ∧ ∀ k, (s.read site text).2.get? k = s.get? k := by
  unfold Site.keyOf? at h
  unfold read
  cases hlex : lex site.locale text with
  | error mistakes =>
    rw [hlex] at h
    cases h
  | ok xs =>
    rw [hlex] at h
    dsimp only at h ⊢
    rw [h]
    dsimp only
    rw [lookup, hentry]
    exact ⟨rfl, fun k => rfl⟩

/-- A text that is not a formula is read as it is, if its key is not stored. -/
lemma read_of_fault {key : Text} (h : site.keyOf? text = some key) (hentry : s.get? key = none)
    (hfault : (site.read text).isFormula = false) :
    (s.read site text).1 = unstored site (site.read text) ∧
      ∀ k, (s.read site text).2.get? k = s.get? k := by
  unfold Site.keyOf? at h
  unfold Site.read at hfault ⊢
  unfold read
  cases hlex : lex site.locale text with
  | error mistakes =>
    rw [hlex] at h
    cases h
  | ok xs =>
    rw [hlex] at h hfault
    dsimp only at h hfault ⊢
    rw [h]
    dsimp only
    rw [lookup, hentry]
    dsimp only
    unfold readNew
    dsimp only
    rw [hfault]
    exact ⟨rfl, fun k => rfl⟩

/-- A formula whose key is not stored is read as it is, and is stored. -/
lemma read_of_formula {key : Text} (h : site.keyOf? text = some key) (hentry : s.get? key = none)
    (hformula : (site.read text).isFormula = true) (hplace : (site.read text).isPlaceBound = false) :
    (s.read site text).1 = ⟨.ofTree site.locale (site.read text).tree, [], some key⟩ ∧
      ∀ k, (s.read site text).2.get? k =
        if k = key then some (.ofTree site.locale (site.read text).tree) else s.get? k := by
  unfold Site.keyOf? at h
  unfold Site.read at hformula hplace ⊢
  unfold read
  cases hlex : lex site.locale text with
  | error mistakes =>
    rw [hlex] at h
    cases h
  | ok xs =>
    rw [hlex] at h hformula hplace
    dsimp only at h hformula hplace ⊢
    rw [h]
    dsimp only
    rw [lookup, hentry]
    dsimp only
    unfold readNew
    dsimp only
    rw [hformula, hplace]
    rw [Bool.not_false, Bool.and_self, if_pos rfl]
    have hinsert := insert_of_get?_eq_none site.locale (site.readLexemes text xs).tree
      (s := { s with misses := s.misses + 1 }) hentry
    rw [hinsert.1]
    refine ⟨rfl, fun k => ?_⟩
    rw [hinsert.2]
    rfl

end Cache

/-! ## Texts one after the other -/

/-- A text that is to be read in a cell. -/
structure Request where
  text : Text
  base : Cell

namespace Request

variable (l : Locale) (sheets : SheetNames) (c : Request)

/-- Where the text is read. -/
def site : Site := ⟨l, sheets, c.base⟩

/-- The reading without the cache. -/
def reading : Reading :=
  (c.site l sheets).read c.text

/-- The key under which the text is looked up. -/
def key? : Option Text :=
  (c.site l sheets).keyOf? c.text

/-- Reads the text through the cache. -/
def readThrough (s : Cache) : CachedReading × Cache :=
  s.read (c.site l sheets) c.text

end Request

namespace Cache

variable {l : Locale} {sheets : SheetNames} {s : Cache} {seen : List Request} {c : Request}

/-- The cache after some texts were read. -/
def afterReading (l : Locale) (sheets : SheetNames) (cs : List Request) : Cache :=
  cs.foldl (fun s c => (c.readThrough l sheets s).2) .empty

/-- The cache has the entries of the formulas that were read, and no others. -/
structure Covers (l : Locale) (sheets : SheetNames) (s : Cache) (seen : List Request) : Prop where
  sound : ∀ key entry, s.get? key = some entry → ∃ c ∈ seen,
    (c.reading l sheets).isFormula = true ∧ c.key? l sheets = some key ∧
      entry = .ofTree l (c.reading l sheets).tree
  complete : ∀ c ∈ seen, (c.reading l sheets).isFormula = true →
    ∀ key, c.key? l sheets = some key → s.get? key ≠ none

namespace Covers

/-- The empty cache covers no requests. -/
lemma empty : Covers l sheets .empty [] where
  sound key entry h := by cases h
  complete c hc := by cases hc

/-- The entries stay, and the text need not get a new one. -/
lemma snoc_of_get?_eq {s' : Cache} (h : Covers l sheets s seen) (hs : ∀ k, s'.get? k = s.get? k)
    (hc : (c.reading l sheets).isFormula = true → ∀ key, c.key? l sheets = some key →
      s.get? key ≠ none) : Covers l sheets s' (seen ++ [c]) where
  sound key entry hentry := by
    rw [hs] at hentry
    obtain ⟨c', hc', hrest⟩ := h.sound key entry hentry
    exact ⟨c', List.mem_append_left _ hc', hrest⟩
  complete c' hc' hformula key hkey := by
    rw [hs]
    rcases List.mem_append.mp hc' with hc' | hc'
    · exact h.complete c' hc' hformula key hkey
    · obtain rfl := List.mem_singleton.mp hc'
      exact hc hformula key hkey

/-- Reading one more text. -/
lemma step (h : Covers l sheets s seen) (hfree : hasOffset l c.text = false) :
    Covers l sheets (c.readThrough l sheets s).2 (seen ++ [c]) := by
  -- Four things can happen to a text: it has no key, its key is there already, it is no formula, or
  -- it is stored. Only the last one changes the cache.
  cases hkey : c.key? l sheets with
  | none =>
    rw [Request.readThrough, read_of_no_key hkey]
    exact h.snoc_of_get?_eq (fun k => rfl) fun _ key hsome => by cases hkey.symm.trans hsome
  | some key =>
    cases hentry : s.get? key with
    | some entry =>
      refine h.snoc_of_get?_eq (read_of_stored hkey hentry).2 fun _ key' hkey' => ?_
      obtain rfl := Option.some.inj (hkey.symm.trans hkey')
      rw [hentry]
      nofun
    | none =>
      cases hformula : (c.reading l sheets).isFormula with
      | false =>
        refine h.snoc_of_get?_eq (read_of_fault hkey hentry hformula).2 fun htrue => ?_
        cases hformula.symm.trans htrue
      | true =>
        have hread := (Site.keyOf?_of_isFormula (c.site l sheets) hfree hformula).1
        have hplace : (c.reading l sheets).isPlaceBound = false := by rw [Request.reading, hread]
        have hget := (read_of_formula hkey hentry hformula hplace).2
        constructor
        · intro k entry hk
          rw [Request.readThrough, hget] at hk
          split at hk
          · next heq =>
            refine ⟨c, List.mem_append_right _ (List.mem_singleton_self c), hformula, ?_,
              (Option.some.inj hk).symm⟩
            rw [hkey, heq]
          · obtain ⟨c', hc', hrest⟩ := h.sound k entry hk
            exact ⟨c', List.mem_append_left _ hc', hrest⟩
        · intro c' hc' hformula' k hk
          rw [Request.readThrough, hget]
          split
          · nofun
          · next hne =>
            rcases List.mem_append.mp hc' with hc' | hc'
            · exact h.complete c' hc' hformula' k hk
            · obtain rfl := List.mem_singleton.mp hc'
              exact absurd (Option.some.inj (hk.symm.trans hkey)) hne

/-- A formula is read right. -/
lemma read_of_isFormula (h : Covers l sheets s seen) (hl : l.IsPreset)
    (hfrees : ∀ c ∈ seen, hasOffset l c.text = false) (hfree : hasOffset l c.text = false)
    (hformula : (c.reading l sheets).isFormula = true) :
    (c.readThrough l sheets s).1.entry = .ofTree l (c.reading l sheets).tree ∧
      (c.readThrough l sheets s).1.faults = [] := by
  obtain ⟨hread, hkey⟩ := Site.keyOf?_of_isFormula (c.site l sheets) hfree hformula
  cases hentry : s.get? (c.reading l sheets).tree.key with
  | none =>
    have hplace : (c.reading l sheets).isPlaceBound = false := by rw [Request.reading, hread]
    rw [Request.readThrough, (read_of_formula hkey hentry hformula hplace).1]
    exact ⟨rfl, rfl⟩
  | some entry =>
    rw [Request.readThrough, (read_of_stored hkey hentry).1]
    obtain ⟨c', hc', hformula', hkey', rfl⟩ := h.sound _ entry hentry
    have htree' := (Site.keyOf?_of_isFormula (c'.site l sheets) (hfrees c' hc')
      hformula').2
    have htrees : (c.reading l sheets).tree = (c'.reading l sheets).tree :=
      Site.tree_eq_of_key_eq (c.site l sheets) c'.base hl hfree
        (hfrees c' hc') hformula hformula' (Option.some.inj (hkey'.symm.trans htree'))
    exact ⟨congrArg (Entry.ofTree l) htrees.symm, rfl⟩

/-- A text whose key no formula had before is read right. -/
lemma read_of_forall_ne (h : Covers l sheets s seen)
    (hformula : (c.reading l sheets).isFormula = false)
    (hkeys : ∀ c' ∈ seen, (c'.reading l sheets).isFormula = true →
      c'.key? l sheets ≠ c.key? l sheets) :
    (c.readThrough l sheets s).1 = unstored (c.site l sheets) (c.reading l sheets) := by
  cases hkey : c.key? l sheets with
  | none => rw [Request.readThrough, read_of_no_key hkey, Request.reading]
  | some key =>
    refine (read_of_fault hkey ?_ hformula).1
    by_contra hsome
    obtain ⟨entry, hentry⟩ := Option.ne_none_iff_exists'.mp hsome
    obtain ⟨c', hc', hformula', hkey', -⟩ := h.sound key entry hentry
    exact hkeys c' hc' hformula' (hkey'.trans hkey.symm)

/-- A text whose key a formula had before is read as that formula. -/
lemma faults_of_key_eq (h : Covers l sheets s seen) {c' : Request} (hc' : c' ∈ seen)
    (hfree' : hasOffset l c'.text = false) (hformula' : (c'.reading l sheets).isFormula = true)
    (hkeys : c'.key? l sheets = c.key? l sheets) : (c.readThrough l sheets s).1.faults = [] := by
  have hkey := (Site.keyOf?_of_isFormula (c'.site l sheets) hfree' hformula').2
  obtain ⟨entry, hentry⟩ :=
    Option.ne_none_iff_exists'.mp (h.complete c' hc' hformula' _ hkey)
  rw [Request.readThrough, (read_of_stored (hkeys.symm.trans hkey) hentry).1]

end Covers

/-- Of any texts without offsets, the cache has the entries of the formulas. -/
theorem covers_afterReading (cs : List Request) (h : ∀ c ∈ cs, hasOffset l c.text = false) :
    Covers l sheets (afterReading l sheets cs) cs := by
  induction cs using List.reverseRecOn with
  | nil => exact .empty
  | append_singleton cs c ih =>
    rw [afterReading, List.foldl_append]
    refine (ih fun c' hc' => h c' (List.mem_append_left _ hc')).step (h c ?_)
    exact List.mem_append_right _ (List.mem_singleton_self c)

/-- After any texts, a text is given the tree and the faults that it has without the cache if and
only if it is a formula, or none of the formulas before it has its key. -/
theorem read_afterReading_iff (hl : l.IsPreset) {cs : List Request}
    (hfrees : ∀ c ∈ cs, hasOffset l c.text = false) (hfree : hasOffset l c.text = false) :
    let cached := (c.readThrough l sheets (afterReading l sheets cs)).1
    cached.entry = .ofTree l (c.reading l sheets).tree ∧
        cached.faults = (c.reading l sheets).faults ↔
      (c.reading l sheets).isFormula = true ∨
        ∀ c' ∈ cs, (c'.reading l sheets).isFormula = true → c'.key? l sheets ≠ c.key? l sheets := by
  intro cached
  have hcovers : Covers l sheets (afterReading l sheets cs) cs := covers_afterReading cs hfrees
  constructor
  · rintro ⟨-, hfaults⟩
    -- The formula with the same key has been stored, and what is stored is given without a fault.
    refine or_iff_not_imp_left.mpr fun hfault c' hc' hformula' hkeys => hfault ?_
    have hnil := hcovers.faults_of_key_eq hc' (hfrees c' hc') hformula' hkeys
    rw [Reading.isFormula, ← hfaults, hnil]
    rfl
  · intro h
    cases hformula : (c.reading l sheets).isFormula with
    | true =>
      rw [List.isEmpty_iff.mp hformula]
      exact hcovers.read_of_isFormula hl hfrees hfree hformula
    | false =>
      have hread : cached = _ :=
        hcovers.read_of_forall_ne hformula (h.resolve_left (by simp [hformula]))
      rw [hread]
      exact ⟨rfl, rfl⟩

/-- Two texts before a third, which is no formula and has the key of none of them. -/
theorem read_afterReading_iff_two :
    let l : Locale := .unitedStates
    let sheets : SheetNames := ⟨fun _ => none, fun _ => none⟩
    let cs : List Request := [⟨"=A1+1".toList, ⟨0, 1, 0⟩⟩, ⟨"=A1+".toList, ⟨0, 1, 0⟩⟩]
    let c : Request := ⟨"=XFE : XFF".toList, ⟨0, 1, 0⟩⟩
    l.IsPreset ∧ (∀ c ∈ cs, hasOffset l c.text = false) ∧ hasOffset l c.text = false ∧
      (c.readThrough l sheets (afterReading l sheets cs)).1.entry =
        .ofTree l (c.reading l sheets).tree ∧
      (c.readThrough l sheets (afterReading l sheets cs)).1.faults =
        (c.reading l sheets).faults := by
  intro l sheets cs c
  have hl : l.IsPreset := Or.inl rfl
  have hfrees : ∀ c ∈ cs, hasOffset l c.text = false := by decide +kernel
  have hfree : hasOffset l c.text = false := by decide +kernel
  have hkeys : ∀ c' ∈ cs, (c'.reading l sheets).isFormula = true →
      c'.key? l sheets ≠ c.key? l sheets := by decide +kernel
  obtain ⟨hentry, hfaults⟩ := (read_afterReading_iff hl hfrees hfree).mpr (Or.inr hkeys)
  exact ⟨hl, hfrees, hfree, hentry, hfaults⟩

/-- A text that is no formula is given the tree of the formula before it, and no fault. Blanks
beside a colon are not kept in keys. -/
theorem exists_read_afterReading_ne :
    let l : Locale := .unitedStates
    let sheets : SheetNames := ⟨fun _ => none, fun _ => none⟩
    let before : Request := ⟨"=XFE:XFF".toList, ⟨0, 1, 0⟩⟩
    let c : Request := ⟨"=XFE : XFF".toList, ⟨0, 1, 0⟩⟩
    let cached := (c.readThrough l sheets (afterReading l sheets [before])).1
    hasOffset l before.text = false ∧ hasOffset l c.text = false ∧
      (c.reading l sheets).isFormula = false ∧ cached.faults = [] ∧
      cached.entry = .ofTree l (before.reading l sheets).tree ∧
      cached.entry ≠ .ofTree l (c.reading l sheets).tree := by
  decide +kernel

end Cache

end GridFormula
