import GridFormula.Proofs.Formula.SymbolText

/-!
# How the symbols of a formula follow each other

What follows a symbol of a formula, blanks aside, is as restricted as what follows a mark of its
tree: behind an operand stands nothing that could go on with it, and behind an operator an operand.
The symbols alone decide this. So every list of lexemes that has these symbols is cut out of its
text again, however its lexemes are written and wherever blanks stand between them.
-/

namespace GridFormula

open Scan

/-! ## Symbols in a row -/

namespace Symbol

/-- Whether the symbol can stand behind an operand. -/
def followsOperand : Symbol → Bool
  | operator _ | percent | argumentSeparator | columnSeparator | rowSeparator | closeParen
  | closeBrace => true
  | _ => false

/-- The symbol can be followed by the symbols `ss`. -/
def Meets (ss : List Symbol) : Symbol → Prop
  | cell _ => ∀ s ∈ ss.head?, s = .colon ∨ s.followsOperand = true
  | lines .. | number _ | string _ | errorValue _ | name _ =>
    ∀ s ∈ ss.head?, s.followsOperand = true
  | operator _ => ∃ s ∈ ss.head?, Reader.startsOperand s = true
  | _ => True

end Symbol

/-- Each of the symbols can stand where it stands and can be followed by what follows it. It is
given what is open in front of them. -/
def SymbolsFlow : Nesting → List Symbol → Prop
  | _, [] => True
  | n, s :: ss => s.Fits n ∧ s.Meets ss ∧ SymbolsFlow (s.inside n) ss

/-! ## From marks to symbols -/

/-- Marks flow behind the blanks in front of them. -/
lemma Flows.of_spaces_append {n : Nesting} {lead : Option Text} {ms : List Mark}
    (h : Flows n (Mark.spaces lead ++ ms)) : Flows n ms := by
  cases lead with
  | none => exact h
  | some blanks => exact h.2.2

namespace Site

variable {site : Site}

/-- The symbol stands for the mark: it can stand where the mark can, opens and closes the same, and
starts or follows an operand if the mark does. -/
structure Stands (n : Nesting) (s : Symbol) (m : Mark) : Prop where
  fits : s.Fits n
  inside : s.inside n = m.inside n
  follows : m.endsOperand = true → s.followsOperand = true
  starts : m.startsOperand = true → Reader.startsOperand s = true

/-- A symbol that makes an atom opens and closes nothing. -/
lemma stands_atom {x : Spaced} {a : Atom} (n : Nesting) (h : site.mark? x = some (.atom a))
    (ha : a.Legible site.locale site.sheets) : Stands n x.symbol (.atom a) := by
  refine ⟨?_, ?_, nofun, fun _ => Reader.startsOperand_of_mark? h⟩
  · cases hx : x.symbol with
    | name word =>
      obtain rfl : a = .name word := by simpa [mark?, hx] using h.symm
      exact ha.2
    | argumentSeparator => simp [mark?, hx] at h
    | columnSeparator => simp [mark?, hx] at h
    | rowSeparator => simp [mark?, hx] at h
    | _ => trivial
  · unfold mark? at h
    split at h
    all_goals
      next hx =>
      rw [hx]
      first
        | rfl
        | cases h

/-- A lexeme that is no blank stands for its mark. -/
lemma stands_of_mark? {x : Spaced} {m : Mark} {n : Nesting} (h : site.mark? x = some m)
    (hspace : m.isSpace = false) (hfits : m.fits n = true)
    (hlegible : m.Legible site.locale site.sheets) : Stands n x.symbol m := by
  cases m with
  | space blanks => cases hspace
  | atom a => exact stands_atom n h hlegible.2
  | colon => cases hfits
  | offsetCall => cases hfits
  | argumentSeparator =>
    rw [Reader.symbol_of_mark? h rfl]
    exact ⟨hfits, rfl, fun _ => rfl, nofun⟩
  | columnSeparator =>
    rw [Reader.symbol_of_mark? h rfl]
    exact ⟨by simpa [Mark.fits, Symbol.Fits] using hfits, rfl, fun _ => rfl, nofun⟩
  | rowSeparator =>
    rw [Reader.symbol_of_mark? h rfl]
    exact ⟨by simpa [Mark.fits, Symbol.Fits] using hfits, rfl, fun _ => rfl, nofun⟩
  | operator op =>
    rw [Reader.symbol_of_mark? h rfl]
    refine ⟨trivial, rfl, fun _ => rfl, fun hstarts => ?_⟩
    cases op with
    | plus => rfl
    | minus => rfl
    | _ => cases hstarts
  | percent =>
    rw [Reader.symbol_of_mark? h rfl]
    exact ⟨trivial, rfl, fun _ => rfl, nofun⟩
  | closeParen =>
    rw [Reader.symbol_of_mark? h rfl]
    exact ⟨trivial, rfl, fun _ => rfl, nofun⟩
  | closeBrace =>
    rw [Reader.symbol_of_mark? h rfl]
    exact ⟨trivial, rfl, fun _ => rfl, nofun⟩
  | call function =>
    rw [Reader.symbol_of_mark? h rfl]
    exact ⟨trivial, rfl, nofun, fun _ => rfl⟩
  | openParen =>
    rw [Reader.symbol_of_mark? h rfl]
    exact ⟨trivial, rfl, nofun, fun _ => rfl⟩
  | openBrace =>
    rw [Reader.symbol_of_mark? h rfl]
    exact ⟨trivial, rfl, nofun, fun _ => rfl⟩

/-- The first mark behind lexemes, if there is one, is that of the first lexeme. -/
lemma stands_head {b : Bool} {xs : List Spaced} {ms : List Mark} {n : Nesting}
    (hneat : Neat b xs) (h : site.marks? xs = some ms)
    (hlegible : ∀ m ∈ ms, m.Legible site.locale site.sheets) (hflows : Flows n ms) :
    Option.Rel (Stands n) (xs.map Spaced.symbol).head? (Mark.next ms) := by
  unfold marks? at h
  split at h
  · obtain rfl := Option.some.inj h
    exact .none
  · split at h
    · obtain rfl := Option.some.inj h
      rw [Mark.next_spaces_append _ _ _ rfl]
      exact .some ⟨trivial, rfl, fun h => absurd h Bool.false_ne_true, fun _ => rfl⟩
    · cases h
  · next x xs _ =>
    split at h
    · next m ms hm _ =>
      obtain rfl := Option.some.inj h
      have hspace := Reader.isSpace_of_mark? hm hneat.1.notBlank
      rw [Mark.next_spaces_append _ _ _ hspace]
      have hmem : m ∈ Mark.spaces x.lead ++ m :: ms := by simp
      exact .some (stands_of_mark? hm hspace hflows.of_spaces_append.1 (hlegible m hmem))
    · cases h

/-- A symbol can be followed by the symbols behind it, if its mark can be by their marks. -/
lemma meets_of_mark? {x : Spaced} {m : Mark} {n : Nesting} {ms : List Mark} {ss : List Symbol}
    (h : site.mark? x = some m) (hmeets : m.Meets ms)
    (hhead : Option.Rel (Stands n) ss.head? (Mark.next ms)) : x.symbol.Meets ss := by
  -- Only behind an atom and behind an operator does it matter what comes next.
  have hatom : ∀ a, m = .atom a → ∀ s ∈ ss.head?, s.followsOperand = true := by
    rintro a rfl s hs
    rw [Option.mem_def.mp hs] at hhead
    cases hnext : Mark.next ms with
    | none =>
      rw [hnext] at hhead
      cases hhead
    | some m' =>
      rw [hnext] at hhead
      cases hhead with
      | some hstands => exact hstands.follows (hmeets m' hnext)
  have hoperator : ∀ op, m = .operator op → ∃ s ∈ ss.head?, Reader.startsOperand s = true := by
    rintro op rfl
    obtain ⟨m', hm', hstarts⟩ := hmeets
    rw [Option.mem_def.mp hm'] at hhead
    cases hs : ss.head? with
    | none =>
      rw [hs] at hhead
      cases hhead
    | some s =>
      rw [hs] at hhead
      cases hhead with
      | some hstands => exact ⟨s, rfl, hstands.starts hstarts⟩
  cases hx : x.symbol with
  | cell w => exact fun s hs => Or.inr (hatom _ (by simpa [mark?, hx] using h.symm) s hs)
  | lines axis a b =>
    have hlines : (site.lines? axis a b x.image).map Mark.atom = some m := by
      simpa [mark?, hx] using h
    obtain ⟨atom, -, rfl⟩ := Option.map_eq_some_iff.mp hlines
    exact hatom atom rfl
  | number numeral => exact hatom _ (by simpa [mark?, hx] using h.symm)
  | string content => exact hatom _ (by simpa [mark?, hx] using h.symm)
  | errorValue e => exact hatom _ (by simpa [mark?, hx] using h.symm)
  | name word => exact hatom _ (by simpa [mark?, hx] using h.symm)
  | operator op => exact hoperator op (by simpa [mark?, hx] using h.symm)
  | _ => trivial

end Site

/-- The symbols of lexemes flow, if their marks do. -/
theorem symbolsFlow_of_marks? {site : Site} {b : Bool} {xs : List Spaced} {ms : List Mark}
    {n : Nesting} (hneat : Neat b xs) (h : site.marks? xs = some ms)
    (hlegible : ∀ m ∈ ms, m.Legible site.locale site.sheets) (hflows : Flows n ms) :
    SymbolsFlow n (xs.map Spaced.symbol) := by
  -- Two cells with a colon between them make one mark, so that case is about three symbols at once.
  fun_induction Site.marks? site xs generalizing b ms n with
  | case1 => trivial
  | case2 lead a image lead' image' lead'' a' image'' xs atom ms' hms' hatom ih =>
    obtain rfl := Option.some.inj h
    obtain ⟨-, hmeets, hrest⟩ := hflows.of_spaces_append
    have hneat' := hneat.2.2.2
    have hlegible' : ∀ m ∈ ms', m.Legible site.locale site.sheets := fun m hm =>
      hlegible m (List.mem_append_right _ (List.mem_cons_of_mem _ hm))
    have hlast : (Symbol.cell a').Meets (xs.map Spaced.symbol) := by
      have hcell : site.mark? ⟨lead'', .cell a', image''⟩ = some (.atom (site.cell a' image'')) :=
        rfl
      exact Site.meets_of_mark? hcell hmeets (Site.stands_head hneat' hms' hlegible' hrest)
    have hfirst : (Symbol.cell a).Meets (.colon :: .cell a' :: xs.map Spaced.symbol) := by
      intro s hs
      exact Or.inl (Option.some.inj hs).symm
    exact ⟨trivial, hfirst, trivial, trivial, trivial, hlast, ih hneat' hms' hlegible' hrest⟩
  | case3 => cases h
  | case4 x xs _ m ms' hms' hm ih =>
    obtain rfl := Option.some.inj h
    obtain ⟨hfits, hmeets, hrest⟩ := hflows.of_spaces_append
    have hm' : m.Legible site.locale site.sheets :=
      hlegible m (List.mem_append_right _ List.mem_cons_self)
    have hlegible' : ∀ m ∈ ms', m.Legible site.locale site.sheets := fun m hm =>
      hlegible m (List.mem_append_right _ (List.mem_cons_of_mem _ hm))
    have hstands := Site.stands_of_mark? hm (Reader.isSpace_of_mark? hm hneat.1.notBlank) hfits hm'
    rw [List.map_cons]
    refine ⟨hstands.fits, ?_, ?_⟩
    · exact Site.meets_of_mark? hm hmeets (Site.stands_head hneat.2 hms' hlegible' hrest)
    · rw [hstands.inside]
      exact ih hneat.2 hms' hlegible' hrest
  | case5 => cases h

/-- The symbols of a formula without offsets flow. -/
theorem symbolsFlow_of_formula (site : Site) {text : Text} {xs : List Lexeme} {t : Tree}
    (hl : site.locale.IsPreset) (hlex : lex site.locale text = .ok xs)
    (ht : Reader.formula site (spaced xs) = .ok t) (hfree : ∀ x ∈ xs, x.symbol ≠ .offsetCall) :
    SymbolsFlow .empty ((spaced xs).map Spaced.symbol) := by
  have hneat := neat_spaced hlex
  obtain ⟨ms, hmarks, hms⟩ := Reader.marks?_of_formula ht hneat
  obtain rfl : ms = t.spelling := by
    refine hms fun y hy hoffset => ?_
    obtain ⟨x, hx, hsymbol⟩ := exists_mem_of_mem_spaced hy
    exact hfree x hx (hsymbol.trans hoffset)
  have hcanonical := Reader.canonical_of_formula ht
  have hnext := hcanonical.next_spelling []
  rw [List.append_nil] at hnext
  have hflows : Flows .empty (.operator .equal :: t.spelling) := ⟨rfl, hnext, hcanonical.flows⟩
  have hlegible := legible_of_formula site hl hlex ht hfree
  exact symbolsFlow_of_marks? hneat hmarks (List.forall_mem_cons.mpr ⟨trivial, hlegible⟩) hflows

/-! ## From symbols to lexemes -/

section

variable {l : Locale} {s : Symbol} {t : Text}

/-- What stands behind an operand is written in a way that does not go on with it. -/
lemma terminated_of_followsOperand (h : s.followsOperand = true) (ht : SymbolText l s t)
    (rest : Text) : Terminated l (t ++ rest) := by
  have hfixed : ∃ c u, t = c :: u ∧ c ∈ l.terminators := by
    cases ht with
    | fixed ht =>
      cases s with
      | operator op =>
        obtain rfl := Option.some.inj ht
        cases op <;> exact ⟨_, _, rfl, by simp [Locale.terminators]⟩
      | percent | argumentSeparator | columnSeparator | rowSeparator | closeParen | closeBrace =>
        obtain rfl := Option.some.inj ht
        exact ⟨_, _, rfl, by simp [Locale.terminators]⟩
      | _ => cases h
    | reference href =>
      cases href with
      | cell _ => cases h
      | lines _ => cases h
    | _ => cases h
  obtain ⟨c, u, rfl, hc⟩ := hfixed
  exact terminated_cons hc (u ++ rest)

/-- In front of a character that is no operator sign an operator ends. -/
lemma endsOperator_of_not_mem {c : Char} (hc : c ∉ operatorSigns) (s : Text) :
    EndsOperator (c :: s) := by
  constructor
  · rintro hequal
    obtain rfl := Option.some.inj hequal
    exact hc (by simp [operatorSigns])
  · rintro hgreater
    obtain rfl := Option.some.inj hgreater
    exact hc (by simp [operatorSigns])

/-- What an operand starts with is written in a way that does not go on with an operator. -/
lemma endsOperator_of_startsOperand (hl : l.IsPreset) (h : Reader.startsOperand s = true)
    (ht : SymbolText l s t) (rest : Text) : EndsOperator (t ++ rest) := by
  have hword : ∀ {c : Char} (u : Text), startsWord l c = true → EndsOperator (c :: u ++ rest) :=
    fun u hc => endsOperator_of_not_mem (not_mem_of_startsWord hl hc).2 _
  have hname : ∀ {word : Text}, NameText word → ∀ u, EndsOperator (word ++ u ++ rest) := by
    rintro word ⟨hc, -⟩ u
    exact hword _ (by simp [startsWord, hc])
  -- An operator grows by `=` and `>` only, and with neither does an operand start.
  cases ht with
  | blank _ => cases h
  | number himage =>
    obtain ⟨c, u, rfl, hc⟩ := himage.head
    refine hword u ?_
    rcases hc with hc | ⟨rfl, -⟩ <;> simp [startsWord, *]
  | string content => exact endsOperator_of_not_mem (by decide) _
  | errorValue _ _ => exact endsOperator_of_not_mem (by decide) _
  | reference href =>
    rcases href.head with ⟨c, u, rfl, hc⟩ | ⟨c, digits, u, rfl, hdigits⟩
    · refine hword u ?_
      rcases hc with rfl | rfl | hc <;> simp [startsWord, *]
    · exact hword _ (by simp [startsWord, hdigits c List.mem_cons_self])
  | name hword' =>
    have hends := hname hword' []
    rwa [List.append_nil] at hends
  | call hword' _ => exact hname hword' _
  | offsetCall hword' _ => exact hname hword' _
  | fixed ht =>
    cases s with
    | operator op =>
      obtain rfl := Option.some.inj ht
      cases op with
      | plus => exact ⟨by simp [BinaryOp.symbol], by simp [BinaryOp.symbol]⟩
      | minus => exact ⟨by simp [BinaryOp.symbol], by simp [BinaryOp.symbol]⟩
      | _ => cases h
    | openParen =>
      obtain rfl := Option.some.inj ht
      exact endsOperator_of_not_mem (by decide) _
    | openBrace =>
      obtain rfl := Option.some.inj ht
      exact endsOperator_of_not_mem (by decide) _
    | percent | colon | argumentSeparator | columnSeparator | rowSeparator | closeParen
    | closeBrace => cases h
    | _ => cases ht

end

/-- The lexemes that are no blanks, by their symbols. -/
def symbolsOf (zs : List Lexeme) : List Symbol :=
  (zs.filter fun z => !z.isBlank).map Lexeme.symbol

section

variable {l : Locale} {n : Nesting} {zs : List Lexeme}

/-- The text of lexemes ends, or starts with a blank, or with the first of their symbols. -/
lemma flatMap_image_cases (h : ∀ z ∈ zs, SymbolText l z.symbol z.image) :
    zs.flatMap Lexeme.image = [] ∨
      (∃ c u, l.isBlank c = true ∧ zs.flatMap Lexeme.image = c :: u) ∨
        ∃ s t rest, (symbolsOf zs).head? = some s ∧ SymbolText l s t ∧
          zs.flatMap Lexeme.image = t ++ rest := by
  cases zs with
  | nil => exact Or.inl rfl
  | cons z zs =>
    have hz := h z List.mem_cons_self
    by_cases hblank : z.isBlank = true
    · rw [of_decide_eq_true hblank] at hz
      obtain ⟨hne, hblanks⟩ := hz.areBlanks
      obtain ⟨c, u, hcu⟩ := List.exists_cons_of_ne_nil hne
      refine Or.inr (Or.inl ⟨c, u ++ zs.flatMap Lexeme.image, hblanks c ?_, ?_⟩)
      · rw [hcu]
        exact List.mem_cons_self
      · rw [List.flatMap_cons, hcu, List.cons_append]
    · refine Or.inr (Or.inr ⟨z.symbol, z.image, zs.flatMap Lexeme.image, ?_, hz, rfl⟩)
      simp [symbolsOf, hblank]

/-- The text behind a symbol does not go on with it, if the symbol can be followed by those behind
it. -/
lemma endsBefore_of_meets (hl : l.IsPreset) {s : Symbol} (hs : s ≠ .blank)
    (hmeets : s.Meets (symbolsOf zs)) (h : ∀ z ∈ zs, SymbolText l z.symbol z.image) :
    s.EndsBefore l (zs.flatMap Lexeme.image) := by
  have hcases := flatMap_image_cases h
  -- What may follow an operand also ends its text: nothing, a blank, or a symbol of the right kind.
  have hterminated : (∀ s' ∈ (symbolsOf zs).head?, s'.followsOperand = true) →
      Terminated l (zs.flatMap Lexeme.image) := by
    intro hfollow
    rcases hcases with hnil | ⟨c, u, hc, hcu⟩ | ⟨s', t, rest, hhead, ht, htext⟩
    · rw [hnil]
      exact terminated_nil l
    · rw [hcu]
      exact terminated_cons (mem_terminators_of_isBlank hl hc) u
    · rw [htext]
      exact terminated_of_followsOperand (hfollow s' hhead) ht rest
  -- A cell may have a colon behind it as well, and an operator must not grow into a longer one.
  cases s with
  | blank => exact absurd rfl hs
  | cell w =>
    rcases hcases with hnil | ⟨c, u, hc, hcu⟩ | ⟨s', t, rest, hhead, ht, htext⟩
    · show Scan.EndsReference _
      rw [hnil]
      exact endsReference_nil
    · show Scan.EndsReference _
      rw [hcu]
      exact (terminated_cons (mem_terminators_of_isBlank hl hc) u).endsReference hl
    · show Scan.EndsReference _
      rw [htext]
      rcases hmeets s' hhead with rfl | hfollows
      · cases ht with
        | fixed ht =>
          obtain rfl := Option.some.inj ht
          exact endsReference_colon rest
        | reference href => cases href
      · exact (terminated_of_followsOperand hfollows ht rest).endsReference hl
  | lines axis a b => exact (hterminated hmeets).endsReference hl
  | number numeral => exact hterminated hmeets
  | string content => exact hterminated hmeets
  | errorValue e => exact hterminated hmeets
  | name word => exact hterminated hmeets
  | operator op =>
    obtain ⟨s', hhead, hstarts⟩ := hmeets
    show EndsOperator _
    rcases hcases with hnil | ⟨c, u, hc, hcu⟩ | ⟨s'', t, rest, hhead', ht, htext⟩
    · rw [hnil]
      exact ⟨nofun, nofun⟩
    · rw [hcu]
      refine endsOperator_of_not_mem ?_ u
      have hjobs := mem_jobs_of_isBlank hl hc
      intro hsign
      exact not_mem_jobs_of_mem_operatorSigns hl hsign hjobs
    · rw [htext]
      obtain rfl := Option.some.inj (hhead'.symm.trans hhead)
      exact endsOperator_of_startsOperand hl hstarts ht rest
  | _ => trivial

/-- The text of a lexeme that is no blank does not start with one. -/
lemma stopsAt_blank_of_scans {u : Text} {z : Lexeme} (h : Scans l n u (z :: zs))
    (hz : z.isBlank = false) : Text.StopsAt l.isBlank u := by
  cases h with
  | @cons _ n' c u symbol rest _ hfront _ =>
    refine Text.stopsAt_cons ?_ u
    by_contra hc
    have hblank : front l n c u = .lexeme .blank (u.dropWhile l.isBlank) n := by
      rw [front, if_pos (by simpa using hc)]
    obtain ⟨hsymbol, -, -⟩ := Front.lexeme.inj (hfront.symm.trans hblank)
    rw [hsymbol] at hz
    cases hz

/-- Lexemes whose symbols flow are cut out of their text again, wherever blanks stand between them,
as long as these come one at a time. -/
theorem scans_of_symbolsFlow (hl : l.IsPreset) (h : ∀ z ∈ zs, SymbolText l z.symbol z.image)
    (hchain : zs.IsChain fun x y => x.isBlank = true → y.isBlank = false)
    (hflow : SymbolsFlow n (symbolsOf zs)) : Scans l n (zs.flatMap Lexeme.image) zs := by
  induction zs generalizing n with
  | nil => exact .nil
  | cons z zs ih =>
    obtain ⟨hz, hzs⟩ := List.forall_mem_cons.mp h
    by_cases hblank : z.isBlank = true
    · have hflow' : SymbolsFlow n (symbolsOf zs) := by simpa [symbolsOf, hblank] using hflow
      have hscans := ih hzs hchain.tail hflow'
      have hsymbol : z.symbol = .blank := of_decide_eq_true hblank
      have hends : z.symbol.EndsBefore l (zs.flatMap Lexeme.image) := by
        rw [hsymbol]
        cases zs with
        | nil => exact Text.stopsAt_nil _
        | cons y zs =>
          exact stopsAt_blank_of_scans hscans ((List.isChain_cons_cons.mp hchain).1 hblank)
      have hread : ReadsFront l n z.image _ z.symbol (z.symbol.inside n) :=
        readsFront_of_symbolText hl hz (by rw [hsymbol]; trivial) hends
      rw [hsymbol] at hread
      have hscans' := hread.scans hscans
      rwa [← hsymbol] at hscans'
    · have hcons : symbolsOf (z :: zs) = z.symbol :: symbolsOf zs := by simp [symbolsOf, hblank]
      rw [hcons] at hflow
      obtain ⟨hfits, hmeets, hflow⟩ := hflow
      have hne : z.symbol ≠ .blank := fun hsymbol => hblank (decide_eq_true hsymbol)
      have hread := readsFront_of_symbolText hl hz hfits (endsBefore_of_meets hl hne hmeets hzs)
      exact hread.scans (ih hzs hchain.tail hflow)

end

end GridFormula
