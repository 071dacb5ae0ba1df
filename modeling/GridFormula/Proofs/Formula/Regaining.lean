import GridFormula.Proofs.Formula.Readback
import GridFormula.Proofs.Formula.Yield

/-!
# The reader takes exactly its grammar

Whatever the lexemes of a well grouped tree are, they are read as that tree, with the blanks that
they have in front. How the operators bind is not in the lexemes; it is found again because an
operand can be attached to the tree on its left in one way only. So lexemes are a formula if and
only if they are those of a well grouped tree behind an equals sign, and this tree is told by them
up to blanks.
-/

namespace GridFormula

namespace Tree

/-- Trees that are the same up to blanks bind equally tightly. -/
lemma level_eq_of_bare_eq {s t : Tree} (h : s.bare = t.bare) : s.level = t.level := by
  rw [← level_bare s, h, level_bare]

end Tree

/-! ## What ends a phrase -/

namespace Symbol

/-- No reference goes on with the symbol. -/
def EndsReference (s : Symbol) : Prop :=
  s ≠ .colon

/-- No operand goes on with the symbol. -/
def EndsOperand (s : Symbol) : Prop :=
  s ≠ .colon ∧ s ≠ .percent

/-- No expression goes on with the symbol. -/
def EndsExpression (s : Symbol) : Prop :=
  s ≠ .colon ∧ s ≠ .percent ∧ ∀ op, s ≠ .operator op

end Symbol

namespace Reader

variable {site : Site}

/-- The lexemes are none, or the first of them has a symbol of a kind. -/
def StartsWith (p : Symbol → Prop) (xs : List Spaced) : Prop :=
  ∀ x ∈ xs.head?, p x.symbol

/-- At the end nothing starts. -/
lemma startsWith_nil (p : Symbol → Prop) : StartsWith p [] := nofun

/-- Lexemes start with the first of them. -/
lemma startsWith_cons {p : Symbol → Prop} {x : Spaced} {s : Symbol} (hx : x.symbol = s) (h : p s)
    (xs : List Spaced) : StartsWith p (x :: xs) := by
  rintro y hy
  cases hy
  rwa [hx]

/-- Lexemes that start in one way start in any way that this one is. -/
lemma StartsWith.mono {p q : Symbol → Prop} {xs : List Spaced} (h : StartsWith p xs)
    (hpq : ∀ s, p s → q s) : StartsWith q xs :=
  fun x hx => hpq _ (h x hx)

/-! ## Reading trees -/

/-- The lexemes of the tree are read as a primary with percent signs behind it: a primary is read,
and reading on behind the tree is reading on behind the primary. -/
def PrimaryRegained (site : Site) (t : Tree) : Prop :=
  ∀ xs rest, t.Yields site xs → StartsWith Symbol.EndsReference rest →
    ∃ s t' ys, t'.bare = t.bare ∧ Reads site (.primary s) (xs ++ rest) ys ∧
      ∀ u rest', Reads site (.percents t' u) rest rest' → Reads site (.percents s u) ys rest'

/-- The lexemes of the tree are read as an operand. -/
def OperandRegained (site : Site) (t : Tree) : Prop :=
  ∀ xs rest, t.Yields site xs → StartsWith Symbol.EndsOperand rest →
    ∃ t', t'.bare = t.bare ∧ Reads site (.operand t') (xs ++ rest) rest

/-- The lexemes of the tree are read as an operand with operators behind it. To read on behind the
tree is to read on behind the operand, also where both stand on the right edge of a greater tree
whose operators bind less closely. -/
def ChainRegained (site : Site) (t : Tree) : Prop :=
  ∀ xs rest, t.Yields site xs → StartsWith Symbol.EndsOperand rest →
    ∃ s t' ys, t'.bare = t.bare ∧ Reads site (.operand s) (xs ++ rest) ys ∧
      ∀ edge : Tree → Tree,
        (∀ u lead op right, t.level ≤ op.level →
          edge (u.append lead op right) = (edge u).append lead op right) →
        ∀ u rest', Reads site (.chain (edge t') u) rest rest' →
          Reads site (.chain (edge s) u) ys rest'

/-- The lexemes of the tree are read as an expression. -/
def ExpressionRegained (site : Site) (t : Tree) : Prop :=
  ∀ xs rest, t.Yields site xs → StartsWith Symbol.EndsExpression rest →
    ∃ t', t'.bare = t.bare ∧ Reads site (.expression t') (xs ++ rest) rest

/-- The lexemes of the tree are read wherever a tree of its level is read. -/
structure Regained (site : Site) (t : Tree) : Prop where
  primary : BinaryOp.signLevel < t.level → PrimaryRegained site t
  operand : BinaryOp.signLevel ≤ t.level → OperandRegained site t
  chain : ChainRegained site t
  expression : ExpressionRegained site t

/-- What is regained as a primary is regained as an operand. -/
lemma PrimaryRegained.operand {t : Tree} (h : PrimaryRegained site t) : OperandRegained site t := by
  intro xs rest hxs hstop
  obtain ⟨s, t', ys, hbare, hs, hon⟩ := h xs rest hxs (hstop.mono fun _ h => h.1)
  obtain ⟨x, zs, hzs, -⟩ := hs.startsOperand_primary
  have hend : Reads site (.percents t' t') rest rest := .percentsEnd fun x hx => (hstop x hx).2
  rw [hzs] at hs ⊢
  exact ⟨t', hbare, .unsigned hs.sign?_primary hs (hon _ _ hend)⟩

/-- What is regained as an operand is regained with operators behind it. -/
lemma OperandRegained.chain {t : Tree} (h : OperandRegained site t) : ChainRegained site t := by
  intro xs rest hxs hstop
  obtain ⟨t', hbare, ht⟩ := h xs rest hxs hstop
  exact ⟨t', t', rest, hbare, ht, fun _ _ _ _ h => h⟩

/-- What is regained with operators behind it is regained as an expression. -/
lemma ChainRegained.expression {t : Tree} (h : ChainRegained site t) :
    ExpressionRegained site t := by
  intro xs rest hxs hstop
  obtain ⟨s, t', ys, hbare, hs, hon⟩ := h xs rest hxs (hstop.mono fun _ h => ⟨h.1, h.2.1⟩)
  have hend : Reads site (.chain t' t') rest rest := .chainEnd fun x hx => (hstop x hx).2.2
  exact ⟨t', hbare, .expression hs (hon id (fun _ _ _ _ _ => rfl) _ _ hend)⟩

/-- What is regained as a primary is regained on every level. -/
lemma Regained.of_primary {t : Tree} (h : PrimaryRegained site t) : Regained site t :=
  ⟨fun _ => h, fun _ => h.operand, h.operand.chain, h.operand.chain.expression⟩

/-- A tree no tighter than a sign is regained if it is as an operand. -/
lemma Regained.of_operand {t : Tree} (hlevel : ¬BinaryOp.signLevel < t.level)
    (h : OperandRegained site t) : Regained site t :=
  ⟨fun hlt => absurd hlt hlevel, fun _ => h, h.chain, h.chain.expression⟩

/-- A tree that is read as one primary is read everywhere. -/
lemma Regained.of_reads {t : Tree}
    (h : ∀ xs rest, t.Yields site xs → StartsWith Symbol.EndsReference rest →
      ∃ t', t'.bare = t.bare ∧ Reads site (.primary t') (xs ++ rest) rest) : Regained site t := by
  refine .of_primary fun xs rest hxs hstop => ?_
  obtain ⟨t', hbare, ht⟩ := h xs rest hxs hstop
  exact ⟨t', t', rest, hbare, ht, fun _ _ h => h⟩

/-- An atom is regained. -/
lemma regained_atom {a : Atom} (lead : Option Text) (hne : a ≠ .omitted) :
    Regained site (.atom lead a) := by
  refine .of_reads fun xs rest hxs hstop => ?_
  cases hxs with
  | omitted => exact absurd rfl hne
  | @atom _ _ x hx =>
    refine ⟨.atom x.lead a, rfl, ?_⟩
    by_cases hcell : ∃ w, x.symbol = .cell w
    · obtain ⟨w, hw⟩ := hcell
      have hatom : site.cell w x.image = a := by simpa [Site.mark?, hw] using hx
      have hread : Reads site (.reference (site.cell w x.image)) (x :: rest) rest :=
        .lone (.cell hw) hstop
      rw [hatom] at hread
      exact .reference hread
    · exact .constant (fun w hw => hcell ⟨w, hw⟩) hx
  | @area _ _ w w' x y z hx hy hz ha =>
    exact ⟨.atom x.lead a, rfl, .reference (.area (.cell hx) hy (.cell hz) (area_eq_ok_iff.mpr ha))⟩

/-- A signed tree is regained. -/
lemma regained_signed {t : Tree} (lead : Option Text) (sign : Sign) (ht : Regained site t)
    (hlevel : BinaryOp.signLevel ≤ t.level) : Regained site (.signed lead sign t) := by
  refine .of_operand (Nat.lt_irrefl _) fun zs rest hzs hstop => ?_
  cases hzs with
  | @signed _ _ _ x xs hx hxs =>
    obtain ⟨t', hbare, hread⟩ := ht.operand hlevel xs rest hxs hstop
    have hsign : sign? x.symbol = some sign := by
      rw [hx]
      exact BinaryOp.sign?_eq_some_iff.mpr rfl
    exact ⟨.signed x.lead sign t', congrArg (Tree.signed none sign) hbare, .sign hsign hread⟩

/-- A tree with a percent sign is regained. -/
lemma regained_percent {t : Tree} (lead : Option Text) (ht : Regained site t)
    (hlevel : BinaryOp.signLevel < t.level) : Regained site (.percent lead t) := by
  refine .of_primary fun zs rest hzs hstop => ?_
  cases hzs with
  | @percent _ _ xs y hxs hy =>
    obtain ⟨s, t', ys, hbare, hs, hon⟩ :=
      ht.primary hlevel xs (y :: rest) hxs (startsWith_cons hy nofun rest)
    refine ⟨s, .percent y.lead t', ys, congrArg (Tree.percent none) hbare, ?_, fun u rest' hu => ?_⟩
    · rwa [List.append_assoc, List.singleton_append]
    · exact hon _ _ (.percentsStep hy hu)

/-- Two trees with an operator between them are regained. -/
lemma regained_binary {s t : Tree} (lead : Option Text) (op : BinaryOp) (hs : Regained site s)
    (ht : Regained site t) (hslevel : op.level ≤ s.level) (htlevel : op.level < t.level) :
    Regained site (.binary lead op s t) := by
  have hop := Tree.BinaryOp.level_lt_signLevel op
  have hlevel : (Tree.binary lead op s t).level = op.level := rfl
  have hchain : ChainRegained site (.binary lead op s t) := by
    intro zs rest hzs hstop
    cases hzs with
    | @binary _ _ _ _ xs ys y hxs hy hys =>
      -- The left operand, up to the operator.
      obtain ⟨s₀, s', vs, hsbare, hs₀, hon⟩ := hs.chain xs (y :: (ys ++ rest)) hxs
        (startsWith_cons hy ⟨nofun, nofun⟩ _)
      obtain ⟨t₀, t', ws, htbare, ht₀, hon'⟩ := ht.chain ys rest hys hstop
      have hbare : (Tree.binary y.lead op s' t').bare = (Tree.binary lead op s t).bare := by
        rw [Tree.bare, Tree.bare, hsbare, htbare]
      have hslevel' : op.level ≤ s'.level := by rwa [Tree.level_eq_of_bare_eq hsbare]
      refine ⟨s₀, .binary y.lead op s' t', vs, hbare, ?_, fun edge hedge u rest' hu => ?_⟩
      · rwa [List.append_assoc, List.cons_append]
      · rw [hlevel] at hedge
        -- The right operand stands on the right edge, below the operator.
        have hright : ∀ u lead' op' right, t.level ≤ op'.level →
            edge (.binary y.lead op s' (u.append lead' op' right)) =
              (edge (.binary y.lead op s' u)).append lead' op' right := by
          intro u lead' op' right h
          rw [← hedge _ _ _ _ (by omega), Tree.append, if_pos (by omega)]
        have hleft : ∀ u lead' op' right, s.level ≤ op'.level →
            edge (u.append lead' op' right) = (edge u).append lead' op' right :=
          fun u lead' op' right h => hedge u lead' op' right (by omega)
        refine hon edge hleft _ _ (.chainStep hy ht₀ ?_)
        rw [← hedge _ _ _ _ (Nat.le_refl _), append_of_level_le hslevel']
        exact hon' (fun u => edge (.binary y.lead op s' u)) hright _ _ hu
  refine ⟨fun h => ?_, fun h => ?_, hchain, hchain.expression⟩
  · rw [hlevel] at h
    omega
  · rw [hlevel] at h
    omega

/-- A tree in parentheses is regained. -/
lemma regained_parens {t : Tree} (lead inner : Option Text) (ht : Regained site t) :
    Regained site (.parens lead t inner) := by
  refine .of_reads fun zs rest hzs _ => ?_
  cases hzs with
  | @parens _ _ _ x y xs hx hxs hy =>
    obtain ⟨t', hbare, hread⟩ := ht.expression xs (y :: rest) hxs
      (startsWith_cons hy ⟨nofun, nofun, nofun⟩ rest)
    refine ⟨.parens x.lead t' y.lead, congrArg (Tree.parens none · none) hbare, ?_⟩
    rw [List.cons_append, List.append_assoc, List.singleton_append]
    exact .parens hx hread hy

/-! ## Arguments and rows -/

/-- The arguments of a call are read from their lexemes, whether they are written or left out. -/
lemma regained_arguments {ts : List Tree}
    (hts : ∀ t ∈ ts, ¬t.IsOmitted → ExpressionRegained site t) {xs : List Spaced}
    (h : Separated (Tree.Yields site) .argumentSeparator ts xs) {y : Spaced}
    (hy : y.symbol = .closeParen) (rest : List Spaced) :
    ∃ ts' inner, ts'.map Tree.bare = ts.map Tree.bare ∧
      Reads site (.arguments ts' inner) (xs ++ y :: rest) rest := by
  induction h with
  | @single t xs ht =>
    by_cases homitted : t.IsOmitted
    · obtain ⟨lead, rfl⟩ := homitted
      obtain rfl := ht.eq_nil_of_omitted
      exact ⟨[.atom y.lead .omitted], none, rfl, .lastOmitted hy⟩
    · obtain ⟨t', hbare, hread⟩ := hts t List.mem_cons_self homitted xs (y :: rest) ht
        (startsWith_cons hy ⟨nofun, nofun, nofun⟩ rest)
      exact ⟨[t'], y.lead, congrArg ([·]) hbare, .lastArgument hread hy⟩
  | @cons t ts xs ys z ht hz _ ih =>
    obtain ⟨ts', inner, hbares, hreads⟩ := ih fun t ht => hts t (List.mem_cons_of_mem _ ht)
    by_cases homitted : t.IsOmitted
    · obtain ⟨lead, rfl⟩ := homitted
      obtain rfl := ht.eq_nil_of_omitted
      exact ⟨.atom z.lead .omitted :: ts', inner, congrArg (Tree.atom none .omitted :: ·) hbares,
        .omitted hz hreads⟩
    · obtain ⟨t', hbare, hread⟩ := hts t List.mem_cons_self homitted xs (z :: (ys ++ y :: rest)) ht
        (startsWith_cons hz ⟨nofun, nofun, nofun⟩ _)
      refine ⟨t' :: ts', inner, congrArg₂ List.cons hbare hbares, ?_⟩
      rw [List.append_assoc, List.cons_append]
      exact .argument hread hz hreads

/-- A row of an array is read from its lexemes, given how a row of one tree is read with what stands
behind it. -/
lemma regained_row {row : List Tree} (hrow : ∀ t ∈ row, ExpressionRegained site t)
    {xs : List Spaced} (h : Separated (Tree.Yields site) .columnSeparator row xs)
    {zs rest : List Spaced} {rows : List (List Tree)} {inner : Option Text}
    (hstop : StartsWith Symbol.EndsExpression zs)
    (hlast : ∀ t ws, Reads site (.expression t) ws zs →
      Reads site (.rows ([t] :: rows) inner) ws rest) :
    ∃ row', row'.map Tree.bare = row.map Tree.bare ∧
      Reads site (.rows (row' :: rows) inner) (xs ++ zs) rest := by
  induction h with
  | @single t xs ht =>
    obtain ⟨t', hbare, hread⟩ := hrow t List.mem_cons_self xs zs ht hstop
    exact ⟨[t'], congrArg ([·]) hbare, hlast t' _ hread⟩
  | @cons t row xs ys z ht hz _ ih =>
    obtain ⟨row', hbares, hreads⟩ := ih fun t ht => hrow t (List.mem_cons_of_mem _ ht)
    obtain ⟨t', hbare, hread⟩ := hrow t List.mem_cons_self xs (z :: (ys ++ zs)) ht
      (startsWith_cons hz ⟨nofun, nofun, nofun⟩ _)
    refine ⟨t' :: row', congrArg₂ List.cons hbare hbares, ?_⟩
    rw [List.append_assoc, List.cons_append]
    exact .column hread hz hreads

/-- The rows of an array are read from their lexemes. -/
lemma regained_rows {rows : List (List Tree)}
    (hrows : ∀ row ∈ rows, ∀ t ∈ row, ExpressionRegained site t) {xs : List Spaced}
    (h : Separated (Separated (Tree.Yields site) .columnSeparator) .rowSeparator rows xs)
    {y : Spaced} (hy : y.symbol = .closeBrace) (rest : List Spaced) :
    ∃ rows' inner, rows'.map (List.map Tree.bare) = rows.map (List.map Tree.bare) ∧
      Reads site (.rows rows' inner) (xs ++ y :: rest) rest := by
  induction h with
  | @single row xs hrow =>
    obtain ⟨row', hbare, hread⟩ := regained_row (hrows row List.mem_cons_self) hrow
      (startsWith_cons hy ⟨nofun, nofun, nofun⟩ rest) fun t ws ht => .lastRow ht hy
    exact ⟨[row'], y.lead, congrArg ([·]) hbare, hread⟩
  | @cons row rows xs ys z hrow hz _ ih =>
    obtain ⟨rows', inner, hbares, hreads⟩ := ih fun row hrow =>
      hrows row (List.mem_cons_of_mem _ hrow)
    obtain ⟨row', hbare, hread⟩ := regained_row (hrows row List.mem_cons_self) hrow
      (startsWith_cons hz ⟨nofun, nofun, nofun⟩ _) fun t ws ht => .row ht hz hreads
    refine ⟨row' :: rows', inner, congrArg₂ List.cons hbare hbares, ?_⟩
    rwa [List.append_assoc, List.cons_append]

/-- A call is regained if its arguments are. -/
lemma regained_call (lead : Option Text) (function : Text) {ts : List Tree} {inner : Option Text}
    (hts : ∀ t ∈ ts, ¬t.IsOmitted → ExpressionRegained site t)
    (hsole : ∀ t, ts = [t] → ¬t.IsOmitted) : Regained site (.call lead function ts inner) := by
  refine .of_reads fun zs rest hzs _ => ?_
  cases hzs with
  | @emptyCall _ _ _ x y hx hy =>
    exact ⟨.call x.lead function [] y.lead, rfl, .call hx (.lastOmitted hy)⟩
  | @call _ _ _ _ x y xs hx hxs hy =>
    obtain ⟨ts', inner', hbares, hreads⟩ := regained_arguments hts hxs hy rest
    have hcall := Reads.call hx hreads
    rcases withoutSoleOmission_cases ts' inner' with ⟨lead', rfl, -⟩ | ⟨-, heq⟩
    · obtain ⟨t, rfl, hbare⟩ := List.map_eq_singleton_iff.mp hbares.symm
      exact absurd (Tree.isOmitted_bare.mp ⟨none, hbare⟩) (hsole t rfl)
    · rw [heq] at hcall
      refine ⟨.call x.lead function ts' inner', ?_, ?_⟩
      · rw [Tree.bare, Tree.bare, Tree.bareList_eq_map, Tree.bareList_eq_map, hbares]
      · rwa [List.cons_append, List.append_assoc, List.singleton_append]

/-- An array is regained if its members are. -/
lemma regained_array (lead : Option Text) {rows : List (List Tree)} {inner : Option Text}
    (hrows : ∀ row ∈ rows, ∀ t ∈ row, ExpressionRegained site t) (heven : areEven rows = true) :
    Regained site (.array lead rows inner) := by
  refine .of_reads fun zs rest hzs _ => ?_
  cases hzs with
  | @array _ _ _ x y xs hx hxs hy =>
    obtain ⟨rows', inner', hbares, hreads⟩ := regained_rows hrows hxs hy rest
    have heven' : areEven rows' = true := by
      rw [← Tree.areEven_map Tree.bare rows', hbares, Tree.areEven_map, heven]
    refine ⟨.array x.lead rows' inner', ?_, ?_⟩
    · rw [Tree.bare, Tree.bare, Tree.bareRows_eq_map, Tree.bareRows_eq_map, hbares]
    · rw [List.cons_append, List.append_assoc, List.singleton_append]
      exact .array hx hreads heven'

/-! ## All canonical trees -/

/-- Every canonical tree is read from its lexemes. -/
theorem regained_of_canonical {t : Tree} (h : t.Canonical) : Regained site t := by
  induction t using Tree.memberInduction with
  | atom lead a =>
    cases h with
    | atom ha => exact regained_atom lead ha
  | signed lead sign t ih =>
    cases h with
    | signed ht hlevel => exact regained_signed lead sign (ih ht) hlevel
  | percent lead t ih =>
    cases h with
    | percent ht hlevel => exact regained_percent lead (ih ht) hlevel
  | binary lead op s t ihs iht =>
    cases h with
    | binary hs ht hslevel htlevel =>
      exact regained_binary lead op (ihs hs) (iht ht) hslevel htlevel
  | call lead function ts inner ih =>
    cases h with
    | call hts hsole _ =>
      exact regained_call lead function (fun t ht hno => (ih t ht (hts t ht hno)).expression) hsole
  | parens lead t inner ih =>
    cases h with
    | parens ht => exact regained_parens lead inner (ih ht)
  | array lead rows inner ih =>
    cases h with
    | array _ _ hrows heven =>
      exact regained_array lead
        (fun row hmem t ht => (ih row hmem t ht (hrows row hmem t ht)).expression) heven

/-- The lexemes of a well grouped tree behind an equals sign are a formula, and its tree is this
one up to blanks. -/
theorem exists_formula_of_yields {t : Tree} {x : Spaced} {xs : List Spaced}
    (hx : x.symbol = .operator .equal) (hlead : x.lead = none) (ht : t.bare.Canonical)
    (hxs : t.Yields site xs) : ∃ t', formula site (x :: xs) = .ok t' ∧ t'.bare = t.bare := by
  have hyields : t.bare.Yields site xs := Tree.yields_bare_iff.mpr hxs
  obtain ⟨t', hbare, hread⟩ :=
    (regained_of_canonical ht).expression xs [] hyields (startsWith_nil _)
  rw [List.append_nil] at hread
  refine ⟨t', formula_eq_ok_iff.mpr ⟨x, xs, rfl, hx, hlead, hread⟩, ?_⟩
  rw [hbare, Tree.bare_bare]

/-- The tree of a formula without offsets is well grouped, and the lexemes behind the equals sign
are its lexemes. -/
theorem yields_of_formula {xs : List Spaced} {t : Tree} (h : formula site xs = .ok t)
    (hfree : ∀ x ∈ xs, x.symbol ≠ .offsetCall) :
    ∃ y ys, xs = y :: ys ∧ y.symbol = .operator .equal ∧ y.lead = none ∧ t.bare.Canonical ∧
      t.Yields site ys := by
  obtain ⟨y, ys, rfl, hy, hlead, hread⟩ := formula_eq_ok_iff.mp h
  obtain ⟨zs, rfl, hzs⟩ := hread.yields (List.forall_mem_cons.mp hfree).2
  rw [List.append_nil]
  exact ⟨y, zs, rfl, hy, hlead, hread.isCanonical.bare, hzs⟩

end Reader

/-! ## Formulas -/

/-- Of two ends only the last one names a sheet just when it does and the first one does not. -/
lemma EndSheets.compare_eq_lastOnly_iff {s t : Option (Option SheetId)} :
    compare s t = .lastOnly ↔ s = none ∧ t ≠ none := by
  unfold compare
  split
  case h_4 =>
    split <;> simp
  all_goals simp

namespace Site

/-- The same of sheets that are looked up, whether they exist or not. -/
lemma compare_writtenSheet_eq_lastOnly_iff (site : Site) {s t : Option Text} :
    EndSheets.compare (site.writtenSheet s) (site.writtenSheet t) = .lastOnly ↔
      s = none ∧ t ≠ none := by
  rw [EndSheets.compare_eq_lastOnly_iff, writtenSheet, writtenSheet, ne_eq, Option.map_eq_none_iff,
    Option.map_eq_none_iff]

/-- Nothing is made of an area between two cells only if just the last end names a sheet. -/
lemma cells?_eq_none_iff {site : Site} {a b : WrittenCell} {raw : Text} :
    site.cells? a b raw = none ↔ a.sheet = none ∧ b.sheet ≠ none := by
  rw [← compare_writtenSheet_eq_lastOnly_iff site]
  exact area?_eq_none_iff

/-- The same for a run of lines. -/
lemma lines?_eq_none_iff {site : Site} {axis : Axis} {a b : WrittenLine} {raw : Text} :
    site.lines? axis a b raw = none ↔ a.sheet = none ∧ b.sheet ≠ none := by
  rw [← compare_writtenSheet_eq_lastOnly_iff site]
  exact area?_eq_none_iff

/-- Lexemes are a formula if there is a tree for them, and this tree is given. -/
lemma isFormula_readLexemes_iff_formula {site : Site} {text : Text} {xs : List Lexeme} :
    (site.readLexemes text xs).isFormula = true ↔
      Reader.formula site (spaced xs) = .ok (site.readLexemes text xs).tree := by
  unfold readLexemes
  cases Reader.formula site (spaced xs) with
  | error fault => exact ⟨nofun, nofun⟩
  | ok t => exact ⟨fun _ => rfl, fun _ => rfl⟩

/-- The tree of a formula is read off its lexemes. -/
lemma formula_of_isFormula {site : Site} {text : Text} {xs : List Lexeme}
    (hlex : lex site.locale text = .ok xs) (h : (site.read text).isFormula = true) :
    Reader.formula site (spaced xs) = .ok (site.read text).tree := by
  rw [read, hlex] at h ⊢
  exact isFormula_readLexemes_iff_formula.mp h

/-- Any lexemes without offsets are read without a fault if and only if they are an equals sign
without blanks in front and, behind it, the lexemes of a well grouped tree. Then this is the only
such tree up to blanks, and the one that is read. No such tree has an area of which only the last
end names a sheet, because nothing is made of such an area. -/
theorem isFormula_readLexemes_iff (site : Site) (text : Text) {xs : List Lexeme}
    (hfree : ∀ x ∈ xs, x.symbol ≠ .offsetCall) :
    let r := site.readLexemes text xs
    (r.isFormula = true ↔ ∃ y ys, ∃ t : Tree, spaced xs = y :: ys ∧
        y.symbol = .operator .equal ∧ y.lead = none ∧ t.bare.Canonical ∧ t.Yields site ys) ∧
      (r.isFormula = true → ∀ y ys, spaced xs = y :: ys →
        ∀ t : Tree, t.bare.Canonical ∧ t.Yields site ys ↔ t.bare = r.tree.bare) ∧
      (∀ a b raw, site.cells? a b raw = none ↔ a.sheet = none ∧ b.sheet ≠ none) ∧
      ∀ axis a b raw, site.lines? axis a b raw = none ↔ a.sheet = none ∧ b.sheet ≠ none := by
  intro r
  have hfree' : ∀ y ∈ spaced xs, y.symbol ≠ .offsetCall := by
    intro y hy hoffset
    obtain ⟨x, hx, hsymbol⟩ := exists_mem_of_mem_spaced hy
    exact hfree x hx (hsymbol.trans hoffset)
  have hr : r.isFormula = true ↔ Reader.formula site (spaced xs) = .ok r.tree :=
    isFormula_readLexemes_iff_formula
  refine ⟨⟨fun hformula => ?_, ?_⟩, fun hformula y ys hxs t => ?_,
    fun _ _ _ => cells?_eq_none_iff, fun _ _ _ _ => lines?_eq_none_iff⟩
  · obtain ⟨y, ys, hrest⟩ := Reader.yields_of_formula (hr.mp hformula) hfree'
    exact ⟨y, ys, r.tree, hrest⟩
  · rintro ⟨y, ys, t, hxs, hy, hlead, ht, hyields⟩
    obtain ⟨t', hread, -⟩ := Reader.exists_formula_of_yields hy hlead ht hyields
    rw [← hxs] at hread
    have htree : r.tree = t' := by
      simp only [r, readLexemes, hread]
    rw [hr, htree, hread]
  · -- Both trees are the one that the lexemes are read as, up to blanks.
    have hread := hr.mp hformula
    obtain ⟨y', ys', hxs', hy, hlead, hgrouped, hyields⟩ := Reader.yields_of_formula hread hfree'
    obtain ⟨rfl, rfl⟩ := List.cons.inj (hxs.symm.trans hxs')
    constructor
    · rintro ⟨htgrouped, htyields⟩
      obtain ⟨t', hread', hbare⟩ := Reader.exists_formula_of_yields hy hlead htgrouped htyields
      rw [← hxs, hread] at hread'
      rw [← hbare, ← Except.ok.inj hread']
    · intro hbare
      refine ⟨hbare ▸ hgrouped, ?_⟩
      rw [← Tree.yields_bare_iff, hbare]
      exact Tree.yields_bare_iff.mpr hyields

/-- Lexemes that no text has: two blanks follow each other, and a colon is written as something
else. -/
theorem isFormula_readLexemes_iff_two_blanks :
    let site : Site := ⟨.unitedStates, ⟨fun _ => none, fun _ => none⟩, ⟨0, 1, 0⟩⟩
    let xs : List Lexeme :=
      [⟨.operator .equal, "=".toList⟩, ⟨.operator .minus, "-".toList⟩, ⟨.blank, " ".toList⟩,
        ⟨.blank, "\t".toList⟩, ⟨.number "2".toList, "2".toList⟩, ⟨.percent, "%".toList⟩,
        ⟨.operator .power, "^".toList⟩, ⟨.call "F".toList, "F(".toList⟩,
        ⟨.argumentSeparator, ",".toList⟩,
        ⟨.cell ⟨none, ⟨.relative, 0⟩, ⟨.relative, 0⟩⟩, "A1".toList⟩, ⟨.blank, " ".toList⟩,
        ⟨.colon, "..".toList⟩, ⟨.cell ⟨none, ⟨.relative, 1⟩, ⟨.relative, 9999999⟩⟩, "B".toList⟩,
        ⟨.closeParen, ")".toList⟩]
    let r := site.readLexemes [] xs
    let t : Tree :=
      .binary none .power
        (.signed none .minus (.percent none (.atom none (.number "2".toList))))
        (.call none "F".toList
          [.atom none .omitted, .atom none (.unreadable "A1..B".toList .unknownName)] none)
    (∀ x ∈ xs, x.symbol ≠ .offsetCall) ∧ r.isFormula = true ∧
      (∃ y ys, ∃ t : Tree, spaced xs = y :: ys ∧ y.symbol = .operator .equal ∧ y.lead = none ∧
        t.bare.Canonical ∧ t.Yields site ys) ∧
      ∃ y ys, spaced xs = y :: ys ∧ t.bare.Canonical ∧ t.Yields site ys ∧
        t.bare = r.tree.bare := by
  intro site xs r t
  have hfree : ∀ x ∈ xs, x.symbol ≠ .offsetCall := by decide +kernel
  have hformula : r.isFormula = true := by decide +kernel
  have hbare : t.bare = r.tree.bare := by decide +kernel
  obtain ⟨hiff, hunique, -⟩ := isFormula_readLexemes_iff site [] hfree
  obtain ⟨y, ys, u, hxs, hrest⟩ := hiff.mp hformula
  obtain ⟨hgrouped, hyields⟩ := (hunique hformula y ys hxs t).mpr hbare
  exact ⟨hfree, hformula, ⟨y, ys, u, hxs, hrest⟩, y, ys, hxs, hgrouped, hyields, hbare⟩

end Site

end GridFormula
