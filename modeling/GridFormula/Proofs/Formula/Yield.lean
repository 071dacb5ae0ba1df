import GridFormula.Proofs.Formula.Canonical
import GridFormula.Proofs.Formula.Shape
import GridFormula.Proofs.Formula.Spelling

/-!
# The lexemes of a tree

Read from left to right a tree names the lexemes that it was made of, all but the blanks. Which
lexemes these are is said here of any tree, without the reader: nothing is looked at twice, no
lexeme is left over, and how operators bind does not matter. What the reader reads is such a tree
for the lexemes that it has taken.
-/

namespace GridFormula

/-- What belongs to some items stands in their order, with one lexeme that has the symbol between
every two. -/
inductive Separated {α : Type} (R : α → List Spaced → Prop) (symbol : Symbol) :
    List α → List Spaced → Prop where
  | single {a : α} {xs : List Spaced} : R a xs → Separated R symbol [a] xs
  | cons {a : α} {as : List α} {xs ys : List Spaced} {y : Spaced} :
    R a xs → y.symbol = symbol → Separated R symbol as ys →
      Separated R symbol (a :: as) (xs ++ y :: ys)

namespace Separated

variable {α β : Type} {R R' : α → List Spaced → Prop} {symbol : Symbol} {xs : List Spaced}

/-- Members with separators between them may be described by anything that follows of each. -/
lemma of_forall_mem {as : List α} (h : Separated R symbol as xs)
    (hR : ∀ a ∈ as, ∀ xs, R a xs → R' a xs) : Separated R' symbol as xs := by
  induction h with
  | single ha => exact .single (hR _ List.mem_cons_self _ ha)
  | cons ha hy _ ih =>
    exact .cons (hR _ List.mem_cons_self _ ha) hy (ih fun a ha => hR a (List.mem_cons_of_mem _ ha))

/-- Members with separators between them may be described in any equivalent way. -/
lemma congr {as : List α} (h : ∀ a ∈ as, ∀ xs, R a xs ↔ R' a xs) :
    Separated R symbol as xs ↔ Separated R' symbol as xs :=
  ⟨fun has => has.of_forall_mem fun a ha xs => (h a ha xs).mp,
    fun has => has.of_forall_mem fun a ha xs => (h a ha xs).mpr⟩

/-- Images with separators between them are members described by their images. -/
lemma map_iff {f : β → α} {bs : List β} :
    Separated R symbol (bs.map f) xs ↔ Separated (fun b => R (f b)) symbol bs xs := by
  constructor
  · intro h
    generalize has : bs.map f = as at h
    induction h generalizing bs with
    | single ha =>
      obtain ⟨b, rfl, rfl⟩ := List.map_eq_singleton_iff.mp has
      exact .single ha
    | cons ha hy _ ih =>
      obtain ⟨b, bs, rfl, rfl, rfl⟩ := List.map_eq_cons_iff.mp has
      exact .cons ha hy (ih rfl)
  · intro h
    induction h with
    | single hb => exact .single hb
    | cons hb hy _ ih => exact .cons hb hy ih

end Separated

namespace Tree

/-! ## Trees without blanks -/

mutual

/-- A tree without its blanks. -/
def bare : Tree → Tree
  | .atom _ a => .atom none a
  | .signed _ sign t => .signed none sign (bare t)
  | .percent _ t => .percent none (bare t)
  | .binary _ op s t => .binary none op (bare s) (bare t)
  | .call _ function ts _ => .call none function (bareList ts) none
  | .parens _ t _ => .parens none (bare t) none
  | .array _ rows _ => .array none (bareRows rows) none

/-- Each tree of a list without its blanks. -/
def bareList : List Tree → List Tree
  | [] => []
  | t :: ts => bare t :: bareList ts

/-- Each tree of each row without its blanks. -/
def bareRows : List (List Tree) → List (List Tree)
  | [] => []
  | row :: rows => bareList row :: bareRows rows

end

/-- Each of several trees loses its blanks. -/
lemma bareList_eq_map (ts : List Tree) : bareList ts = ts.map bare := by
  induction ts with
  | nil => rfl
  | cons t ts ih => rw [bareList, ih, List.map_cons]

/-- Each of the trees in rows loses its blanks. -/
lemma bareRows_eq_map (rows : List (List Tree)) : bareRows rows = rows.map (List.map bare) := by
  induction rows with
  | nil => rfl
  | cons row rows ih => rw [bareRows, ih, bareList_eq_map, List.map_cons]

/-- A tree without blanks is left as it is. -/
lemma bare_bare (t : Tree) : t.bare.bare = t.bare := by
  induction t using memberInduction with
  | atom lead a => rfl
  | signed lead sign t ih => rw [bare, bare, ih]
  | percent lead t ih => rw [bare, bare, ih]
  | binary lead op s t ihs iht => rw [bare, bare, ihs, iht]
  | call lead function ts inner ih =>
    have hts : ts.map (bare ∘ bare) = ts.map bare := List.map_congr_left ih
    rw [bare, bare, bareList_eq_map, bareList_eq_map, List.map_map, hts]
  | parens lead t inner ih => rw [bare, bare, ih]
  | array lead rows inner ih =>
    have hrows : rows.map (List.map bare ∘ List.map bare) = rows.map (List.map bare) := by
      refine List.map_congr_left fun row hrow => ?_
      rw [Function.comp_apply, List.map_map]
      exact List.map_congr_left (ih row hrow)
    rw [bare, bare, bareRows_eq_map, bareRows_eq_map, List.map_map, hrows]

/-- Blanks do not change how tightly a tree binds. -/
lemma level_bare (t : Tree) : t.bare.level = t.level := by
  cases t <;> rfl

/-- Blanks do not make an argument an omitted one, nor fill it. -/
lemma isOmitted_bare {t : Tree} : t.bare.IsOmitted ↔ t.IsOmitted := by
  cases t with
  | atom lead a => simp [bare, IsOmitted]
  | _ => simp [bare, IsOmitted]

/-- How a tree is grouped does not depend on its blanks. -/
theorem Canonical.bare {t : Tree} (h : t.Canonical) : t.bare.Canonical := by
  -- The rules look at levels, omissions and the widths of rows, in which blanks have no part.
  induction t using memberInduction with
  | atom lead a =>
    cases h with
    | atom ha => exact .atom ha
  | signed lead sign t ih =>
    cases h with
    | signed ht hlevel => exact .signed (ih ht) (by rwa [level_bare])
  | percent lead t ih =>
    cases h with
    | percent ht hlevel => exact .percent (ih ht) (by rwa [level_bare])
  | binary lead op s t ihs iht =>
    cases h with
    | binary hs ht hslevel htlevel =>
      exact .binary (ihs hs) (iht ht) (by rwa [level_bare]) (by rwa [level_bare])
  | call lead function ts inner ih =>
    cases h with
    | call hts hsole _ =>
      rw [Tree.bare, bareList_eq_map]
      refine .call ?_ ?_ fun _ _ _ => rfl
      · intro t' ht' hno
        obtain ⟨t, ht, rfl⟩ := List.mem_map.mp ht'
        rw [isOmitted_bare] at hno
        exact ih t ht (hts t ht hno)
      · intro t' ht'
        obtain ⟨t, rfl, rfl⟩ := List.map_eq_singleton_iff.mp ht'
        rw [isOmitted_bare]
        exact hsole t rfl
  | parens lead t inner ih =>
    cases h with
    | parens ht => exact .parens (ih ht)
  | array lead rows inner ih =>
    cases h with
    | array hne hrow hrows heven =>
      rw [Tree.bare, bareRows_eq_map]
      refine .array (by simpa using hne) ?_ ?_ ((areEven_map _ rows).trans heven)
      · intro row' hrow'
        obtain ⟨row, hmem, rfl⟩ := List.mem_map.mp hrow'
        simpa using hrow row hmem
      · intro row' hrow' t' ht'
        obtain ⟨row, hmem, rfl⟩ := List.mem_map.mp hrow'
        obtain ⟨t, ht, rfl⟩ := List.mem_map.mp ht'
        exact ih row hmem t ht (hrows row hmem t ht)

/-! ## The lexemes of trees -/

/-- The lexemes are those of the tree in their order, whatever blanks the tree has. A reference is
what the site makes of its lexemes, an argument that is left out has none. -/
inductive Yields (site : Site) : Tree → List Spaced → Prop where
  | omitted {lead : Option Text} : Yields site (.atom lead .omitted) []
  | atom {lead : Option Text} {a : Atom} {x : Spaced} :
    site.mark? x = some (.atom a) → Yields site (.atom lead a) [x]
  | area {lead : Option Text} {a : Atom} {w w' : WrittenCell} {x y z : Spaced} :
    x.symbol = .cell w → y.symbol = .colon → z.symbol = .cell w' →
      site.cells? w w' (Reader.written [x, y, z]) = some a → Yields site (.atom lead a) [x, y, z]
  | signed {lead : Option Text} {sign : Sign} {t : Tree} {x : Spaced} {xs : List Spaced} :
    x.symbol = .operator sign.operator → Yields site t xs →
      Yields site (.signed lead sign t) (x :: xs)
  | percent {lead : Option Text} {t : Tree} {xs : List Spaced} {y : Spaced} :
    Yields site t xs → y.symbol = .percent → Yields site (.percent lead t) (xs ++ [y])
  | binary {lead : Option Text} {op : BinaryOp} {s t : Tree} {xs ys : List Spaced} {y : Spaced} :
    Yields site s xs → y.symbol = .operator op → Yields site t ys →
      Yields site (.binary lead op s t) (xs ++ y :: ys)
  | emptyCall {lead : Option Text} {function : Text} {inner : Option Text} {x y : Spaced} :
    x.symbol = .call function → y.symbol = .closeParen →
      Yields site (.call lead function [] inner) [x, y]
  | call {lead : Option Text} {function : Text} {ts : List Tree} {inner : Option Text}
    {x y : Spaced} {xs : List Spaced} :
    x.symbol = .call function → Separated (Yields site) .argumentSeparator ts xs →
      y.symbol = .closeParen → Yields site (.call lead function ts inner) (x :: (xs ++ [y]))
  | parens {lead : Option Text} {t : Tree} {inner : Option Text} {x y : Spaced}
    {xs : List Spaced} :
    x.symbol = .openParen → Yields site t xs → y.symbol = .closeParen →
      Yields site (.parens lead t inner) (x :: (xs ++ [y]))
  | array {lead : Option Text} {rows : List (List Tree)} {inner : Option Text} {x y : Spaced}
    {xs : List Spaced} :
    x.symbol = .openBrace →
      Separated (Separated (Yields site) .columnSeparator) .rowSeparator rows xs →
        y.symbol = .closeBrace → Yields site (.array lead rows inner) (x :: (xs ++ [y]))

/-- The blanks of a tree do not show in its lexemes. -/
theorem yields_bare_iff {site : Site} {t : Tree} {xs : List Spaced} :
    t.bare.Yields site xs ↔ t.Yields site xs := by
  -- A bare tree has the same nodes, so the rule for its root is the one for the root of the tree.
  induction t using memberInduction generalizing xs with
  | atom lead a =>
    constructor
    · intro h
      cases h with
      | omitted => exact .omitted
      | atom hx => exact .atom hx
      | area hx hy hz ha => exact .area hx hy hz ha
    · intro h
      cases h with
      | omitted => exact .omitted
      | atom hx => exact .atom hx
      | area hx hy hz ha => exact .area hx hy hz ha
  | signed lead sign t ih =>
    constructor
    · intro h
      cases h with
      | signed hx ht => exact .signed hx (ih.mp ht)
    · intro h
      cases h with
      | signed hx ht => exact .signed hx (ih.mpr ht)
  | percent lead t ih =>
    constructor
    · intro h
      cases h with
      | percent ht hy => exact .percent (ih.mp ht) hy
    · intro h
      cases h with
      | percent ht hy => exact .percent (ih.mpr ht) hy
  | binary lead op s t ihs iht =>
    constructor
    · intro h
      cases h with
      | binary hs hy ht => exact .binary (ihs.mp hs) hy (iht.mp ht)
    · intro h
      cases h with
      | binary hs hy ht => exact .binary (ihs.mpr hs) hy (iht.mpr ht)
  | call lead function ts inner ih =>
    have hts : ∀ xs, Separated (Yields site) .argumentSeparator (ts.map bare) xs ↔
        Separated (Yields site) .argumentSeparator ts xs := fun xs =>
      Separated.map_iff.trans (Separated.congr fun t ht xs => ih t ht)
    rw [bare, bareList_eq_map]
    constructor
    · intro h
      -- Which of the two rules for calls applies can only be seen if the arguments are a variable.
      generalize hbare : ts.map bare = ts' at h
      cases h with
      | emptyCall hx hy =>
        obtain rfl := List.map_eq_nil_iff.mp hbare
        exact .emptyCall hx hy
      | call hx hts' hy =>
        rw [← hbare] at hts'
        exact .call hx ((hts _).mp hts') hy
    · intro h
      cases h with
      | emptyCall hx hy => exact .emptyCall hx hy
      | call hx hts' hy => exact .call hx ((hts _).mpr hts') hy
  | parens lead t inner ih =>
    constructor
    · intro h
      cases h with
      | parens hx ht hy => exact .parens hx (ih.mp ht) hy
    · intro h
      cases h with
      | parens hx ht hy => exact .parens hx (ih.mpr ht) hy
  | array lead rows inner ih =>
    have hrows : ∀ xs, Separated (Separated (Yields site) .columnSeparator) .rowSeparator
          (rows.map (List.map bare)) xs ↔
        Separated (Separated (Yields site) .columnSeparator) .rowSeparator rows xs := fun xs =>
      Separated.map_iff.trans (Separated.congr fun row hrow xs =>
        Separated.map_iff.trans (Separated.congr fun t ht xs => ih row hrow t ht))
    rw [bare, bareRows_eq_map]
    constructor
    · intro h
      cases h with
      | array hx hrows' hy => exact .array hx ((hrows _).mp hrows') hy
    · intro h
      cases h with
      | array hx hrows' hy => exact .array hx ((hrows _).mpr hrows') hy

/-- An argument that is left out has no lexemes. -/
lemma Yields.eq_nil_of_omitted {site : Site} {lead : Option Text} {xs : List Spaced}
    (h : (Tree.atom lead .omitted).Yields site xs) : xs = [] := by
  cases h with
  | omitted => rfl
  | @atom _ _ x hx =>
    by_cases hcell : ∃ w, x.symbol = .cell w
    · obtain ⟨w, hw⟩ := hcell
      have hatom : site.cell w x.image = .omitted := by simpa [Site.mark?, hw] using hx
      exact absurd hatom (Reader.cell_ne_omitted w x.image)
    · exact absurd rfl (Reader.not_omitted_of_mark? (fun w hw => hcell ⟨w, hw⟩) hx)
  | area _ _ _ ha => exact absurd rfl (Reader.cells?_ne_omitted ha)

/-- Attaching an operator and its right operand puts their lexemes behind those of the tree. -/
lemma Yields.append {site : Site} {s t : Tree} {xs ys : List Spaced} {y : Spaced} {op : BinaryOp}
    (hs : s.Yields site xs) (lead : Option Text) (hy : y.symbol = .operator op)
    (ht : t.Yields site ys) : (s.append lead op t).Yields site (xs ++ y :: ys) := by
  fun_induction Tree.append s lead op t generalizing xs with
  | case1 lead' op' s t hlt ih =>
    cases hs with
    | binary hs hz ht' =>
      rw [List.append_assoc, List.cons_append]
      exact .binary hs hz (ih ht')
  | case2 lead' op' s t hlt => exact .binary hs hy ht
  | case3 s h => exact .binary hs hy ht

end Tree

namespace Reader

variable {site : Site}

/-- The phrase names the lexemes. Behind an operand, these stand behind those of what was read
before. -/
def Phrase.Yields (site : Site) (xs : List Spaced) : Phrase → Prop
  | expression t | operand t | primary t => t.Yields site xs
  | chain s t | percents s t => ∀ ys, s.Yields site ys → t.Yields site (ys ++ xs)
  | reference a => ∀ lead, (Tree.atom lead a).Yields site xs
  | areaEnd e => ∃ x w, xs = [x] ∧ x.symbol = .cell w ∧ e = .written w x.image
  | arguments ts _ => ∃ ys y, xs = ys ++ [y] ∧ y.symbol = .closeParen ∧
      Separated (Tree.Yields site) .argumentSeparator ts ys
  | rows ts _ => ∃ ys y, xs = ys ++ [y] ∧ y.symbol = .closeBrace ∧
      Separated (Separated (Tree.Yields site) .columnSeparator) .rowSeparator ts ys

/-- A tree in front of the first row stands there with its lexemes. -/
lemma separated_intoFirstRow {R : Tree → List Spaced → Prop} {s s' : Symbol} {t : Tree}
    {rows : List (List Tree)} {xs ys : List Spaced} {y : Spaced} (ht : R t xs) (hy : y.symbol = s)
    (hrows : Separated (Separated R s) s' rows ys) :
    Separated (Separated R s) s' (intoFirstRow t rows) (xs ++ y :: ys) := by
  cases hrows with
  | single hrow => exact .single (.cons ht hy hrow)
  | @cons row rows zs ys z hrow hz hrows =>
    have hfirst : Separated R s (t :: row) (xs ++ y :: zs) := .cons ht hy hrow
    have hall : Separated (Separated R s) s' ((t :: row) :: rows) ((xs ++ y :: zs) ++ z :: ys) :=
      .cons hfirst hz hrows
    rwa [List.append_assoc, List.cons_append] at hall

/-- What is written up to the rest is what stands in front of it. -/
lemma writtenUpTo_append (xs rest : List Spaced) : writtenUpTo (xs ++ rest) rest = written xs := by
  rw [writtenUpTo, List.length_append, Nat.add_sub_cancel, List.take_left]

/-- The area between two cells is what the site makes of them. -/
lemma area_eq_ok_iff {w w' : WrittenCell} {x y z : Spaced} {rest : List Spaced} {a : Atom} :
    area site (writtenUpTo (x :: y :: z :: rest) rest) (.written w x.image) (.written w' z.image) =
      .ok a ↔ site.cells? w w' (written [x, y, z]) = some a := by
  have hwritten : writtenUpTo (x :: y :: z :: rest) rest = written [x, y, z] :=
    writtenUpTo_append [x, y, z] rest
  rw [hwritten, area]
  cases site.cells? w w' (written [x, y, z]) with
  | none => simp
  | some a' => simp

/-- What a phrase reads is a front of the lexemes, and the phrase names it. -/
theorem Reads.yields {p : Phrase} {xs rest : List Spaced} (h : Reads site p xs rest)
    (hfree : ∀ x ∈ xs, x.symbol ≠ .offsetCall) : ∃ ys, xs = ys ++ rest ∧ p.Yields site ys := by
  -- What one part leaves is where the next part starts, so the fronts add up.
  induction h with
  | expression _ _ ihs iht =>
    obtain ⟨xs, rfl, hs⟩ := ihs hfree
    obtain ⟨ys, rfl, ht⟩ := iht (List.forall_mem_append.mp hfree).2
    exact ⟨xs ++ ys, (List.append_assoc ..).symm, ht xs hs⟩
  | chainEnd _ =>
    refine ⟨[], rfl, fun ys hs => ?_⟩
    rwa [List.append_nil]
  | @chainStep t t' right x op xs ys rest hx _ _ ihr ih =>
    obtain ⟨xs, rfl, hright⟩ := ihr (List.forall_mem_cons.mp hfree).2
    obtain ⟨ys, rfl, ht⟩ := ih (List.forall_mem_append.mp (List.forall_mem_cons.mp hfree).2).2
    refine ⟨x :: (xs ++ ys), by rw [List.cons_append, List.append_assoc], fun zs hs => ?_⟩
    have hwhole := ht _ (hs.append x.lead hx hright)
    rwa [List.append_assoc, List.cons_append] at hwhole
  | @sign t x sign xs rest hx _ ih =>
    obtain ⟨xs, rfl, ht⟩ := ih (List.forall_mem_cons.mp hfree).2
    exact ⟨x :: xs, rfl, .signed (symbol_of_sign? hx) ht⟩
  | unsigned _ _ _ ihp ih =>
    obtain ⟨xs, hxs, hp⟩ := ihp hfree
    rw [hxs] at hfree ⊢
    obtain ⟨ys, rfl, ht⟩ := ih (List.forall_mem_append.mp hfree).2
    exact ⟨xs ++ ys, (List.append_assoc ..).symm, ht xs hp⟩
  | percentsEnd _ =>
    refine ⟨[], rfl, fun ys hs => ?_⟩
    rwa [List.append_nil]
  | @percentsStep t t' x xs rest hx _ ih =>
    obtain ⟨xs, rfl, ht⟩ := ih (List.forall_mem_cons.mp hfree).2
    refine ⟨x :: xs, rfl, fun ys hs => ?_⟩
    have hwhole := ht _ (.percent hs hx)
    rwa [List.append_assoc, List.singleton_append] at hwhole
  | @constant x a xs _ ha => exact ⟨[x], rfl, .atom ha⟩
  | reference _ ih =>
    obtain ⟨ys, hys, ha⟩ := ih hfree
    exact ⟨ys, hys, ha _⟩
  | @call x function ts inner xs rest hx _ ih =>
    obtain ⟨_, rfl, ys, y, rfl, hy, hts⟩ := ih (List.forall_mem_cons.mp hfree).2
    refine ⟨x :: (ys ++ [y]), rfl, ?_⟩
    rcases withoutSoleOmission_cases ts inner with ⟨lead, rfl, heq⟩ | ⟨-, heq⟩
    · cases hts with
      | single homitted =>
        obtain rfl := homitted.eq_nil_of_omitted
        rw [heq]
        exact .emptyCall hx hy
      | cons _ _ hnil => cases hnil
    · rw [heq]
      exact .call hx hts hy
  | @parens x y t xs rest hx _ hy ih =>
    obtain ⟨ys, rfl, ht⟩ := ih (List.forall_mem_cons.mp hfree).2
    exact ⟨x :: (ys ++ [y]), by rw [List.cons_append, List.append_assoc]; rfl, .parens hx ht hy⟩
  | @array x rows inner xs rest hx _ _ ih =>
    obtain ⟨_, rfl, ys, y, rfl, hy, hrows⟩ := ih (List.forall_mem_cons.mp hfree).2
    exact ⟨x :: (ys ++ [y]), rfl, .array hx hrows hy⟩
  | lone _ _ ih =>
    obtain ⟨_, rfl, x, w, rfl, hx, rfl⟩ := ih hfree
    exact ⟨[x], rfl, fun lead => .atom (by simp [Site.mark?, hx, AreaEnd.atom])⟩
  | area _ hy _ ha ih ih' =>
    obtain ⟨_, hxs, x, w, rfl, hx, rfl⟩ := ih hfree
    subst hxs
    obtain ⟨_, rfl, z, w', rfl, hz, rfl⟩ :=
      ih' (List.forall_mem_cons.mp (List.forall_mem_append.mp hfree).2).2
    exact ⟨[x, _, z], rfl, fun lead => .area hx hy hz (area_eq_ok_iff.mp ha)⟩
  | @cell x w xs hx => exact ⟨[x], rfl, x, w, rfl, hx, rfl⟩
  | offset hx _ _ _ => exact absurd hx (hfree _ List.mem_cons_self)
  | @lastOmitted x xs hx =>
    exact ⟨[x], rfl, [], x, rfl, hx, .single .omitted⟩
  | @omitted x ts inner xs rest hx _ ih =>
    obtain ⟨_, rfl, ys, y, rfl, hy, hts⟩ := ih (List.forall_mem_cons.mp hfree).2
    have homitted : (Tree.atom x.lead .omitted).Yields site [] := .omitted
    exact ⟨x :: (ys ++ [y]), rfl, x :: ys, y, rfl, hy, Separated.cons homitted hx hts⟩
  | @lastArgument y t xs rest _ hy ih =>
    obtain ⟨xs, rfl, ht⟩ := ih hfree
    exact ⟨xs ++ [y], by rw [List.append_assoc]; rfl, xs, y, rfl, hy, .single ht⟩
  | @argument y t ts inner xs ys rest _ hy _ iht ih =>
    obtain ⟨xs, rfl, ht⟩ := iht hfree
    have hys := (List.forall_mem_cons.mp (List.forall_mem_append.mp hfree).2).2
    obtain ⟨_, rfl, ys, z, rfl, hz, hts⟩ := ih hys
    exact ⟨xs ++ y :: (ys ++ [z]), by simp, xs ++ y :: ys, z, by simp, hz, .cons ht hy hts⟩
  | @lastRow y t xs rest _ hy ih =>
    obtain ⟨xs, rfl, ht⟩ := ih hfree
    exact ⟨xs ++ [y], by rw [List.append_assoc]; rfl, xs, y, rfl, hy, .single (.single ht)⟩
  | @column y t rows inner xs ys rest _ hy _ iht ih =>
    obtain ⟨xs, rfl, ht⟩ := iht hfree
    have hys := (List.forall_mem_cons.mp (List.forall_mem_append.mp hfree).2).2
    obtain ⟨_, rfl, ys, z, rfl, hz, hrows⟩ := ih hys
    exact ⟨xs ++ y :: (ys ++ [z]), by simp, xs ++ y :: ys, z, by simp, hz,
      separated_intoFirstRow ht hy hrows⟩
  | @row y t rows inner xs ys rest _ hy _ iht ih =>
    obtain ⟨xs, rfl, ht⟩ := iht hfree
    have hys := (List.forall_mem_cons.mp (List.forall_mem_append.mp hfree).2).2
    obtain ⟨_, rfl, ys, z, rfl, hz, hrows⟩ := ih hys
    exact ⟨xs ++ y :: (ys ++ [z]), by simp, xs ++ y :: ys, z, by simp, hz,
      .cons (.single ht) hy hrows⟩

end Reader

end GridFormula
