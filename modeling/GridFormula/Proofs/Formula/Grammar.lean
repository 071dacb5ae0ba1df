import GridFormula.Formula.Key
import Mathlib.Tactic.Common

/-!
# The grammar of formulas

The functions of a reader count down a depth, and a reader that runs out of depth stops wherever it
stands. The grammar says without a depth what each of them reads: a phrase, from a list of lexemes
up to what is left of it. The two agree as soon as the depth suffices, so everything that holds of
what is read is shown by induction on the grammar.
-/

namespace GridFormula

namespace Reader

/-- What one of the functions of a reader reads. Where operators and percent signs are read on
behind an operand, the phrase has the tree from before and the one that it has become. -/
inductive Phrase where
  | expression (t : Tree)
  | chain (before after : Tree)
  | operand (t : Tree)
  | percents (before after : Tree)
  | primary (t : Tree)
  | reference (a : Atom)
  | areaEnd (e : AreaEnd)
  | arguments (ts : List Tree) (inner : Option Text)
  | rows (rows : List (List Tree)) (inner : Option Text)

/-- A phrase stands at the front of some lexemes, and others are left behind it. -/
inductive Reads (site : Site) : Phrase → List Spaced → List Spaced → Prop where
  | expression {s t xs ys rest} :
    Reads site (.operand s) xs ys → Reads site (.chain s t) ys rest →
      Reads site (.expression t) xs rest
  | chainEnd {t xs} :
    (∀ x ∈ xs.head?, ∀ op, x.symbol ≠ .operator op) → Reads site (.chain t t) xs xs
  | chainStep {t t' right x op xs ys rest} :
    x.symbol = .operator op → Reads site (.operand right) xs ys →
      Reads site (.chain (t.append x.lead op right) t') ys rest →
        Reads site (.chain t t') (x :: xs) rest
  | sign {t x sign xs rest} :
    sign? x.symbol = some sign → Reads site (.operand t) xs rest →
      Reads site (.operand (.signed x.lead sign t)) (x :: xs) rest
  | unsigned {t t' x xs ys rest} :
    sign? x.symbol = none → Reads site (.primary t) (x :: xs) ys →
      Reads site (.percents t t') ys rest → Reads site (.operand t') (x :: xs) rest
  | percentsEnd {t xs} :
    (∀ x ∈ xs.head?, x.symbol ≠ .percent) → Reads site (.percents t t) xs xs
  | percentsStep {t t' x xs rest} :
    x.symbol = .percent → Reads site (.percents (.percent x.lead t) t') xs rest →
      Reads site (.percents t t') (x :: xs) rest
  | constant {x a xs} :
    (∀ w, x.symbol ≠ .cell w) → site.mark? x = some (.atom a) →
      Reads site (.primary (.atom x.lead a)) (x :: xs) xs
  | reference {x a xs rest} :
    Reads site (.reference a) (x :: xs) rest →
      Reads site (.primary (.atom x.lead a)) (x :: xs) rest
  | call {x function ts inner xs rest} :
    x.symbol = .call function → Reads site (.arguments ts inner) xs rest →
      Reads site (.primary (.call x.lead function (withoutSoleOmission (ts, inner)).1
        (withoutSoleOmission (ts, inner)).2)) (x :: xs) rest
  | parens {x y t xs rest} :
    x.symbol = .openParen → Reads site (.expression t) xs (y :: rest) →
      y.symbol = .closeParen → Reads site (.primary (.parens x.lead t y.lead)) (x :: xs) rest
  | array {x rows inner xs rest} :
    x.symbol = .openBrace → Reads site (.rows rows inner) xs rest → areEven rows = true →
      Reads site (.primary (.array x.lead rows inner)) (x :: xs) rest
  | lone {e xs rest} :
    Reads site (.areaEnd e) xs rest → (∀ y ∈ rest.head?, y.symbol ≠ .colon) →
      Reads site (.reference (e.atom site)) xs rest
  | area {e e' a y xs ys rest} :
    Reads site (.areaEnd e) xs (y :: ys) → y.symbol = .colon → Reads site (.areaEnd e') ys rest →
      area site (writtenUpTo xs rest) e e' = .ok a → Reads site (.reference a) xs rest
  | cell {x w xs} :
    x.symbol = .cell w → Reads site (.areaEnd (.written w x.image)) (x :: xs) xs
  | offset {x ts inner a xs rest} :
    x.symbol = .offsetCall → Reads site (.arguments ts inner) xs rest →
      site.offset (withoutSoleOmission (ts, inner)).1 = .ok a →
        Reads site (.areaEnd (.resolved a)) (x :: xs) rest
  | lastOmitted {x xs} :
    x.symbol = .closeParen → Reads site (.arguments [.atom x.lead .omitted] none) (x :: xs) xs
  | omitted {x ts inner xs rest} :
    x.symbol = .argumentSeparator → Reads site (.arguments ts inner) xs rest →
      Reads site (.arguments (.atom x.lead .omitted :: ts) inner) (x :: xs) rest
  | lastArgument {y t xs rest} :
    Reads site (.expression t) xs (y :: rest) → y.symbol = .closeParen →
      Reads site (.arguments [t] y.lead) xs rest
  | argument {y t ts inner xs ys rest} :
    Reads site (.expression t) xs (y :: ys) → y.symbol = .argumentSeparator →
      Reads site (.arguments ts inner) ys rest → Reads site (.arguments (t :: ts) inner) xs rest
  | lastRow {y t xs rest} :
    Reads site (.expression t) xs (y :: rest) → y.symbol = .closeBrace →
      Reads site (.rows [[t]] y.lead) xs rest
  | column {y t rows inner xs ys rest} :
    Reads site (.expression t) xs (y :: ys) → y.symbol = .columnSeparator →
      Reads site (.rows rows inner) ys rest →
        Reads site (.rows (intoFirstRow t rows) inner) xs rest
  | row {y t rows inner xs ys rest} :
    Reads site (.expression t) xs (y :: ys) → y.symbol = .rowSeparator →
      Reads site (.rows rows inner) ys rest → Reads site (.rows ([t] :: rows) inner) xs rest

/-! ## What is left is shorter -/

/-- How many lexemes the phrase takes at least. -/
def Phrase.least : Phrase → Nat
  | chain .. | percents .. => 0
  | _ => 1

variable {site : Site}

/-- A phrase takes at least as many lexemes as the shortest one of its kind has. -/
lemma Reads.length_le {p : Phrase} {xs rest : List Spaced} (h : Reads site p xs rest) :
    p.least + rest.length ≤ xs.length := by
  induction h <;> simp only [Phrase.least, List.length_cons] at * <;> omega

/-! ## How phrases start -/

/-- Whether an operand can start with the symbol. -/
def startsOperand : Symbol → Bool
  | .number _ | .string _ | .errorValue _ | .cell _ | .lines .. | .call _ | .offsetCall | .name _
  | .openBrace | .openParen => true
  | .operator op => op.sign?.isSome
  | _ => false

/-- Operands start with signs, among others. -/
lemma startsOperand_of_sign? {s : Symbol} {sign : Sign} (h : sign? s = some sign) :
    startsOperand s = true := by
  cases s with
  | operator op =>
    rw [show sign? (.operator op) = op.sign? from rfl] at h
    rw [startsOperand, h]
    rfl
  | _ => cases h

/-- Operands start with lexemes that are atoms, among others. -/
lemma startsOperand_of_mark? {x : Spaced} {a : Atom} (h : site.mark? x = some (.atom a)) :
    startsOperand x.symbol = true := by
  unfold Site.mark? at h
  split at h <;> simp_all [startsOperand]

/-- The end of an area starts as operands do. -/
lemma Reads.startsOperand_areaEnd {e : AreaEnd} {xs rest : List Spaced}
    (h : Reads site (.areaEnd e) xs rest) :
    ∃ x ys, xs = x :: ys ∧ startsOperand x.symbol = true := by
  cases h with
  | cell hx => exact ⟨_, _, rfl, by rw [hx]; rfl⟩
  | offset hx _ _ => exact ⟨_, _, rfl, by rw [hx]; rfl⟩

/-- A primary starts as operands do. -/
lemma Reads.startsOperand_primary {t : Tree} {xs rest : List Spaced}
    (h : Reads site (.primary t) xs rest) :
    ∃ x ys, xs = x :: ys ∧ startsOperand x.symbol = true := by
  cases h with
  | constant _ hx => exact ⟨_, _, rfl, startsOperand_of_mark? hx⟩
  | reference hr =>
    cases hr with
    | lone he _ => exact he.startsOperand_areaEnd
    | area he _ _ _ => exact he.startsOperand_areaEnd
  | call hx _ => exact ⟨_, _, rfl, by rw [hx]; rfl⟩
  | parens hx _ _ => exact ⟨_, _, rfl, by rw [hx]; rfl⟩
  | array hx _ _ => exact ⟨_, _, rfl, by rw [hx]; rfl⟩

/-- An expression starts with an operand, and so with a lexeme that can start one. -/
lemma Reads.startsOperand_expression {t : Tree} {xs rest : List Spaced}
    (h : Reads site (.expression t) xs rest) :
    ∃ x ys, xs = x :: ys ∧ startsOperand x.symbol = true := by
  cases h with
  | expression ho _ =>
    cases ho with
    | sign hs _ => exact ⟨_, _, rfl, startsOperand_of_sign? hs⟩
    | unsigned _ hp _ => exact hp.startsOperand_primary

/-! ## The reader follows the grammar -/

/-- A chain of readings succeeds if both of its parts do. -/
lemma bind_eq_ok {ε α β : Type} {a : Except ε α} {f : α → Except ε β} {b : β} :
    (a >>= f) = .ok b ↔ ∃ x, a = .ok x ∧ f x = .ok b := by
  cases a with
  | error e => simp [bind, Except.bind]
  | ok x => simp [bind, Except.bind]

/-- At the depth `n` every function reads what the grammar says, if the depth suffices for it. -/
structure Agrees (site : Site) (n : Nat) : Prop where
  expression : ∀ xs t rest, 6 * xs.length + 5 ≤ n →
    (expression site n xs = .ok (t, rest) ↔ Reads site (.expression t) xs rest)
  chain : ∀ s xs t rest, 6 * xs.length + 1 ≤ n →
    (chain site n s xs = .ok (t, rest) ↔ Reads site (.chain s t) xs rest)
  operand : ∀ xs t rest, 6 * xs.length + 4 ≤ n →
    (operand site n xs = .ok (t, rest) ↔ Reads site (.operand t) xs rest)
  primary : ∀ x xs t rest, 6 * (x :: xs).length + 3 ≤ n →
    (primary site n x xs = .ok (t, rest) ↔ Reads site (.primary t) (x :: xs) rest)
  reference : ∀ xs a rest, 6 * xs.length + 2 ≤ n →
    (reference site n xs = .ok (a, rest) ↔ Reads site (.reference a) xs rest)
  areaEnd : ∀ xs e rest, 6 * xs.length + 1 ≤ n →
    (areaEnd site n xs = .ok (e, rest) ↔ Reads site (.areaEnd e) xs rest)
  arguments : ∀ xs ts inner rest, 6 * xs.length + 6 ≤ n →
    (arguments site n xs = .ok ((ts, inner), rest) ↔ Reads site (.arguments ts inner) xs rest)
  rows : ∀ xs ts inner rest, 6 * xs.length + 6 ≤ n →
    (rows site n xs = .ok ((ts, inner), rest) ↔ Reads site (.rows ts inner) xs rest)

/-- Percent signs are read as the grammar says. -/
lemma percents_eq_iff {t t' : Tree} {xs rest : List Spaced} :
    percents t xs = (t', rest) ↔ Reads site (.percents t t') xs rest := by
  induction xs generalizing t with
  | nil =>
    constructor
    · rintro h
      cases h
      exact .percentsEnd nofun
    · rintro (_ | _)
      rfl
  | cons x xs ih =>
    unfold percents
    by_cases hx : x.symbol = .percent
    · rw [if_pos hx, ih]
      constructor
      · exact .percentsStep hx
      · intro h
        cases h with
        | percentsEnd hend => exact absurd hx (hend x rfl)
        | percentsStep _ h => exact h
    · rw [if_neg hx]
      constructor
      · rintro h
        cases h
        exact .percentsEnd fun y hy => by cases hy; exact hx
      · intro h
        cases h with
        | percentsEnd _ => rfl
        | percentsStep h _ => exact absurd h hx

section

variable {n : Nat} (ih : Agrees site n)
include ih

/-- One more step of the reader agrees with the grammar on expressions. -/
lemma Agrees.expression_succ (xs : List Spaced) (t : Tree) (rest : List Spaced)
    (hn : 6 * xs.length + 5 ≤ n + 1) :
    Reader.expression site (n + 1) xs = .ok (t, rest) ↔ Reads site (.expression t) xs rest := by
  rw [Reader.expression, bind_eq_ok]
  constructor
  · rintro ⟨⟨s, ys⟩, hs, hc⟩
    have hs := (ih.operand _ _ _ (by omega)).mp hs
    have hlen := hs.length_le
    simp only [Phrase.least] at hlen
    exact .expression hs ((ih.chain _ _ _ _ (by omega)).mp hc)
  · intro h
    cases h with
    | expression hs hc =>
      have hlen := hs.length_le
      simp only [Phrase.least] at hlen
      exact ⟨_, (ih.operand _ _ _ (by omega)).mpr hs, (ih.chain _ _ _ _ (by omega)).mpr hc⟩

/-- One more step of the reader agrees with the grammar on what follows an operand. -/
lemma Agrees.chain_succ (s : Tree) (xs : List Spaced) (t : Tree) (rest : List Spaced)
    (hn : 6 * xs.length + 1 ≤ n + 1) :
    Reader.chain site (n + 1) s xs = .ok (t, rest) ↔ Reads site (.chain s t) xs rest := by
  cases xs with
  | nil =>
    constructor
    · intro h
      cases h
      exact .chainEnd nofun
    · rintro (_ | _)
      rfl
  | cons x xs =>
    rw [List.length_cons] at hn
    -- The chain goes on exactly if an operator comes next.
    rw [Reader.chain]
    split
    · next op hx =>
      rw [bind_eq_ok]
      constructor
      · rintro ⟨⟨right, ys⟩, hr, hc⟩
        have hr := (ih.operand _ _ _ (by omega)).mp hr
        have hlen := hr.length_le
        exact .chainStep hx hr ((ih.chain _ _ _ _ (by omega)).mp hc)
      · intro h
        cases h with
        | chainEnd hend => exact absurd hx (hend x rfl op)
        | chainStep hx' hr hc =>
          obtain rfl := Symbol.operator.inj (hx.symm.trans hx')
          have hlen := hr.length_le
          exact ⟨_, (ih.operand _ _ _ (by omega)).mpr hr, (ih.chain _ _ _ _ (by omega)).mpr hc⟩
    · next hx =>
      constructor
      · rintro h
        cases h
        exact .chainEnd fun y hy => by cases hy; exact hx
      · intro h
        cases h with
        | chainEnd _ => rfl
        | chainStep h _ _ => exact absurd h (hx _)

/-- One more step of the reader agrees with the grammar on operands. -/
lemma Agrees.operand_succ (xs : List Spaced) (t : Tree) (rest : List Spaced)
    (hn : 6 * xs.length + 4 ≤ n + 1) :
    Reader.operand site (n + 1) xs = .ok (t, rest) ↔ Reads site (.operand t) xs rest := by
  cases xs with
  | nil =>
    constructor
    · intro h
      cases h
    · intro h
      cases h
  | cons x xs =>
    rw [List.length_cons] at hn
    -- There are two rules, one with a sign in front and one without.
    rw [Reader.operand]
    split
    · next sign hx =>
      rw [bind_eq_ok]
      constructor
      · rintro ⟨⟨s, ys⟩, hs, h⟩
        cases h
        exact .sign hx ((ih.operand _ _ _ (by omega)).mp hs)
      · intro h
        cases h with
        | sign hx' hs =>
          obtain rfl := Option.some.inj (hx.symm.trans hx')
          exact ⟨_, (ih.operand _ _ _ (by omega)).mpr hs, rfl⟩
        | unsigned hx' _ _ => cases hx.symm.trans hx'
    · next hx =>
      rw [bind_eq_ok]
      constructor
      · rintro ⟨⟨s, ys⟩, hs, h⟩
        have hp : Reads site (.percents s t) ys rest := percents_eq_iff.mp (Except.ok.inj h)
        exact .unsigned hx ((ih.primary _ _ _ _ (by rw [List.length_cons]; omega)).mp hs) hp
      · intro h
        cases h with
        | sign hx' _ => cases hx.symm.trans hx'
        | unsigned _ hs hp =>
          refine ⟨_, (ih.primary _ _ _ _ (by rw [List.length_cons]; omega)).mpr hs, ?_⟩
          exact congrArg Except.ok (percents_eq_iff.mpr hp)

/-- One more step of the reader agrees with the grammar on the ends of areas. -/
lemma Agrees.areaEnd_succ (xs : List Spaced) (e : AreaEnd) (rest : List Spaced)
    (hn : 6 * xs.length + 1 ≤ n + 1) :
    Reader.areaEnd site (n + 1) xs = .ok (e, rest) ↔ Reads site (.areaEnd e) xs rest := by
  cases xs with
  | nil =>
    constructor
    · intro h
      cases h
    · intro h
      cases h
  | cons x xs =>
    rw [List.length_cons] at hn
    -- The first symbol says which of the two rules applies, and no other symbol starts an end.
    rw [Reader.areaEnd]
    split
    · next w hx =>
      constructor
      · intro h
        cases h
        exact .cell hx
      · intro h
        cases h with
        | cell hx' =>
          obtain rfl := Symbol.cell.inj (hx.symm.trans hx')
          rfl
        | offset hx' _ _ => cases hx.symm.trans hx'
    · next hx =>
      rw [bind_eq_ok]
      constructor
      · rintro ⟨⟨⟨ts, inner⟩, ys⟩, hargs, h⟩
        dsimp only at h
        split at h
        · next a ha =>
          cases h
          exact .offset hx ((ih.arguments _ _ _ _ (by omega)).mp hargs) ha
        · cases h
      · intro h
        cases h with
        | cell hx' => cases hx.symm.trans hx'
        | offset _ hargs ha =>
          refine ⟨_, (ih.arguments _ _ _ _ (by omega)).mpr hargs, ?_⟩
          dsimp only
          rw [ha]
    · next hcell hoffset =>
      constructor
      · intro h
        cases h
      · intro h
        cases h with
        | cell hx => exact absurd hx (hcell _)
        | offset hx _ _ => exact absurd hx hoffset

/-- One more step of the reader agrees with the grammar on references. -/
lemma Agrees.reference_succ (xs : List Spaced) (a : Atom) (rest : List Spaced)
    (hn : 6 * xs.length + 2 ≤ n + 1) :
    Reader.reference site (n + 1) xs = .ok (a, rest) ↔ Reads site (.reference a) xs rest := by
  -- A second end is read exactly if a colon comes next.
  rw [Reader.reference, bind_eq_ok]
  constructor
  · rintro ⟨⟨e, ys⟩, he, h⟩
    have he := (ih.areaEnd _ _ _ (by omega)).mp he
    have hlen := he.length_le
    dsimp only at h
    split at h
    · next y behind =>
      rw [List.length_cons] at hlen
      split at h
      · next hy =>
        obtain ⟨⟨e', ys'⟩, he', h⟩ := bind_eq_ok.mp h
        obtain ⟨a', ha, h⟩ := bind_eq_ok.mp h
        cases h
        exact .area he hy ((ih.areaEnd _ _ _ (by omega)).mp he') ha
      · next hy =>
        cases h
        exact .lone he fun z hz => by cases hz; exact hy
    · cases h
      exact .lone he nofun
  · intro h
    cases h with
    | lone he hend =>
      refine ⟨_, (ih.areaEnd _ _ _ (by omega)).mpr he, ?_⟩
      dsimp only
      split
      · next y behind => rw [if_neg (hend y rfl)]
      · rfl
    | area he hy he' ha =>
      have hlen := he.length_le
      rw [List.length_cons] at hlen
      refine ⟨_, (ih.areaEnd _ _ _ (by omega)).mpr he, ?_⟩
      dsimp only
      rw [if_pos hy]
      refine bind_eq_ok.mpr ⟨_, (ih.areaEnd _ _ _ (by omega)).mpr he', ?_⟩
      exact bind_eq_ok.mpr ⟨_, ha, rfl⟩

/-- One more step of the reader agrees with the grammar on arguments. -/
lemma Agrees.arguments_succ (xs : List Spaced) (ts : List Tree) (inner : Option Text)
    (rest : List Spaced) (hn : 6 * xs.length + 6 ≤ n + 1) :
    Reader.arguments site (n + 1) xs = .ok ((ts, inner), rest) ↔
      Reads site (.arguments ts inner) xs rest := by
  -- An argument that is written does not start like what ends one.
  have hstart : ∀ {t y ys}, Reads site (.expression t) xs (y :: ys) →
      ∃ x zs, xs = x :: zs ∧ startsOperand x.symbol = true :=
    fun h => h.startsOperand_expression
  cases xs with
  | nil =>
    constructor
    · intro h
      cases h
    · intro h
      cases h with
      | lastArgument ht _ => cases (hstart ht).choose_spec.choose_spec.1
      | argument ht _ _ => cases (hstart ht).choose_spec.choose_spec.1
  | cons x xs =>
    have hstart : ∀ {t y ys}, Reads site (.expression t) (x :: xs) (y :: ys) →
        startsOperand x.symbol = true := by
      intro t y ys h
      obtain ⟨x', zs, hxs, hx⟩ := hstart h
      cases hxs
      exact hx
    rw [List.length_cons] at hn
    rw [Reader.arguments]
    split
    · next hx =>
      constructor
      · intro h
        cases h
        exact .lastOmitted hx
      · intro h
        cases h with
        | lastOmitted _ => rfl
        | omitted hx' _ => cases hx.symm.trans hx'
        | lastArgument ht _ => exact absurd (hstart ht) (by rw [hx]; decide)
        | argument ht _ _ => exact absurd (hstart ht) (by rw [hx]; decide)
    · next hx =>
      rw [bind_eq_ok]
      constructor
      · rintro ⟨⟨⟨ts', inner'⟩, ys⟩, hts, h⟩
        cases h
        exact .omitted hx ((ih.arguments _ _ _ _ (by omega)).mp hts)
      · intro h
        cases h with
        | lastOmitted hx' => cases hx.symm.trans hx'
        | omitted _ hts => exact ⟨_, (ih.arguments _ _ _ _ (by omega)).mpr hts, rfl⟩
        | lastArgument ht _ => exact absurd (hstart ht) (by rw [hx]; decide)
        | argument ht _ _ => exact absurd (hstart ht) (by rw [hx]; decide)
    · next hclose hsep =>
      rw [bind_eq_ok]
      constructor
      · rintro ⟨⟨t, ys⟩, ht, h⟩
        have ht := (ih.expression _ _ _ (by rw [List.length_cons]; omega)).mp ht
        have hlen := ht.length_le
        dsimp only at h
        split at h
        · cases h
        · next y ys =>
          simp only [Phrase.least, List.length_cons] at hlen
          split at h
          · next hy =>
            cases h
            exact .lastArgument ht hy
          · next hy =>
            obtain ⟨⟨⟨ts', inner'⟩, ys'⟩, hts, h⟩ := bind_eq_ok.mp h
            cases h
            exact .argument ht hy ((ih.arguments _ _ _ _ (by omega)).mp hts)
          · cases h
      · intro h
        cases h with
        | lastOmitted hx => exact absurd hx hclose
        | omitted hx _ => exact absurd hx hsep
        | lastArgument ht hy =>
          refine ⟨_, (ih.expression _ _ _ (by rw [List.length_cons]; omega)).mpr ht, ?_⟩
          dsimp only
          rw [hy]
        | argument ht hy hts =>
          have hlen := ht.length_le
          simp only [Phrase.least, List.length_cons] at hlen
          refine ⟨_, (ih.expression _ _ _ (by rw [List.length_cons]; omega)).mpr ht, ?_⟩
          dsimp only
          rw [hy]
          exact bind_eq_ok.mpr ⟨_, (ih.arguments _ _ _ _ (by omega)).mpr hts, rfl⟩

/-- One more step of the reader agrees with the grammar on the rows of arrays. -/
lemma Agrees.rows_succ (xs : List Spaced) (ts : List (List Tree)) (inner : Option Text)
    (rest : List Spaced) (hn : 6 * xs.length + 6 ≤ n + 1) :
    Reader.rows site (n + 1) xs = .ok ((ts, inner), rest) ↔
      Reads site (.rows ts inner) xs rest := by
  -- The symbol behind the first tree says which rule applies: the brace or one of the separators.
  rw [Reader.rows, bind_eq_ok]
  constructor
  · rintro ⟨⟨t, ys⟩, ht, h⟩
    have ht := (ih.expression _ _ _ (by omega)).mp ht
    have hlen := ht.length_le
    dsimp only at h
    split at h
    · cases h
    · next y ys =>
      simp only [Phrase.least, List.length_cons] at hlen
      split at h
      · next hy =>
        cases h
        exact .lastRow ht hy
      · next hy =>
        obtain ⟨⟨⟨ts', inner'⟩, ys'⟩, hts, h⟩ := bind_eq_ok.mp h
        cases h
        exact .column ht hy ((ih.rows _ _ _ _ (by omega)).mp hts)
      · next hy =>
        obtain ⟨⟨⟨ts', inner'⟩, ys'⟩, hts, h⟩ := bind_eq_ok.mp h
        cases h
        exact .row ht hy ((ih.rows _ _ _ _ (by omega)).mp hts)
      · cases h
  · intro h
    cases h with
    | lastRow ht hy =>
      refine ⟨_, (ih.expression _ _ _ (by omega)).mpr ht, ?_⟩
      dsimp only
      rw [hy]
    | column ht hy hts =>
      have hlen := ht.length_le
      simp only [Phrase.least, List.length_cons] at hlen
      refine ⟨_, (ih.expression _ _ _ (by omega)).mpr ht, ?_⟩
      dsimp only
      rw [hy]
      exact bind_eq_ok.mpr ⟨_, (ih.rows _ _ _ _ (by omega)).mpr hts, rfl⟩
    | row ht hy hts =>
      have hlen := ht.length_le
      simp only [Phrase.least, List.length_cons] at hlen
      refine ⟨_, (ih.expression _ _ _ (by omega)).mpr ht, ?_⟩
      dsimp only
      rw [hy]
      exact bind_eq_ok.mpr ⟨_, (ih.rows _ _ _ _ (by omega)).mpr hts, rfl⟩

omit ih in
/-- Where a primary starts with a lexeme that is an atom by itself, that atom is all of it. -/
lemma reads_primary_constant_iff {x : Spaced} {xs rest : List Spaced} {t : Tree} {a : Atom}
    (hcell : ∀ w, x.symbol ≠ .cell w) (ha : site.mark? x = some (.atom a)) :
    Reads site (.primary t) (x :: xs) rest ↔ .atom x.lead a = t ∧ xs = rest := by
  have hne : ∀ s : Symbol, (∀ y : Spaced, y.symbol = s → site.mark? y ≠ some (.atom a)) →
      x.symbol ≠ s := fun s hs hx => hs x hx ha
  constructor
  · intro h
    cases h with
    | constant _ ha' =>
      cases ha.symm.trans ha'
      exact ⟨rfl, rfl⟩
    | reference hr =>
      have hoffset : x.symbol ≠ .offsetCall := hne _ fun y hy => by simp [Site.mark?, hy]
      cases hr with
      | lone he _ =>
        cases he with
        | cell hx => exact absurd hx (hcell _)
        | offset hx _ _ => exact absurd hx hoffset
      | area he _ _ _ =>
        cases he with
        | cell hx => exact absurd hx (hcell _)
        | offset hx _ _ => exact absurd hx hoffset
    | call hx _ => exact absurd hx (hne _ fun y hy => by simp [Site.mark?, hy])
    | parens hx _ _ => exact absurd hx (hne _ fun y hy => by simp [Site.mark?, hy])
    | array hx _ _ => exact absurd hx (hne _ fun y hy => by simp [Site.mark?, hy])
  · rintro ⟨rfl, rfl⟩
    exact .constant hcell ha

omit ih in
/-- A reference starts with a cell or an offset. -/
lemma Reads.symbol_reference {x : Spaced} {xs rest : List Spaced} {a : Atom}
    (h : Reads site (.reference a) (x :: xs) rest) :
    (∃ w, x.symbol = .cell w) ∨ x.symbol = .offsetCall := by
  have hend : ∀ {e ys}, Reads site (.areaEnd e) (x :: xs) ys →
      (∃ w, x.symbol = .cell w) ∨ x.symbol = .offsetCall := by
    intro e ys he
    cases he with
    | cell hx => exact Or.inl ⟨_, hx⟩
    | offset hx _ _ => exact Or.inr hx
  cases h with
  | lone he _ => exact hend he
  | area he _ _ _ => exact hend he

omit ih in
/-- What a primary that starts with a cell or an offset reads is a reference. -/
lemma reads_primary_reference_iff {x : Spaced} {xs rest : List Spaced} {t : Tree}
    (hx : (∃ w, x.symbol = .cell w) ∨ x.symbol = .offsetCall) :
    Reads site (.primary t) (x :: xs) rest ↔
      ∃ a, Reads site (.reference a) (x :: xs) rest ∧ .atom x.lead a = t := by
  constructor
  · intro h
    cases h with
    | constant hcell ha =>
      rcases hx with ⟨w, hx⟩ | hx
      · exact absurd hx (hcell w)
      · simp [Site.mark?, hx] at ha
    | reference hr => exact ⟨_, hr, rfl⟩
    | call hx' _ => rcases hx with ⟨w, hx⟩ | hx <;> cases hx.symm.trans hx'
    | parens hx' _ _ => rcases hx with ⟨w, hx⟩ | hx <;> cases hx.symm.trans hx'
    | array hx' _ _ => rcases hx with ⟨w, hx⟩ | hx <;> cases hx.symm.trans hx'
  · rintro ⟨a, hr, rfl⟩
    exact .reference hr

/-- The reader agrees with the grammar on a primary that is a reference. -/
lemma Agrees.primary_reference {x : Spaced} {xs rest : List Spaced} {t : Tree}
    (hx : (∃ w, x.symbol = .cell w) ∨ x.symbol = .offsetCall)
    (hn : 6 * (x :: xs).length + 3 ≤ n + 1) :
    (do let (a, xs) ← Reader.reference site n (x :: xs)
        .ok (.atom x.lead a, xs)) = Except.ok (t, rest) ↔
      Reads site (.primary t) (x :: xs) rest := by
  rw [bind_eq_ok, reads_primary_reference_iff hx]
  constructor
  · rintro ⟨⟨a, ys⟩, ha, h⟩
    cases h
    exact ⟨a, (ih.reference _ _ _ (by omega)).mp ha, rfl⟩
  · rintro ⟨a, ha, rfl⟩
    exact ⟨_, (ih.reference _ _ _ (by omega)).mpr ha, rfl⟩

/-- The reader agrees with the grammar on a primary in parentheses. -/
lemma Agrees.primary_parens {x : Spaced} {xs rest : List Spaced} {t : Tree}
    (hx : x.symbol = .openParen) (hn : 6 * (x :: xs).length + 3 ≤ n + 1) :
    (do let (t, xs) ← Reader.expression site n xs
        match xs with
        | [] => .error .unclosedParen
        | y :: xs =>
          if y.symbol = .closeParen then .ok (.parens x.lead t y.lead, xs)
          else .error (.unexpected y.image)) = Except.ok (t, rest) ↔
      Reads site (.primary t) (x :: xs) rest := by
  rw [List.length_cons] at hn
  rw [bind_eq_ok]
  constructor
  · rintro ⟨⟨s, ys⟩, hs, h⟩
    dsimp only at h
    split at h
    · cases h
    · split at h
      · next hy =>
        cases h
        exact .parens hx ((ih.expression _ _ _ (by omega)).mp hs) hy
      · cases h
  · intro h
    cases h with
    | constant _ ha => simp [Site.mark?, hx] at ha
    | reference hr =>
      rcases hr.symbol_reference with ⟨w, hx'⟩ | hx' <;> cases hx.symm.trans hx'
    | call hx' _ => cases hx.symm.trans hx'
    | parens _ hs hy =>
      refine ⟨_, (ih.expression _ _ _ (by omega)).mpr hs, ?_⟩
      dsimp only
      rw [if_pos hy]
    | array hx' _ _ => cases hx.symm.trans hx'

/-- The reader agrees with the grammar on a primary that is a call. -/
lemma Agrees.primary_call {x : Spaced} {xs rest : List Spaced} {t : Tree} {function : Text}
    (hx : x.symbol = .call function) (hn : 6 * (x :: xs).length + 3 ≤ n + 1) :
    (do let ((ts, inner), xs) ← Reader.arguments site n xs
        let (ts, inner) := withoutSoleOmission (ts, inner)
        .ok (.call x.lead function ts inner, xs)) = Except.ok (t, rest) ↔
      Reads site (.primary t) (x :: xs) rest := by
  rw [List.length_cons] at hn
  rw [bind_eq_ok]
  constructor
  · rintro ⟨⟨⟨ts, inner⟩, ys⟩, hts, h⟩
    cases h
    exact .call hx ((ih.arguments _ _ _ _ (by omega)).mp hts)
  · intro h
    cases h with
    | constant _ ha => simp [Site.mark?, hx] at ha
    | reference hr =>
      rcases hr.symbol_reference with ⟨w, hx'⟩ | hx' <;> cases hx.symm.trans hx'
    | call hx' hts =>
      obtain rfl := Symbol.call.inj (hx.symm.trans hx')
      exact ⟨_, (ih.arguments _ _ _ _ (by omega)).mpr hts, rfl⟩
    | parens hx' _ _ => cases hx.symm.trans hx'
    | array hx' _ _ => cases hx.symm.trans hx'

/-- The reader agrees with the grammar on a primary that is an array. -/
lemma Agrees.primary_array {x : Spaced} {xs rest : List Spaced} {t : Tree}
    (hx : x.symbol = .openBrace) (hn : 6 * (x :: xs).length + 3 ≤ n + 1) :
    (do let ((ts, inner), xs) ← Reader.rows site n xs
        if areEven ts then .ok (.array x.lead ts inner, xs) else .error .unevenRows) =
        Except.ok (t, rest) ↔
      Reads site (.primary t) (x :: xs) rest := by
  rw [List.length_cons] at hn
  rw [bind_eq_ok]
  constructor
  · rintro ⟨⟨⟨ts, inner⟩, ys⟩, hts, h⟩
    dsimp only at h
    split at h
    · next heven =>
      cases h
      exact .array hx ((ih.rows _ _ _ _ (by omega)).mp hts) heven
    · cases h
  · intro h
    cases h with
    | constant _ ha => simp [Site.mark?, hx] at ha
    | reference hr =>
      rcases hr.symbol_reference with ⟨w, hx'⟩ | hx' <;> cases hx.symm.trans hx'
    | call hx' _ => cases hx.symm.trans hx'
    | parens hx' _ _ => cases hx.symm.trans hx'
    | array _ hts heven =>
      refine ⟨_, (ih.rows _ _ _ _ (by omega)).mpr hts, ?_⟩
      dsimp only
      rw [if_pos heven]

/-- One more step of the reader agrees with the grammar on primaries. -/
lemma Agrees.primary_succ (x : Spaced) (xs : List Spaced) (t : Tree) (rest : List Spaced)
    (hn : 6 * (x :: xs).length + 3 ≤ n + 1) :
    Reader.primary site (n + 1) x xs = .ok (t, rest) ↔
      Reads site (.primary t) (x :: xs) rest := by
  -- A lexeme that makes an atom by itself is a primary, whatever its symbol is.
  have hconstant : ∀ a, (∀ w, x.symbol ≠ .cell w) → site.mark? x = some (.atom a) →
      (Except.ok (Tree.atom x.lead a, xs) = Except.ok (ε := ReadFault) (t, rest) ↔
        Reads site (.primary t) (x :: xs) rest) := by
    intro a hcell ha
    rw [reads_primary_constant_iff hcell ha, Except.ok.injEq, Prod.mk.injEq]
  rw [Reader.primary]
  split
  · next hx => exact hconstant _ (by simp [hx]) (by simp [Site.mark?, hx])
  · next hx => exact hconstant _ (by simp [hx]) (by simp [Site.mark?, hx])
  · next hx => exact hconstant _ (by simp [hx]) (by simp [Site.mark?, hx])
  · next hx => exact hconstant _ (by simp [hx]) (by simp [Site.mark?, hx])
  · next axis a b hx =>
    split
    · next a ha => exact hconstant _ (by simp [hx]) (by simp [Site.mark?, hx, ha])
    · next ha =>
      constructor
      · intro h
        cases h
      · intro h
        cases h with
        | constant _ ha' => simp [Site.mark?, hx, ha] at ha'
        | reference hr =>
          rcases hr.symbol_reference with ⟨w, hx'⟩ | hx' <;> cases hx.symm.trans hx'
        | call hx' _ => cases hx.symm.trans hx'
        | parens hx' _ _ => cases hx.symm.trans hx'
        | array hx' _ _ => cases hx.symm.trans hx'
  · next hx => exact ih.primary_reference (Or.inl ⟨_, hx⟩) hn
  · next hx => exact ih.primary_reference (Or.inr hx) hn
  · next hx => exact ih.primary_call hx hn
  · next hx => exact ih.primary_parens hx hn
  · next hx => exact ih.primary_array hx hn
  · next hnumber hstring herror hname hlines hcell hoffset hcall hparen hbrace =>
    constructor
    · intro h
      cases h
    · intro h
      obtain ⟨x', ys, hxs, hstart⟩ := h.startsOperand_primary
      cases hxs
      cases h with
      | constant _ ha =>
        unfold Site.mark? at ha
        split at ha <;> simp_all
      | reference hr =>
        rcases hr.symbol_reference with ⟨w, hx'⟩ | hx'
        · exact absurd hx' (hcell _)
        · exact absurd hx' hoffset
      | call hx' _ => exact absurd hx' (hcall _)
      | parens hx' _ _ => exact absurd hx' hparen
      | array hx' _ _ => exact absurd hx' hbrace

end

/-- At every depth the functions of a reader read what the grammar says, where the depth suffices.
-/
theorem agrees (site : Site) (n : Nat) : Agrees site n := by
  induction n with
  | zero =>
    constructor
    all_goals
      intros
      omega
  | succ n ih =>
    exact ⟨ih.expression_succ, ih.chain_succ, ih.operand_succ, ih.primary_succ, ih.reference_succ,
      ih.areaEnd_succ, ih.arguments_succ, ih.rows_succ⟩

/-- Lexemes are a formula if they are an equals sign with an expression behind it, and nothing
else. -/
theorem formula_eq_ok_iff {xs : List Spaced} {t : Tree} :
    formula site xs = .ok t ↔
      ∃ x ys, xs = x :: ys ∧ x.symbol = .operator .equal ∧ x.lead = none ∧
        Reads site (.expression t) ys [] := by
  have hexpression := fun ys t rest =>
    (agrees site (depth ys)).expression ys t rest (by unfold depth; omega)
  unfold formula
  constructor
  · intro h
    split at h
    · cases h
    · next x ys =>
      split at h
      · next hx =>
        obtain ⟨⟨t', rest⟩, ht, h⟩ := bind_eq_ok.mp h
        have ht := (hexpression _ _ _).mp ht
        dsimp only at h
        split at h
        · cases h
          exact ⟨x, ys, rfl, hx.1, hx.2, ht⟩
        · cases h
      · cases h
  · rintro ⟨x, ys, rfl, hx, hlead, ht⟩
    dsimp only
    rw [if_pos ⟨hx, hlead⟩]
    exact bind_eq_ok.mpr ⟨_, (hexpression _ _ _).mpr ht, rfl⟩

end Reader

end GridFormula
