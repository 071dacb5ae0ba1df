import GridFormula.Proofs.Formula.Offsets
import GridFormula.Proofs.Formula.Regaining
import GridFormula.Proofs.Formula.SymbolFlow
import GridFormula.Proofs.Formula.WrittenBlanks

/-!
# Blanks do not change what a formula means

Blanks may be put between any two lexemes of a formula, and the text stays a formula with the same
tree, up to the blanks in it. At some places they leave no trace at all: at the end, next to a
colon, in front of a separator of array parts, and in front of an argument separator that does not
follow another one. There the tree stays as it is, and with it the key.
-/

namespace GridFormula

open Scan

/-! ## Blanks one at a time -/

/-- No blank follows another one. -/
def BlanksApart (xs : List Lexeme) : Prop :=
  xs.IsChain fun x y => x.isBlank = true → y.isBlank = false

/-- Puts a lexeme in front of others. A blank is joined with a blank behind it. -/
def putBefore (x : Lexeme) : List Lexeme → List Lexeme
  | [] => [x]
  | y :: ys => if x.isBlank && y.isBlank then ⟨.blank, x.image ++ y.image⟩ :: ys else x :: y :: ys

/-- Joins the blanks that follow each other. -/
def joinBlanks (xs : List Lexeme) : List Lexeme :=
  xs.foldr putBefore []

/-- A lexeme that is not joined with a blank behind it is put in front. -/
lemma putBefore_eq_cons {x : Lexeme} {ys : List Lexeme}
    (h : x.isBlank = true → ∀ y ∈ ys.head?, y.isBlank = false) : putBefore x ys = x :: ys := by
  cases ys with
  | nil => rfl
  | cons y ys =>
    refine if_neg fun hblank => ?_
    obtain ⟨hx, hy⟩ := (Bool.and_eq_true _ _).mp hblank
    cases hy.symm.trans (h hx y rfl)

/-- Joining blanks leaves the text as it is. -/
lemma flatMap_image_putBefore (x : Lexeme) (ys : List Lexeme) :
    (putBefore x ys).flatMap Lexeme.image = x.image ++ ys.flatMap Lexeme.image := by
  cases ys with
  | nil => rfl
  | cons y ys =>
    rw [putBefore]
    split
    · simp only [List.flatMap_cons, List.append_assoc]
    · rfl

/-- Joining blanks leaves the other lexemes as they are. -/
lemma filter_putBefore (x : Lexeme) (ys : List Lexeme) :
    (putBefore x ys).filter (fun z => !z.isBlank) = (x :: ys).filter (fun z => !z.isBlank) := by
  cases ys with
  | nil => rfl
  | cons y ys =>
    rw [putBefore]
    split
    · next hblank =>
      obtain ⟨hx, hy⟩ := (Bool.and_eq_true _ _).mp hblank
      rw [List.filter_cons_of_neg (by simp [Lexeme.isBlank]), List.filter_cons_of_neg (by simp [hx]),
        List.filter_cons_of_neg (by simp [hy])]
    · rfl

/-- Where a blank is joined with the one behind it, no blank follows another one. -/
lemma BlanksApart.putBefore {ys : List Lexeme} (h : BlanksApart ys) (x : Lexeme) :
    BlanksApart (putBefore x ys) := by
  cases ys with
  | nil => exact .singleton x
  | cons y ys =>
    rw [GridFormula.putBefore]
    split
    · next hblank =>
      obtain ⟨-, hy⟩ := (Bool.and_eq_true _ _).mp hblank
      cases ys with
      | nil => exact .singleton _
      | cons z ys =>
        obtain ⟨hyz, htail⟩ := List.isChain_cons_cons.mp h
        exact .cons_cons (fun _ => hyz hy) htail
    · next hblank =>
      refine .cons_cons (fun hx => ?_) h
      simpa [hx] using hblank

/-- Blanks that are joined are blanks, so that all symbols keep matching their texts. -/
lemma symbolText_putBefore {l : Locale} {x : Lexeme} {ys : List Lexeme}
    (hx : SymbolText l x.symbol x.image) (hys : ∀ y ∈ ys, SymbolText l y.symbol y.image) :
    ∀ y ∈ putBefore x ys, SymbolText l y.symbol y.image := by
  cases ys with
  | nil => exact List.forall_mem_cons.mpr ⟨hx, hys⟩
  | cons y ys =>
    rw [putBefore]
    split
    · next hblank =>
      obtain ⟨hxblank, hyblank⟩ := (Bool.and_eq_true _ _).mp hblank
      obtain ⟨hy, hys⟩ := List.forall_mem_cons.mp hys
      rw [of_decide_eq_true hxblank] at hx
      rw [of_decide_eq_true hyblank] at hy
      refine List.forall_mem_cons.mpr ⟨.blank ⟨?_, ?_⟩, hys⟩
      · exact List.append_ne_nil_of_left_ne_nil hx.areBlanks.1 _
      · exact List.forall_mem_append.mpr ⟨hx.areBlanks.2, hy.areBlanks.2⟩
    · exact List.forall_mem_cons.mpr ⟨hx, hys⟩

section

variable (xs : List Lexeme)

/-- Joining all blanks leaves the text as it is. -/
lemma flatMap_image_joinBlanks :
    (joinBlanks xs).flatMap Lexeme.image = xs.flatMap Lexeme.image := by
  induction xs with
  | nil => rfl
  | cons x xs ih =>
    rw [List.flatMap_cons, ← ih]
    exact flatMap_image_putBefore x (joinBlanks xs)

/-- Joining all blanks leaves the other lexemes as they are. -/
lemma filter_joinBlanks :
    (joinBlanks xs).filter (fun x => !x.isBlank) = xs.filter (fun x => !x.isBlank) := by
  induction xs with
  | nil => rfl
  | cons x xs ih =>
    have hstep : (joinBlanks (x :: xs)).filter (fun x => !x.isBlank) =
        (x :: joinBlanks xs).filter (fun x => !x.isBlank) := filter_putBefore x (joinBlanks xs)
    rw [hstep, List.filter_cons, ih, List.filter_cons]

/-- Where all blanks are joined, none follows another one. -/
lemma blanksApart_joinBlanks : BlanksApart (joinBlanks xs) := by
  induction xs with
  | nil => exact .nil
  | cons x xs ih => exact ih.putBefore x

variable {xs}

/-- Where all blanks are joined, all symbols keep matching their texts. -/
lemma symbolText_joinBlanks {l : Locale} (h : ∀ x ∈ xs, SymbolText l x.symbol x.image) :
    ∀ x ∈ joinBlanks xs, SymbolText l x.symbol x.image := by
  induction xs with
  | nil => exact h
  | cons x xs ih =>
    obtain ⟨hx, hxs⟩ := List.forall_mem_cons.mp h
    exact symbolText_putBefore hx (ih hxs)

/-- Where blanks come one at a time, there is nothing to join. -/
lemma joinBlanks_eq_self (h : BlanksApart xs) : joinBlanks xs = xs := by
  induction xs with
  | nil => rfl
  | cons x xs ih =>
    have hjoin : joinBlanks (x :: xs) = putBefore x xs := congrArg (putBefore x) (ih h.tail)
    rw [hjoin]
    refine putBefore_eq_cons fun hx y hy => ?_
    exact List.isChain_cons.mp h |>.1 y hy hx

end

/-! ## The same lexemes with other blanks -/

/-- The lexeme without the blanks in front of it. -/
def Spaced.lexeme (x : Spaced) : Lexeme :=
  ⟨x.symbol, x.image⟩

/-- Attaching blanks to the lexemes behind them leaves the other lexemes as they are. -/
lemma map_lexeme_attach (afterColon : Bool) (pending : Option Text) (xs : List Lexeme) :
    (attach afterColon pending xs).map Spaced.lexeme = xs.filter (fun x => !x.isBlank) := by
  induction xs generalizing afterColon pending with
  | nil => rfl
  | cons x xs ih =>
    rw [attach]
    split
    · next h => rw [ih, List.filter_cons_of_neg (by simp [h])]
    · next h =>
      rw [List.map_cons, ih, List.filter_cons_of_pos (by simp [h])]
      rfl

/-- No blanks stand on either side of a colon. -/
def TightColons (xs : List Spaced) : Prop :=
  ∀ x y, [x, y] <:+: xs → x.symbol = .colon ∨ y.symbol = .colon → y.lead = none

/-- Blanks do not stand next to a colon in a part of lexemes where they do not in the whole. -/
lemma TightColons.of_infix {xs ys : List Spaced} (h : TightColons ys) (hxs : xs <:+: ys) :
    TightColons xs :=
  fun x y hxy => h x y (hxy.trans hxs)

/-- In neat lexemes no blanks stand next to a colon. -/
lemma Neat.tightColons {b : Bool} {xs : List Spaced} (h : Neat b xs) : TightColons xs := by
  induction xs generalizing b with
  | nil =>
    intro x y hxy
    exact absurd (List.eq_nil_of_infix_nil hxy) (List.cons_ne_nil _ _)
  | cons z xs ih =>
    intro x y hxy hcolon
    rcases List.infix_cons_iff.mp hxy with hprefix | hinfix
    · obtain ⟨rest, hrest⟩ := hprefix
      obtain ⟨rfl, rfl⟩ := List.cons.inj hrest
      rcases hcolon with hx | hy
      · exact (h.1.colon hx).2 y rfl
      · exact h.2.1.tight (by rw [hy]; rfl)
    · exact ih h.2 x y hinfix hcolon

/-- The lexemes are the same, and on neither side a colon has blanks around it. -/
structure Respaced (xs ys : List Spaced) : Prop where
  lexemes : ys.map Spaced.lexeme = xs.map Spaced.lexeme
  tight : TightColons xs
  tight' : TightColons ys

namespace Respaced

variable {x : Spaced} {xs ys zs : List Spaced}

/-- Where there are no lexemes, there are none with other blanks. -/
lemma eq_nil (h : Respaced [] zs) : zs = [] :=
  List.map_eq_nil_iff.mp h.lexemes

/-- Other blanks in a list of lexemes are others in each of its parts. -/
lemma exists_append (h : Respaced (xs ++ ys) zs) :
    ∃ xs' ys', zs = xs' ++ ys' ∧ Respaced xs xs' ∧ Respaced ys ys' := by
  have hlexemes := h.lexemes
  rw [List.map_append] at hlexemes
  obtain ⟨xs', ys', rfl, hxs, hys⟩ := List.map_eq_append_iff.mp hlexemes
  exact ⟨xs', ys', rfl,
    ⟨hxs, h.tight.of_infix (List.infix_append [] xs ys),
      h.tight'.of_infix (List.infix_append [] xs' ys')⟩,
    ⟨hys, h.tight.of_infix (List.suffix_append xs ys).isInfix,
      h.tight'.of_infix (List.suffix_append xs' ys').isInfix⟩⟩

/-- Other blanks leave the first lexeme what it is, blanks apart. -/
lemma exists_cons (h : Respaced (x :: xs) zs) :
    ∃ x' xs', zs = x' :: xs' ∧ x'.symbol = x.symbol ∧ x'.image = x.image ∧ Respaced xs xs' := by
  have happend : Respaced ([x] ++ xs) zs := h
  obtain ⟨_, xs', rfl, hx, hxs⟩ := exists_append happend
  obtain ⟨x', rfl, hx'⟩ := List.map_eq_singleton_iff.mp hx.lexemes
  obtain ⟨hsymbol, himage⟩ := Lexeme.mk.inj hx'
  exact ⟨x', xs', rfl, hsymbol, himage, hxs⟩

end Respaced

/-- What stands between separators may be spaced in another way, if each part may. -/
lemma Separated.respaced {α : Type} {R : α → List Spaced → Prop} {symbol : Symbol} {as : List α}
    {xs ys : List Spaced} (h : Separated R symbol as xs) (hxs : Respaced xs ys)
    (hR : ∀ a ∈ as, ∀ xs ys, Respaced xs ys → R a xs → R a ys) : Separated R symbol as ys := by
  induction h generalizing ys with
  | single ha => exact .single (hR _ List.mem_cons_self _ _ hxs ha)
  | cons ha hy _ ih =>
    obtain ⟨xs', zs, rfl, hxs', hzs⟩ := hxs.exists_append
    obtain ⟨y', ys', rfl, hsymbol, -, hys'⟩ := hzs.exists_cons
    exact .cons (hR _ List.mem_cons_self _ _ hxs' ha) (hsymbol.trans hy)
      (ih hys' fun a ha => hR a (List.mem_cons_of_mem _ ha))

/-- What a site makes of a lexeme does not depend on the blanks in front. -/
lemma Site.mark?_congr {site : Site} {x y : Spaced} (hsymbol : y.symbol = x.symbol)
    (himage : y.image = x.image) : site.mark? y = site.mark? x := by
  rw [Site.mark?, Site.mark?, hsymbol, himage]

/-- How an area is written, where no blanks stand around its colon. -/
lemma written_area {x y z : Spaced} {xs : List Spaced} (h : TightColons (x :: y :: z :: xs))
    (hy : y.symbol = .colon) : Reader.written [x, y, z] = x.image ++ (y.image ++ z.image) := by
  have hylead : y.lead = none := h x y ⟨[], z :: xs, rfl⟩ (Or.inr hy)
  have hzlead : z.lead = none := h y z ⟨[x], xs, rfl⟩ (Or.inl hy)
  simp [Reader.written, hylead, hzlead]

/-- The lexemes of a tree may be spaced in another way. -/
theorem Tree.Yields.respaced {site : Site} {t : Tree} {xs ys : List Spaced}
    (h : t.Yields site xs) (hxs : Respaced xs ys) : t.Yields site ys := by
  -- The lexemes are taken apart as the rule for the root says, and each piece is respaced by
  -- itself.
  induction t using Tree.memberInduction generalizing xs ys with
  | atom lead a =>
    cases h with
    | omitted =>
      obtain rfl := hxs.eq_nil
      exact .omitted
    | atom hx =>
      obtain ⟨x', xs', rfl, hsymbol, himage, hnil⟩ := hxs.exists_cons
      obtain rfl := hnil.eq_nil
      exact .atom ((Site.mark?_congr hsymbol himage).trans hx)
    | area hx hy hz ha =>
      obtain ⟨x', _, rfl, hx', himage, hrest⟩ := hxs.exists_cons
      obtain ⟨y', _, rfl, hy', himage', hrest⟩ := hrest.exists_cons
      obtain ⟨z', _, rfl, hz', himage'', hnil⟩ := hrest.exists_cons
      obtain rfl := hnil.eq_nil
      refine .area (hx'.trans hx) (hy'.trans hy) (hz'.trans hz) ?_
      -- No blanks stand inside an area, so its text stays the same.
      rw [written_area hxs.tight' (hy'.trans hy), himage, himage', himage'',
        ← written_area hxs.tight hy]
      exact ha
  | signed lead sign t ih =>
    cases h with
    | signed hx ht =>
      obtain ⟨x', xs', rfl, hsymbol, -, hrest⟩ := hxs.exists_cons
      exact .signed (hsymbol.trans hx) (ih ht hrest)
  | percent lead t ih =>
    cases h with
    | percent ht hy =>
      obtain ⟨xs', _, rfl, hfront, hback⟩ := hxs.exists_append
      obtain ⟨y', _, rfl, hsymbol, -, hnil⟩ := hback.exists_cons
      obtain rfl := hnil.eq_nil
      exact .percent (ih ht hfront) (hsymbol.trans hy)
  | binary lead op s t ihs iht =>
    cases h with
    | binary hs hy ht =>
      obtain ⟨xs', _, rfl, hfront, hback⟩ := hxs.exists_append
      obtain ⟨y', ys', rfl, hsymbol, -, hrest⟩ := hback.exists_cons
      exact .binary (ihs hs hfront) (hsymbol.trans hy) (iht ht hrest)
  | call lead function ts inner ih =>
    cases h with
    | emptyCall hx hy =>
      obtain ⟨x', _, rfl, hx', -, hrest⟩ := hxs.exists_cons
      obtain ⟨y', _, rfl, hy', -, hnil⟩ := hrest.exists_cons
      obtain rfl := hnil.eq_nil
      exact .emptyCall (hx'.trans hx) (hy'.trans hy)
    | call hx hts hy =>
      obtain ⟨x', _, rfl, hx', -, hrest⟩ := hxs.exists_cons
      obtain ⟨xs', _, rfl, hinner, hback⟩ := hrest.exists_append
      obtain ⟨y', _, rfl, hy', -, hnil⟩ := hback.exists_cons
      obtain rfl := hnil.eq_nil
      refine .call (hx'.trans hx) (hts.respaced hinner ?_) (hy'.trans hy)
      exact fun t ht xs ys hxs h => ih t ht h hxs
  | parens lead t inner ih =>
    cases h with
    | parens hx ht hy =>
      obtain ⟨x', _, rfl, hx', -, hrest⟩ := hxs.exists_cons
      obtain ⟨xs', _, rfl, hinner, hback⟩ := hrest.exists_append
      obtain ⟨y', _, rfl, hy', -, hnil⟩ := hback.exists_cons
      obtain rfl := hnil.eq_nil
      exact .parens (hx'.trans hx) (ih ht hinner) (hy'.trans hy)
  | array lead rows inner ih =>
    cases h with
    | array hx hrows hy =>
      obtain ⟨x', _, rfl, hx', -, hrest⟩ := hxs.exists_cons
      obtain ⟨xs', _, rfl, hinner, hback⟩ := hrest.exists_append
      obtain ⟨y', _, rfl, hy', -, hnil⟩ := hback.exists_cons
      obtain rfl := hnil.eq_nil
      refine .array (hx'.trans hx) (hrows.respaced hinner ?_) (hy'.trans hy)
      exact fun row hrow xs ys hxs h => h.respaced hxs fun t ht xs ys hxs h => ih row hrow t ht h hxs

/-! ## Places where blanks leave no trace -/

/-- Blanks between the lexemes `front` and `back` would leave no trace: they would stand at the end,
or between two lexemes that no blank separates yet and of which the first is a colon, or the second
has no place for blanks in front or is an argument separator that does not follow another one. -/
def IsIdlePlace (front back : List Lexeme) : Prop :=
  back = [] ∨ ∃ x ∈ front.getLast?, ∃ y ∈ back.head?, x.isBlank = false ∧ y.isBlank = false ∧
    (x.symbol = .colon ∨ y.symbol.isTight = true ∨
      y.symbol = .argumentSeparator ∧ x.symbol ≠ .argumentSeparator)

/-- A blank at the end is left out. -/
lemma dropIdleBlanks_append_blank {b : Lexeme} (hb : b.isBlank = true) {xs : List Lexeme}
    (hlast : ∀ x ∈ xs.getLast?, x.isBlank = false) (before : Option Lexeme) :
    dropIdleBlanks before (xs ++ [b]) = dropIdleBlanks before xs := by
  induction xs generalizing before with
  | nil => simp [dropIdleBlanks, hb, isIdleBetween]
  | cons x xs ih =>
    cases xs with
    | nil =>
      have hx : x.isBlank = false := hlast x rfl
      rw [List.cons_append, dropIdleBlanks_cons hx, dropIdleBlanks_cons hx, ih (by simp)]
    | cons y xs =>
      have hih := ih (by rwa [List.getLast?_cons_cons] at hlast) (some x)
      rw [List.cons_append] at hih ⊢
      rw [dropIdleBlanks, dropIdleBlanks, List.cons_append, List.head?_cons, List.head?_cons, hih]

/-- A lexeme takes the blanks in front of it, unless it stands behind a colon or is tight itself. -/
lemma attach_of_not_blank {x : Lexeme} (hx : x.isBlank = false) (afterColon : Bool)
    (pending : Option Text) (xs : List Lexeme) :
    attach afterColon pending (x :: xs) =
      ⟨if afterColon || x.symbol.isTight then none else pending, x.symbol, x.image⟩ ::
        attach (x.symbol = .colon) none xs := by
  rw [attach, if_neg (by simp [hx])]

/-- A blank that leaves no trace is left out, or no lexeme has a place for it. -/
lemma attach_dropIdleBlanks_insert {x y b : Lexeme} (hx : x.isBlank = false)
    (hy : y.isBlank = false) (hb : b.isBlank = true)
    (hplace : x.symbol = .colon ∨ y.symbol.isTight = true ∨
      y.symbol = .argumentSeparator ∧ x.symbol ≠ .argumentSeparator)
    (front back : List Lexeme) (before : Option Lexeme) (afterColon : Bool)
    (pending : Option Text) :
    attach afterColon pending (dropIdleBlanks before (front ++ x :: b :: y :: back)) =
      attach afterColon pending (dropIdleBlanks before (front ++ x :: y :: back)) := by
  -- Induction on the lexemes in front. They only decide which blanks wait for a lexeme, and they do
  -- so in the same way with the blank and without it.
  induction front generalizing before afterColon pending with
  | nil =>
    rw [List.nil_append, List.nil_append, dropIdleBlanks_cons hx, dropIdleBlanks_cons hx,
      dropIdleBlanks_cons hy, dropIdleBlanks, hb, Bool.true_and, List.head?_cons,
      dropIdleBlanks_cons hy]
    split
    · rfl
    · next hidle =>
      have htight : (decide (x.symbol = .colon) || y.symbol.isTight) = true := by
        rcases hplace with hcolon | htight | ⟨hseparator, hne⟩
        · rw [decide_eq_true hcolon, Bool.true_or]
        · rw [htight, Bool.or_true]
        · refine absurd ?_ hidle
          simp [isIdleBetween, Lexeme.isArgumentSeparator, hseparator, hne]
      rw [attach_of_not_blank hx, attach_of_not_blank hx, attach, if_pos hb,
        attach_of_not_blank hy, attach_of_not_blank hy, htight, if_pos rfl, if_pos rfl]
  | cons w front ih =>
    have hhead : (front ++ x :: b :: y :: back).head? = (front ++ x :: y :: back).head? := by
      cases front <;> rfl
    rw [List.cons_append, List.cons_append, dropIdleBlanks, dropIdleBlanks, hhead]
    split
    · exact ih _ _ _
    · rw [attach, attach]
      split
      · exact ih _ _ _
      · rw [ih]

/-- Blanks at the end are left out, also where they are joined with others. -/
lemma dropIdleBlanks_joinBlanks_append {b : Lexeme} (hb : b.isBlank = true) {xs : List Lexeme}
    (happart : BlanksApart xs) :
    dropIdleBlanks none (joinBlanks (xs ++ [b])) = dropIdleBlanks none xs := by
  by_cases hlast : ∀ x ∈ xs.getLast?, x.isBlank = false
  · have happart' : BlanksApart (xs ++ [b]) := by
      refine List.isChain_append.mpr ⟨happart, .singleton b, fun x hx y _ hxblank => ?_⟩
      cases hxblank.symm.trans (hlast x hx)
    rw [joinBlanks_eq_self happart', dropIdleBlanks_append_blank hb hlast]
  · simp only [not_forall, exists_prop] at hlast
    obtain ⟨x, hx, hxblank⟩ := hlast
    have hxblank : x.isBlank = true := by simpa using hxblank
    obtain ⟨ys, rfl⟩ := List.getLast?_eq_some_iff.mp hx
    obtain ⟨hys, -, hbefore⟩ := List.isChain_append.mp happart
    have hlast : ∀ y ∈ ys.getLast?, y.isBlank = false := by
      intro y hy
      by_contra hyblank
      cases hxblank.symm.trans (hbefore y hy x rfl (by simpa using hyblank))
    -- The blank joins the one that stands there already.
    have hjoin : joinBlanks (ys ++ [x] ++ [b]) = joinBlanks (ys ++ [⟨.blank, x.image ++ b.image⟩]) := by
      have hlast : joinBlanks ([x] ++ [b]) = joinBlanks [⟨.blank, x.image ++ b.image⟩] := by
        simp [joinBlanks, putBefore, hxblank, hb]
      have happend : ∀ us vs, joinBlanks (us ++ vs) = us.foldr putBefore (joinBlanks vs) :=
        fun us vs => List.foldr_append
      rw [List.append_assoc, happend, hlast, happend]
    have happart' : BlanksApart (ys ++ [⟨.blank, x.image ++ b.image⟩]) := by
      refine List.isChain_append.mpr ⟨hys, .singleton _, fun y hy z _ hyblank => ?_⟩
      cases hyblank.symm.trans (hlast y hy)
    rw [hjoin, joinBlanks_eq_self happart', dropIdleBlanks_append_blank rfl hlast,
      dropIdleBlanks_append_blank hxblank hlast]

/-- At a place where blanks leave no trace they leave none. -/
theorem spaced_insert {front back : List Lexeme} {b : Lexeme} (hb : b.isBlank = true)
    (happart : BlanksApart (front ++ back)) (hplace : IsIdlePlace front back) :
    spaced (dropIdleBlanks none (joinBlanks (front ++ b :: back))) =
      spaced (dropIdleBlanks none (front ++ back)) := by
  rcases hplace with rfl | ⟨x, hx, y, hy, hxblank, hyblank, hplace⟩
  · rw [List.append_nil] at happart ⊢
    exact congrArg spaced (dropIdleBlanks_joinBlanks_append hb happart)
  · obtain ⟨f, rfl⟩ := List.getLast?_eq_some_iff.mp hx
    obtain ⟨back', rfl⟩ : ∃ back', back = y :: back' := by
      cases back with
      | nil => cases hy
      | cons z back =>
        obtain rfl := Option.some.inj hy
        exact ⟨back, rfl⟩
    have happart' : BlanksApart (f ++ [x] ++ b :: y :: back') := by
      obtain ⟨hfront, hback, -⟩ := List.isChain_append.mp happart
      refine List.isChain_append.mpr ⟨hfront, .cons_cons (fun _ => hyblank) hback, ?_⟩
      intro z hz w _ hzblank
      obtain rfl : x = z := by simpa using hz
      cases hzblank.symm.trans hxblank
    rw [joinBlanks_eq_self happart', List.append_assoc, List.append_assoc]
    exact attach_dropIdleBlanks_insert hxblank hyblank hb hplace f back' none false none

/-! ## Formulas -/

/-- A text has lexemes exactly if it can be scanned, and they are those of the scan without idle
blanks. -/
lemma lex_eq_ok_iff {l : Locale} {text : Text} {xs : List Lexeme} :
    lex l text = .ok xs ↔ ∃ zs, Scans l .empty text zs ∧ dropIdleBlanks none zs = xs := by
  simp only [lex, ← scan_eq_ok_iff]
  cases scan l text with
  | error mistakes => simp [Except.map]
  | ok zs => simp [Except.map]

/-- The lexemes of a text without blanks are those that were cut out of it. -/
lemma map_lexeme_spaced (zs : List Lexeme) :
    (spaced (dropIdleBlanks none zs)).map Spaced.lexeme = zs.filter (fun z => !z.isBlank) := by
  rw [spaced, map_lexeme_attach, filter_dropIdleBlanks]

/-- If there are no blanks in front of an equals sign at the beginning, it is the first lexeme. -/
lemma head_not_blank {zs : List Lexeme} {y : Spaced} {ys : List Spaced} (happart : BlanksApart zs)
    (h : spaced (dropIdleBlanks none zs) = y :: ys) (hy : y.symbol = .operator .equal)
    (hlead : y.lead = none) : ∀ x ∈ zs.head?, x.isBlank = false := by
  rintro x hx
  by_contra hblank
  have hblank : x.isBlank = true := by simpa using hblank
  cases zs with
  | nil => cases hx
  | cons z zs =>
    obtain rfl : z = x := Option.some.inj hx
    cases zs with
    | nil => simp [dropIdleBlanks, hblank, isIdleBetween, spaced, attach] at h
    | cons w zs =>
      have hw := (List.isChain_cons_cons.mp happart).1 hblank
      rw [dropIdleBlanks, hblank, Bool.true_and, dropIdleBlanks_cons hw, spaced] at h
      split at h
      · next hidle =>
        have hseparator : w.symbol = .argumentSeparator := by
          simpa [isIdleBetween, Lexeme.isArgumentSeparator] using hidle
        rw [attach_of_not_blank hw] at h
        obtain ⟨rfl, -⟩ := List.cons.inj h
        cases hseparator.symm.trans hy
      · rw [attach, if_pos hblank, attach_of_not_blank hw] at h
        obtain ⟨rfl, -⟩ := List.cons.inj h
        dsimp only at hy hlead
        rw [hy] at hlead
        cases hlead

/-- Blanks behind a first lexeme that is none are not in front of it. -/
lemma lead_of_joinBlanks {x b : Lexeme} (hx : x.isBlank = false) {front back : List Lexeme}
    {y : Spaced} {ys : List Spaced}
    (h : spaced (dropIdleBlanks none (joinBlanks (x :: front ++ b :: back))) = y :: ys) :
    y.lead = none := by
  have hjoin : joinBlanks (x :: front ++ b :: back) = x :: joinBlanks (front ++ b :: back) :=
    putBefore_eq_cons fun hblank => by cases hblank.symm.trans hx
  rw [hjoin, dropIdleBlanks_cons hx, spaced, attach_of_not_blank hx] at h
  obtain ⟨rfl, -⟩ := List.cons.inj h
  exact ite_self none

/-- Texts with the same lexemes differ in the blanks in front of them only. -/
lemma respaced_of_scans {l : Locale} {text text' : Text} {xs ys : List Lexeme}
    (hxs : Scans l .empty text xs) (hys : Scans l .empty text' ys)
    (hsame : ys.filter (fun z => !z.isBlank) = xs.filter fun z => !z.isBlank) :
    Respaced (spaced (dropIdleBlanks none xs)) (spaced (dropIdleBlanks none ys)) where
  lexemes := by rw [map_lexeme_spaced, map_lexeme_spaced, hsame]
  tight := (neat_spaced (lex_eq_ok_iff.mpr ⟨xs, hxs, rfl⟩)).tightColons
  tight' := (neat_spaced (lex_eq_ok_iff.mpr ⟨ys, hys, rfl⟩)).tightColons

namespace Site

/-- A formula with blanks between its lexemes is cut into the same lexemes and the blanks. -/
lemma scans_insert_blanks {site : Site} (hl : site.locale.IsPreset) {text : Text}
    {front back : List Lexeme} (hscans : Scans site.locale .empty text (front ++ back)) {t : Tree}
    (ht : Reader.formula site (spaced (dropIdleBlanks none (front ++ back))) = .ok t)
    (hfree : ∀ x ∈ dropIdleBlanks none (front ++ back), x.symbol ≠ .offsetCall) {blanks : Text}
    (hblanks : AreBlanks site.locale blanks) :
    Scans site.locale .empty (front.flatMap Lexeme.image ++ (blanks ++ back.flatMap Lexeme.image))
      (joinBlanks (front ++ ⟨.blank, blanks⟩ :: back)) := by
  obtain ⟨-, hsymbols⟩ := hscans.symbolText hl
  obtain ⟨hfront, hback⟩ := List.forall_mem_append.mp hsymbols
  have hall : ∀ x ∈ front ++ ⟨.blank, blanks⟩ :: back, SymbolText site.locale x.symbol x.image :=
    List.forall_mem_append.mpr ⟨hfront, List.forall_mem_cons.mpr ⟨.blank hblanks, hback⟩⟩
  -- In a formula each lexeme may follow the one before, whatever blanks stand between them.
  have hflow := symbolsFlow_of_formula site hl (lex_eq_ok_iff.mpr ⟨_, hscans, rfl⟩) ht hfree
  rw [map_symbol_spaced, filter_dropIdleBlanks] at hflow
  have hsame : symbolsOf (joinBlanks (front ++ ⟨.blank, blanks⟩ :: back)) =
      ((front ++ back).filter fun x => !x.isBlank).map Lexeme.symbol := by
    rw [symbolsOf, filter_joinBlanks]
    simp [Lexeme.isBlank]
  have hscans' := scans_of_symbolsFlow hl (symbolText_joinBlanks hall) (blanksApart_joinBlanks _)
    (hsame ▸ hflow)
  rwa [flatMap_image_joinBlanks, List.flatMap_append, List.flatMap_cons] at hscans'

/-- A formula stays one with the same bare tree when blanks are put behind a lexeme of it. -/
lemma exists_formula_insert_blanks {site : Site} {text text' : Text} {front back : List Lexeme}
    (hscans : Scans site.locale .empty text (front ++ back)) (hfront : front ≠ []) {t : Tree}
    (ht : Reader.formula site (spaced (dropIdleBlanks none (front ++ back))) = .ok t)
    (hfree : ∀ x ∈ dropIdleBlanks none (front ++ back), x.symbol ≠ .offsetCall) {b : Lexeme}
    (hb : b.isBlank = true)
    (hscans' : Scans site.locale .empty text' (joinBlanks (front ++ b :: back))) :
    ∃ t', Reader.formula site (spaced (dropIdleBlanks none (joinBlanks (front ++ b :: back)))) =
      .ok t' ∧ t'.bare = t.bare := by
  have hrespaced := respaced_of_scans hscans hscans' (by
    rw [filter_joinBlanks]
    simp [hb])
  obtain ⟨y, ys, hxs, hy, hlead, hgrouped, hyields⟩ := Reader.yields_of_formula ht (by
    rintro z hz hoffset
    obtain ⟨x, hx, hsymbol⟩ := exists_mem_of_mem_spaced hz
    exact hfree x hx (hsymbol.trans hoffset))
  -- The first lexeme is the equals sign, so the blanks are not put in front of it.
  obtain ⟨x, front, rfl⟩ := List.exists_cons_of_ne_nil hfront
  have hx : x.isBlank = false := head_not_blank hscans.isChain_blank hxs hy hlead x rfl
  rw [hxs] at hrespaced
  obtain ⟨y', ys', hxs', hsymbol, -, hrest⟩ := hrespaced.exists_cons
  rw [hxs']
  exact Reader.exists_formula_of_yields (hsymbol.trans hy) (lead_of_joinBlanks hx hxs') hgrouped
    (hyields.respaced hrest)

/-- Blanks may be put behind any lexeme of a formula without offsets. The text stays a formula, and
its tree is the same up to blanks. Where blanks leave no trace, its tree and its key are the same.
-/
theorem read_insert_blanks (site : Site) (hl : site.locale.IsPreset) {text : Text}
    (hfree : hasOffset site.locale text = false) (hformula : (site.read text).isFormula = true)
    {front back : List Lexeme} (hscan : scan site.locale text = .ok (front ++ back))
    (hfront : front ≠ []) {blanks : Text} (hblanks : AreBlanks site.locale blanks) :
    let text' := front.flatMap Lexeme.image ++ (blanks ++ back.flatMap Lexeme.image)
    text = front.flatMap Lexeme.image ++ back.flatMap Lexeme.image ∧
      (site.read text').isFormula = true ∧
      (site.read text').tree.bare = (site.read text).tree.bare ∧
      (IsIdlePlace front back →
        (site.read text').tree = (site.read text).tree ∧ site.keyOf? text' = site.keyOf? text) := by
  intro text'
  have hscans := scan_eq_ok_iff.mp hscan
  have hlex := lex_eq_ok_iff.mpr ⟨_, hscans, rfl⟩
  have ht := formula_of_isFormula hlex hformula
  have hfree := symbol_ne_of_hasOffset hfree hlex
  have hscans' := scans_insert_blanks hl hscans ht hfree hblanks
  have hlex' := lex_eq_ok_iff.mpr ⟨_, hscans', rfl⟩
  obtain ⟨t', ht', hbare⟩ := exists_formula_insert_blanks hscans hfront ht hfree rfl hscans'
  have hread' : (site.read text').isFormula = true ∧ (site.read text').tree = t' := by
    rw [read, hlex']
    dsimp only
    rw [readLexemes, ht']
    exact ⟨rfl, rfl⟩
  refine ⟨?_, hread'.1, ?_, fun hplace => ?_⟩
  · rw [← (hscans.symbolText hl).1, List.flatMap_append]
  · rw [hread'.2, hbare]
  · have hspaced := spaced_insert (b := ⟨.blank, blanks⟩) rfl hscans.isChain_blank hplace
    constructor
    · rw [hspaced, ht] at ht'
      rw [hread'.2, Except.ok.inj ht']
    · rw [keyOf?, keyOf?, hlex, hlex']
      dsimp only
      rw [key?, key?, hspaced]

/-- Blanks in front of a separator of array rows, in a call with an argument that is left out. -/
theorem read_insert_blanks_in_array :
    let site : Site := ⟨.unitedStates, ⟨fun _ => none, fun _ => none⟩, ⟨0, 1, 0⟩⟩
    let text := "=Sum(A1:B2,,\x7b1,2;3,4\x7d)-.5e3".toList
    let text' := "=Sum(A1:B2,,\x7b1,2 \t;3,4\x7d)-.5e3".toList
    hasOffset site.locale text = false ∧ (site.read text).isFormula = true ∧
      (site.read text').isFormula = true ∧
      (site.read text').tree.bare = (site.read text).tree.bare ∧
      (site.read text').tree = (site.read text).tree ∧ site.keyOf? text' = site.keyOf? text := by
  intro site text text'
  let front := ((scan site.locale text).toOption.getD []).take 11
  let back := ((scan site.locale text).toOption.getD []).drop 11
  have hfree : hasOffset site.locale text = false := by decide +kernel
  have hformula : (site.read text).isFormula = true := by decide +kernel
  have hscan : scan site.locale text = .ok (front ++ back) := by decide +kernel
  have hplace : IsIdlePlace front back := by
    unfold IsIdlePlace
    decide +kernel
  have hblanks : AreBlanks site.locale [' ', '\t'] := ⟨by decide, List.all_eq_true.mp rfl⟩
  have htext' : text' = front.flatMap Lexeme.image ++ ([' ', '\t'] ++ back.flatMap Lexeme.image) := by
    decide +kernel
  obtain ⟨-, hformula', hbare, hsame⟩ :=
    site.read_insert_blanks (Or.inl rfl) hfree hformula hscan (by decide +kernel) hblanks
  rw [← htext'] at hformula' hbare hsame
  exact ⟨hfree, hformula, hformula', hbare, hsame hplace⟩

end Site

end GridFormula
