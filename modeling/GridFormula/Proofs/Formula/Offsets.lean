import GridFormula.Proofs.Formula.Spelling

/-!
# Formulas without offsets

An offset is resolved while it is read, so what it leaves in the tree may depend on the cell. All
else is kept as it is written. A formula without offsets holds in every cell, and its key can be
found from its lexemes.
-/

namespace GridFormula

/-- Whether the text has a lexeme of the function that is resolved while it is read. -/
def hasOffset (l : Locale) (text : Text) : Bool :=
  match lex l text with
  | .ok xs => xs.any fun x => x.symbol = .offsetCall
  | .error _ => false

/-- A text without offsets has no lexemes that open one. -/
lemma symbol_ne_of_hasOffset {l : Locale} {text : Text} {xs : List Lexeme}
    (h : hasOffset l text = false) (hlex : lex l text = .ok xs) :
    ∀ x ∈ xs, x.symbol ≠ .offsetCall := by
  rw [hasOffset, hlex] at h
  simpa using h

/-- The key under which a text is looked up. -/
def Site.keyOf? (site : Site) (text : Text) : Option Text :=
  match lex site.locale text with
  | .ok xs => site.key? xs
  | .error _ => none

/-- Lexemes without offsets do not bind a formula to its place. -/
lemma isPlaceBound_eq_false {xs : List Spaced} (h : ∀ x ∈ xs, x.symbol ≠ .offsetCall) :
    Reader.isPlaceBound xs = false := by
  fun_induction Reader.isPlaceBound xs with
  | case1 x y xs ih =>
    obtain ⟨hx, hxs⟩ := List.forall_mem_cons.mp h
    rw [ih hxs, Bool.or_false]
    split
    · next hoffset _ => exact absurd hoffset hx
    · rfl
  | case2 => rfl

/-- A text that cannot be cut into lexemes has a mistake in it. -/
lemma lex_ne_error_nil (l : Locale) (text : Text) : lex l text ≠ .error [] := by
  have hscan : scan l text ≠ .error [] := by
    unfold scan
    dsimp only
    split
    · nofun
    · next hne => exact fun h => hne (Except.error.inj h)
  unfold lex
  cases h : scan l text with
  | error mistakes =>
    intro hmap
    rw [h] at hscan
    exact hscan (congrArg _ (Except.error.inj hmap))
  | ok xs => nofun

namespace Site

variable {text : Text}

/-- A text that is a formula without offsets was cut into lexemes, and these read as its tree. -/
lemma read_eq_cases (site : Site) (hfree : hasOffset site.locale text = false) :
    (∃ xs t, lex site.locale text = .ok xs ∧ Reader.formula site (spaced xs) = .ok t ∧
      site.read text = ⟨t, [], false⟩) ∨ (site.read text).isFormula = false := by
  unfold read
  cases hlex : lex site.locale text with
  | error mistakes =>
    refine Or.inr ?_
    cases mistakes with
    | cons m ms => rfl
    | nil => exact absurd hlex (lex_ne_error_nil _ _)
  | ok xs =>
    have hsymbols := symbol_ne_of_hasOffset hfree hlex
    dsimp only
    unfold readLexemes
    cases hformula : Reader.formula site (spaced xs) with
    | error fault => exact Or.inr rfl
    | ok t =>
      refine Or.inl ⟨xs, t, rfl, hformula, ?_⟩
      dsimp only
      rw [isPlaceBound_eq_false]
      intro y hy hoffset
      obtain ⟨x, hx, hsymbol⟩ := exists_mem_of_mem_spaced hy
      exact hsymbols x hx (hsymbol.trans hoffset)

/-- A formula without offsets is looked up under the key of its tree. -/
lemma keyOf?_of_isFormula (site : Site) (hfree : hasOffset site.locale text = false)
    (h : (site.read text).isFormula = true) :
    site.read text = ⟨(site.read text).tree, [], false⟩ ∧
      site.keyOf? text = some (site.read text).tree.key := by
  rcases read_eq_cases site hfree with ⟨xs, t, hlex, ht, hread⟩ | hfault
  · obtain ⟨key, hkey, hfree'⟩ := key?_of_formula hlex ht
    rw [hread, keyOf?, hlex, ← hfree' (symbol_ne_of_hasOffset hfree hlex)]
    exact ⟨rfl, hkey⟩
  · cases h.symm.trans hfault

end Site

end GridFormula
