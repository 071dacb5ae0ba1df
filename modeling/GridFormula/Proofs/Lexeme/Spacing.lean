import GridFormula.Lexeme.Spacing
import GridFormula.Proofs.Lexeme.Scans
import Mathlib.Data.List.Chain

/-!
# Where blanks stand

Of the blanks of a formula only those are attached to a lexeme that the formula's tree has a place
for. A colon, the lexeme behind it and the separators of array parts have none, and an argument
separator has them only directly behind another one, where they belong to an omitted argument.
-/

namespace GridFormula

/-- A lexeme has blanks in front only where they have a place. It is given whether it stands
directly behind an argument separator, and which lexemes follow. -/
structure Spaced.Neat (behindSeparator : Bool) (x : Spaced) (xs : List Spaced) : Prop where
  notBlank : x.symbol ≠ .blank
  tight : x.symbol.isTight = true → x.lead = none
  separator : x.symbol = .argumentSeparator → behindSeparator = false → x.lead = none
  colon : x.symbol = .colon → x.image = [':'] ∧ ∀ y ∈ xs.head?, y.lead = none

/-- All lexemes have blanks in front only where they have a place. -/
def Neat : Bool → List Spaced → Prop
  | _, [] => True
  | behindSeparator, x :: xs =>
    x.Neat behindSeparator xs ∧ Neat (x.symbol = .argumentSeparator) xs

/-- What follows a lexeme that is no argument separator. -/
lemma Neat.tail_of_ne {b : Bool} {x : Spaced} {xs : List Spaced}
    (hx : x.symbol ≠ .argumentSeparator) (h : Neat b (x :: xs)) : Neat false xs := by
  have htail := h.2
  rwa [decide_eq_false hx] at htail

/-- What follows an argument separator. -/
lemma Neat.tail_of_eq {b : Bool} {x : Spaced} {xs : List Spaced}
    (hx : x.symbol = .argumentSeparator) (h : Neat b (x :: xs)) : Neat true xs := by
  have htail := h.2
  rwa [decide_eq_true hx] at htail

/-- Behind a colon no blanks are attached. -/
lemma lead_head_attach (pending : Option Text) (xs : List Lexeme) :
    ∀ y ∈ (attach true pending xs).head?, y.lead = none := by
  induction xs generalizing pending with
  | nil => exact nofun
  | cons x xs ih =>
    rw [attach]
    split
    · exact ih _
    · rintro y hy
      cases hy
      rfl

/-- A lexeme with blanks that are not idle, in front of lexemes that are neat. -/
lemma neat_cons_attach {before : Option Lexeme} {y : Lexeme} {lead : Option Text}
    {ys : List Lexeme} (hy : y.isBlank = false) (hcolon : y.symbol = .colon → y.image = [':'])
    (hlead : y.symbol.isTight = true → lead = none)
    (hidle : y.symbol = .argumentSeparator → before.any Lexeme.isArgumentSeparator = false →
      lead = none)
    (h : Neat y.isArgumentSeparator (attach (y.symbol = .colon) none ys)) :
    Neat (before.any Lexeme.isArgumentSeparator)
      (⟨lead, y.symbol, y.image⟩ :: attach (y.symbol = .colon) none ys) := by
  refine ⟨⟨of_decide_eq_false hy, hlead, hidle, ?_⟩, h⟩
  intro hc
  refine ⟨hcolon hc, ?_⟩
  rw [decide_eq_true hc]
  exact lead_head_attach none ys

/-- Where blanks come one at a time, leaving out the idle ones leaves those that have a place. -/
lemma neat_attach_dropIdleBlanks :
    ∀ (before : Option Lexeme) (xs : List Lexeme),
      (xs.IsChain fun x y => x.isBlank = true → y.isBlank = false) →
      (∀ x ∈ xs, x.symbol = .colon → x.image = [':']) →
      ∀ afterColon, Neat (before.any Lexeme.isArgumentSeparator)
        (attach afterColon none (dropIdleBlanks before xs))
  | _, [], _, _, _ => trivial
  | before, [x], _, hcolon, afterColon => by
    rw [dropIdleBlanks]
    split
    · trivial
    · next hx =>
      have hx : x.isBlank = false := by simpa [isIdleBetween] using hx
      rw [attach, if_neg (by rw [hx]; decide)]
      exact neat_cons_attach hx (hcolon x List.mem_cons_self) (fun h => by simp [h])
        (fun _ _ => by simp) trivial
  | before, x :: y :: ys, hchain, hcolon, afterColon => by
    obtain ⟨hxy, htail⟩ := List.isChain_cons_cons.mp hchain
    have hcolon' := (List.forall_mem_cons.mp hcolon).2
    by_cases hx : x.isBlank = true
    · -- The blank is dropped, or it goes to the lexeme behind it.
      have hy := hxy hx
      have hrest := neat_attach_dropIdleBlanks (some y) ys htail.tail
        (List.forall_mem_cons.mp hcolon').2 (y.symbol = .colon)
      have hdrop : ∀ z, dropIdleBlanks z (y :: ys) = y :: dropIdleBlanks (some y) ys := by
        intro z
        rw [dropIdleBlanks, hy, Bool.false_and, if_neg Bool.false_ne_true]
      rw [dropIdleBlanks, hx, Bool.true_and, hdrop]
      split
      · rw [attach, if_neg (by rw [hy]; decide)]
        exact neat_cons_attach hy (hcolon' y List.mem_cons_self) (fun h => by simp [h])
          (fun _ _ => by simp) hrest
      · next hidle =>
        rw [attach, if_pos hx, attach, if_neg (by rw [hy]; decide)]
        refine neat_cons_attach hy (hcolon' y List.mem_cons_self) (fun h => by simp [h]) ?_ hrest
        intro hs hbefore
        refine absurd ?_ hidle
        simp [isIdleBetween, Lexeme.isArgumentSeparator, hs, hbefore]
    · have hx : x.isBlank = false := by simpa using hx
      have hrest := neat_attach_dropIdleBlanks (some x) (y :: ys) htail hcolon'
        (x.symbol = .colon)
      rw [dropIdleBlanks, hx, Bool.false_and, if_neg Bool.false_ne_true, attach,
        if_neg (by rw [hx]; decide)]
      exact neat_cons_attach hx (hcolon x List.mem_cons_self) (fun h => by simp [h])
        (fun _ _ => by simp) hrest

/-- The lexemes of a text have blanks in front only where these have a place. -/
theorem neat_spaced {l : Locale} {s : Text} {xs : List Lexeme} (h : lex l s = .ok xs) :
    Neat false (spaced xs) := by
  unfold lex at h
  cases hscan : scan l s with
  | error m =>
    rw [hscan] at h
    cases h
  | ok ys =>
    rw [hscan] at h
    cases h
    have hscans := Scan.scan_eq_ok_iff.mp hscan
    exact neat_attach_dropIdleBlanks none ys hscans.isChain_blank hscans.image_colon false

end GridFormula
