import GridFormula.Lexeme.Spacing
import GridFormula.Locale.Presets
import GridFormula.Proofs.Lexeme.Turns

/-!
# Nothing but idle blanks is lost

The lexemes that a text is cut into make up the text, and two blanks never follow each other. Some
of the blanks are then left out. Which ones can be said place by place: at the end of the text,
between two parts of an area of cells, and in front of an argument separator that does not stand
directly behind another one. Whether a blank is left out does not depend on others that are, since
its neighbours are no blanks.
-/

namespace GridFormula

/-- Whether the lexeme at a place is a blank that says nothing. It is the last of the lexemes, or it
stands between two parts of an area of cells, or in front of an argument separator and not behind
one. -/
def isIdleAt (xs : List Lexeme) (i : Nat) : Bool :=
  let before := (xs.take i).getLast?
  let behind := xs[i + 1]?
  xs[i]?.any Lexeme.isBlank &&
    (i + 1 = xs.length ||
      (before.any Lexeme.isAreaPart && behind.any Lexeme.isAreaPart) ||
      (behind.any Lexeme.isArgumentSeparator && !before.any Lexeme.isArgumentSeparator))

/-- The lexemes without the blanks that say nothing. -/
def withoutIdle (xs : List Lexeme) : List Lexeme :=
  (xs.zipIdx.filter fun x => !isIdleAt xs x.2).map Prod.fst

/-- Whether a lexeme is an idle blank depends on itself and on its neighbours. -/
lemma isIdleAt_append (front : List Lexeme) (x : Lexeme) (xs : List Lexeme) :
    isIdleAt (front ++ x :: xs) front.length =
      (x.isBlank && isIdleBetween front.getLast? xs.head?) := by
  cases xs with
  | nil => simp [isIdleAt, isIdleBetween]
  | cons y ys => simp [isIdleAt, isIdleBetween]

/-- Blanks are left out place by place. -/
theorem dropIdleBlanks_eq (xs : List Lexeme) : dropIdleBlanks none xs = withoutIdle xs := by
  suffices hbehind : ∀ (xs front : List Lexeme),
      dropIdleBlanks front.getLast? xs =
        ((xs.zipIdx front.length).filter fun x => !isIdleAt (front ++ xs) x.2).map Prod.fst from
    hbehind xs []
  intro xs
  induction xs with
  | nil => exact fun front => rfl
  | cons x xs ih =>
    intro front
    have hrest := ih (front ++ [x])
    rw [List.getLast?_concat, List.length_append, List.length_singleton, List.append_assoc,
      List.singleton_append] at hrest
    rw [dropIdleBlanks, List.zipIdx_cons, List.filter_cons, isIdleAt_append, hrest]
    cases x.isBlank && isIdleBetween front.getLast? xs.head? with
    | true => rfl
    | false => rfl

/-- Pieces without mistakes are lexemes only. -/
lemma map_ok_lexemesOf {pieces : List (Except Mistake Lexeme)} (h : mistakesOf pieces = []) :
    (lexemesOf pieces).map .ok = pieces := by
  induction pieces with
  | nil => rfl
  | cons piece pieces ih =>
    cases piece with
    | error m => cases h
    | ok x => exact congrArg (List.cons (.ok x)) (ih h)

/-- In a locale without faults, every turn of a scan takes at least one character off the text, so
the turns come to an end. Then there are mistakes, or there are lexemes. The lexemes make up the
text, no blank follows another one, and of the lexemes only the blanks that say nothing are left
out. -/
theorem lex_loses_only_idle_blanks {l : Locale} (hl : l.fault? = none) (text : Text) :
    (∀ n c s, ∃ taken, taken ≠ [] ∧ c :: s = taken ++ (Scan.turn l n c s).rest) ∧
      ∃ pieces, Scan.Runs l .empty 0 text pieces ∧
        ((∃ mistakes, mistakes ≠ [] ∧ mistakes = mistakesOf pieces ∧
            lex l text = .error mistakes) ∨
          ∃ xs, pieces = xs.map .ok ∧ xs.flatMap Lexeme.image = text ∧
            (xs.IsChain fun x y => x.isBlank = true → y.isBlank = false) ∧
            lex l text = .ok (withoutIdle xs)) := by
  constructor
  · intro n c s
    rw [Scan.turn_eq_front hl]
    exact Scan.exists_append_front l n c s
  · refine ⟨Scan.pieces l .empty 0 text, (Scan.runs_iff hl).mpr rfl, ?_⟩
    cases hmistakes : mistakesOf (Scan.pieces l .empty 0 text) with
    | cons m ms =>
      refine Or.inl ⟨m :: ms, List.cons_ne_nil m ms, rfl, ?_⟩
      rw [lex, scan, hmistakes]
      rfl
    | nil =>
      have hscans := Scan.scans_of_pieces hmistakes
      refine Or.inr ⟨_, (map_ok_lexemesOf hmistakes).symm, hscans.flatMap_image,
        hscans.isChain_blank, ?_⟩
      rw [lex, Scan.scan_eq_ok_iff.mpr hscans, ← dropIdleBlanks_eq]
      rfl

/-- Of six blanks two stay, one in front of an omitted argument and one behind an operator. -/
theorem lex_loses_only_idle_blanks_german :
    let text := "=Summe(A1 : B2 ;  ;-\t1,5e3)\n".toList
    Locale.germany.fault? = none ∧
      ∃ xs, Scan.Runs .germany .empty 0 text (xs.map .ok) ∧ xs.flatMap Lexeme.image = text ∧
        lex .germany text = .ok (withoutIdle xs) ∧
        (withoutIdle xs).map (fun x => String.ofList x.image) =
          ["=", "Summe(", "A1", ":", "B2", ";", "  ", ";", "-", "\t", "1,5e3", ")"] := by
  intro text
  have hfault : Locale.germany.fault? = none := by decide +kernel
  have himages : (lex .germany text).map (List.map fun x => String.ofList x.image) =
      .ok ["=", "Summe(", "A1", ":", "B2", ";", "  ", ";", "-", "\t", "1,5e3", ")"] := by
    decide +kernel
  obtain ⟨-, pieces, hruns, ⟨mistakes, -, -, herror⟩ | ⟨xs, rfl, htext, -, hlex⟩⟩ :=
    lex_loses_only_idle_blanks hfault text
  · rw [herror] at himages
    cases himages
  · rw [hlex] at himages
    exact ⟨hfault, xs, hruns, htext, hlex, Except.ok.inj himages⟩

end GridFormula
