import GridFormula.Proofs.Formula.WrittenMarks

/-!
# Written blanks are kept

Of the blanks in a text some are left out before it is read. The marks of a formula that was read
have no such blanks, so when they are written and read again all their blanks come back. Blanks in
front of an argument separator are the only ones that need care: they stay only directly behind
another separator.
-/

namespace GridFormula

/-- Blanks stand only in front of what has a place for them. It is given whether the marks stand
directly behind an argument separator. -/
def NeatMarks : Bool → List Mark → Prop
  | _, [] => True
  | behindSeparator, m :: ms =>
    (m.isSpace = true → ∀ m' ∈ ms.head?, ∀ s ∈ m'.symbol?, s.isTight = false ∧
      (s = .argumentSeparator → behindSeparator = true)) ∧
        NeatMarks (m = .argumentSeparator) ms

/-! ## The marks of neat lexemes -/

/-- A mark keeps marks neat if the blanks in front of it have a place there. -/
lemma neatMarks_spaces_append {b : Bool} {lead : Option Text} {m : Mark} {ms : List Mark}
    (hm : m.isSpace = false)
    (hlead : ∀ s ∈ m.symbol?, (s.isTight = true → lead = none) ∧
      (s = .argumentSeparator → b = false → lead = none))
    (h : NeatMarks (m = .argumentSeparator) ms) : NeatMarks b (Mark.spaces lead ++ m :: ms) := by
  have hmarks : ∀ b, NeatMarks b (m :: ms) := fun b =>
    ⟨fun hspace => (by cases hm.symm.trans hspace), h⟩
  cases lead with
  | none => exact hmarks b
  | some blanks =>
    refine ⟨fun _ m' hm' s hs => ?_, hmarks _⟩
    cases hm'
    obtain ⟨htight, hseparator⟩ := hlead s hs
    refine ⟨?_, fun h => ?_⟩
    · by_contra hc
      cases htight (by simpa using hc)
    · by_contra hc
      cases hseparator h (by simpa using hc)

/-- Lexemes that have blanks only where these have a place make such marks. -/
theorem neatMarks_of_marks? {site : Site} {b : Bool} {xs : List Spaced} {ms : List Mark}
    (hneat : Neat b xs) (h : site.marks? xs = some ms) : NeatMarks b ms := by
  fun_induction Site.marks? site xs generalizing b ms with
  | case1 =>
    cases h
    trivial
  | case2 lead a image lead' image' lead'' c image'' xs atom ms' hms' hatom ih =>
    cases h
    have hrest := ((hneat.tail_of_ne (by simp)).tail_of_ne (by simp)).tail_of_ne (by simp)
    exact neatMarks_spaces_append rfl (fun s hs => by cases hs) (ih hrest hms')
  | case3 => cases h
  | case4 x xs _ m ms' hms' hm ih =>
    cases h
    have hspace := Reader.isSpace_of_mark? hm hneat.1.notBlank
    refine neatMarks_spaces_append hspace (fun s hs => ?_) ?_
    · have hx := Reader.symbol_of_mark? hm hs
      exact ⟨fun h => hneat.1.tight (hx ▸ h), fun h => hneat.1.separator (hx.trans h)⟩
    · by_cases hseparator : m = .argumentSeparator
      · subst hseparator
        exact ih (hneat.tail_of_eq (Reader.symbol_of_mark? hm rfl)) hms'
      · rw [decide_eq_false hseparator]
        refine ih (hneat.tail_of_ne fun hx => hseparator ?_) hms'
        rw [Site.mark?, hx] at hm
        exact (Option.some.inj hm).symm
  | case5 => cases h

/-! ## Reading the blanks again -/

section

variable {site : Site} {n : Nesting} {ms : List Mark} {xs : List Lexeme}

/-- A mark is headed by a blank if it is one. -/
lemma Mark.HeadedBy.isBlank {m : Mark} {x : Lexeme} (h : m.HeadedBy x) :
    x.isBlank = m.isSpace := by
  rw [Bool.eq_iff_iff, ← h.blank]
  simp [Lexeme.isBlank]

/-- A mark is headed by an argument separator if it is one. -/
lemma Mark.HeadedBy.isArgumentSeparator {m : Mark} {x : Lexeme} (h : m.HeadedBy x) :
    x.isArgumentSeparator = decide (m = .argumentSeparator) :=
  decide_eq_decide.mpr (h.symbol .argumentSeparator _ rfl)

/-- A lexeme that can be a part of an area belongs to an atom. -/
lemma Mark.HeadedBy.isAreaPart {m : Mark} {x : Lexeme} (h : m.HeadedBy x)
    (hx : x.isAreaPart = true) : ∃ a, m = .atom a := by
  unfold Lexeme.isAreaPart at hx
  split at hx
  · next w hw => exact h.cell w hw
  · next hcolon => exact absurd hcolon h.noColon
  · cases hx

/-- A lexeme without a place for blanks in front makes its mark by itself. -/
lemma Mark.HeadedBy.symbol?_of_isTight {m : Mark} {x : Lexeme} (h : m.HeadedBy x)
    (hx : x.symbol.isTight = true) : m.symbol? = some x.symbol := by
  unfold Symbol.isTight at hx
  split at hx
  · next hcolon => exact absurd hcolon h.noColon
  · next hs => rw [(h.symbol .columnSeparator _ rfl).mp hs, hs, Mark.symbol?]
  · next hs => rw [(h.symbol .rowSeparator _ rfl).mp hs, hs, Mark.symbol?]
  · cases hx

/-- A lexeme that is no blank is kept. -/
lemma dropIdleBlanks_cons {x : Lexeme} (hx : x.isBlank = false) (before : Option Lexeme)
    (xs : List Lexeme) : dropIdleBlanks before (x :: xs) = x :: dropIdleBlanks (some x) xs := by
  rw [dropIdleBlanks, hx, Bool.false_and, if_neg Bool.false_ne_true]

/-- No blanks between the lexemes are left out. It is given which lexeme stands in front. -/
theorem LexedAll.dropIdleBlanks_eq_self (h : LexedAll site ms xs) (hflows : Flows n ms)
    (before : Option Lexeme) (hneat : NeatMarks (before.any Lexeme.isArgumentSeparator) ms)
    (hbefore : before.any Lexeme.isAreaPart = true → FollowOperand ms) :
    dropIdleBlanks before xs = xs := by
  -- Whether a blank is idle depends on the lexeme in front of it, which is carried along.
  induction h generalizing n before with
  | nil => rfl
  | @cons m ms xs ys hm hms ih =>
    obtain ⟨-, hmeets, hflows⟩ := hflows
    obtain ⟨hblanks, hneat⟩ := hneat
    cases hm with
    | @space blanks =>
      obtain ⟨m', hm', hspace⟩ := hmeets
      cases ms with
      | nil => cases hm'
      | cons _ ms =>
        cases hm'
        obtain ⟨x, zs, rfl, hx⟩ := hms.head
        -- It would be idle inside an area, or in front of a separator with something written before
        -- it.
        have hidle : isIdleBetween before (some x) = false := by
          refine Bool.or_eq_false_iff.mpr ⟨?_, ?_⟩
          · by_contra hc
            obtain ⟨harea, hpart⟩ := (Bool.and_eq_true _ _).mp (by simpa using hc)
            obtain ⟨a, rfl⟩ := hx.isAreaPart hpart
            cases hbefore harea _ rfl
          · by_contra hc
            obtain ⟨hseparator, hnone⟩ := (Bool.and_eq_true _ _).mp (Bool.not_eq_false _ ▸ hc)
            rw [hx.isArgumentSeparator, decide_eq_true_eq] at hseparator
            subst hseparator
            rw [(hblanks rfl _ rfl _ rfl).2 rfl] at hnone
            cases hnone
        rw [List.singleton_append, dropIdleBlanks, List.head?_cons, hidle, Bool.and_false,
          if_neg Bool.false_ne_true, ih hflows (some ⟨.blank, blanks⟩) hneat fun h => (by cases h)]
    | single symbol hspace hcolon hmark =>
      obtain ⟨x, zs, heq, hx⟩ := (Mark.Lexed.single symbol hspace hcolon hmark).head
      cases heq
      have hblank := hx.isBlank.trans hspace
      have hseparator := hx.isArgumentSeparator
      rw [← hseparator] at hneat
      rw [List.singleton_append, dropIdleBlanks_cons hblank, ih hflows (some _) hneat ?_]
      intro hpart
      obtain ⟨a, rfl⟩ := hx.isAreaPart hpart
      exact hmeets
    | @area _ d _ t _ _ =>
      rw [List.cons_append, List.cons_append, List.singleton_append, dropIdleBlanks_cons rfl,
        dropIdleBlanks_cons rfl, dropIdleBlanks_cons rfl,
        ih hflows (some ⟨.cell d, t⟩) hneat fun _ => hmeets]

/-- A lexeme that is no blank takes the blanks in front of it, if it has a place for them. -/
lemma attach_cons {x : Lexeme} {pending : Option Text} (hx : x.isBlank = false)
    (hcolon : x.symbol ≠ .colon) (hpending : x.symbol.isTight = true → pending = none)
    (xs : List Lexeme) :
    attach false pending (x :: xs) = ⟨pending, x.symbol, x.image⟩ :: attach false none xs := by
  rw [attach, if_neg (by rw [hx]; decide), decide_eq_false hcolon, Bool.false_or]
  split
  · next htight => rw [hpending htight]
  · rfl

/-- With the blanks in front of them the lexemes make the marks again. It is given which blanks
have been met. -/
theorem LexedAll.marks?_attach (h : LexedAll site ms xs) (hflows : Flows n ms) {b : Bool}
    (hneat : NeatMarks b ms) (pending : Option Text)
    (hpending : pending ≠ none → ∃ m ∈ ms.head?, m.isSpace = false ∧
      ∀ s ∈ m.symbol?, s.isTight = false) :
    site.marks? (attach false pending xs) = some (Mark.spaces pending ++ ms) ∧
      Reader.NoColon (attach false pending xs) := by
  -- Blanks that wait belong to the next mark, so this mark must have a place for them.
  induction h generalizing n b pending with
  | nil =>
    cases pending with
    | none => exact ⟨rfl, Reader.noColon_nil⟩
    | some blanks =>
      obtain ⟨m, hm, -⟩ := hpending (by simp)
      cases hm
  | @cons m ms xs ys hm hms ih =>
    obtain ⟨-, hmeets, hflows⟩ := hflows
    obtain ⟨hblanks, hneat⟩ := hneat
    cases hm with
    | @space blanks =>
      obtain rfl : pending = none := by
        by_contra hc
        obtain ⟨m, hm, hspace, -⟩ := hpending hc
        cases hm
        cases hspace
      refine ih hflows hneat (some blanks) fun _ => ?_
      obtain ⟨m', hm', hspace⟩ := hmeets
      exact ⟨m', hm', hspace, fun s hs => (hblanks rfl m' hm' s hs).1⟩
    | single symbol hspace hcolon hmark =>
      obtain ⟨x, zs, heq, hx⟩ := (Mark.Lexed.single symbol hspace hcolon hmark).head
      cases heq
      obtain ⟨hmarks, hnoColon⟩ := ih hflows hneat none fun h => absurd rfl h
      have htight : symbol.isTight = true → pending = none := by
        intro htight
        by_contra hc
        obtain ⟨m', hm', -, hloose⟩ := hpending hc
        cases hm'
        cases htight.symm.trans (hloose symbol (hx.symbol?_of_isTight htight))
      rw [List.singleton_append, attach_cons (hx.isBlank.trans hspace) hx.noColon htight]
      exact ⟨Site.marks?_cons (hmark pending) hmarks fun _ _ => hnoColon.noLastCell,
        Reader.noColon_cons hx.noColon _⟩
    | area ha =>
      obtain ⟨hmarks, -⟩ := ih hflows hneat none fun h => absurd rfl h
      rw [List.cons_append, attach_cons rfl (by simp) (by simp [Symbol.isTight])]
      exact ⟨Site.marks?_area rfl rfl rfl ha hmarks, Reader.noColon_cons (by simp) _⟩

/-- Marks that flow and are neat come back from their lexemes with all their blanks. -/
theorem LexedAll.marks?_spaced (h : LexedAll site ms xs) (hflows : Flows n ms)
    (hneat : NeatMarks false ms) :
    dropIdleBlanks none xs = xs ∧ site.marks? (spaced xs) = some ms :=
  ⟨h.dropIdleBlanks_eq_self hflows none hneat nofun,
    (h.marks?_attach hflows hneat none fun h => absurd rfl h).1⟩

end

end GridFormula
