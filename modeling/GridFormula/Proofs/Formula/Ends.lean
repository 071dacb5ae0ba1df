import GridFormula.Proofs.Formula.Legible

/-!
# Where an operand ends

Behind an operand stands one of few characters, or nothing: a blank, an operator, a percent sign, a
closing bracket or a separator. None of them goes on with a reference, a name or a number. This is
used twice, for the text of a formula and for its key, which both follow the marks.
-/

namespace GridFormula

open Scan

/-- The characters that can stand directly behind an operand. -/
def Locale.terminators (l : Locale) : List Char :=
  [' ', '\t', '\r', '\n', '^', '*', '/', '+', '-', '&', '=', '<', '>', '%', ')', '\x7d', l.argument,
    l.arrayColumn, l.arrayRow]

/-- The text goes on in a way in which no operand goes on. -/
def Terminated (l : Locale) (rest : Text) : Prop :=
  ∀ c ∈ rest.head?, c ∈ l.terminators

/-- Where the text ends, no operand goes on. -/
lemma terminated_nil (l : Locale) : Terminated l [] :=
  nofun

/-- In front of a character that terminates operands, none goes on. -/
lemma terminated_cons {l : Locale} {c : Char} (h : c ∈ l.terminators) (rest : Text) :
    Terminated l (c :: rest) := by
  rintro d hd
  obtain rfl := Option.some.inj hd
  exact h

/-- The characters that would go on with a text in front of them. -/
def goesOn (l : Locale) (c : Char) : Bool :=
  continuesName c || Text.isWord c || continuesNumber l.decimal c ||
    ['(', '$', '!', ':', '"', '\''].contains c

/-- A character that terminates operands does not go on with any. -/
lemma goesOn_of_mem_terminators {l : Locale} (hl : l.IsPreset) :
    ∀ c ∈ l.terminators, goesOn l c = false := by
  have hall : l.terminators.all (fun c => !goesOn l c) = true := by
    rcases hl with rfl | rfl <;> decide
  simpa using hall

/-- The blanks of the presets are plain ones. -/
lemma isPlainBlank_of_isBlank {l : Locale} (hl : l.IsPreset) {c : Char} (h : l.isBlank c = true) :
    Text.isPlainBlank c = true := by
  rcases hl with rfl | rfl <;> exact h

/-- A blank terminates operands, also in other locales. -/
lemma mem_terminators_of_isBlank {l l' : Locale} (hl : l.IsPreset) {c : Char}
    (h : l.isBlank c = true) : c ∈ l'.terminators := by
  have hblank := isPlainBlank_of_isBlank hl h
  simp only [Text.isPlainBlank, Bool.or_eq_true, decide_eq_true_eq] at hblank
  rcases hblank with ((rfl | rfl) | rfl) | rfl <;> simp [Locale.terminators]

namespace Terminated

variable {l : Locale} {rest : Text}

/-- A text that is terminated does not start with a character that goes on. -/
lemma stopsAt {p : Char → Bool} (hl : l.IsPreset) (h : Terminated l rest)
    (hp : ∀ c, p c = true → goesOn l c = true) : Text.StopsAt p rest := by
  intro c hc
  by_contra hpc
  have hgoes := hp c (by simpa using hpc)
  rw [goesOn_of_mem_terminators hl c (h c hc)] at hgoes
  cases hgoes

/-- The first character of what terminates an operand is not one that goes on. -/
lemma head_ne (hl : l.IsPreset) (h : Terminated l rest) {c : Char} (hc : goesOn l c = true) :
    rest.head? ≠ some c := by
  intro hhead
  have hgoes := goesOn_of_mem_terminators hl c (h c hhead)
  cases hc.symm.trans hgoes

/-- In front of a terminated text a name stops. -/
lemma stopsAt_continuesName (hl : l.IsPreset) (h : Terminated l rest) :
    Text.StopsAt continuesName rest :=
  h.stopsAt hl fun c hc => by simp [goesOn, hc]

/-- In front of a terminated text a word stops. -/
lemma stopsAt_isWord (hl : l.IsPreset) (h : Terminated l rest) : Text.StopsAt Text.isWord rest :=
  h.stopsAt hl fun c hc => by simp [goesOn, hc]

/-- In front of a terminated text a number stops. -/
lemma stopsAt_continuesNumber (hl : l.IsPreset) (h : Terminated l rest) :
    Text.StopsAt (continuesNumber l.decimal) rest :=
  h.stopsAt hl fun c hc => by simp [goesOn, hc]

/-- In front of a terminated text digits stop. -/
lemma stopsAt_isDigit (hl : l.IsPreset) (h : Terminated l rest) : Text.StopsAt Char.isDigit rest :=
  (h.stopsAt_isWord hl).mono fun c hc => by
    by_contra hdigit
    cases hc.symm.trans (Text.isWord_of_isDigit (by simpa using hdigit))

/-- A terminated text does not start with a quote. -/
lemma stopsAt_quote (hl : l.IsPreset) (h : Terminated l rest) :
    Text.StopsAt (fun c => decide (c = '"')) rest :=
  h.stopsAt hl fun c hc => by
    obtain rfl := of_decide_eq_true hc
    simp [goesOn]

/-- No reference goes on. -/
lemma endsReference (hl : l.IsPreset) (h : Terminated l rest) : EndsReference rest where
  ends := by
    cases rest with
    | nil => rfl
    | cons c rest =>
      have hc := goesOn_of_mem_terminators hl c (h c rfl)
      simp only [goesOn, List.contains_cons, Bool.or_eq_false_iff, beq_eq_false_iff_ne] at hc
      simp [runsOn, hc]
  noMark := h.head_ne hl (by simp [goesOn])

/-- No name goes on. -/
lemma endsName (hl : l.IsPreset) (h : Terminated l rest) : EndsName rest where
  stops := h.stopsAt_continuesName hl
  noMark := h.head_ne hl (by simp [goesOn])
  noColon := h.head_ne hl (by simp [goesOn])
  noDollar := h.head_ne hl (by simp [goesOn])

end Terminated

/-! ## Areas up to an offset -/

/-- The text goes on with the colon of an area and an offset behind it. -/
def GoesOnWithOffset (rest : Text) : Prop :=
  ∃ s, rest = ':' :: (offsetName ++ '(' :: s)

/-- What follows an atom in a key: it ends there, or it is the first end of an area up to an
offset. -/
def Atom.EndsBefore (a : Atom) (rest : Text) : Prop :=
  Terminated .unitedStates rest ∨ a.IsAreaEnd ∧ GoesOnWithOffset rest

namespace Atom.EndsBefore

variable {a : Atom} {rest : Text}

/-- Behind an atom in a key digits stop. -/
lemma stopsAt_isDigit (h : a.EndsBefore rest) : Text.StopsAt Char.isDigit rest := by
  rcases h with h | ⟨-, s, rfl⟩
  · exact h.stopsAt_isDigit (Or.inl rfl)
  · exact Text.stopsAt_cons rfl _

/-- No second reference of an area follows. -/
lemma ne_colon_hash (h : a.EndsBefore rest) (s : Text) : rest ≠ ':' :: '#' :: s := by
  rcases h with h | ⟨-, s', rfl⟩
  · rintro rfl
    exact h.head_ne (Or.inl rfl) (c := ':') (by decide) rfl
  · nofun

/-- Anything but the end of an area ends in front of what follows it. -/
lemma terminated (h : a.EndsBefore rest) (ha : ¬a.IsAreaEnd) : Terminated .unitedStates rest :=
  h.resolve_right fun hoffset => ha hoffset.1

end Atom.EndsBefore

/-! ## Operators -/

/-- A comparison is followed by no character that would make it another one. -/
def EndsOperator (rest : Text) : Prop :=
  rest.head? ≠ some '=' ∧ rest.head? ≠ some '>'

/-- An operator is read back. -/
lemma operatorFront?_symbol (op : BinaryOp) {rest : Text} (h : EndsOperator rest) :
    ∃ c s, op.symbol ++ rest = c :: s ∧ operatorFront? c s = some (.operator op, rest) := by
  obtain ⟨hequal, hgreater⟩ := h
  cases op with
  | less =>
    refine ⟨'<', rest, rfl, ?_⟩
    simp only [operatorFront?]
    split
    · exact absurd rfl hequal
    · exact absurd rfl hgreater
    · rfl
  | greater =>
    refine ⟨'>', rest, rfl, ?_⟩
    simp only [operatorFront?]
    split
    · exact absurd rfl hequal
    · rfl
  | _ => exact ⟨_, _, rfl, rfl⟩

/-! ## Marks -/

/-- A way of writing marks in which blanks stand for themselves, and what follows an operand starts
with a character that can. -/
structure WritesMarks (l : Locale) (write : Mark → Text) : Prop where
  space : ∀ blanks, write (.space blanks) = blanks
  ends : ∀ m, m.endsOperand = true → ∃ c s, write m = c :: s ∧ c ∈ l.terminators

/-- What is written behind an operand does not go on with it. -/
lemma WritesMarks.terminated {l l' : Locale} {sheets : SheetNames} {write : Mark → Text}
    {ms : List Mark} (h : WritesMarks l' write) (hl : l.IsPreset)
    (hms : ∀ m ∈ ms, m.Legible l sheets) (hend : FollowOperand ms) :
    Terminated l' (ms.flatMap write) := by
  cases ms with
  | nil => exact nofun
  | cons m ms =>
    have hm := hms m List.mem_cons_self
    cases hspace : m.isSpace with
    | true =>
      cases m with
      | space blanks =>
        obtain ⟨hne, hblanks⟩ := hm
        obtain ⟨c, s, rfl⟩ := List.exists_cons_of_ne_nil hne
        rw [List.flatMap_cons, h.space]
        exact terminated_cons (mem_terminators_of_isBlank hl (hblanks c List.mem_cons_self)) _
      | _ => cases hspace
    | false =>
      obtain ⟨c, s, hwrite, hc⟩ := h.ends m (hend m (Mark.next_cons hspace ms))
      rw [List.flatMap_cons, hwrite]
      exact terminated_cons hc _

end GridFormula
