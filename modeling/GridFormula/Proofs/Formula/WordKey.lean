import GridFormula.Proofs.Formula.Ends
import GridFormula.Proofs.Locale.FunctionName
import GridFormula.Proofs.Text.Upper

/-!
# Keys of words and numbers tell them apart

Names, numbers, functions and references that mean nothing stand in a key as they are written, or in
upper case. A function has its parenthesis behind it. Of the others only such a reference is read as
a reference, and a number starts with a digit or a point. So there is a way to read them back, and
texts that are read in one way have one key.
-/

namespace GridFormula

open Scan

/-- A text in which no parenthesis follows the first word directly. -/
def NoOpening (t : Text) : Prop :=
  (∀ c ∈ t, Text.isWord c = true) ∨
    ∃ s c u, t = s ++ c :: u ∧ (∀ d ∈ s, Text.isWord d = true) ∧ Text.isWord c = false ∧ c ≠ '('

namespace NoOpening

/-- A word holds no opening of a call. -/
lemma of_word {t : Text} (h : ∀ c ∈ t, Text.isWord c = true) : NoOpening t :=
  Or.inl h

/-- A character that is neither of words nor a parenthesis holds off the opening of a call. -/
lemma of_cons {c : Char} (hword : Text.isWord c = false) (hne : c ≠ '(') (t : Text) :
    NoOpening (c :: t) :=
  Or.inr ⟨[], c, t, rfl, fun _ hd => absurd hd List.not_mem_nil, hword, hne⟩

/-- Two texts without the opening of a call have none together. -/
lemma append {s t : Text} (hs : NoOpening s) (ht : NoOpening t) : NoOpening (s ++ t) := by
  rcases hs with hs | ⟨u, c, v, rfl, hu, hc, hne⟩
  · rcases ht with ht | ⟨u, c, v, rfl, hu, hc, hne⟩
    · exact Or.inl fun c hmem => (List.mem_append.mp hmem).elim (hs c) (ht c)
    · refine Or.inr ⟨s ++ u, c, v, (List.append_assoc _ _ _).symm, ?_, hc, hne⟩
      exact fun d hd => (List.mem_append.mp hd).elim (hs d) (hu d)
  · exact Or.inr ⟨u, c, v ++ t, by rw [List.append_assoc, List.cons_append], hu, hc, hne⟩

/-- Where the word ends there is no parenthesis. -/
lemma head_dropWhile {t rest : Text} (h : NoOpening t) (hrest : Text.StopsAt Text.isWord rest)
    (hparen : rest.head? ≠ some '(') :
    ((t ++ rest).dropWhile Text.isWord).head? ≠ some '(' := by
  rcases h with h | ⟨s, c, u, rfl, hs, hc, hne⟩
  · rwa [Text.dropWhile_append h hrest]
  · rw [List.append_assoc, List.cons_append,
      Text.dropWhile_append hs (Text.stopsAt_cons hc (u ++ rest))]
    simpa using hne

end NoOpening

namespace Scan

/-- The characters of an index are of words. -/
lemma isWord_of_part {axis : Axis} {c : Char} (h : part axis c = true) : Text.isWord c = true :=
  isWord_of_continuesName (continuesName_of_part h)

/-- An index holds no opening of a call. -/
lemma IndexText.noOpening {axis : Axis} {w : WrittenIndex} {t : Text} (h : IndexText axis w t) :
    NoOpening t := by
  obtain ⟨c, body, rfl, hbody⟩ := h.exists_body
  refine NoOpening.append ?_ (.of_word fun d hd => isWord_of_part (hbody d hd))
  cases w.anchor with
  | absolute => exact .of_cons (by decide) (by decide) []
  | relative => exact .of_word fun c hc => absurd hc List.not_mem_nil

/-- A sheet in front of a reference holds no opening of a call. -/
lemma SheetText.noOpening {sheet : Option Text} {t : Text} (h : SheetText sheet t) :
    NoOpening t := by
  cases h with
  | absent => exact .of_word fun c hc => absurd hc List.not_mem_nil
  | quoted => exact .of_cons (by decide) (by decide) _
  | plain hc hs =>
    refine NoOpening.append (.of_word fun d hd => isWord_of_continuesName ?_)
      (.of_cons (by decide) (by decide) [])
    exact (NameText.mk hc hs).continues d hd

/-- A written reference holds no opening of a call. -/
lemma ReferenceText.noOpening {symbol : Symbol} {t : Text} (h : ReferenceText symbol t) :
    NoOpening t := by
  cases h with
  | cell h =>
    cases h with
    | mk hp hc hd => exact hp.noOpening.append (hc.noOpening.append hd.noOpening)
  | lines h =>
    cases h with
    | mk hp hc hq hd =>
      refine hp.noOpening.append (hc.noOpening.append ?_)
      exact NoOpening.append (s := [':']) (.of_cons (by decide) (by decide) [])
        (hq.noOpening.append hd.noOpening)

/-- A number holds no opening of a call. -/
lemma NumeralText.noOpening {numeral : Text} (h : NumeralText numeral) : NoOpening numeral := by
  have hdigits : ∀ {s : Text}, (∀ c ∈ s, c.isDigit = true) → NoOpening s := fun h =>
    .of_word fun c hc => Text.isWord_of_isDigit (h c hc)
  cases h with
  | mk hwhole hf he _ =>
    refine NoOpening.append (.append (hdigits hwhole) ?_) ?_
    · cases hf with
      | absent => exact .of_word fun c hc => absurd hc List.not_mem_nil
      | present hd hs =>
        exact NoOpening.append (s := ['.']) (.of_word (List.forall_mem_singleton.mpr (by decide)))
          (hdigits (List.forall_mem_cons.mpr ⟨hd, hs⟩))
    · cases he with
      | absent => exact .of_word fun c hc => absurd hc List.not_mem_nil
      | present hsign _ hs =>
        refine NoOpening.append (s := ['E'])
          (.of_word (List.forall_mem_singleton.mpr (by decide))) (.append ?_ (hdigits hs))
        cases hsign with
        | absent => exact .of_word fun c hc => absurd hc List.not_mem_nil
        | plus => exact .of_cons (by decide) (by decide) []
        | minus => exact .of_cons (by decide) (by decide) []

/-- A point starts no name. -/
lemma startsName_point : startsName '.' = false := by
  decide

/-- No reference starts with a number. -/
lemma NumeralText.not_present {numeral rest rest' : Text} {symbol : Symbol}
    (h : NumeralText numeral) (hrest : Terminated .unitedStates rest) :
    referenceFront (numeral ++ rest) ≠ .present symbol rest' := by
  have hpreset : Locale.unitedStates.IsPreset := Or.inl rfl
  intro hpresent
  obtain ⟨t, ht, happend⟩ := referenceText_of_referenceFront hpresent
  -- A reference starts with a letter or a sign, or it is a run of rows. The digits of these end in
  -- a colon, which no number does.
  rcases ht.head with ⟨c, s, rfl, hc⟩ | ⟨c, digits, s, rfl, hdigits⟩
  · obtain ⟨d, numeral, rfl, hd⟩ := h.head
    obtain ⟨rfl, -⟩ := List.cons.inj happend
    rcases hd with hd | rfl
    · rcases hc with rfl | rfl | hc
      · cases hd
      · cases hd
      · cases (startsName_of_isDigit hd).symm.trans hc
    · rcases hc with hc | hc | hc
      · cases hc
      · cases hc
      · cases startsName_point.symm.trans hc
  · obtain ⟨whole, tail, rfl, hwhole, htail⟩ := h.exists_tail
    have hstops : Text.StopsAt Char.isDigit (tail ++ rest) := by
      intro c hc
      cases tail with
      | nil => exact hrest.stopsAt_isDigit hpreset c hc
      | cons d tail =>
        cases hc
        rcases htail c rfl with rfl | rfl <;> rfl
    rw [List.append_assoc, List.append_assoc] at happend
    obtain ⟨-, hcolon⟩ := Text.append_cancel hwhole hdigits hstops (Text.stopsAt_cons rfl _) happend
    cases tail with
    | nil =>
      refine hrest.head_ne hpreset (c := ':') (by decide) ?_
      rw [List.nil_append] at hcolon
      rw [hcolon]
      rfl
    | cons d tail =>
      obtain ⟨rfl, -⟩ := List.cons.inj hcolon
      rcases htail _ rfl with h | h <;> cases h

end Scan

/-! ## Reading words back -/

/-- What a word in a key can be. -/
inductive KeyWord where
  | function (name : Text)
  | reference (symbol : Symbol)
  | number (numeral : Text)
  | name (word : Text)
deriving DecidableEq, Repr

/-- Reads a word or a number at the front of a key. -/
def readKeyWord (s : Text) : KeyWord × Text :=
  match s.dropWhile Text.isWord with
  | '(' :: rest => (.function (s.takeWhile Text.isWord), rest)
  | rest =>
    match referenceFront s with
    | .present symbol rest => (.reference symbol, rest)
    | _ =>
      if s.head?.any fun c => c.isDigit || c = '.' then
        (.number (number '.' s).1, (number '.' s).2)
      else (.name (s.takeWhile Text.isWord), rest)

/-- The key of a function is read back as the function. -/
lemma readKeyWord_function {function : Text} (h : ∀ c ∈ function, Text.isWord c = true)
    (rest : Text) : readKeyWord (function ++ '(' :: rest) = (.function function, rest) := by
  have hstops : Text.StopsAt Text.isWord ('(' :: rest) := Text.stopsAt_cons (by decide) rest
  rw [readKeyWord, Text.dropWhile_append h hstops, Text.takeWhile_append h hstops]
  rfl

/-- The key of the offset function is read back as this function. -/
lemma readKeyWord_offset (rest : Text) :
    readKeyWord (offsetName ++ '(' :: rest) = (.function offsetName, rest) := by
  have hword : offsetName.all Text.isWord = true := by decide
  exact readKeyWord_function (List.all_eq_true.mp hword) rest

/-- Where no parenthesis follows the first word, a reference is looked for. -/
lemma readKeyWord_of_noOpening {t rest : Text} (h : NoOpening t)
    (hrest : Text.StopsAt Text.isWord rest) (hparen : rest.head? ≠ some '(') :
    readKeyWord (t ++ rest) =
      match referenceFront (t ++ rest) with
      | .present symbol rest' => (.reference symbol, rest')
      | _ =>
        if (t ++ rest).head?.any fun c => c.isDigit || c = '.' then
          (.number (number '.' (t ++ rest)).1, (number '.' (t ++ rest)).2)
        else (.name ((t ++ rest).takeWhile Text.isWord), (t ++ rest).dropWhile Text.isWord) := by
  have hhead := h.head_dropWhile hrest hparen
  unfold readKeyWord
  split
  · next rest' hdrop =>
    rw [hdrop] at hhead
    exact absurd rfl hhead
  · rfl

/-- A written reference in a key is read back as this reference. -/
lemma readKeyWord_reference {symbol : Symbol} {t rest : Text} (h : ReferenceText symbol t)
    (hrest : EndsReference rest) (hword : Text.StopsAt Text.isWord rest) :
    readKeyWord (t ++ rest) = (.reference symbol, rest) := by
  have hparen : rest.head? ≠ some '(' := by
    intro hhead
    cases rest with
    | nil => cases hhead
    | cons c rest =>
      cases hhead
      have hends := hrest.ends
      simp [runsOn] at hends
  rw [readKeyWord_of_noOpening h.noOpening hword hparen, referenceFront_append h hrest]

/-- A number in a key is read back as this number. -/
lemma readKeyWord_number {numeral rest : Text} (h : NumeralText numeral)
    (hrest : Terminated .unitedStates rest) :
    readKeyWord (numeral ++ rest) = (.number numeral, rest) := by
  have hpreset : Locale.unitedStates.IsPreset := Or.inl rfl
  have hread : number '.' (numeral ++ rest) = (numeral, rest) := by
    have hlocal : localized '.' numeral = numeral := by
      refine (List.map_congr_left fun c _ => ?_).trans (List.map_id numeral)
      split
      · next hc => exact hc.symm
      · rfl
    have hdecimal : IsDecimal '.' := ⟨rfl, by decide⟩
    have hnumber := number_localized h hdecimal
      (hrest.stopsAt_continuesNumber hpreset)
    rwa [hlocal] at hnumber
  have hhead : ((numeral ++ rest).head?.any fun c => c.isDigit || c = '.') = true := by
    obtain ⟨c, s, rfl, hc⟩ := h.head
    rw [List.cons_append, List.head?_cons, Option.any_some]
    simpa using hc
  rw [readKeyWord_of_noOpening h.noOpening (hrest.stopsAt_isWord hpreset)
    (hrest.head_ne hpreset (by decide))]
  split
  · next hpresent => exact absurd hpresent (h.not_present hrest)
  · rw [if_pos hhead, hread]

/-- A name in a key is read back as this name. -/
lemma readKeyWord_name {word rest : Text} (h : NameText word) (hcell : ∀ w, ¬CellText w word)
    (hrest : Terminated .unitedStates rest) : readKeyWord (word ++ rest) = (.name word, rest) := by
  have hpreset : Locale.unitedStates.IsPreset := Or.inl rfl
  have hword : ∀ c ∈ word, Text.isWord c = true := fun c hc =>
    isWord_of_continuesName (h.continues c hc)
  have hstops := hrest.stopsAt_isWord hpreset
  have hhead : ¬((word ++ rest).head?.any fun c => c.isDigit || c = '.') = true := by
    cases h with
    | @mk c s hc _ =>
      rw [List.cons_append, List.head?_cons, Option.any_some]
      intro hdigit
      rcases (Bool.or_eq_true _ _).mp hdigit with hdigit | hdigit
      · cases (startsName_of_isDigit hdigit).symm.trans hc
      · obtain rfl := of_decide_eq_true hdigit
        cases startsName_point.symm.trans hc
  rw [readKeyWord_of_noOpening (.of_word hword) hstops
    (hrest.head_ne hpreset (by decide)),
    referenceFront_name h (hrest.endsName hpreset) (Or.inr hcell)]
  dsimp only
  rw [if_neg hhead, Text.takeWhile_append hword hstops, Text.dropWhile_append hword hstops]

/-! ## Written references -/

/-- A reference as it can be written. -/
inductive WrittenReference where
  | cell (w : WrittenCell)
  | cells (first last : WrittenCell)
  | lines (axis : Axis) (first last : WrittenLine)

namespace WrittenReference

/-- How a reference is written. -/
inductive IsText : WrittenReference → Text → Prop where
  | cell {w : WrittenCell} {t : Text} : CellText w t → IsText (.cell w) t
  | cells {a b : WrittenCell} {s t : Text} :
    CellText a s → CellText b t → IsText (.cells a b) (s ++ ':' :: t)
  | lines {axis : Axis} {a b : WrittenLine} {t : Text} :
    LinesText axis a b t → IsText (.lines axis a b) t

/-- What the reference means. -/
def atom? (site : Site) (raw : Text) : WrittenReference → Option Atom
  | .cell w => some (site.cell w raw)
  | .cells a b => site.cells? a b raw
  | .lines axis a b => site.lines? axis a b raw

/-- The symbol of its first lexeme. -/
def symbol : WrittenReference → Symbol
  | .cell w | .cells w _ => .cell w
  | .lines axis a b => .lines axis a b

/-- What follows does not go on with the reference. Only a cell may be the first end of an area up
to an offset. -/
def EndsBefore (ref : WrittenReference) (rest : Text) : Prop :=
  Terminated .unitedStates rest ∨ (∃ w, ref = .cell w) ∧ GoesOnWithOffset rest

variable {ref ref' : WrittenReference} {t t' rest rest' : Text}

/-- What a written reference ends before goes on neither with it nor with a word. -/
lemma endsReference_and_stopsAt (h : ref.EndsBefore rest) :
    EndsReference rest ∧ Text.StopsAt Text.isWord rest := by
  rcases h with h | ⟨-, s, rfl⟩
  · exact ⟨h.endsReference (Or.inl rfl), h.stopsAt_isWord (Or.inl rfl)⟩
  · exact ⟨endsReference_colon _, Text.stopsAt_cons (by decide) _⟩

/-- The reference of its first lexeme, and what follows that. -/
lemma IsText.exists_front (h : ref.IsText t) (hrest : ref.EndsBefore rest) :
    ∃ s u, ReferenceText ref.symbol s ∧ t ++ rest = s ++ u ∧ EndsReference u ∧
      Text.StopsAt Text.isWord u ∧
      ((∀ a b, ref ≠ .cells a b) ∧ s = t ∧ u = rest ∨
        ∃ a b v, ref = .cells a b ∧ CellText b v ∧ t = s ++ ':' :: v ∧ u = ':' :: (v ++ rest)) := by
  obtain ⟨hends, hword⟩ := endsReference_and_stopsAt hrest
  cases h with
  | cell hw => exact ⟨t, rest, .cell hw, rfl, hends, hword, Or.inl ⟨nofun, rfl, rfl⟩⟩
  | lines hw => exact ⟨t, rest, .lines hw, rfl, hends, hword, Or.inl ⟨nofun, rfl, rfl⟩⟩
  | @cells a b s v ha hb =>
    refine ⟨s, ':' :: (v ++ rest), .cell ha, ?_, endsReference_colon _,
      Text.stopsAt_cons (by decide) _, Or.inr ⟨a, b, v, rfl, hb, rfl, rfl⟩⟩
    rw [List.append_assoc, List.cons_append]

/-- No cell is written like an offset. -/
lemma cellText_append_ne_offset {w : WrittenCell} (h : CellText w t)
    (hrest : Terminated .unitedStates rest) (s : Text) : t ++ rest ≠ offsetName ++ '(' :: s := by
  intro heq
  have hcell := readKeyWord_reference (.cell h) (hrest.endsReference (Or.inl rfl))
    (hrest.stopsAt_isWord (Or.inl rfl))
  rw [heq, readKeyWord_offset] at hcell
  cases hcell

/-- Behind a reference there is no colon with a cell. -/
lemma EndsBefore.ne_colon_cell {w : WrittenCell} (h : ref.EndsBefore rest) (ht : CellText w t)
    (hrest' : Terminated .unitedStates rest') : rest ≠ ':' :: (t ++ rest') := by
  rintro rfl
  rcases h with h | ⟨-, s, hs⟩
  · exact h.head_ne (Or.inl rfl) (c := ':') (by decide) rfl
  · exact cellText_append_ne_offset ht hrest' s (List.cons.inj hs).2

/-- Where a written reference ends is known from the text, and which one it is. -/
lemma referenceText_cancel {symbol symbol' : Symbol} {s s' u u' : Text}
    (hs : ReferenceText symbol s) (hs' : ReferenceText symbol' s') (hu : EndsReference u)
    (hu' : EndsReference u') (h : s ++ u = s' ++ u') : symbol = symbol' ∧ s = s' ∧ u = u' := by
  have hfront := referenceFront_append hs hu
  rw [h, referenceFront_append hs' hu'] at hfront
  cases hfront
  exact ⟨rfl, List.append_cancel_right h, rfl⟩

/-- A reference is read back. -/
theorem IsText.append_cancel (h : ref.IsText t) (h' : ref'.IsText t') (hrest : ref.EndsBefore rest)
    (hrest' : ref'.EndsBefore rest') (heq : t ++ rest = t' ++ rest') :
    ref = ref' ∧ t = t' ∧ rest = rest' := by
  have hterminated : ∀ {ref : WrittenReference} {a b : WrittenCell} {rest : Text},
      ref.EndsBefore rest → ref = .cells a b → Terminated .unitedStates rest := by
    rintro ref a b rest h rfl
    exact h.resolve_right fun ⟨⟨_, hw⟩, _⟩ => by cases hw
  obtain ⟨s, u, hs, hsu, hu, -, hfront⟩ := h.exists_front hrest
  obtain ⟨s', u', hs', hsu', hu', -, hfront'⟩ := h'.exists_front hrest'
  obtain ⟨hsymbol, rfl, rfl⟩ :=
    referenceText_cancel hs hs' hu hu' (hsu.symm.trans (heq.trans hsu'))
  rcases hfront with ⟨hlone, rfl, rfl⟩ | ⟨a, b, v, rfl, hv, rfl, rfl⟩
  · rcases hfront' with ⟨hlone', rfl, rfl⟩ | ⟨a', b', v', rfl, hv', -, hu⟩
    · refine ⟨?_, rfl, rfl⟩
      cases ref <;> cases ref' <;> first
        | exact absurd rfl (hlone _ _)
        | exact absurd rfl (hlone' _ _)
        | (cases hsymbol; first | done | rfl)
    · exact absurd hu (hrest.ne_colon_cell hv' (hterminated hrest' rfl))
  · rcases hfront' with ⟨hlone', rfl, hu⟩ | ⟨a', b', v', rfl, hv', rfl, hu⟩
    · exact absurd hu.symm (hrest'.ne_colon_cell hv (hterminated hrest rfl))
    · have hends := (endsReference_and_stopsAt hrest).1
      have hends' := (endsReference_and_stopsAt hrest').1
      obtain ⟨hlast, rfl, rfl⟩ :=
        referenceText_cancel (.cell hv) (.cell hv') hends hends' (List.cons.inj hu).2
      cases hsymbol
      cases hlast
      exact ⟨rfl, rfl, rfl⟩

/-- A text is written for one reference only. -/
lemma IsText.unique (h : ref.IsText t) (h' : ref'.IsText t) : ref = ref' := by
  have hends : ∀ ref : WrittenReference, ref.EndsBefore [] :=
    fun _ => Or.inl (terminated_nil _)
  exact (h.append_cancel h' (hends ref) (hends ref') rfl).1

end WrittenReference

/-! ## References that mean nothing -/

namespace Unreadable

variable {l : Locale} {sheets sheets' : SheetNames} {raw raw' rest rest' : Text}
  {e e' : ErrorValue}

/-- It is the text of a reference that means nothing. -/
lemma exists_written (h : Unreadable l sheets raw e) :
    ∃ ref : WrittenReference, ref.IsText raw ∧
      ∀ base, ref.atom? ⟨l, sheets, base⟩ raw = some (.unreadable raw e) := by
  cases h with
  | cell hw he => exact ⟨_, .cell hw, fun base => congrArg some (he base)⟩
  | lines hw he => exact ⟨_, .lines hw, he⟩
  | cells ha hb hraw he =>
    subst hraw
    exact ⟨_, .cells ha hb, he⟩

/-- In one workbook one error value stands for it. -/
lemma value_unique (h : Unreadable l sheets raw e) (h' : Unreadable l sheets raw e') : e = e' := by
  obtain ⟨ref, href, he⟩ := h.exists_written
  obtain ⟨ref', href', he'⟩ := h'.exists_written
  obtain rfl := href.unique href'
  cases (he ⟨0, 0, 0⟩).symm.trans (he' ⟨0, 0, 0⟩)
  rfl

/-- The reference ends where the atom does. -/
lemma endsBefore {ref : WrittenReference} (href : ref.IsText raw)
    (hrest : (Atom.unreadable raw e).EndsBefore rest) : ref.EndsBefore rest := by
  rcases hrest with hrest | ⟨⟨r, hr⟩ | ⟨w, raw', e', hraw, hw⟩, hrest⟩
  · exact Or.inl hrest
  · cases hr
  · cases hraw
    exact Or.inr ⟨⟨w, href.unique (.cell hw)⟩, hrest⟩

/-- The first reference in it, and what follows that. -/
lemma exists_reference (h : Unreadable l sheets raw e)
    (hrest : (Atom.unreadable raw e).EndsBefore rest) :
    ∃ symbol t u, ReferenceText symbol t ∧ raw ++ rest = t ++ u ∧ EndsReference u ∧
      Text.StopsAt Text.isWord u := by
  obtain ⟨ref, href, -⟩ := h.exists_written
  obtain ⟨t, u, ht, htu, hu, hword, -⟩ := href.exists_front (endsBefore href hrest)
  exact ⟨_, t, u, ht, htu, hu, hword⟩

/-- It is read back, whatever sheets there are. -/
lemma append_cancel (h : Unreadable l sheets raw e) (h' : Unreadable l sheets' raw' e')
    (hrest : (Atom.unreadable raw e).EndsBefore rest)
    (hrest' : (Atom.unreadable raw' e').EndsBefore rest') (heq : raw ++ rest = raw' ++ rest') :
    raw = raw' ∧ rest = rest' := by
  obtain ⟨ref, href, -⟩ := h.exists_written
  obtain ⟨ref', href', -⟩ := h'.exists_written
  exact (href.append_cancel href' (endsBefore href hrest) (endsBefore href' hrest') heq).2

end Unreadable

/-! ## Words and numbers in a key -/

/-- Whether a word or a number stands in a key for the mark. -/
def Mark.isWorded : Mark → Bool
  | .atom (.number _) | .atom (.name _) | .atom (.unreadable _ _) | .call _ | .offsetCall => true
  | _ => false

/-- The word or number that is read back from the key of the mark. -/
def Mark.keyWord? : Mark → Option KeyWord
  | .atom (.number numeral) => some (.number numeral)
  | .atom (.name word) => some (.name word)
  | .call function => some (.function function)
  | .offsetCall => some (.function offsetName)
  | _ => none

/-- Legible marks with the same word in the key are the same. -/
lemma Mark.eq_of_keyWord?_eq {l : Locale} {sheets sheets' : SheetNames} {m m' : Mark} {k : KeyWord}
    (hm : m.Legible l sheets) (hm' : m'.Legible l sheets') (h : m.keyWord? = some k)
    (h' : m'.keyWord? = some k) : m = m' := by
  have hcall : ∀ {function : Text} {sheets : SheetNames}, (Mark.call function).Legible l sheets →
      function ≠ offsetName := fun ⟨_, _, _, hne⟩ => hne
  -- Calls and offsets have words of one kind, but no legible call has the name of an offset.
  cases m with
  | atom a =>
    cases a <;> cases h
    all_goals
      cases m' with
      | atom a' =>
        cases a' <;> cases h'
        rfl
      | _ => cases h'
  | call function =>
    cases h
    cases m' with
    | atom a' => cases a' <;> cases h'
    | call function' =>
      cases h'
      rfl
    | offsetCall =>
      cases h'
      exact absurd rfl (hcall hm)
    | _ => cases h'
  | offsetCall =>
    cases h
    cases m' with
    | atom a' => cases a' <;> cases h'
    | call function' =>
      cases h'
      exact absurd rfl (hcall hm')
    | offsetCall => rfl
    | _ => cases h'
  | _ => cases h

/-- The marks are the same, up to the error values that stand for texts without a meaning. -/
inductive Mark.Alike : Mark → Mark → Prop where
  | refl (m : Mark) : Alike m m
  | unreadable (raw : Text) (e e' : ErrorValue) :
    Alike (.atom (.unreadable raw e)) (.atom (.unreadable raw e'))

/-- In one workbook such marks are the same. -/
lemma Mark.Alike.eq {l : Locale} {sheets : SheetNames} {m m' : Mark} (h : m.Alike m')
    (hm : m.Legible l sheets) (hm' : m'.Legible l sheets) : m = m' := by
  cases h with
  | refl => rfl
  | unreadable raw e e' => rw [Unreadable.value_unique hm.2 hm'.2]

/-- The canonical name of a function consists of characters of words. -/
lemma isWord_canonicalName {l : Locale} (hl : l.IsPreset) {word : Text} (h : NameText word) :
    l.canonicalName word ≠ [] ∧ ∀ c ∈ l.canonicalName word, Text.isWord c = true := by
  have hword : ∀ c ∈ word, Text.isWord c = true := fun c hc =>
    isWord_of_continuesName (h.continues c hc)
  have hne : word ≠ [] := by
    cases h
    exact List.cons_ne_nil _ _
  have htable : ∀ entry ∈ l.functionNames,
      entry.2 ≠ [] ∧ ∀ c ∈ entry.2, Text.isWord c = true := by
    have hall :
        l.functionNames.all (fun entry => entry.2 ≠ [] && entry.2.all Text.isWord) = true := by
      rcases hl with rfl | rfl <;> decide
    simpa using hall
  rcases l.canonicalName_cases word with hentry | ⟨-, heq⟩
  · exact htable _ hentry
  · rw [heq]
    exact ⟨Text.upper_ne_nil hword hne, Text.isWord_upper hword⟩

/-- What a word or number is read back as, with what follows it. A reference that means nothing is
read as the first reference in it. -/
lemma Mark.readKeyWord_key {l : Locale} {sheets : SheetNames} {m : Mark} {rest : Text}
    (hl : l.IsPreset) (hm : m.isWorded = true) (hlegible : m.Legible l sheets)
    (hrest : ∀ a, m = .atom a → a.EndsBefore rest) :
    (∃ k, m.keyWord? = some k ∧ readKeyWord (m.key ++ rest) = (k, rest)) ∨
      ∃ raw e symbol u, m = .atom (.unreadable raw e) ∧
        readKeyWord (m.key ++ rest) = (.reference symbol, u) := by
  have hnotEnd : ∀ {a : Atom}, (∀ r, a ≠ .cell r) → (∀ raw e, a ≠ .unreadable raw e) →
      ¬a.IsAreaEnd := by
    rintro a hcell hraw (⟨r, hr⟩ | ⟨w, raw, e, hr, -⟩)
    · exact hcell r hr
    · exact hraw raw e hr
  cases m with
  | call function =>
    obtain ⟨word, hword, rfl, -⟩ := hlegible
    refine Or.inl ⟨_, rfl, ?_⟩
    rw [Mark.key, List.append_assoc]
    exact readKeyWord_function (isWord_canonicalName hl hword).2 rest
  | offsetCall =>
    refine Or.inl ⟨_, rfl, ?_⟩
    rw [Mark.key, List.append_assoc]
    exact readKeyWord_offset rest
  | atom a =>
    have hend := hrest a rfl
    cases a with
    | number numeral =>
      exact Or.inl ⟨_, rfl, readKeyWord_number hlegible.2 (hend.terminated (hnotEnd nofun nofun))⟩
    | name word =>
      exact Or.inl ⟨_, rfl, readKeyWord_name hlegible.2.1 hlegible.2.2
        (hend.terminated (hnotEnd nofun nofun))⟩
    | unreadable raw e =>
      obtain ⟨symbol, t, u, ht, htext, hends, hword⟩ := Unreadable.exists_reference hlegible.2 hend
      refine Or.inr ⟨raw, e, symbol, u, rfl, ?_⟩
      rw [Mark.key, Atom.key, htext]
      exact readKeyWord_reference ht hends hword
    | _ => cases hm
  | _ => cases hm

/-- Words and numbers are told apart by their keys, up to error values, whatever sheets there
are. -/
theorem Mark.key_append_cancel_of_isWorded {l : Locale} {sheets sheets' : SheetNames} {m m' : Mark}
    {rest rest' : Text} (hl : l.IsPreset) (hm : m.isWorded = true) (hm' : m'.isWorded = true)
    (hlegible : m.Legible l sheets) (hlegible' : m'.Legible l sheets')
    (hrest : ∀ a, m = .atom a → a.EndsBefore rest)
    (hrest' : ∀ a, m' = .atom a → a.EndsBefore rest')
    (h : m.key ++ rest = m'.key ++ rest') : m.Alike m' ∧ rest = rest' := by
  have hreference : ∀ {m : Mark} {symbol : Symbol}, m.keyWord? ≠ some (.reference symbol) := by
    intro m symbol hk
    cases m with
    | atom a => cases a <;> cases hk
    | _ => cases hk
  have hread := Mark.readKeyWord_key hl hm hlegible hrest
  have hread' := Mark.readKeyWord_key hl hm' hlegible' hrest'
  rw [← h] at hread'
  rcases hread with ⟨k, hk, hread⟩ | ⟨raw, e, symbol, u, rfl, hread⟩
  · rcases hread' with ⟨k', hk', hread'⟩ | ⟨raw', e', symbol', u', rfl, hread'⟩
    · obtain ⟨rfl, rfl⟩ := Prod.mk.inj (hread.symm.trans hread')
      obtain rfl := Mark.eq_of_keyWord?_eq hlegible hlegible' hk hk'
      exact ⟨.refl m, rfl⟩
    · obtain ⟨rfl, -⟩ := Prod.mk.inj (hread.symm.trans hread')
      exact absurd hk hreference
  · rcases hread' with ⟨k', hk', hread'⟩ | ⟨raw', e', symbol', u', rfl, hread'⟩
    · obtain ⟨rfl, -⟩ := Prod.mk.inj (hread.symm.trans hread')
      exact absurd hk' hreference
    · obtain ⟨rfl, hrest⟩ :=
        Unreadable.append_cancel hlegible.2 hlegible'.2 (hrest _ rfl) (hrest' _ rfl) h
      exact ⟨.unreadable raw e e', hrest⟩

end GridFormula
