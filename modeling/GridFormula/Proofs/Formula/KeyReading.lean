import GridFormula.Proofs.Formula.ReferenceKey
import GridFormula.Proofs.Formula.WordKey

/-!
# A formula is known by its key

A key is cut into the keys of marks again from left to right. The first character of each says what
kind of mark it is, and what follows says where it ends. Only the separators need more: a comma in
a key may separate arguments or the columns of an array, and which of them follows from what is open
at its place. So two formulas with one key have the same marks, and then they have one tree.
-/

namespace GridFormula

open Scan

/-! ## Kinds of marks -/

/-- The kinds of marks that are told apart by the first character of their keys. -/
inductive KeyKind where
  | blank
  | string
  | hash
  | word
  | symbol
deriving DecidableEq, Repr

/-- The kind of mark whose key starts with a character. -/
def KeyKind.ofChar (c : Char) : KeyKind :=
  if Text.isPlainBlank c then .blank
  else if c = '"' then .string
  else if c = '#' then .hash
  else if Text.isWord c ∨ c = '$' ∨ c = '\'' then .word
  else .symbol

/-- The kind of a mark. -/
def Mark.keyKind : Mark → KeyKind
  | space _ => .blank
  | atom (.string _) => .string
  | atom (.errorValue _) | atom (.cell _) | atom (.cells _) | atom (.lines ..) => .hash
  | atom _ | call _ | offsetCall => .word
  | _ => .symbol

/-- A character of words is of the kind of words. -/
lemma KeyKind.ofChar_of_isWord {c : Char} (h : Text.isWord c = true) : ofChar c = .word := by
  have hblank : Text.isPlainBlank c = false := by
    by_contra hc
    simp only [Text.isPlainBlank, Bool.not_eq_false, Bool.or_eq_true, decide_eq_true_eq] at hc
    rcases hc with ((rfl | rfl) | rfl) | rfl <;> cases h
  have hstring : c ≠ '"' := by
    rintro rfl
    cases h
  have hhash : c ≠ '#' := by
    rintro rfl
    cases h
  simp [ofChar, hblank, hstring, hhash, h]

/-- A written reference starts like a word. -/
lemma Scan.ReferenceText.keyKind_head {symbol : Symbol} {t : Text} (h : ReferenceText symbol t) :
    ∃ c s, t = c :: s ∧ KeyKind.ofChar c = .word := by
  rcases h.head with ⟨c, s, rfl, rfl | rfl | hc⟩ | ⟨c, s, u, rfl, hdigits⟩
  · exact ⟨_, _, rfl, by decide⟩
  · exact ⟨_, _, rfl, by decide⟩
  · exact ⟨_, _, rfl,
      KeyKind.ofChar_of_isWord (isWord_of_continuesName (continuesName_of_startsName hc))⟩
  · exact ⟨_, _, rfl,
      KeyKind.ofChar_of_isWord (Text.isWord_of_isDigit (hdigits c List.mem_cons_self))⟩

/-- The first character of its key tells the kind of a mark. -/
lemma Mark.Legible.head_key {l : Locale} {sheets : SheetNames} {m : Mark} (hl : l.IsPreset)
    (h : m.Legible l sheets) : ∃ c s, m.key = c :: s ∧ KeyKind.ofChar c = m.keyKind := by
  cases m with
  | space blanks =>
    obtain ⟨hne, hblanks⟩ := h
    obtain ⟨c, s, rfl⟩ := List.exists_cons_of_ne_nil hne
    refine ⟨c, s, rfl, if_pos (isPlainBlank_of_isBlank hl (hblanks c List.mem_cons_self))⟩
  | call function =>
    obtain ⟨word, hword, rfl, -⟩ := h
    obtain ⟨hne, hwords⟩ := isWord_canonicalName hl hword
    obtain ⟨c, s, hs⟩ := List.exists_cons_of_ne_nil hne
    rw [hs] at hwords
    rw [key, hs]
    exact ⟨c, _, rfl, KeyKind.ofChar_of_isWord (hwords c List.mem_cons_self)⟩
  | atom a =>
    obtain ⟨hne, ha⟩ := h
    cases a with
    | omitted => exact absurd rfl hne
    | number numeral =>
      obtain ⟨c, s, rfl, hc⟩ := NumeralText.head ha
      refine ⟨c, s, rfl, KeyKind.ofChar_of_isWord ?_⟩
      rcases hc with hc | rfl
      · exact Text.isWord_of_isDigit hc
      · rfl
    | string content => exact ⟨'"', _, rfl, rfl⟩
    | name word =>
      obtain ⟨hword, -⟩ := ha
      cases hword with
      | mk hc _ =>
        exact ⟨_, _, rfl,
          KeyKind.ofChar_of_isWord (isWord_of_continuesName (continuesName_of_startsName hc))⟩
    | errorValue e => cases e <;> exact ⟨'#', _, rfl, rfl⟩
    | unreadable raw e =>
      obtain ⟨symbol, t, u, ht, hraw, -⟩ :=
        Unreadable.exists_reference ha (Or.inl (terminated_nil _))
      obtain ⟨c, s, rfl, hc⟩ := ht.keyKind_head
      rw [List.append_nil] at hraw
      exact ⟨c, s ++ u, hraw, hc⟩
    | cell r =>
      obtain ⟨s, hs⟩ := Atom.exists_key_eq_hash (a := .cell r) rfl (by simp)
      exact ⟨'#', s, hs, rfl⟩
    | cells r =>
      obtain ⟨s, hs⟩ := Atom.exists_key_eq_hash (a := .cells r) rfl (by simp)
      exact ⟨'#', s, hs, rfl⟩
    | lines axis r =>
      obtain ⟨s, hs⟩ := Atom.exists_key_eq_hash (a := .lines axis r) rfl (by simp)
      exact ⟨'#', s, hs, rfl⟩
  | operator op => cases op <;> exact ⟨_, _, rfl, by decide⟩
  | colon => exact ⟨_, _, rfl, by decide⟩
  | offsetCall => exact ⟨_, _, rfl, by decide⟩
  | percent => exact ⟨_, _, rfl, by decide⟩
  | argumentSeparator => exact ⟨_, _, rfl, by decide⟩
  | columnSeparator => exact ⟨_, _, rfl, by decide⟩
  | rowSeparator => exact ⟨_, _, rfl, by decide⟩
  | openParen => exact ⟨_, _, rfl, by decide⟩
  | closeParen => exact ⟨_, _, rfl, by decide⟩
  | openBrace => exact ⟨_, _, rfl, by decide⟩
  | closeBrace => exact ⟨_, _, rfl, by decide⟩

/-! ## Symbols -/

/-- A symbol is read as an operator is, or it is a character that none starts with. -/
lemma Mark.key_symbol {m : Mark} {rest : Text} (hm : m.keyKind = .symbol)
    (hrest : ∀ op, m = .operator op → EndsOperator rest) :
    ∃ c s, m.key ++ rest = c :: s ∧
      ((∃ symbol, m.symbol? = some symbol ∧ operatorFront? c s = some (symbol, rest)) ∨
        (m.key = [c] ∧ s = rest ∧ operatorFront? c s = none)) := by
  cases m with
  | operator op =>
    obtain ⟨c, s, hs, hread⟩ := operatorFront?_symbol op (hrest op rfl)
    exact ⟨c, s, hs, Or.inl ⟨_, rfl, hread⟩⟩
  | percent => exact ⟨'%', rest, rfl, Or.inl ⟨_, rfl, rfl⟩⟩
  | colon => exact ⟨':', rest, rfl, Or.inl ⟨_, rfl, rfl⟩⟩
  | argumentSeparator => exact ⟨_, _, rfl, Or.inr ⟨rfl, rfl, rfl⟩⟩
  | columnSeparator => exact ⟨_, _, rfl, Or.inr ⟨rfl, rfl, rfl⟩⟩
  | rowSeparator => exact ⟨_, _, rfl, Or.inr ⟨rfl, rfl, rfl⟩⟩
  | openParen => exact ⟨_, _, rfl, Or.inr ⟨rfl, rfl, rfl⟩⟩
  | closeParen => exact ⟨_, _, rfl, Or.inr ⟨rfl, rfl, rfl⟩⟩
  | openBrace => exact ⟨_, _, rfl, Or.inr ⟨rfl, rfl, rfl⟩⟩
  | closeBrace => exact ⟨_, _, rfl, Or.inr ⟨rfl, rfl, rfl⟩⟩
  | atom a => cases a <;> cases hm
  | space blanks => cases hm
  | call function => cases hm
  | offsetCall => cases hm

/-- Two symbols of one character that fit in one place are the same. -/
lemma Mark.eq_of_key_eq_singleton {n : Nesting} {m m' : Mark} {c : Char}
    (hm : m.keyKind = .symbol) (hm' : m'.keyKind = .symbol) (hfits : m.fitsWithOffsets n = true)
    (hfits' : m'.fitsWithOffsets n = true) {rest : Text} (hnone : operatorFront? c rest = none)
    (hkey : m.key = [c]) (hkey' : m'.key = [c]) : m = m' := by
  have hnotOperator : ∀ op : BinaryOp, op.symbol ≠ [c] := by
    intro op hop
    cases op <;> cases hop
    case less | greater =>
      simp only [operatorFront?] at hnone
      split at hnone <;> cases hnone
    all_goals cases hnone
  have hkeys := hkey.trans hkey'.symm
  cases m with
  | operator op => exact absurd hkey (hnotOperator op)
  | space _ => cases hm
  | call _ => cases hm
  | offsetCall => cases hm
  | atom a => cases a <;> cases hm
  | _ =>
    cases m' with
    | operator op => exact absurd hkey' (hnotOperator op)
    | space _ => cases hm'
    | call _ => cases hm'
    | offsetCall => cases hm'
    | atom a => cases a <;> cases hm'
    | _ => first | rfl | (cases hkeys; done) | simp_all [fitsWithOffsets, fits]

/-! ## Marks -/

/-- The key of marks is written as the locale of the United States writes them. -/
lemma writesMarks_key : WritesMarks .unitedStates Mark.key where
  space _ := rfl
  ends m hm := by
    cases m with
    | operator op => cases op <;> exact ⟨_, _, rfl, by decide⟩
    | percent => exact ⟨_, _, rfl, by decide⟩
    | argumentSeparator => exact ⟨_, _, rfl, by decide⟩
    | columnSeparator => exact ⟨_, _, rfl, by decide⟩
    | rowSeparator => exact ⟨_, _, rfl, by decide⟩
    | closeParen => exact ⟨_, _, rfl, by decide⟩
    | closeBrace => exact ⟨_, _, rfl, by decide⟩
    | _ => cases hm

/-! ## What follows a mark in a key -/

/-- What follows the key of a mark does not go on with it. -/
def Mark.EndsKeyBefore (rest : Text) : Mark → Prop
  | space _ => Text.StopsAt Text.isPlainBlank rest
  | atom a => a.EndsBefore rest
  | operator _ => EndsOperator rest
  | _ => True

section

variable {l : Locale} {sheets sheets' : SheetNames} {n : Nesting} {m m' : Mark}
  {ms ms' : List Mark} {rest rest' : Text}

/-- Behind an operator an operand follows, which does not start like a comparison. -/
lemma endsOperator_of_opensOperand (hl : l.IsPreset) (hms : ∀ m ∈ ms, m.Legible l sheets)
    (h : ∃ m ∈ Mark.next ms, m.opensOperand = true) : EndsOperator (ms.flatMap Mark.key) := by
  obtain ⟨m', hnext, hstarts⟩ := h
  cases ms with
  | nil => cases hnext
  | cons m ms =>
    have hm := hms m List.mem_cons_self
    have hkind : ∀ {c : Char}, KeyKind.ofChar c ≠ .symbol → c ≠ '=' ∧ c ≠ '>' := by
      intro c hc
      constructor <;> (rintro rfl; exact hc (by decide))
    -- Only the first character matters: an operator is made longer by `=` or `>` alone.
    suffices hhead : ∃ c s, m.key = c :: s ∧ c ≠ '=' ∧ c ≠ '>' by
      obtain ⟨c, s, hkey, hc⟩ := hhead
      rw [List.flatMap_cons, hkey]
      exact ⟨by simpa using hc.1, by simpa using hc.2⟩
    by_cases hspace : m.isSpace = true
    · obtain ⟨c, s, hkey, hc⟩ := hm.head_key hl
      refine ⟨c, s, hkey, hkind ?_⟩
      rw [hc]
      cases m with
      | space blanks => nofun
      | _ => cases hspace
    · rw [Mark.next_cons (by simpa using hspace)] at hnext
      cases hnext
      obtain ⟨c, s, hkey, hc⟩ := hm.head_key hl
      cases m' with
      | atom a =>
        refine ⟨c, s, hkey, hkind ?_⟩
        rw [hc]
        cases a <;> nofun
      | call function =>
        refine ⟨c, s, hkey, hkind ?_⟩
        rw [hc]
        nofun
      | operator op => cases op <;> first | exact ⟨_, _, rfl, by decide⟩ | cases hstarts
      | offsetCall => exact ⟨_, _, rfl, by decide⟩
      | openParen => exact ⟨_, _, rfl, by decide⟩
      | openBrace => exact ⟨_, _, rfl, by decide⟩
      | _ => cases hstarts

/-- No blank follows blanks. -/
lemma stopsAt_blank_of_head (hl : l.IsPreset) (hms : ∀ m ∈ ms, m.Legible l sheets)
    (h : ∃ m ∈ ms.head?, m.isSpace = false) :
    Text.StopsAt Text.isPlainBlank (ms.flatMap Mark.key) := by
  obtain ⟨m, hhead, hspace⟩ := h
  cases ms with
  | nil => cases hhead
  | cons m' ms =>
    cases hhead
    obtain ⟨c, s, hkey, hc⟩ := (hms m List.mem_cons_self).head_key hl
    rw [List.flatMap_cons, hkey]
    refine Text.stopsAt_cons ?_ _
    by_contra hblank
    have hkind : m.keyKind = .blank := by
      rw [← hc]
      exact if_pos (by simpa using hblank)
    cases m with
    | space _ => cases hspace
    | atom a => cases a <;> cases hkind
    | _ => cases hkind

/-- The key of a mark ends where the next one starts. -/
lemma FlowsWithOffsets.endsKeyBefore (hl : l.IsPreset) (h : FlowsWithOffsets n (m :: ms))
    (hms : ∀ m ∈ ms, m.Legible l sheets) : m.EndsKeyBefore (ms.flatMap Mark.key) := by
  obtain ⟨-, hmeets, -⟩ := h
  cases m with
  | space blanks => exact stopsAt_blank_of_head hl hms hmeets
  | operator op => exact endsOperator_of_opensOperand hl hms hmeets
  | atom a =>
    rcases hmeets with hend | ⟨ha, ms', rfl⟩
    · exact Or.inl (writesMarks_key.terminated hl hms hend)
    · exact Or.inr ⟨ha, ms'.flatMap Mark.key, by simp [Mark.key]⟩
  | _ => trivial

/-! ## Marks of each kind -/

/-- Blanks in front of a key can be read back. -/
lemma Mark.key_append_cancel_of_blank (hl : l.IsPreset) (hm : m.keyKind = .blank)
    (hm' : m'.keyKind = .blank) (hlegible : m.Legible l sheets) (hlegible' : m'.Legible l sheets')
    (hrest : m.EndsKeyBefore rest) (hrest' : m'.EndsKeyBefore rest')
    (h : m.key ++ rest = m'.key ++ rest') : m = m' ∧ rest = rest' := by
  have hspace : ∀ {m : Mark}, m.keyKind = .blank → ∃ blanks, m = .space blanks := by
    intro m hm
    cases m with
    | space blanks => exact ⟨blanks, rfl⟩
    | atom a => cases a <;> cases hm
    | _ => cases hm
  obtain ⟨blanks, rfl⟩ := hspace hm
  obtain ⟨blanks', rfl⟩ := hspace hm'
  obtain ⟨rfl, hrest⟩ := Text.append_cancel
    (fun c hc => isPlainBlank_of_isBlank hl (hlegible.2 c hc))
    (fun c hc => isPlainBlank_of_isBlank hl (hlegible'.2 c hc)) hrest hrest' h
  exact ⟨rfl, hrest⟩

/-- A quoted text in front of a key can be read back. -/
lemma Mark.key_append_cancel_of_string (hm : m.keyKind = .string) (hm' : m'.keyKind = .string)
    (hrest : m.EndsKeyBefore rest) (hrest' : m'.EndsKeyBefore rest')
    (h : m.key ++ rest = m'.key ++ rest') : m = m' ∧ rest = rest' := by
  have hstring : ∀ {m : Mark}, m.keyKind = .string → ∃ content, m = .atom (.string content) := by
    intro m hm
    cases m with
    | atom a => cases a <;> first | exact ⟨_, rfl⟩ | cases hm
    | _ => cases hm
  have hread : ∀ {content rest : Text}, (Mark.atom (.string content)).EndsKeyBefore rest →
      Text.unquoted? '"' ((Text.quoted '"' content ++ rest).tail) = some (content, rest) := by
    intro content rest hrest
    have hend : ¬(Atom.string content).IsAreaEnd := by
      rintro (⟨r, hr⟩ | ⟨w, raw, e, hr, -⟩) <;> cases hr
    have hquote := (Atom.EndsBefore.terminated hrest hend).stopsAt_quote (Or.inl rfl)
    rw [Text.quoted, List.cons_append, List.append_assoc, List.tail_cons]
    exact Text.unquoted?_doubled content hquote
  obtain ⟨content, rfl⟩ := hstring hm
  obtain ⟨content', rfl⟩ := hstring hm'
  have hcontent := hread hrest
  have hsame : Text.quoted '"' content ++ rest = Text.quoted '"' content' ++ rest' := h
  rw [hsame, hread hrest'] at hcontent
  obtain ⟨rfl, rfl⟩ := Prod.mk.inj (Option.some.inj hcontent)
  exact ⟨rfl, rfl⟩

/-- What starts with a number sign in front of a key can be read back. -/
lemma Mark.key_append_cancel_of_hash (hm : m.keyKind = .hash) (hm' : m'.keyKind = .hash)
    (hlegible : m.Legible l sheets) (hlegible' : m'.Legible l sheets')
    (hrest : m.EndsKeyBefore rest) (hrest' : m'.EndsKeyBefore rest')
    (h : m.key ++ rest = m'.key ++ rest') : m = m' ∧ rest = rest' := by
  have hhash : ∀ {m : Mark}, m.keyKind = .hash → ∃ a, m = .atom a ∧ a.isHashed = true := by
    intro m hm
    cases m with
    | atom a => cases a <;> first | exact ⟨_, rfl, rfl⟩ | cases hm
    | _ => cases hm
  obtain ⟨a, rfl, ha⟩ := hhash hm
  obtain ⟨a', rfl, ha'⟩ := hhash hm'
  obtain ⟨rfl, hrest⟩ :=
    Atom.key_append_cancel_of_isHashed ha ha' hlegible.2 hlegible'.2 hrest hrest' h
  exact ⟨rfl, hrest⟩

/-- A mark whose key starts like a word is written as one. -/
lemma Mark.isWorded_of_keyKind (hlegible : m.Legible l sheets) (hm : m.keyKind = .word) :
    m.isWorded = true := by
  cases m with
  | atom a => cases a <;> first | rfl | exact absurd rfl hlegible.1 | cases hm
  | call function => rfl
  | offsetCall => rfl
  | _ => cases hm

/-- A symbol in front of a key can be read back. -/
lemma Mark.key_append_cancel_of_symbol (hm : m.keyKind = .symbol) (hm' : m'.keyKind = .symbol)
    (hfits : m.fitsWithOffsets n = true) (hfits' : m'.fitsWithOffsets n = true)
    (hrest : m.EndsKeyBefore rest) (hrest' : m'.EndsKeyBefore rest')
    (h : m.key ++ rest = m'.key ++ rest') : m = m' ∧ rest = rest' := by
  have hoperator : ∀ {m : Mark} {rest : Text}, m.EndsKeyBefore rest → ∀ op, m = .operator op →
      EndsOperator rest := by
    rintro m rest hrest op rfl
    exact hrest
  obtain ⟨c, s, hs, hread⟩ := Mark.key_symbol hm (hoperator hrest)
  obtain ⟨c', s', hs', hread'⟩ := Mark.key_symbol hm' (hoperator hrest')
  obtain ⟨rfl, rfl⟩ := List.cons.inj (hs.symm.trans (h.trans hs'))
  rcases hread with ⟨symbol, hsymbol, hread⟩ | ⟨hkey, hkeys, hread⟩
  · rcases hread' with ⟨symbol', hsymbol', hread'⟩ | ⟨-, -, hread'⟩
    · obtain ⟨rfl, rfl⟩ := Prod.mk.inj (Option.some.inj (hread.symm.trans hread'))
      exact ⟨Mark.eq_of_symbol?_eq hsymbol hsymbol', rfl⟩
    · cases hread.symm.trans hread'
  · rcases hread' with ⟨symbol', hsymbol', hread'⟩ | ⟨hkey', hkeys', -⟩
    · cases hread.symm.trans hread'
    · exact ⟨Mark.eq_of_key_eq_singleton hm hm' hfits hfits' hread hkey hkey',
        hkeys.symm.trans hkeys'⟩

/-! ## Lists of marks -/

/-- Two marks that fit in one place are told apart by their keys, up to error values, whatever
sheets there are. -/
theorem Mark.key_append_cancel (hl : l.IsPreset) (hfits : m.fitsWithOffsets n = true)
    (hfits' : m'.fitsWithOffsets n = true) (hlegible : m.Legible l sheets)
    (hlegible' : m'.Legible l sheets') (hrest : m.EndsKeyBefore rest)
    (hrest' : m'.EndsKeyBefore rest')
    (h : m.key ++ rest = m'.key ++ rest') : m.Alike m' ∧ rest = rest' := by
  have hkind : m'.keyKind = m.keyKind := by
    obtain ⟨c, s, hkey, hc⟩ := hlegible.head_key hl
    obtain ⟨c', s', hkey', hc'⟩ := hlegible'.head_key hl
    rw [hkey, hkey'] at h
    obtain ⟨rfl, -⟩ := List.cons.inj h
    exact hc'.symm.trans hc
  have halike : m = m' ∧ rest = rest' → m.Alike m' ∧ rest = rest' := by
    rintro ⟨rfl, hrest⟩
    exact ⟨.refl m, hrest⟩
  cases hm : m.keyKind with
  | blank =>
    exact halike
      (key_append_cancel_of_blank hl hm (hkind.trans hm) hlegible hlegible' hrest hrest' h)
  | string => exact halike (key_append_cancel_of_string hm (hkind.trans hm) hrest hrest' h)
  | hash =>
    exact halike (key_append_cancel_of_hash hm (hkind.trans hm) hlegible hlegible' hrest hrest' h)
  | symbol =>
    exact halike (key_append_cancel_of_symbol hm (hkind.trans hm) hfits hfits' hrest hrest' h)
  | word =>
    have hatom : ∀ {m : Mark} {rest : Text}, m.EndsKeyBefore rest → ∀ a, m = .atom a →
        a.EndsBefore rest := by
      rintro m rest hrest a rfl
      exact hrest
    exact key_append_cancel_of_isWorded hl (isWorded_of_keyKind hlegible hm)
      (isWorded_of_keyKind hlegible' (hkind.trans hm)) hlegible hlegible' (hatom hrest)
      (hatom hrest') h

/-- Marks that are alike open and close the same. -/
lemma Mark.Alike.inside_eq (h : m.Alike m') (n : Nesting) : m'.inside n = m.inside n := by
  cases h <;> rfl

/-- Two lists of marks with one key are the same up to error values, whatever sheets there are. -/
theorem FlowsWithOffsets.forall₂_of_key_eq (hl : l.IsPreset) (hflows : FlowsWithOffsets n ms)
    (hflows' : FlowsWithOffsets n ms') (hms : ∀ m ∈ ms, m.Legible l sheets)
    (hms' : ∀ m ∈ ms', m.Legible l sheets')
    (h : ms.flatMap Mark.key = ms'.flatMap Mark.key) : List.Forall₂ Mark.Alike ms ms' := by
  have hne : ∀ {m : Mark} {ms : List Mark} {sheets : SheetNames}, m.Legible l sheets →
      (m :: ms).flatMap Mark.key ≠ [] := by
    intro m ms sheets hm hnil
    obtain ⟨c, s, hkey, -⟩ := hm.head_key hl
    rw [List.flatMap_cons, hkey] at hnil
    cases hnil
  induction ms generalizing n ms' with
  | nil =>
    cases ms' with
    | nil => exact .nil
    | cons m' ms' => exact absurd h.symm (hne (hms' m' List.mem_cons_self))
  | cons m ms ih =>
    cases ms' with
    | nil => exact absurd h (hne (hms m List.mem_cons_self))
    | cons m' ms' =>
      obtain ⟨hm, hrest⟩ := List.forall_mem_cons.mp hms
      obtain ⟨hm', hrest'⟩ := List.forall_mem_cons.mp hms'
      obtain ⟨halike, hkeys⟩ := Mark.key_append_cancel hl hflows.1 hflows'.1 hm hm'
        (hflows.endsKeyBefore hl hrest) (hflows'.endsKeyBefore hl hrest') h
      have htail := hflows'.2.2
      rw [halike.inside_eq] at htail
      exact .cons halike (ih hflows.2.2 htail hrest hrest' hkeys)

/-- In one workbook two lists of marks with one key are the same. -/
theorem FlowsWithOffsets.eq_of_key_eq (hl : l.IsPreset) (hflows : FlowsWithOffsets n ms)
    (hflows' : FlowsWithOffsets n ms') (hms : ∀ m ∈ ms, m.Legible l sheets)
    (hms' : ∀ m ∈ ms', m.Legible l sheets)
    (h : ms.flatMap Mark.key = ms'.flatMap Mark.key) : ms = ms' := by
  have halike := hflows.forall₂_of_key_eq hl hflows' hms hms' h
  clear hflows hflows' h
  induction halike with
  | nil => rfl
  | cons hm _ ih =>
    obtain ⟨hm₁, hms⟩ := List.forall_mem_cons.mp hms
    obtain ⟨hm₂, hms'⟩ := List.forall_mem_cons.mp hms'
    rw [hm.eq hm₁ hm₂, ih hms hms']

end

namespace Reader

/-- Two formulas without offsets that are read in one workbook have one key only if they have one
tree. -/
theorem eq_of_key_eq {site : Site} {base : Cell} {text text' : Text} {xs xs' : List Lexeme}
    {t t' : Tree} (hl : site.locale.IsPreset) (hlex : lex site.locale text = .ok xs)
    (hlex' : lex site.locale text' = .ok xs') (hfree : ∀ x ∈ xs, x.symbol ≠ .offsetCall)
    (hfree' : ∀ x ∈ xs', x.symbol ≠ .offsetCall) (ht : formula site (spaced xs) = .ok t)
    (ht' : formula { site with base } (spaced xs') = .ok t') (h : t.key = t'.key) : t = t' := by
  rw [t.key_eq_spelling, t'.key_eq_spelling] at h
  have hcanonical := canonical_of_formula ht
  have hcanonical' := canonical_of_formula ht'
  have hlegible := legible_of_formula site hl hlex ht hfree
  have hlegible' := legible_of_formula { site with base } hl hlex' ht' hfree'
  have hspelling : t.spelling = t'.spelling :=
    hcanonical.flows.withOffsets.eq_of_key_eq hl hcanonical'.flows.withOffsets hlegible hlegible'
      (List.cons.inj h).2
  refine eq_of_spelling_eq ht (neat_spaced hlex) ?_ hcanonical' hspelling
  intro y hy hoffset
  obtain ⟨x, hx, hsymbol⟩ := exists_mem_of_mem_spaced hy
  exact hfree x hx (hsymbol.trans hoffset)

end Reader

end GridFormula
