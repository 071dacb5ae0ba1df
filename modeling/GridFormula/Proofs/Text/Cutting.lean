import GridFormula.Text.Basic
import Mathlib.Tactic.Common

/-!
# Finding the end of what was written

Texts are written one behind the other and nothing marks where one of them ends. The end is found
again because what follows starts with a character that the text cannot go on with: a digit behind
digits, a quote behind a quoted text. Each lemma of this file names that condition on what follows.
-/

namespace GridFormula

namespace Text

/-- What follows does not start with such a character. -/
def StopsAt (p : Char → Bool) (rest : Text) : Prop :=
  ∀ c ∈ rest.head?, p c = false

/-- Everything stops at the end. -/
lemma stopsAt_nil (p : Char → Bool) : StopsAt p [] := nofun

/-- A character that is not of a kind stops characters of this kind. -/
lemma stopsAt_cons {p : Char → Bool} {c : Char} (h : p c = false) (s : Text) :
    StopsAt p (c :: s) := by
  intro d hd
  cases hd
  exact h

/-- What stops more characters stops fewer. -/
lemma StopsAt.mono {p q : Char → Bool} {rest : Text} (h : StopsAt p rest)
    (hqp : ∀ c, p c = false → q c = false) : StopsAt q rest :=
  fun c hc => hqp c (h c hc)

/-- What is left when characters are dropped stops them. -/
lemma stopsAt_dropWhile (p : Char → Bool) (s : Text) : StopsAt p (s.dropWhile p) := by
  intro c hc
  have h := List.head?_dropWhile_not p s
  rw [Option.mem_def.mp hc] at h
  simpa using h

/-- Up to what stops them all characters are taken. -/
lemma takeWhile_append {p : Char → Bool} {s rest : Text} (hs : ∀ c ∈ s, p c = true)
    (hrest : StopsAt p rest) : (s ++ rest).takeWhile p = s := by
  rw [List.takeWhile_append_of_pos hs]
  cases rest with
  | nil => simp
  | cons c rest => simp [hrest c rfl]

/-- Up to what stops them all characters are dropped. -/
lemma dropWhile_append {p : Char → Bool} {s rest : Text} (hs : ∀ c ∈ s, p c = true)
    (hrest : StopsAt p rest) : (s ++ rest).dropWhile p = rest := by
  rw [List.dropWhile_append_of_pos hs]
  cases rest with
  | nil => rfl
  | cons c rest => simp [hrest c rfl]

/-- The characters taken are of the kind. -/
lemma forall_mem_takeWhile (p : Char → Bool) (s : Text) : ∀ c ∈ s.takeWhile p, p c = true := by
  induction s with
  | nil => exact fun c h => absurd h List.not_mem_nil
  | cons d s ih =>
    by_cases hd : p d = true
    · rw [List.takeWhile_cons_of_pos hd]
      exact List.forall_mem_cons.mpr ⟨hd, ih⟩
    · rw [List.takeWhile_cons_of_neg hd]
      exact fun c h => absurd h List.not_mem_nil

/-- Two runs of such characters, with the same text after each of them is ended, are the same. -/
lemma append_cancel {p : Char → Bool} {s t rest rest' : Text} (hs : ∀ c ∈ s, p c = true)
    (ht : ∀ c ∈ t, p c = true) (hrest : StopsAt p rest) (hrest' : StopsAt p rest')
    (h : s ++ rest = t ++ rest') : s = t ∧ rest = rest' := by
  constructor
  · rw [← takeWhile_append hs hrest, h, takeWhile_append ht hrest']
  · rw [← dropWhile_append hs hrest, h, dropWhile_append ht hrest']

/-! ## Quoted texts -/

/-- A quoted text is read back if no quote follows it. -/
theorem unquoted?_doubled {q : Char} (content : Text) {rest : Text} (h : StopsAt (· = q) rest) :
    unquoted? q (doubled q content ++ q :: rest) = some (content, rest) := by
  induction content with
  | nil =>
    cases rest with
    | nil => simp [doubled, unquoted?]
    | cons d rest =>
      have hd : d ≠ q := by simpa using h d rfl
      simp [doubled, unquoted?, hd]
  | cons c content ih =>
    by_cases hc : c = q
    · subst hc
      rw [doubled, if_pos rfl, List.cons_append, List.cons_append, unquoted?, if_pos rfl,
        if_pos rfl, ih]
      rfl
    · obtain ⟨d, s, hds⟩ : ∃ d s, doubled q content ++ q :: rest = d :: s := by
        cases hdoubled : doubled q content with
        | nil => exact ⟨q, rest, rfl⟩
        | cons d s => exact ⟨d, s ++ q :: rest, rfl⟩
      rw [doubled, if_neg hc, List.cons_append, hds, unquoted?, if_neg hc, ← hds, ih]
      rfl

/-- What is read between quotes was written there, and no quote follows. -/
theorem eq_of_unquoted? {q : Char} {s content rest : Text}
    (h : unquoted? q s = some (content, rest)) :
    s = doubled q content ++ q :: rest ∧ StopsAt (· = q) rest := by
  -- A quote is part of the content if it is doubled, and ends it otherwise.
  fun_induction unquoted? q s generalizing content rest with
  | case1 => cases h
  | case2 =>
    cases h
    exact ⟨rfl, stopsAt_nil _⟩
  | case3 => cases h
  | case4 s ih =>
    obtain ⟨⟨content', rest'⟩, hread, heq⟩ := Option.map_eq_some_iff.mp h
    obtain ⟨rfl, hrest⟩ := ih hread
    cases heq
    refine ⟨?_, hrest⟩
    rw [doubled, if_pos rfl]
    rfl
  | case5 d s hd =>
    cases h
    exact ⟨rfl, stopsAt_cons (by simpa using hd) s⟩
  | case6 c d s hc ih =>
    obtain ⟨⟨content', rest'⟩, hread, heq⟩ := Option.map_eq_some_iff.mp h
    obtain ⟨hs, hrest⟩ := ih hread
    cases heq
    refine ⟨?_, hrest⟩
    rw [hs, doubled, if_neg hc]
    rfl

/-! ## Decimal numbers -/

/-- A number is written with digits. -/
lemma isDigit_ofNat (n : Nat) : ∀ c ∈ ofNat n, c.isDigit = true :=
  fun _ hc => Nat.isDigit_of_mem_toDigits (by decide) (by decide) hc

/-- A number is not written as nothing. -/
lemma ofNat_ne_nil (n : Nat) : ofNat n ≠ [] :=
  Nat.toDigits_ne_nil

/-- A number is known from how it is written. -/
lemma ofNat_injective {m n : Nat} (h : ofNat m = ofNat n) : m = n := by
  rw [← toNat_ofNat m, h, toNat_ofNat]

/-- A number and what follows it are known from the text, where no digits follow. -/
lemma ofNat_append_cancel {m n : Nat} {rest rest' : Text} (hrest : StopsAt Char.isDigit rest)
    (hrest' : StopsAt Char.isDigit rest') (h : ofNat m ++ rest = ofNat n ++ rest') :
    m = n ∧ rest = rest' := by
  obtain ⟨hmn, hrest⟩ := append_cancel (isDigit_ofNat m) (isDigit_ofNat n) hrest hrest' h
  exact ⟨ofNat_injective hmn, hrest⟩

/-- A number starts with a digit. -/
lemma head_ofNat (n : Nat) : ∃ c s, ofNat n = c :: s ∧ c.isDigit = true := by
  cases h : ofNat n with
  | nil => exact absurd h (ofNat_ne_nil n)
  | cons c s => exact ⟨c, s, rfl, isDigit_ofNat n c (by rw [h]; exact List.mem_cons_self)⟩

/-- An integer starts with a digit or a minus sign. -/
lemma head_ofInt (n : Int) : ∃ c s, ofInt n = c :: s ∧ (c.isDigit = true ∨ c = '-') := by
  cases n with
  | ofNat n =>
    obtain ⟨c, s, h, hc⟩ := head_ofNat n
    exact ⟨c, s, h, Or.inl hc⟩
  | negSucc n => exact ⟨'-', _, rfl, Or.inr rfl⟩

/-- An integer ends where no digit follows. -/
lemma ofInt_append_cancel {m n : Int} {rest rest' : Text} (hrest : StopsAt Char.isDigit rest)
    (hrest' : StopsAt Char.isDigit rest') (h : ofInt m ++ rest = ofInt n ++ rest') :
    m = n ∧ rest = rest' := by
  -- A digit is no minus sign.
  have hsign : ∀ (k : Nat) (s t : Text), ofNat k ++ s ≠ '-' :: t := by
    intro k s t heq
    obtain ⟨c, u, hu, hc⟩ := head_ofNat k
    rw [hu] at heq
    obtain ⟨rfl, -⟩ := List.cons.inj heq
    cases hc
  cases m with
  | ofNat m =>
    cases n with
    | ofNat n =>
      obtain ⟨rfl, hrest⟩ := ofNat_append_cancel hrest hrest' h
      exact ⟨rfl, hrest⟩
    | negSucc n => exact absurd h (hsign _ _ _)
  | negSucc m =>
    cases n with
    | ofNat n => exact absurd h.symm (hsign _ _ _)
    | negSucc n =>
      obtain ⟨hmn, hrest⟩ := ofNat_append_cancel hrest hrest' (List.cons.inj h).2
      obtain rfl := Nat.succ.inj hmn
      exact ⟨rfl, hrest⟩

end Text

end GridFormula
