import GridFormula.Proofs.Lexeme.ReferenceText
import GridFormula.Proofs.Lexeme.Scans
import Mathlib.Data.List.Basic

/-!
# Every turn of a scan takes something

A text is scanned in turns. A turn finds a lexeme or a mistake, and what it leaves is an end of the
text that it began with, shorter by at least one character. So nothing is lost between the turns,
and they come to an end.

This rests on the names of error values. Such a name is found where the text goes on with it, and
the empty name would be found at every `#`, again and again, without any progress. The reader of
names passes over it. Here the turns are described without that precaution: in a locale without
faults they are the same, since each of its names starts with `#`.
-/

namespace GridFormula

namespace Scan

variable {l : Locale} {n n' : Nesting} {c : Char} {s rest : Text} {symbol : Symbol}

/-! ## What a turn leaves is an end of the text -/

/-- What follows a quoted text is an end of the text. -/
lemma suffix_of_unquoted? {q : Char} {content : Text}
    (h : Text.unquoted? q s = some (content, rest)) : rest <:+ s := by
  obtain ⟨rfl, -⟩ := Text.eq_of_unquoted? h
  exact (List.suffix_cons q rest).trans (List.suffix_append _ _)

/-- What follows a broken sheet is an end of the text. -/
lemma suffix_of_broken_sheetFront {fault : ScanFault} (h : sheetFront s = .broken fault rest) :
    rest <:+ s := by
  unfold sheetFront at h
  split at h
  · cases h
  · next c s =>
    split at h
    · split at h
      · cases h
        exact List.nil_suffix
      · next hread =>
        split at h
        · cases h
        · cases h
          exact (suffix_of_unquoted? hread).trans (List.suffix_cons c s)
    · split at h
      · split at h <;> cases h
      · cases h

/-- What follows a reference is an end of the text. -/
lemma suffix_of_referenceFront (h : referenceFront s = .present symbol rest) : rest <:+ s := by
  obtain ⟨t, -, rfl⟩ := referenceText_of_referenceFront h
  exact List.suffix_append t rest

/-- What follows a broken reference is an end of the text. -/
lemma suffix_of_broken_referenceFront {fault : ScanFault}
    (h : referenceFront s = .broken fault rest) : rest <:+ s := by
  unfold referenceFront at h
  split at h
  · split at h <;> cases h
  · next hname =>
    split at h
    · cases h
    · cases h
      obtain ⟨p, -, rfl⟩ := sheetText_of_sheetFront hname
      exact List.suffix_append p _
  · next hbroken =>
    cases h
    exact suffix_of_broken_sheetFront hbroken

/-- What follows a fraction is an end of the text. -/
lemma suffix_fraction (decimal : Char) (s : Text) : (fraction decimal s).2 <:+ s := by
  unfold fraction
  split
  · next c d s =>
    split
    · exact (List.dropWhile_suffix _).trans ((List.suffix_cons d s).trans (List.suffix_cons c _))
    · exact List.suffix_rfl
  · exact List.suffix_rfl

/-- What follows the sign of an exponent is an end of the text. -/
lemma suffix_exponentSign (s : Text) : (exponentSign s).2 <:+ s := by
  unfold exponentSign
  split
  · exact List.suffix_cons _ _
  · exact List.suffix_cons _ _
  · exact List.suffix_rfl

/-- What follows an exponent is an end of the text. -/
lemma suffix_exponent (s : Text) : (exponent s).2 <:+ s := by
  unfold exponent
  split
  · exact List.suffix_rfl
  · next c s =>
    dsimp only
    split
    · exact ((List.dropWhile_suffix _).trans (suffix_exponentSign s)).trans (List.suffix_cons c s)
    · exact List.suffix_rfl

/-- What follows a number is an end of the text. -/
lemma suffix_number (decimal : Char) (s : Text) : (number decimal s).2 <:+ s :=
  (suffix_exponent _).trans ((suffix_fraction decimal _).trans (List.dropWhile_suffix _))

/-- What follows what starts like a number is an end of the text. -/
lemma suffix_of_numberFront? (h : numberFront? l c s = some (symbol, rest)) : rest <:+ c :: s := by
  unfold numberFront? at h
  dsimp only at h
  split at h
  · rcases Option.or_eq_some_iff.mp h with h | ⟨-, h⟩
    · obtain ⟨a, b, t, -, -, hs⟩ := linesText_of_linesReference .absent h
      rw [List.nil_append] at hs
      exact ⟨t, hs.symm⟩
    · cases h
      exact suffix_number _ _
  · split at h
    · cases h
      exact suffix_number _ _
    · cases h

/-- What follows an operator is an end of the text. -/
lemma suffix_of_operatorFront? (h : operatorFront? c s = some (symbol, rest)) : rest <:+ s := by
  unfold operatorFront? at h
  split at h
  case h_12 => cases h
  all_goals first | (cases h; exact List.suffix_rfl) | skip
  all_goals
    split at h <;> cases h
    all_goals first | exact List.suffix_rfl | exact List.suffix_cons _ _

/-- Of two readings one is held on to. -/
lemma longer_eq_or (a b : Option (ErrorValue × Text)) : longer a b = a ∨ longer a b = b := by
  unfold longer
  split
  · split
    · exact Or.inl rfl
    · exact Or.inr rfl
  · exact Or.inl rfl
  · exact Or.inr rfl

/-- What is found in a table of error values is the reading of one of its names. -/
lemma exists_of_errorValue? {names : List (Text × ErrorValue)} {found : ErrorValue × Text}
    (h : errorValue? names s = some found) : ∃ entry ∈ names, errorName? entry s = some found := by
  -- The fold starts with a reading, and it holds on to that or to one of the names.
  have hfold : ∀ (entries : List (Text × ErrorValue)) (held : Option (ErrorValue × Text)),
      let result := entries.foldl (fun held entry => longer held (errorName? entry s)) held
      result = held ∨ ∃ entry ∈ entries, errorName? entry s = result := by
    intro entries
    induction entries with
    | nil => exact fun held => Or.inl rfl
    | cons entry entries ih =>
      intro held
      rcases ih (longer held (errorName? entry s)) with hheld | ⟨other, hother, hread⟩
      · rcases longer_eq_or held (errorName? entry s) with hkept | htaken
        · exact Or.inl (hheld.trans hkept)
        · exact Or.inr ⟨entry, List.mem_cons_self, (hheld.trans htaken).symm⟩
      · exact Or.inr ⟨other, List.mem_cons_of_mem _ hother, hread⟩
  rcases hfold names none with hnone | ⟨entry, hentry, hread⟩
  · cases h.symm.trans hnone
  · exact ⟨entry, hentry, hread.trans h⟩

/-- What follows an error value is an end of the text. -/
lemma suffix_of_errorValue? {names : List (Text × ErrorValue)} {e : ErrorValue}
    (h : errorValue? names s = some (e, rest)) : rest <:+ s := by
  obtain ⟨entry, -, hread⟩ := exists_of_errorValue? h
  unfold errorName? at hread
  dsimp only at hread
  split at hread
  · cases hread
    exact ⟨_, Text.splitAtByte_append _ s⟩
  · cases hread

/-- What follows a name is an end of the text. -/
lemma suffix_nameFront (l : Locale) (n : Nesting) (c : Char) (s : Text) :
    (nameFront l n c s).rest <:+ s := by
  have hdrop := List.dropWhile_suffix (l := s) continuesName
  unfold nameFront
  dsimp only
  split
  · next hparen =>
    rw [hparen] at hdrop
    exact (List.suffix_cons _ _).trans hdrop
  · exact hdrop

/-- What follows a word is an end of the text. -/
lemma suffix_wordFront (l : Locale) (n : Nesting) (c : Char) (s : Text) :
    (wordFront l n c s).rest <:+ c :: s := by
  unfold wordFront
  split
  · split
    · next h => exact suffix_of_referenceFront h
    · next h => exact suffix_of_broken_referenceFront h
    · split
      · exact (suffix_nameFront l n c s).trans (List.suffix_cons c s)
      · exact List.suffix_cons c s
  · exact List.suffix_cons c s

/-- What follows a lexeme other than a text or an error value is an end of the text. -/
lemma suffix_plainFront (l : Locale) (n : Nesting) (c : Char) (s : Text) :
    (plainFront l n c s).rest <:+ c :: s := by
  unfold plainFront
  split
  · next h =>
    rcases Option.or_eq_some_iff.mp h with h | ⟨-, h⟩
    · exact suffix_of_numberFront? h
    · exact (suffix_of_operatorFront? h).trans (List.suffix_cons c s)
  · exact suffix_wordFront l n c s

/-- What a turn leaves is an end of the text. -/
theorem suffix_front (l : Locale) (n : Nesting) (c : Char) (s : Text) :
    (front l n c s).rest <:+ c :: s := by
  have hcons : s <:+ c :: s := List.suffix_cons c s
  unfold front
  split
  · exact (List.dropWhile_suffix _).trans hcons
  split
  · unfold stringFront
    split
    · next h => exact (suffix_of_unquoted? h).trans hcons
    · exact List.nil_suffix
  split
  · next hc =>
    unfold errorFront
    split
    · next h => exact hc ▸ suffix_of_errorValue? h
    · exact hcons
  split
  · exact hcons
  · exact hcons
  · exact suffix_plainFront l n c s

/-- A lexeme or a mistake takes at least one character off the front of the text, and it leaves the
others as they are. -/
theorem exists_append_front (l : Locale) (n : Nesting) (c : Char) (s : Text) :
    ∃ taken, taken ≠ [] ∧ c :: s = taken ++ (front l n c s).rest := by
  obtain ⟨taken, htaken⟩ := suffix_front l n c s
  refine ⟨taken, ?_, htaken.symm⟩
  rintro rfl
  have hle := length_front_le l n c s
  rw [List.nil_append] at htaken
  rw [htaken, List.length_cons] at hle
  omega

/-- The lexemes of a text make up the text. -/
theorem Scans.flatMap_image {xs : List Lexeme} (h : Scans l n s xs) :
    xs.flatMap Lexeme.image = s := by
  induction h with
  | nil => rfl
  | @cons n n' c s symbol rest xs hfront _ ih =>
    obtain ⟨taken, -, htaken⟩ := exists_append_front l n c s
    rw [hfront, Front.rest] at htaken
    rw [List.flatMap_cons, ih, htaken, upTo_append]

/-! ## Turns without precaution -/

/-- Reads the name of an error value, in any case, even if there is nothing to read. -/
def spelledName? (entry : Text × ErrorValue) (s : Text) : Option (ErrorValue × Text) :=
  let (taken, rest) := Text.splitAtByte (Text.byteSize entry.1) s
  if Text.byteSize taken = Text.byteSize entry.1 ∧ Text.upper taken = entry.1 then
    some (entry.2, rest)
  else none

/-- What a turn finds at the front of the text `c :: s`, with any names of error values. -/
def turn (l : Locale) (n : Nesting) (c : Char) (s : Text) : Front :=
  if c = '#' then
    match l.errorNames.foldl
      (fun found entry => longer found (spelledName? entry ('#' :: s))) none with
    | some (e, rest) => .lexeme (.errorValue e) rest n
    | none => .mistake .unknownErrorValue s
  else front l n c s

/-- The turns of a scan with `position` bytes in front of the text, inside what is open, come to an
end, and they find these pieces. -/
inductive Runs (l : Locale) : Nesting → Nat → Text → List (Except Mistake Lexeme) → Prop where
  | done {n position} : Runs l n position [] []
  | lexeme {n n' position c s symbol rest pieces} :
    turn l n c s = .lexeme symbol rest n' →
      Runs l n' (position + Text.byteSize (upTo (c :: s) rest)) rest pieces →
        Runs l n position (c :: s) (.ok ⟨symbol, upTo (c :: s) rest⟩ :: pieces)
  | mistake {n position c s fault rest pieces} :
    turn l n c s = .mistake fault rest →
      Runs l n (position + Text.byteSize (upTo (c :: s) rest)) rest pieces →
        Runs l n position (c :: s) (.error ⟨fault, position⟩ :: pieces)

/-- The turns find nothing but what they find. -/
lemma Runs.unique {position : Nat} {pieces pieces' : List (Except Mistake Lexeme)}
    (h : Runs l n position s pieces) (h' : Runs l n position s pieces') : pieces = pieces' := by
  induction h generalizing pieces' with
  | done =>
    cases h'
    rfl
  | lexeme hturn _ ih =>
    cases h' with
    | lexeme hturn' hrest =>
      cases hturn.symm.trans hturn'
      rw [ih hrest]
    | mistake hturn' _ => cases hturn.symm.trans hturn'
  | mistake hturn _ ih =>
    cases h' with
    | lexeme hturn' _ => cases hturn.symm.trans hturn'
    | mistake hturn' hrest =>
      cases hturn.symm.trans hturn'
      rw [ih hrest]

/-- If the only name of an error value is empty, the turns do not get past a `#`. This is why
`runs_iff` asks for a locale without faults. -/
theorem not_runs_of_empty_name {e : ErrorValue} (h : l.errorNames = [([], e)]) (n : Nesting)
    (position : Nat) (s : Text) (pieces : List (Except Mistake Lexeme)) :
    ¬Runs l n position ('#' :: s) pieces := by
  have hturn : ∀ n, turn l n '#' s = .lexeme (.errorValue e) ('#' :: s) n := by
    intro n
    rw [turn, if_pos rfl, h]
    simp [spelledName?, Text.splitAtByte, Text.upper, longer, Char.utf8Size]
  generalize htext : '#' :: s = text
  intro hruns
  induction hruns with
  | done => cases htext
  | lexeme hfound _ ih =>
    cases htext
    cases (hturn _).symm.trans hfound
    exact ih rfl
  | mistake hfound _ _ =>
    cases htext
    cases (hturn _).symm.trans hfound

/-! ## Turns in a locale without faults -/

/-- In a locale without faults the name of every error value starts with `#`. -/
lemma head_of_mem_errorNames (hl : l.fault? = none) :
    ∀ entry ∈ l.errorNames, entry.1.head? = some '#' := by
  unfold Locale.fault? at hl
  split at hl
  · cases hl
  · split at hl
    · cases hl
    · have hfind := Option.map_eq_none_iff.mp hl
      intro entry hentry
      simpa using List.find?_eq_none.mp hfind entry hentry

/-- A name that is not empty is found with precaution where it is found without. -/
lemma spelledName?_eq {entry : Text × ErrorValue} (h : entry.1 ≠ []) (s : Text) :
    spelledName? entry s = errorName? entry s := by
  unfold spelledName? errorName?
  dsimp only
  refine if_congr ⟨fun hread => ⟨?_, hread⟩, And.right⟩ rfl rfl
  intro hnone
  rw [hnone] at hread
  exact h hread.2.symm

/-- A number sign is no blank. -/
lemma isBlank_numberSign (l : Locale) : l.isBlank '#' = false := by
  unfold Locale.isBlank
  cases l.spacing <;> decide

/-- In a locale without faults nothing depends on the precaution. -/
theorem turn_eq_front (hl : l.fault? = none) (n : Nesting) (c : Char) (s : Text) :
    turn l n c s = front l n c s := by
  unfold turn
  split
  · next hc =>
    subst hc
    have hnames : ∀ held : Option (ErrorValue × Text),
        l.errorNames.foldl (fun held entry => longer held (spelledName? entry ('#' :: s))) held =
          l.errorNames.foldl (fun held entry => longer held (errorName? entry ('#' :: s))) held := by
      intro held
      refine List.foldl_ext _ _ held fun held entry hentry => ?_
      have hne : entry.1 ≠ [] := by
        intro hnil
        have hhead := head_of_mem_errorNames hl entry hentry
        rw [hnil] at hhead
        cases hhead
      rw [spelledName?_eq hne]
    rw [hnames, front, isBlank_numberSign]
    rfl
  · rfl

/-- In a locale without faults the turns come to an end, and they find the pieces of the text. -/
theorem runs_iff (hl : l.fault? = none) {position : Nat} {found : List (Except Mistake Lexeme)} :
    Runs l n position s found ↔ found = pieces l n position s := by
  suffices hruns : Runs l n position s (pieces l n position s) from
    ⟨fun h => h.unique hruns, fun h => h ▸ hruns⟩
  induction hlen : s.length using Nat.strongRecOn generalizing n position s with
  | ind k ih =>
    cases s with
    | nil =>
      rw [pieces]
      exact .done
    | cons c s =>
      have hle := length_front_le l n c s
      have hturn := turn_eq_front hl n c s
      rw [List.length_cons] at hlen
      cases hfront : front l n c s with
      | lexeme symbol rest n' =>
        rw [hfront, Front.rest] at hle
        rw [pieces_of_lexeme hfront]
        exact .lexeme (hturn.trans hfront) (ih rest.length (by omega) rfl)
      | mistake fault rest =>
        rw [hfront, Front.rest] at hle
        rw [pieces_of_mistake hfront]
        exact .mistake (hturn.trans hfront) (ih rest.length (by omega) rfl)

end Scan

end GridFormula
