/-!
# Text as a list of characters

Formulas, names and keys are read and written one character at a time, so text is a list of
characters throughout the library. A `String` appears only as a literal, turned into text by
`String.toList`. This file holds the few operations on text that are not operations on lists:
its size in bytes, its order, and the decimal writing of integers.
-/

namespace GridFormula

/-- A text, character by character. -/
abbrev Text : Type := List Char

namespace Text

/-- The number of bytes the text takes in UTF-8, the unit in which positions are reported. -/
def byteSize : Text → Nat
  | [] => 0
  | c :: s => c.utf8Size + byteSize s

/-- The empty text has no bytes. -/
@[simp] theorem byteSize_nil : byteSize [] = 0 := rfl

/-- A text has the bytes of its first character and those of the others. -/
@[simp] theorem byteSize_cons (c : Char) (s : Text) :
    byteSize (c :: s) = c.utf8Size + byteSize s := rfl

/-- Two texts together have the bytes of both. -/
@[simp] theorem byteSize_append (s t : Text) : byteSize (s ++ t) = byteSize s + byteSize t := by
  induction s with
  | nil => simp
  | cons c s ih => simp [ih, Nat.add_assoc]

/-- The bytes of the text in UTF-8. -/
def bytes (s : Text) : List UInt8 :=
  s.flatMap String.utf8EncodeChar

/-- A text has as many bytes as its size says. -/
theorem length_bytes (s : Text) : (bytes s).length = byteSize s := by
  induction s with
  | nil => rfl
  | cons c s ih =>
    rw [byteSize_cons, ← ih, bytes, List.flatMap_cons, List.length_append,
      String.length_utf8EncodeChar, bytes]

/-- The longest start of `s` that takes at most `n` bytes, and what follows it. -/
def splitAtByte : Nat → Text → Text × Text
  | _, [] => ([], [])
  | n, c :: s =>
    if c.utf8Size ≤ n then
      let (taken, rest) := splitAtByte (n - c.utf8Size) s
      (c :: taken, rest)
    else ([], c :: s)

/-- Cutting a text at a byte loses nothing. -/
theorem splitAtByte_append (n : Nat) (s : Text) :
    (splitAtByte n s).1 ++ (splitAtByte n s).2 = s := by
  induction s generalizing n with
  | nil => rfl
  | cons c s ih =>
    simp only [splitAtByte]
    split
    · simp [ih]
    · rfl

/-- The order of texts: by the first character in which they differ, a start before the whole. -/
def before : Text → Text → Bool
  | [], [] => false
  | [], _ :: _ => true
  | _ :: _, [] => false
  | a :: s, b :: t => a.toNat < b.toNat || (a.toNat == b.toNat && before s t)

/-- Whether two texts agree when ASCII letters are compared without case. -/
def sameLetters (s t : Text) : Bool :=
  s.map Char.toLower = t.map Char.toLower

/-- A text with every `q` in it written twice. -/
def doubled (q : Char) : Text → Text
  | [] => []
  | c :: s => if c = q then q :: q :: doubled q s else c :: doubled q s

/-- A text between two `q`, with every `q` in it written twice. -/
def quoted (q : Char) (s : Text) : Text :=
  q :: (doubled q s ++ [q])

/-- Reads on from just after an opening `q`: what is quoted, and what follows the closing `q`.
There is no answer where the closing `q` is missing. -/
def unquoted? (q : Char) : Text → Option (Text × Text)
  | [] => none
  | [c] => if c = q then some ([], []) else none
  | c :: d :: s =>
    if c = q then
      if d = q then (unquoted? q s).map fun (content, rest) => (q :: content, rest)
      else some ([], d :: s)
    else (unquoted? q (d :: s)).map fun (content, rest) => (c :: content, rest)

/-- Whatever is read between quotes leaves a shorter text to read. -/
theorem length_lt_of_unquoted? {q : Char} {s content rest : Text}
    (h : unquoted? q s = some (content, rest)) : rest.length < s.length := by
  fun_induction unquoted? q s generalizing content rest with
  | case1 => simp at h
  | case2 => simp_all
  | case3 => simp at h
  | case4 s ih =>
    obtain ⟨⟨x, y⟩, hxy, hr⟩ := Option.map_eq_some_iff.1 h
    have := ih hxy
    simp only [Prod.mk.injEq] at hr
    simp only [List.length_cons, ← hr.2]
    omega
  | case5 => simp_all
  | case6 c d s _ ih =>
    obtain ⟨⟨x, y⟩, hxy, hr⟩ := Option.map_eq_some_iff.1 h
    have := ih hxy
    simp only [Prod.mk.injEq] at hr
    simp only [List.length_cons, ← hr.2] at this ⊢
    omega

/-- The decimal digits of a natural number. -/
def ofNat (n : Nat) : Text :=
  Nat.toDigits 10 n

/-- The decimal digits of an integer, after a minus sign if it is negative. -/
def ofInt : Int → Text
  | .ofNat n => ofNat n
  | .negSucc n => '-' :: ofNat (n + 1)

/-- The number that a run of decimal digits denotes; leading zeros count for nothing. -/
def toNat (digits : Text) : Nat :=
  Nat.ofDigitChars 10 digits 0

/-- A number is read back from its digits. -/
@[simp] theorem toNat_ofNat (n : Nat) : toNat (ofNat n) = n :=
  Nat.ofDigitChars_ten_toDigits

/-- Puts a text into an ascending list without repetitions. -/
def insertInto (s : Text) : List Text → List Text
  | [] => [s]
  | t :: ts => if before s t then s :: t :: ts else if s = t then t :: ts else t :: insertInto s ts

/-- The members of a list of texts, ascending and without repetitions. -/
def ascending (ts : List Text) : List Text :=
  ts.foldr insertInto []

/-- Putting in a text adds it and nothing else. -/
theorem mem_insertInto {s t : Text} {ts : List Text} :
    t ∈ insertInto s ts ↔ t = s ∨ t ∈ ts := by
  induction ts with
  | nil => simp [insertInto]
  | cons u ts ih =>
    simp only [insertInto]
    split
    · simp
    · split
      · next h => subst h; simp
      · simp only [List.mem_cons, ih]
        constructor <;> (rintro (h | h | h) <;> simp_all)

/-- Sorting keeps the members. -/
theorem mem_ascending {t : Text} {ts : List Text} : t ∈ ascending ts ↔ t ∈ ts := by
  induction ts with
  | nil => simp [ascending]
  | cons s ts ih =>
    simp only [ascending, List.foldr_cons] at ih ⊢
    rw [mem_insertInto, ih, List.mem_cons]

end Text

end GridFormula
