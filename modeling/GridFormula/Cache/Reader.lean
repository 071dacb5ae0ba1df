import GridFormula.Cache.Basic
import GridFormula.Formula.Key

/-!
# Reading formulas through the cache

The key of a formula is found from its lexemes, so a formula whose tree is stored does not have to
be read. A formula that is read is stored, unless its tree holds in its own cell only. Texts that
are not formulas are never stored.
-/

namespace GridFormula

/-- A formula that was read through the cache. -/
structure CachedReading where
  entry : Entry
  /-- Why the text is not a formula; none if it is. -/
  faults : List FormulaFault
  /-- The key under which the entry is stored, if it is. -/
  key? : Option Text

namespace Cache

/-- The reading of what is not stored. -/
def unstored (site : Site) (r : Reading) : CachedReading :=
  ⟨.ofTree site.locale r.tree, r.faults, none⟩

/-- Reads the lexemes of a text that are not in the cache, and stores the tree under the key. -/
def readNew (s : Cache) (site : Site) (text : Text) (xs : List Lexeme) (key? : Option Text) :
    CachedReading × Cache :=
  let r := site.readLexemes text xs
  match key? with
  | some key =>
    if r.isFormula && !r.isPlaceBound then
      let (entry, s) := s.insert site.locale key r.tree
      (⟨entry, [], some key⟩, s)
    else (unstored site r, s)
  | none => (unstored site r, s)

/-- Reads a text. -/
def read (s : Cache) (site : Site) (text : Text) : CachedReading × Cache :=
  match lex site.locale text with
  | .error mistakes => (unstored site (.failed text (mistakes.map .mistake)), s)
  | .ok xs =>
    match site.key? xs with
    | none => s.readNew site text xs none
    | some key =>
      match s.lookup key with
      | (some entry, s) => (⟨entry, [], some key⟩, s)
      | (none, s) => s.readNew site text xs (some key)

/-- Stores a tree that was not read from a text, under its own key. -/
def remember (s : Cache) (l : Locale) (t : Tree) : Entry × Cache :=
  s.insert l t.key t

end Cache

end GridFormula
