import GridFormula.Cache.Reader
import GridFormula.Edit.History

/-!
# Array formulas

Array formulas are rewritten at once with every edit. A tree that the edit changes is replaced by
the one that the cache has under the key of the new tree.
-/

namespace GridFormula

/-- A formula in its cell. -/
structure FormulaCell where
  tree : Tree
  address : Cell
deriving DecidableEq

/-- A formula after an edit. -/
structure RewrittenCell where
  cell : FormulaCell
  /-- The key under which the cache has the tree, if the edit changed it. -/
  newKey? : Option Text

namespace Cache

/-- Rewrites one formula after an edit. -/
def rewrite (s : Cache) (l : Locale) (e : Edit) (c : FormulaCell) : RewrittenCell × Cache :=
  let t := e.rewriting.tree c.tree c.address
  let address := e.rewriting.place c.address
  if t = c.tree then (⟨{ c with address }, none⟩, s)
  else
    let (entry, s) := s.remember l t
    (⟨⟨entry.tree, address⟩, some t.key⟩, s)

/-- Rewrites formulas one after the other. -/
def rewriteAll (s : Cache) (l : Locale) (e : Edit) :
    List FormulaCell → List RewrittenCell × Cache
  | [] => ([], s)
  | c :: cs =>
    let (c, s) := s.rewrite l e c
    let (cs, s) := s.rewriteAll l e cs
    (c :: cs, s)

end Cache

end GridFormula
