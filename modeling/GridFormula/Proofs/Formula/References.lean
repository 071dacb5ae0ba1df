import GridFormula.Proofs.Cache.Soundness
import GridFormula.Proofs.Formula.Atoms
import GridFormula.Proofs.Formula.Regaining

/-!
# What the lexemes of a formula refer to and call

What a formula depends on and which functions it calls is read off its tree. Both can be read off
the lexemes as well, one after the other and without a tree: how operators bind, how deep the
brackets are and which arguments are left out makes no difference. For what the formula depends on
there must be no offset, because an offset is resolved to a reference that is not written. For the
functions there may be: nothing that is resolved contains a call.
-/

namespace GridFormula

/-! ## References -/

namespace Site

/-- What one lexeme refers to by itself. -/
def dependency? (site : Site) : Symbol → Option Dependency
  | .cell w => (site.cell w []).dependency?
  | .lines axis a b => (site.lines? axis a b []).bind Atom.dependency?
  | .name name => some (.name name)
  | _ => none

/-- What symbols refer to, from left to right. Two cells with a colon between them refer to
something together. -/
def dependencies (site : Site) : List Symbol → List Dependency
  | .cell a :: .colon :: .cell b :: xs =>
    ((site.cells? a b []).bind Atom.dependency?).toList ++ site.dependencies xs
  | x :: xs => (site.dependency? x).toList ++ site.dependencies xs
  | [] => []
termination_by structural xs => xs

/-- What lexemes refer to. The blanks among them are passed over. -/
def dependenciesOf (site : Site) (xs : List Lexeme) : List Dependency :=
  site.dependencies ((xs.filter fun x => !x.isBlank).map Lexeme.symbol)

end Site

/-- What a mark refers to. -/
def Mark.dependency? (m : Mark) : Option Dependency :=
  m.atom?.bind Atom.dependency?

/-- Blanks in front of a mark depend on nothing. -/
lemma Mark.filterMap_dependency?_spaces_append (lead : Option Text) (m : Mark) (ms : List Mark) :
    (Mark.spaces lead ++ m :: ms).filterMap Mark.dependency? =
      m.dependency?.toList ++ ms.filterMap Mark.dependency? := by
  rw [List.filterMap_eq_flatMap_toList, List.filterMap_eq_flatMap_toList]
  cases lead <;> rfl

/-- An argument that is left out refers to nothing. -/
lemma Tree.dependencies_eq_spelling (t : Tree) :
    t.dependencies = t.spelling.filterMap Mark.dependency? := by
  have hmarks : t.dependencies = t.marks.filterMap Mark.dependency? := by
    rw [dependencies, atoms, List.filterMap_filterMap]
    rfl
  have hwritten : ∀ m : Mark, (m.isWritten = false → m.dependency? = none) := by
    intro m hm
    obtain rfl : m = .atom .omitted := by simpa [Mark.isWritten] using hm
    rfl
  rw [hmarks, spelling, List.filterMap_filter]
  refine List.filterMap_congr fun m _ => ?_
  cases hm : m.isWritten with
  | true => rfl
  | false => exact hwritten m hm

namespace Site

variable {site : Site}

/-- How a reference was written does not show in what it refers to. -/
lemma dependency?_cell (w : WrittenCell) (raw raw' : Text) :
    (site.cell w raw).dependency? = (site.cell w raw').dependency? := by
  unfold cell
  split
  · rfl
  · split <;> rfl

/-- The same of an area. -/
lemma dependency?_area? {α : Type} (s t : Option Text) (first? last? : Option SheetId → Option α)
    (area : α → α → Qualification → Atom) (raw raw' : Text) :
    (site.area? s t first? last? area raw).bind Atom.dependency? =
      (site.area? s t first? last? area raw').bind Atom.dependency? := by
  unfold area?
  split
  · rfl
  · rfl
  · split <;> rfl

/-- The mark of a lexeme refers to what the lexeme does. -/
lemma dependency?_of_mark? {x : Spaced} {m : Mark} (h : site.mark? x = some m) :
    m.dependency? = site.dependency? x.symbol := by
  unfold mark? at h
  unfold dependency?
  split at h
  case h_5 w hx =>
    cases h
    rw [hx]
    exact dependency?_cell w _ _
  case h_6 axis a b hx =>
    obtain ⟨atom, hatom, rfl⟩ := Option.map_eq_some_iff.mp h
    have hdependency : (site.lines? axis a b x.image).bind Atom.dependency? =
        site.dependency? (.lines axis a b) := dependency?_area? _ _ _ _ _ x.image []
    rw [hatom] at hdependency
    rw [hx]
    exact hdependency
  all_goals
    next hx =>
    cases h
    rw [hx]
    rfl

/-- A symbol refers to something by itself, unless it starts an area of two cells. -/
lemma dependencies_cons {s : Symbol} {xs : List Symbol}
    (h : ∀ a b ys, s = .cell a → xs ≠ .colon :: .cell b :: ys) :
    site.dependencies (s :: xs) = (site.dependency? s).toList ++ site.dependencies xs := by
  rw [dependencies]
  exact fun a b ys hs => h a b ys hs

/-- The marks of lexemes refer to what the lexemes do. -/
theorem dependencies_of_marks? {xs : List Spaced} {ms : List Mark} (h : site.marks? xs = some ms) :
    ms.filterMap Mark.dependency? = site.dependencies (xs.map Spaced.symbol) := by
  fun_induction marks? site xs generalizing ms with
  | case1 =>
    cases h
    rfl
  | case2 lead a image lead' image' lead'' b image'' xs atom marks hmarks hatom ih =>
    cases h
    have hdependency : (site.cells? a b (image ++ ':' :: image'')).bind Atom.dependency? =
        (site.cells? a b []).bind Atom.dependency? := dependency?_area? _ _ _ _ _ _ []
    rw [hatom] at hdependency
    have hmark : Mark.dependency? (.atom atom) = (site.cells? a b []).bind Atom.dependency? :=
      hdependency
    rw [Mark.filterMap_dependency?_spaces_append, ih hmarks, hmark]
    rfl
  | case3 => cases h
  | case4 x xs harea mark marks hmarks hmark ih =>
    cases h
    rw [Mark.filterMap_dependency?_spaces_append, ih hmarks, dependency?_of_mark? hmark,
      List.map_cons, dependencies_cons]
    rintro a b ys hx hxs
    obtain ⟨y, ys', rfl, hy, hys⟩ := List.map_eq_cons_iff.mp hxs
    obtain ⟨z, zs, rfl, hz, -⟩ := List.map_eq_cons_iff.mp hys
    exact harea x.lead a x.image y.lead y.image z.lead b z.image zs (by rw [← hx])
      (by rw [← hy, ← hz])
  | case5 => cases h

/-- A formula without offsets depends on what its lexemes refer to. -/
theorem dependencies_of_formula {text : Text} {xs : List Lexeme} {t : Tree}
    (hlex : lex site.locale text = .ok xs) (ht : Reader.formula site (spaced xs) = .ok t)
    (hfree : ∀ x ∈ xs, x.symbol ≠ .offsetCall) : t.dependencies = site.dependenciesOf xs := by
  obtain ⟨ms, hmarks, hspelling⟩ := Reader.marks?_of_formula ht (neat_spaced hlex)
  have hms : ms = t.spelling := by
    refine hspelling fun y hy hoffset => ?_
    obtain ⟨x, hx, hsymbol⟩ := exists_mem_of_mem_spaced hy
    exact hfree x hx (hsymbol.trans hoffset)
  have hequal : (Mark.operator .equal :: ms).filterMap Mark.dependency? =
      ms.filterMap Mark.dependency? := rfl
  rw [t.dependencies_eq_spelling, ← hms, ← hequal, dependencies_of_marks? hmarks, dependenciesOf,
    map_symbol_spaced]

end Site

/-! ## Calls -/

/-- The canonical name of the function that a symbol calls. An offset is no call. -/
def Symbol.function? : Symbol → Option Text
  | .call function => some function
  | _ => none

/-- The functions that lexemes call. -/
def functionsOf (xs : List Spaced) : List Text :=
  xs.filterMap fun x => x.symbol.function?

/-- The functions that are called in a list of marks. -/
def calledIn (ms : List Mark) : List Text :=
  ms.filterMap Mark.function?

/-- The functions called in two lists are called in the joined one, in this order. -/
@[simp] lemma calledIn_append (ms ms' : List Mark) :
    calledIn (ms ++ ms') = calledIn ms ++ calledIn ms' :=
  List.filterMap_append

/-- Blanks call nothing. -/
@[simp] lemma calledIn_spaces (lead : Option Text) : calledIn (Mark.spaces lead) = [] := by
  cases lead <;> rfl

/-- The marks of a tree call its functions. -/
@[simp] lemma calledIn_marks (t : Tree) : calledIn t.marks = t.functions := rfl

/-- A mark that is no call calls nothing. -/
lemma calledIn_cons {m : Mark} (h : m.function? = none) (ms : List Mark) :
    calledIn (m :: ms) = calledIn ms :=
  List.filterMap_cons_none h

/-- A lexeme that is no call calls nothing. -/
lemma functionsOf_cons {x : Spaced} {s : Symbol} (hx : x.symbol = s) (hs : s.function? = none)
    (xs : List Spaced) : functionsOf (x :: xs) = functionsOf xs :=
  List.filterMap_cons_none (by rw [hx, hs])

namespace Tree

/-- An atom calls nothing. -/
@[simp] lemma functions_atom (lead : Option Text) (a : Atom) : (atom lead a).functions = [] := by
  cases lead <;> rfl

/-- A sign calls nothing. -/
@[simp] lemma functions_signed (lead : Option Text) (sign : Sign) (t : Tree) :
    (signed lead sign t).functions = t.functions := by
  cases lead <;> rfl

/-- A percent sign calls nothing. -/
@[simp] lemma functions_percent (lead : Option Text) (t : Tree) :
    (percent lead t).functions = t.functions := by
  have hmarks : calledIn (t.marks ++ Mark.spaces lead ++ [.percent]) = t.functions := by
    rw [calledIn_append, calledIn_append, calledIn_marks, calledIn_spaces, List.append_nil]
    exact List.append_nil _
  exact hmarks

/-- Parentheses call nothing. -/
@[simp] lemma functions_parens (lead : Option Text) (t : Tree) (inner : Option Text) :
    (parens lead t inner).functions = t.functions := by
  have hmarks : (parens lead t inner).marks =
      Mark.spaces lead ++ [.openParen] ++ (t.marks ++ (Mark.spaces inner ++ [.closeParen])) := by
    simp [marks]
  rw [← calledIn_marks, hmarks]
  simp only [calledIn_append, calledIn_spaces, calledIn_marks]
  exact List.append_nil _

/-- A tree with an operand put behind it calls the functions of both. -/
lemma functions_append (s : Tree) (lead : Option Text) (op : BinaryOp) (t : Tree) :
    (s.append lead op t).functions = s.functions ++ t.functions := by
  rw [← calledIn_marks, Reader.marks_append, calledIn_append, calledIn_append, calledIn_spaces,
    calledIn_cons rfl]
  rfl

/-- An integer that is written out calls nothing. -/
lemma functions_of_staticInteger? {t : Tree} {n : Int} (h : t.staticInteger? = some n) :
    t.functions = [] := by
  fun_induction staticInteger? t generalizing n with
  | case1 lead numeral => exact functions_atom lead _
  | case2 lead sign t ih =>
    obtain ⟨m, hm, -⟩ := Option.map_eq_some_iff.mp h
    rw [functions_signed, ih hm]
  | case3 => cases h

end Tree

namespace Reader

variable {site : Site}

/-- Arguments call their functions one after the other. -/
lemma calledIn_argumentMarks (ts : List Tree) (inner : Option Text) :
    calledIn (argumentMarks ts inner) = ts.flatMap Tree.functions := by
  have hmarks : calledIn ([.argumentSeparator].intercalate (ts.map Tree.marks)) =
      ts.flatMap Tree.functions := by
    rw [calledIn, Tree.filterMap_intercalate rfl, List.flatMap_map]
    rfl
  rw [argumentMarks, calledIn_append, calledIn_append, hmarks, calledIn_spaces,
    calledIn_cons rfl, List.append_nil]
  exact List.append_nil _

/-- A sole argument that is left out calls nothing. -/
lemma withoutSoleOmission_functions (ts : List Tree) (inner : Option Text) :
    (withoutSoleOmission (ts, inner)).1.flatMap Tree.functions = ts.flatMap Tree.functions := by
  rcases withoutSoleOmission_cases ts inner with ⟨lead, rfl, heq⟩ | ⟨-, heq⟩
  · rw [heq, List.flatMap_singleton, Tree.functions_atom]
    rfl
  · rw [heq]

/-- A call calls its function and those of its arguments. -/
lemma functions_call (lead : Option Text) (function : Text) (ts : List Tree) (inner : Option Text) :
    (Tree.call lead function (withoutSoleOmission (ts, inner)).1
      (withoutSoleOmission (ts, inner)).2).functions =
      function :: calledIn (argumentMarks ts inner) := by
  rw [← calledIn_marks, marks_call, calledIn_append, calledIn_append, calledIn_spaces,
    calledIn_argumentMarks, calledIn_argumentMarks, withoutSoleOmission_functions]
  rfl

/-- An array calls the functions of its rows. -/
lemma functions_array (lead : Option Text) (rows : List (List Tree)) (inner : Option Text) :
    (Tree.array lead rows inner).functions = calledIn (rowMarks rows inner) := by
  rw [← calledIn_marks, marks_array, calledIn_append, calledIn_append, calledIn_spaces]
  rfl

/-- The last member of the last row calls its functions. -/
lemma calledIn_lastRow (t : Tree) (inner : Option Text) :
    calledIn (rowMarks [[t]] inner) = t.functions := by
  have hrow : rowMarks [[t]] inner = t.marks ++ (Mark.spaces inner ++ [.closeBrace]) := by
    simp [rowMarks]
  rw [hrow, calledIn_append, calledIn_append, calledIn_spaces, calledIn_marks]
  exact List.append_nil _

/-- The arguments of an offset call nothing: the first one is a cell, and the others are integers
that are written out. -/
lemma functions_of_offset {ts : List Tree} {a : Atom} (h : site.offset ts = .ok a) :
    ts.flatMap Tree.functions = [] := by
  have hnumber : ∀ {argument : OffsetArgument} {numbers : List Tree} {i : Nat} {n : Int}
      (hi : i < numbers.length), Site.offsetNumber argument numbers[i]? = .ok n →
        numbers[i].functions = [] := by
    intro argument numbers i n hi hn
    rw [List.getElem?_eq_getElem hi, Site.offsetNumber] at hn
    split at hn
    · next hstatic => exact Tree.functions_of_staticInteger? hstatic
    · cases hn
  unfold Site.offset at h
  split at h
  · cases h
  · next hlength =>
    split at h
    · next lead origin numbers =>
      obtain ⟨rows, hrows, h⟩ := bind_eq_ok.mp h
      obtain ⟨columns, hcolumns, h⟩ := bind_eq_ok.mp h
      obtain ⟨height, hheight, h⟩ := bind_eq_ok.mp h
      obtain ⟨width, hwidth, -⟩ := bind_eq_ok.mp h
      rw [List.flatMap_cons, Tree.functions_atom, List.nil_append, List.flatMap_eq_nil_iff]
      intro t ht
      obtain ⟨i, hi, rfl⟩ := List.mem_iff_getElem.mp ht
      rw [List.length_cons] at hlength
      have hcases : i = 0 ∨ i = 1 ∨ i = 2 ∨ i = 3 := by omega
      rcases hcases with rfl | rfl | rfl | rfl
      · exact hnumber hi hrows
      · exact hnumber hi hcolumns
      · exact hnumber hi hheight
      · exact hnumber hi hwidth
    · cases h

/-- A lexeme that is an atom calls nothing. -/
lemma function?_of_mark? {x : Spaced} {a : Atom} (h : site.mark? x = some (.atom a)) :
    x.symbol.function? = none := by
  cases hx : x.symbol with
  | call function => simp [Site.mark?, hx] at h
  | _ => rfl

/-- What is called between `xs` and `rest` is what is called in the phrase. -/
def Phrase.Calls (xs rest : List Spaced) : Phrase → Prop
  | expression t | operand t | primary t => functionsOf xs = t.functions ++ functionsOf rest
  | chain s t | percents s t => s.functions ++ functionsOf xs = t.functions ++ functionsOf rest
  | reference _ | areaEnd _ => functionsOf xs = functionsOf rest
  | arguments ts inner => functionsOf xs = calledIn (argumentMarks ts inner) ++ functionsOf rest
  | rows ts inner => functionsOf xs = calledIn (rowMarks ts inner) ++ functionsOf rest

/-- What is read calls what its lexemes do. -/
theorem Reads.calls {p : Phrase} {xs rest : List Spaced} (h : Reads site p xs rest) :
    p.Calls xs rest := by
  -- Only a call adds a name. Those of the parts are put together in the order in which they are
  -- read.
  induction h with
  | expression _ _ ihs ihc => exact ihs.trans ihc
  | chainEnd _ => rfl
  | @chainStep t t' right x op xs ys rest hx _ _ ihr ih =>
    calc t.functions ++ functionsOf (x :: xs)
        = (t.append x.lead op right).functions ++ functionsOf ys := by
          rw [functionsOf_cons hx rfl, ihr, Tree.functions_append, List.append_assoc]
      _ = t'.functions ++ functionsOf rest := ih
  | sign hx _ ih =>
    rw [Phrase.Calls, functionsOf_cons (symbol_of_sign? hx) rfl, Tree.functions_signed]
    exact ih
  | unsigned _ _ _ ihp ih => exact ihp.trans ih
  | percentsEnd _ => rfl
  | percentsStep hx _ ih =>
    rw [Phrase.Calls, functionsOf_cons hx rfl]
    rwa [Phrase.Calls, Tree.functions_percent] at ih
  | @constant x a xs hcell ha =>
    rw [Phrase.Calls, functionsOf_cons rfl (function?_of_mark? ha), Tree.functions_atom]
    rfl
  | reference _ ih =>
    rw [Phrase.Calls, Tree.functions_atom]
    exact ih
  | @call x function ts inner xs rest hx _ ih =>
    have hcall : functionsOf (x :: xs) = function :: functionsOf xs :=
      List.filterMap_cons_some (by rw [hx]; rfl)
    rw [Phrase.Calls, hcall, functions_call, ih]
    rfl
  | @parens x y t xs rest hx _ hy ih =>
    rw [Phrase.Calls, functionsOf_cons hx rfl, Tree.functions_parens]
    rwa [Phrase.Calls, functionsOf_cons hy rfl] at ih
  | @array x rows inner xs rest hx _ _ ih =>
    rw [Phrase.Calls, functionsOf_cons hx rfl, functions_array]
    exact ih
  | lone _ _ ih => exact ih
  | area _ hy _ _ ih ih' =>
    rw [Phrase.Calls, functionsOf_cons hy rfl] at ih
    exact ih.trans ih'
  | cell hx => exact functionsOf_cons hx rfl _
  | @offset x ts inner a xs rest hx _ ha ih =>
    -- The arguments of an offset are a cell and numbers, which call nothing.
    have hsole := functions_of_offset ha
    rw [withoutSoleOmission_functions] at hsole
    rwa [Phrase.Calls, calledIn_argumentMarks, hsole, ← functionsOf_cons hx rfl] at ih
  | @lastOmitted x xs hx =>
    rw [Phrase.Calls, functionsOf_cons hx rfl, calledIn_argumentMarks, List.flatMap_singleton,
      Tree.functions_atom]
    rfl
  | @omitted x ts inner xs rest hx hts ih =>
    rw [Phrase.Calls, functionsOf_cons hx rfl, calledIn_argumentMarks, List.flatMap_cons,
      Tree.functions_atom, ih, calledIn_argumentMarks]
    rfl
  | @lastArgument y t xs rest _ hy ih =>
    rw [Phrase.Calls, functionsOf_cons hy rfl] at ih
    rw [Phrase.Calls, ih, calledIn_argumentMarks, List.flatMap_singleton]
  | @argument y t ts inner xs ys rest _ hy hts iht ih =>
    rw [Phrase.Calls, functionsOf_cons hy rfl, ih] at iht
    rw [Phrase.Calls, iht, calledIn_argumentMarks, calledIn_argumentMarks, List.flatMap_cons,
      List.append_assoc]
  | @lastRow y t xs rest _ hy ih =>
    rw [Phrase.Calls, functionsOf_cons hy rfl] at ih
    rw [Phrase.Calls, ih, calledIn_lastRow]
  | @column y t rows inner xs ys rest _ hy hrows iht ih =>
    rw [Phrase.Calls, functionsOf_cons hy rfl, ih] at iht
    rw [Phrase.Calls, iht, rowMarks_intoFirstRow hrows.rows_eq_cons, calledIn_append,
      calledIn_cons rfl, calledIn_marks, List.append_assoc]
  | @row y t rows inner xs ys rest _ hy hrows iht ih =>
    have hne : rows ≠ [] := by
      obtain ⟨u, row, rows', rfl⟩ := hrows.rows_eq_cons
      exact List.cons_ne_nil _ _
    rw [Phrase.Calls, functionsOf_cons hy rfl, ih] at iht
    rw [Phrase.Calls, iht, rowMarks_cons hne, calledIn_append, calledIn_cons rfl, calledIn_marks,
      List.append_assoc]

end Reader

namespace Tree

/-- A formula calls the functions that its lexemes call, in their order. -/
theorem functions_of_formula {site : Site} {xs : List Spaced} {t : Tree}
    (h : Reader.formula site xs = .ok t) : t.functions = functionsOf xs := by
  obtain ⟨x, ys, rfl, hx, -, ht⟩ := Reader.formula_eq_ok_iff.mp h
  have hcalls : functionsOf ys = t.functions ++ [] := ht.calls
  rw [functionsOf_cons hx rfl, hcalls, List.append_nil]

end Tree

/-- The functions called are those of the lexemes that open a call. -/
lemma mem_functionsOf_spaced {xs : List Lexeme} {f : Text} :
    f ∈ functionsOf (spaced xs) ↔ ∃ x ∈ xs, x.symbol = .call f := by
  have hsymbols : functionsOf (spaced xs) =
      ((xs.filter fun x => !x.isBlank).map Lexeme.symbol).filterMap Symbol.function? := by
    rw [← map_symbol_spaced, List.filterMap_map]
    rfl
  have hcall : ∀ {s : Symbol}, s.function? = some f ↔ s = .call f := by
    intro s
    cases s <;> simp [Symbol.function?]
  rw [hsymbols, List.mem_filterMap]
  constructor
  · rintro ⟨s, hs, hf⟩
    obtain ⟨x, hx, rfl⟩ := List.mem_map.mp hs
    exact ⟨x, List.mem_of_mem_filter hx, hcall.mp hf⟩
  · rintro ⟨x, hx, hf⟩
    have hblank : x.isBlank = false := by rw [Lexeme.isBlank, hf]; rfl
    have hmem : x ∈ xs.filter fun x => !x.isBlank := List.mem_filter.mpr ⟨hx, by rw [hblank]; rfl⟩
    exact ⟨_, List.mem_map_of_mem hmem, hcall.mpr hf⟩

/-! ## The entry of a formula -/

namespace Cache

/-- What a text is read as is its entry, unless another one is stored under its key. -/
lemma entry_read {s : Cache} {site : Site} {text : Text}
    (h : ∀ key, site.keyOf? text = some key → s.get? key = none) :
    (s.read site text).1.entry = .ofTree site.locale (site.read text).tree := by
  unfold Site.keyOf? at h
  unfold read Site.read
  cases hlex : lex site.locale text with
  | error mistakes => rfl
  | ok xs =>
    rw [hlex] at h
    dsimp only at h ⊢
    cases hkey : site.key? xs with
    | none => rfl
    | some key =>
      have hentry := h key hkey
      have hinsert := (insert_of_get?_eq_none site.locale (site.readLexemes text xs).tree
        (s := { s with misses := s.misses + 1 }) hentry).1
      dsimp only
      rw [lookup, hentry]
      dsimp only
      unfold readNew
      dsimp only
      split
      · exact hinsert
      · rfl

end Cache

namespace Site

/-- A formula's lexemes say what is kept about it. Without offsets it depends on what they refer
to, in their order and as often as they do. With offsets or without, its value can change by itself
if one of the functions that they call is such, and depends on the shape of the sheet likewise. -/
theorem entry_of_lexemes (site : Site) {text : Text} {xs : List Lexeme}
    (hlex : lex site.locale text = .ok xs) (h : (site.read text).isFormula = true) :
    let entry := Entry.ofTree site.locale (site.read text).tree
    (hasOffset site.locale text = false →
        entry.dependencies = (site.read text).tree.dependencies ∧
          entry.dependencies = site.dependenciesOf xs) ∧
      (entry.isVolatile = true ↔
        ∃ x ∈ xs, ∃ f ∈ site.locale.volatileFunctions, x.symbol = .call f) ∧
      (entry.isStructural = true ↔
        ∃ x ∈ xs, ∃ f ∈ site.locale.structuralFunctions, x.symbol = .call f) ∧
      ∀ s : Cache, (∀ key, site.keyOf? text = some key → s.get? key = none) →
        (s.read site text).1.entry = entry := by
  intro entry
  have ht := formula_of_isFormula hlex h
  have hany : ∀ names : List Text, (site.read text).tree.functions.any names.contains = true ↔
      ∃ x ∈ xs, ∃ f ∈ names, x.symbol = .call f := by
    intro names
    rw [Tree.functions_of_formula ht, List.any_eq_true]
    simp only [mem_functionsOf_spaced, List.contains_iff_mem]
    constructor
    · rintro ⟨f, ⟨x, hx, hf⟩, hname⟩
      exact ⟨x, hx, f, hname, hf⟩
    · rintro ⟨x, hx, f, hname, hf⟩
      exact ⟨f, ⟨x, hx, hf⟩, hname⟩
  refine ⟨fun hfree => ⟨rfl, ?_⟩, hany _, hany _, fun s hs => Cache.entry_read hs⟩
  exact dependencies_of_formula hlex ht (symbol_ne_of_hasOffset hfree hlex)

/-- An area with blanks in it, one that leaves the sheet, a name, a run of rows and a cell that
comes twice, in calls of which one can change by itself and one depends on the shape of the sheet.
-/
theorem entry_of_lexemes_calls :
    let site : Site := ⟨.unitedStates, ⟨fun _ => none, fun _ => none⟩, ⟨0, 1, 0⟩⟩
    let text := "=Rand()*-XFE1:A1%+A1^ROWS(A1 : B2,,(rate&2:$3),A1)".toList
    let xs := (lex site.locale text).toOption.getD []
    let entry := Entry.ofTree site.locale (site.read text).tree
    lex site.locale text = .ok xs ∧ (site.read text).isFormula = true ∧
      hasOffset site.locale text = false ∧ entry.dependencies = site.dependenciesOf xs ∧
      site.dependenciesOf xs =
        [.cell ⟨⟨.relative, -1⟩, ⟨.relative, 0⟩, none⟩,
          .cells ⟨⟨⟨.relative, -1⟩, ⟨.relative, 0⟩, none⟩,
            ⟨⟨.relative, 0⟩, ⟨.relative, 1⟩, none⟩, .neither⟩,
          .name "rate".toList,
          .lines .row ⟨⟨⟨.relative, 1⟩, none⟩, ⟨⟨.absolute, 2⟩, none⟩, .neither⟩,
          .cell ⟨⟨.relative, -1⟩, ⟨.relative, 0⟩, none⟩] ∧
      entry.isVolatile = true ∧ entry.isStructural = true ∧
      (Cache.empty.read site text).1.entry = entry := by
  intro site text xs entry
  have hlex : lex site.locale text = .ok xs := by decide +kernel
  have hformula : (site.read text).isFormula = true := by decide +kernel
  have hfree : hasOffset site.locale text = false := by decide +kernel
  obtain ⟨hdependencies, hvolatile, hstructural, hread⟩ := site.entry_of_lexemes hlex hformula
  refine ⟨hlex, hformula, hfree, (hdependencies hfree).2, by decide +kernel, hvolatile.mpr ?_,
    hstructural.mpr ?_, hread .empty fun _ _ => rfl⟩
  · decide +kernel
  · decide +kernel

end Site

end GridFormula
