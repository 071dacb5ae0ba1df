import GridFormula.Proofs.Formula.Shape
import GridFormula.Proofs.Formula.Spelling

/-!
# A canonical tree is read back from its marks

Whatever lexemes make the marks that a canonical tree spells, the reader makes that tree of them.
The grouping is not in the marks; it is found again because an operand is always attached to the
tree on its left in one way. So two canonical trees with the same marks are the same tree.
-/

namespace GridFormula

/-! ## The marks of each kind of tree -/

namespace Mark

/-- Whether the mark is blanks. -/
def isSpace : Mark → Bool
  | .space _ => true
  | _ => false

/-- The first mark that is no blank. -/
def next (ms : List Mark) : Option Mark :=
  ms.find? fun m => !m.isSpace

/-- Behind blanks the next mark is the first one that is none. -/
lemma next_spaces_append (lead : Option Text) (m : Mark) (ms : List Mark)
    (hm : m.isSpace = false) : next (spaces lead ++ m :: ms) = some m := by
  cases lead with
  | none => simp [next, spaces, hm]
  | some blanks =>
    have hspace : (!(space blanks).isSpace) = false := rfl
    simp [next, spaces, hspace, hm]

/-- A mark that is no blank is the next one. -/
lemma next_cons {m : Mark} (hm : m.isSpace = false) (ms : List Mark) :
    next (m :: ms) = some m :=
  next_spaces_append none m ms hm

end Mark

namespace Tree

/-- An atom is spelled behind its blanks. -/
lemma spelling_atom {a : Atom} (h : a ≠ .omitted) (lead : Option Text) :
    (atom lead a).spelling = Mark.spaces lead ++ [.atom a] := by
  rw [spelling, marks, filter_spaces_append (isWritten_atom h)]

/-- A sign is spelled in front of its operand. -/
lemma spelling_signed (lead : Option Text) (sign : Sign) (t : Tree) :
    (signed lead sign t).spelling =
      Mark.spaces lead ++ .operator sign.operator :: t.spelling := by
  rw [spelling, marks, List.filter_append, filter_spaces, List.filter_cons_of_pos rfl]
  rfl

/-- A percent sign is spelled behind its operand. -/
lemma spelling_percent (lead : Option Text) (t : Tree) :
    (percent lead t).spelling = t.spelling ++ (Mark.spaces lead ++ [.percent]) := by
  rw [spelling, marks, List.append_assoc, List.filter_append, filter_spaces_append rfl]
  rfl

/-- An operator is spelled between its operands. -/
lemma spelling_binary (lead : Option Text) (op : BinaryOp) (s t : Tree) :
    (binary lead op s t).spelling =
      s.spelling ++ (Mark.spaces lead ++ .operator op :: t.spelling) := by
  rw [spelling, marks, List.append_assoc, List.filter_append, List.filter_append, filter_spaces,
    List.filter_cons_of_pos rfl]
  rfl

/-- A call is spelled by its function and its arguments, as far as these are written. -/
lemma spelling_call (lead : Option Text) (function : Text) (ts : List Tree)
    (inner : Option Text) :
    (call lead function ts inner).spelling =
      Mark.spaces lead ++ .call function ::
        (Reader.argumentMarks ts inner).filter Mark.isWritten := by
  rw [spelling, Reader.marks_call, List.append_assoc, List.filter_append, filter_spaces]
  rfl

/-- Parentheses are spelled around the tree in them. -/
lemma spelling_parens (lead : Option Text) (t : Tree) (inner : Option Text) :
    (parens lead t inner).spelling =
      Mark.spaces lead ++ .openParen :: (t.spelling ++ (Mark.spaces inner ++ [.closeParen])) := by
  rw [spelling, marks, List.filter_append, filter_spaces, List.filter_cons_of_pos rfl,
    List.append_assoc, List.filter_append, filter_spaces_append rfl]
  rfl

/-- An array is spelled by its opening brace and its rows, as far as these are written. -/
lemma spelling_array (lead : Option Text) (rows : List (List Tree)) (inner : Option Text) :
    (array lead rows inner).spelling =
      Mark.spaces lead ++ .openBrace :: (Reader.rowMarks rows inner).filter Mark.isWritten := by
  rw [spelling, Reader.marks_array, List.append_assoc, List.filter_append, filter_spaces]
  rfl

end Tree

namespace Reader

variable {site : Site}

/-! ## The lexemes behind given marks -/

/-- Only one symbol makes the mark. -/
lemma symbol_of_mark? {x : Spaced} {m : Mark} {s : Symbol} (h : site.mark? x = some m)
    (hs : m.symbol? = some s) : x.symbol = s := by
  unfold Site.mark? at h
  split at h
  case h_6 axis a b hx =>
    obtain ⟨a', -, rfl⟩ := Option.map_eq_some_iff.mp h
    cases hs
  all_goals
    cases h
    first
      | (cases hs; assumption)
      | cases hs

/-- A lexeme that is no blank makes no blanks. -/
lemma isSpace_of_mark? {x : Spaced} {m : Mark} (h : site.mark? x = some m)
    (hx : x.symbol ≠ .blank) : m.isSpace = false := by
  unfold Site.mark? at h
  split at h
  case h_1 hblank => exact absurd hblank hx
  case h_6 axis a b hx =>
    obtain ⟨a', -, rfl⟩ := Option.map_eq_some_iff.mp h
    rfl
  all_goals
    cases h
    rfl

/-- Where blanks end and which mark follows them is known from the list. -/
lemma spaces_append_inj {lead lead' : Option Text} {m m' : Mark} {ms ms' : List Mark}
    (hm : m.isSpace = false) (hm' : m'.isSpace = false)
    (h : Mark.spaces lead ++ m :: ms = Mark.spaces lead' ++ m' :: ms') :
    lead = lead' ∧ m = m' ∧ ms = ms' := by
  cases lead with
  | none =>
    cases lead' with
    | none =>
      obtain ⟨rfl, rfl⟩ := List.cons.inj h
      exact ⟨rfl, rfl, rfl⟩
    | some b =>
      obtain ⟨rfl, -⟩ := List.cons.inj h
      cases hm
  | some a =>
    cases lead' with
    | none =>
      obtain ⟨rfl, -⟩ := List.cons.inj h
      cases hm'
    | some b =>
      obtain ⟨hab, h⟩ := List.cons.inj h
      obtain ⟨rfl, rfl⟩ := List.cons.inj h
      exact ⟨congrArg some (Mark.space.inj hab), rfl, rfl⟩

/-- The first mark that is no blank is made by the first lexeme, alone or with the last end of an
area. -/
lemma lexemes_of_marks? {b : Bool} {xs : List Spaced} {lead : Option Text} {m : Mark}
    {ms : List Mark} (hneat : Neat b xs) (hm : m.isSpace = false)
    (h : site.marks? xs = some (Mark.spaces lead ++ m :: ms)) :
    (∃ x ys, xs = x :: ys ∧ x.lead = lead ∧ site.mark? x = some m ∧ site.marks? ys = some ms) ∨
      ∃ x y z ys w w' a, xs = x :: y :: z :: ys ∧ x.lead = lead ∧ m = .atom a ∧
        x.symbol = .cell w ∧ y.symbol = .colon ∧ z.symbol = .cell w' ∧
        site.cells? w w' (x.image ++ ':' :: z.image) = some a ∧ site.marks? ys = some ms := by
  unfold Site.marks? at h
  split at h
  · cases lead <;> cases h
  · next lead' w image lead'' image' lead''' w' image'' ys =>
    split at h
    · next a ms' ha hms' =>
      obtain ⟨rfl, rfl, rfl⟩ := spaces_append_inj rfl hm (Option.some.inj h)
      exact Or.inr ⟨_, _, _, ys, w, w', a, rfl, rfl, rfl, rfl, rfl, rfl, ha, hms'⟩
    · cases h
  · next x ys _ =>
    split at h
    · next m' ms' hm' hms' =>
      have hspace := isSpace_of_mark? hm' hneat.1.notBlank
      obtain ⟨rfl, rfl, rfl⟩ := spaces_append_inj hspace hm (Option.some.inj h)
      exact Or.inl ⟨x, ys, rfl, rfl, hm', hms'⟩
    · cases h

/-- The lexeme that makes a mark which is no atom. -/
lemma lexeme_of_marks? {b : Bool} {xs : List Spaced} (lead : Option Text) (m : Mark)
    {ms : List Mark} {s : Symbol} (hneat : Neat b xs) (hs : m.symbol? = some s)
    (h : site.marks? xs = some (Mark.spaces lead ++ m :: ms)) :
    ∃ x ys, xs = x :: ys ∧ x.lead = lead ∧ x.symbol = s ∧ site.marks? ys = some ms := by
  have hspace : m.isSpace = false := by
    cases m <;> first | rfl | cases hs
  rcases lexemes_of_marks? hneat hspace h with ⟨x, ys, rfl, hlead, hm, hys⟩ | harea
  · exact ⟨x, ys, rfl, hlead, symbol_of_mark? hm hs, hys⟩
  · obtain ⟨x, y, z, ys, w, w', a, -, -, rfl, -⟩ := harea
    cases hs

/-- The lexemes in front make the first mark that is no blank. -/
lemma next_of_marks? {b : Bool} {x : Spaced} {xs : List Spaced} {ms : List Mark} {m : Mark}
    (hneat : Neat b (x :: xs)) (hx : site.mark? x = some m) (hcell : ∀ w, x.symbol ≠ .cell w)
    (h : site.marks? (x :: xs) = some ms) : Mark.next ms = some m := by
  unfold Site.marks? at h
  split at h
  · next hnil => cases hnil
  · next heq =>
    cases heq
    exact absurd rfl (hcell _)
  · next y ys _ heq =>
    cases heq
    split at h
    · next m' ms' hm' _ =>
      cases hx.symm.trans hm'
      cases h
      exact Mark.next_spaces_append _ _ _ (isSpace_of_mark? hx hneat.1.notBlank)
    · cases h

/-- Every lexeme makes a mark. -/
lemma eq_nil_of_marks? {xs : List Spaced} (h : site.marks? xs = some []) : xs = [] := by
  cases xs with
  | nil => rfl
  | cons x xs =>
    unfold Site.marks? at h
    split at h
    · next hnil => cases hnil
    · split at h <;> simp at h
    · split at h <;> simp at h

/-! ## Reading trees -/

/-- The marks go on in a way in which no reference, no operand or no expression goes on. -/
def Stops (stop : Mark → Prop) (ms : List Mark) : Prop :=
  ∀ m ∈ Mark.next ms, stop m

/-- A mark that no reference goes on with. -/
def EndsReference (m : Mark) : Prop :=
  m ≠ .colon

/-- A mark that no operand goes on with. -/
def EndsOperand (m : Mark) : Prop :=
  m ≠ .colon ∧ m ≠ .percent

/-- A mark that no expression goes on with. -/
def EndsExpression (m : Mark) : Prop :=
  m ≠ .colon ∧ m ≠ .percent ∧ ∀ op, m ≠ .operator op

/-- What stops for a reason stops for any weaker one. -/
lemma Stops.mono {p q : Mark → Prop} {ms : List Mark} (h : Stops p ms) (hpq : ∀ m, p m → q m) :
    Stops q ms :=
  fun m hm => hpq m (h m hm)

/-- Everything stops at the end. -/
lemma stops_nil {p : Mark → Prop} : Stops p [] := fun m hm => absurd hm (Option.not_mem_none m)

/-- A mark that stops a phrase does so behind blanks. -/
lemma stops_spaces_append {p : Mark → Prop} {m : Mark} (hm : m.isSpace = false) (hp : p m)
    (lead : Option Text) (ms : List Mark) : Stops p (Mark.spaces lead ++ m :: ms) := by
  intro m' hm'
  rw [Mark.next_spaces_append lead m ms hm] at hm'
  cases hm'
  exact hp

/-- A mark that stops a phrase does so at once. -/
lemma stops_cons {p : Mark → Prop} {m : Mark} (hm : m.isSpace = false) (hp : p m)
    (ms : List Mark) : Stops p (m :: ms) :=
  stops_spaces_append hm hp none ms

/-- Where the marks stop, no lexeme stands in front that makes a mark to go on with. -/
lemma Stops.head {p : Mark → Prop} {b : Bool} {xs : List Spaced} {ms : List Mark}
    (h : Stops p ms) (hneat : Neat b xs) (hxs : site.marks? xs = some ms) {m : Mark}
    (hm : ¬p m) {s : Symbol} (hs : m.symbol? = some s)
    (hmark : ∀ x : Spaced, x.symbol = s → site.mark? x = some m) :
    ∀ x ∈ xs.head?, x.symbol ≠ s := by
  cases xs with
  | nil => exact nofun
  | cons x xs =>
    rintro y hy hsymbol
    cases hy
    refine hm (h m (next_of_marks? hneat (hmark x hsymbol) ?_ hxs))
    rintro w hw
    rw [hsymbol] at hw
    subst hw
    cases m <;> cases hs

/-- Where a reference ends there is no colon. -/
lemma Stops.noColon {b : Bool} {xs : List Spaced} {ms : List Mark} (h : Stops EndsReference ms)
    (hneat : Neat b xs) (hxs : site.marks? xs = some ms) : NoColon xs :=
  h.head hneat hxs (m := .colon) (fun hm => hm rfl) rfl fun x hx => by simp [Site.mark?, hx]

/-- The lexemes `xs` read as the phrase make the marks `ms` behind it. -/
def ReadsUpTo (site : Site) (p : Phrase) (xs : List Spaced) (ms : List Mark) : Prop :=
  ∃ ys, Reads site p xs ys ∧ site.marks? ys = some ms ∧ Neat false ys

/-- An atom is read back from its mark. -/
lemma readsUpTo_atom {b : Bool} {xs : List Spaced} {lead : Option Text} {a : Atom}
    {ms : List Mark} (hneat : Neat b xs) (hstop : Stops EndsReference ms)
    (h : site.marks? xs = some (Mark.spaces lead ++ .atom a :: ms)) :
    ReadsUpTo site (.primary (.atom lead a)) xs ms := by
  rcases lexemes_of_marks? hneat rfl h with ⟨x, ys, rfl, rfl, ha, hys⟩ | harea
  · have hsep : x.symbol ≠ .argumentSeparator := fun hx => by simp [Site.mark?, hx] at ha
    have hys' := hneat.tail_of_ne hsep
    refine ⟨ys, ?_, hys, hys'⟩
    by_cases hcell : ∃ w, x.symbol = .cell w
    · obtain ⟨w, hx⟩ := hcell
      have hatom : site.cell w x.image = a := by simpa [Site.mark?, hx] using ha
      have hread : Reads site (.reference (site.cell w x.image)) (x :: ys) ys :=
        .lone (.cell hx) (hstop.noColon hys' hys)
      rw [hatom] at hread
      exact .reference hread
    · exact .constant (fun w hw => hcell ⟨w, hw⟩) ha
  · obtain ⟨x, y, z, ys, w, w', a', rfl, rfl, ha, hx, hy, hz, hcells, hys⟩ := harea
    obtain rfl := Mark.atom.inj ha
    have htail := (hneat.tail_of_ne (by simp [hx])).tail_of_ne (by simp [hy])
    refine ⟨ys, .reference (.area (.cell hx) hy (.cell hz) ?_), hys,
      htail.tail_of_ne (by simp [hz])⟩
    rw [writtenUpTo_area hneat hy]
    unfold area
    dsimp only
    rw [hcells]

/-- What starts a primary is no sign. -/
lemma Reads.sign?_primary {x : Spaced} {xs rest : List Spaced} {t : Tree}
    (h : Reads site (.primary t) (x :: xs) rest) : sign? x.symbol = none := by
  cases h with
  | constant _ ha =>
    unfold Site.mark? at ha
    split at ha <;> first | (cases ha; done) | simp_all [sign?]
  | reference hr =>
    rcases hr.symbol_reference with ⟨w, hx⟩ | hx
    · rw [hx]
      rfl
    · rw [hx]
      rfl
  | call hx _ =>
    rw [hx]
    rfl
  | parens hx _ _ =>
    rw [hx]
    rfl
  | array hx _ _ =>
    rw [hx]
    rfl

/-- The tree is read back as a primary with percent signs behind it: a primary is read, and reading
on behind the tree is reading on behind the primary. -/
def PrimaryBack (site : Site) (t : Tree) : Prop :=
  ∀ b xs ms, Neat b xs → Stops EndsReference ms → site.marks? xs = some (t.spelling ++ ms) →
    ∃ s ys zs, Reads site (.primary s) xs ys ∧ site.marks? zs = some ms ∧ Neat false zs ∧
      ∀ t' rest, Reads site (.percents t t') zs rest → Reads site (.percents s t') ys rest

/-- The tree is read back as an operand. -/
def OperandBack (site : Site) (t : Tree) : Prop :=
  ∀ b xs ms, Neat b xs → Stops EndsOperand ms → site.marks? xs = some (t.spelling ++ ms) →
    ReadsUpTo site (.operand t) xs ms

/-- The tree is read back as an operand with operators behind it. To read on behind the tree is to
read on behind the operand, also where both stand on the right edge of a greater tree whose
operators bind less closely. -/
def ChainBack (site : Site) (t : Tree) : Prop :=
  ∀ edge : Tree → Tree,
    (∀ u lead op right, t.level ≤ op.level →
      edge (u.append lead op right) = (edge u).append lead op right) →
    ∀ b xs ms, Neat b xs → Stops EndsOperand ms → site.marks? xs = some (t.spelling ++ ms) →
      ∃ s ys zs, Reads site (.operand s) xs ys ∧ site.marks? zs = some ms ∧ Neat false zs ∧
        ∀ t' rest, Reads site (.chain (edge t) t') zs rest → Reads site (.chain (edge s) t') ys rest

/-- The tree is read back as an expression. -/
def ExpressionBack (site : Site) (t : Tree) : Prop :=
  ∀ b xs ms, Neat b xs → Stops EndsExpression ms → site.marks? xs = some (t.spelling ++ ms) →
    ReadsUpTo site (.expression t) xs ms

/-- The tree is read back wherever a tree of its level is read. -/
structure Back (site : Site) (t : Tree) : Prop where
  primary : BinaryOp.signLevel < t.level → PrimaryBack site t
  operand : BinaryOp.signLevel ≤ t.level → OperandBack site t
  chain : ChainBack site t
  expression : ExpressionBack site t

/-- What is read back as a primary is read back as an operand. -/
lemma PrimaryBack.operand {t : Tree} (h : PrimaryBack site t) : OperandBack site t := by
  intro b xs ms hneat hstop hxs
  obtain ⟨s, ys, zs, hs, hzs, hneatzs, hon⟩ := h b xs ms hneat (hstop.mono fun _ h => h.1) hxs
  obtain ⟨x, xs, rfl, -⟩ := hs.startsOperand_primary
  have hend : ∀ z ∈ zs.head?, z.symbol ≠ .percent :=
    hstop.head hneatzs hzs (m := .percent) (fun hm => hm.2 rfl) rfl
      fun x hx => by simp [Site.mark?, hx]
  exact ⟨zs, .unsigned hs.sign?_primary hs (hon _ _ (.percentsEnd hend)), hzs, hneatzs⟩

/-- What is read back as an operand is read back with operators behind it. -/
lemma OperandBack.chain {t : Tree} (h : OperandBack site t) : ChainBack site t := by
  intro edge _ b xs ms hneat hstop hxs
  obtain ⟨ys, ht, hys, hneatys⟩ := h b xs ms hneat hstop hxs
  exact ⟨t, ys, ys, ht, hys, hneatys, fun _ _ h => h⟩

/-- What is read back with operators behind it is read back as an expression. -/
lemma ChainBack.expression {t : Tree} (h : ChainBack site t) : ExpressionBack site t := by
  intro b xs ms hneat hstop hxs
  obtain ⟨s, ys, zs, hs, hzs, hneatzs, hon⟩ := h id (fun _ _ _ _ _ => rfl) b xs ms hneat
    (hstop.mono fun _ h => ⟨h.1, h.2.1⟩) hxs
  have hend : ∀ z ∈ zs.head?, ∀ op, z.symbol ≠ .operator op := fun z hz op =>
    hstop.head hneatzs hzs (m := .operator op) (fun hm => hm.2.2 op rfl) rfl
      (fun x hx => by simp [Site.mark?, hx]) z hz
  exact ⟨zs, .expression hs (hon _ _ (.chainEnd hend)), hzs, hneatzs⟩

/-- What is read back as a primary is read back on every level. -/
lemma Back.of_primary {t : Tree} (h : PrimaryBack site t) : Back site t :=
  ⟨fun _ => h, fun _ => h.operand, h.operand.chain, h.operand.chain.expression⟩

/-- A tree no tighter than a sign is read back if it is as an operand. -/
lemma Back.of_operand {t : Tree} (hlevel : ¬BinaryOp.signLevel < t.level)
    (h : OperandBack site t) : Back site t :=
  ⟨fun hlt => absurd hlt hlevel, fun _ => h, h.chain, h.chain.expression⟩

/-- A tree that is read as one primary is read back. -/
lemma Back.of_reads {t : Tree}
    (h : ∀ b xs ms, Neat b xs → Stops EndsReference ms → site.marks? xs = some (t.spelling ++ ms) →
      ReadsUpTo site (.primary t) xs ms) : Back site t := by
  refine .of_primary fun b xs ms hneat hstop hxs => ?_
  obtain ⟨ys, ht, hys, hneatys⟩ := h b xs ms hneat hstop hxs
  exact ⟨t, ys, ys, ht, hys, hneatys, fun _ _ h => h⟩

/-- A signed tree is read back. -/
lemma back_signed {t : Tree} (lead : Option Text) (sign : Sign) (ht : Back site t)
    (hlevel : BinaryOp.signLevel ≤ t.level) : Back site (.signed lead sign t) := by
  refine .of_operand (Nat.lt_irrefl _) fun b xs ms hneat hstop hxs => ?_
  rw [Tree.spelling_signed, List.append_assoc] at hxs
  obtain ⟨x, ys, rfl, rfl, hx, hys⟩ := lexeme_of_marks? _ _ hneat rfl hxs
  obtain ⟨zs, hread, hzs, hneatzs⟩ :=
    ht.operand hlevel false ys ms (hneat.tail_of_ne (by simp [hx])) hstop hys
  have hsign : sign? x.symbol = some sign := by
    rw [hx]
    exact BinaryOp.sign?_eq_some_iff.mpr rfl
  exact ⟨zs, .sign hsign hread, hzs, hneatzs⟩

/-- A tree with a percent sign is read back. -/
lemma back_percent {t : Tree} (lead : Option Text) (ht : Back site t)
    (hlevel : BinaryOp.signLevel < t.level) : Back site (.percent lead t) := by
  refine .of_primary fun b xs ms hneat hstop hxs => ?_
  rw [Tree.spelling_percent, List.append_assoc, List.append_assoc] at hxs
  obtain ⟨s, ys, zs, hs, hzs, hneatzs, hon⟩ :=
    ht.primary hlevel b xs _ hneat (stops_spaces_append rfl nofun lead ms) hxs
  obtain ⟨z, zs, rfl, rfl, hz, hzs⟩ := lexeme_of_marks? _ _ hneatzs rfl hzs
  refine ⟨s, ys, zs, hs, hzs, hneatzs.tail_of_ne (by simp [hz]), fun t' rest hrest => ?_⟩
  exact hon _ _ (.percentsStep hz hrest)

/-- An operator whose left operand binds at least as closely takes it as it is. -/
lemma append_of_level_le {s : Tree} {op : BinaryOp} (h : op.level ≤ s.level)
    (lead : Option Text) (right : Tree) :
    s.append lead op right = .binary lead op s right := by
  fun_cases Tree.append s lead op right with
  | case1 lead' op' s t hlt =>
    rw [Tree.level] at h
    omega
  | case2 lead' op' s t hlt => rfl
  | case3 s h => rfl

/-- Two trees with an operator between them are read back. -/
lemma back_binary {s t : Tree} (lead : Option Text) (op : BinaryOp) (hs : Back site s)
    (ht : Back site t) (hslevel : op.level ≤ s.level) (htlevel : op.level < t.level) :
    Back site (.binary lead op s t) := by
  have hop := Tree.BinaryOp.level_lt_signLevel op
  have hlevel : (Tree.binary lead op s t).level = op.level := rfl
  have hchain : ChainBack site (.binary lead op s t) := by
    intro edge hedge b xs ms hneat hstop hxs
    rw [Tree.spelling_binary, List.append_assoc, List.append_assoc] at hxs
    rw [hlevel] at hedge
    -- The left operand, up to the operator.
    obtain ⟨s₀, ys, zs, hs₀, hzs, hneatzs, hon⟩ := hs.chain edge
      (fun u lead' op' right h => hedge u lead' op' right (by omega)) b xs _ hneat
      (stops_spaces_append rfl ⟨nofun, nofun⟩ lead _) hxs
    obtain ⟨z, zs, rfl, rfl, hz, hzs⟩ := lexeme_of_marks? _ _ hneatzs rfl hzs
    -- The right operand. It stands on the right edge, below the operator.
    have hright : ∀ u lead' op' right, t.level ≤ op'.level →
        edge (.binary z.lead op s (u.append lead' op' right)) =
          (edge (.binary z.lead op s u)).append lead' op' right := by
      intro u lead' op' right h
      rw [← hedge _ _ _ _ (by omega), Tree.append, if_pos (by omega)]
    obtain ⟨t₀, ws, vs, ht₀, hvs, hneatvs, hon'⟩ := ht.chain (fun u => edge (.binary z.lead op s u))
      hright false zs ms (hneatzs.tail_of_ne (by simp [hz])) hstop hzs
    refine ⟨s₀, ys, vs, hs₀, hvs, hneatvs, fun t' rest hrest => hon _ _ (.chainStep hz ht₀ ?_)⟩
    rw [← hedge _ _ _ _ (Nat.le_refl _), append_of_level_le hslevel]
    exact hon' _ _ hrest
  refine ⟨fun h => ?_, fun h => ?_, hchain, hchain.expression⟩
  · rw [hlevel] at h
    omega
  · rw [hlevel] at h
    omega

/-- An atom is read back. -/
lemma back_atom {a : Atom} (lead : Option Text) (ha : a ≠ .omitted) :
    Back site (.atom lead a) := by
  refine .of_reads fun b xs ms hneat hstop hxs => ?_
  rw [Tree.spelling_atom ha, List.append_assoc] at hxs
  exact readsUpTo_atom hneat hstop hxs

/-- A tree in parentheses is read back. -/
lemma back_parens {t : Tree} (lead inner : Option Text) (ht : Back site t) :
    Back site (.parens lead t inner) := by
  refine .of_reads fun b xs ms hneat _ hxs => ?_
  rw [Tree.spelling_parens, List.append_assoc, List.cons_append, List.append_assoc,
    List.append_assoc] at hxs
  obtain ⟨x, ys, rfl, rfl, hx, hys⟩ := lexeme_of_marks? _ _ hneat rfl hxs
  obtain ⟨zs, hread, hzs, hneatzs⟩ := ht.expression false ys _ (hneat.tail_of_ne (by simp [hx]))
    (stops_spaces_append rfl ⟨nofun, nofun, nofun⟩ inner ms) hys
  obtain ⟨z, zs, rfl, rfl, hz, hzs⟩ := lexeme_of_marks? _ _ hneatzs rfl hzs
  exact ⟨zs, .parens hx hread hz, hzs, hneatzs.tail_of_ne (by simp [hz])⟩

/-! ## Arguments and rows -/

/-- The last argument is spelled in front of the closing parenthesis. -/
lemma filter_argumentMarks_singleton (t : Tree) (inner : Option Text) :
    (argumentMarks [t] inner).filter Mark.isWritten =
      t.spelling ++ (Mark.spaces inner ++ [.closeParen]) := by
  rw [argumentMarks, List.map_cons, List.map_nil, List.intercalate_singleton, List.append_assoc,
    List.filter_append, filter_spaces_append rfl]
  rfl

/-- An argument is spelled in front of a separator and the other ones. -/
lemma filter_argumentMarks_cons {t : Tree} {ts : List Tree} (h : ts ≠ []) (inner : Option Text) :
    (argumentMarks (t :: ts) inner).filter Mark.isWritten =
      t.spelling ++ .argumentSeparator :: (argumentMarks ts inner).filter Mark.isWritten := by
  rw [argumentMarks_cons h, List.filter_append, List.filter_cons_of_pos rfl]
  rfl

/-- Of an omitted argument only the blanks are spelled. -/
lemma spelling_omitted (lead : Option Text) :
    (Tree.atom lead .omitted).spelling = Mark.spaces lead := by
  cases lead <;> rfl

/-- The arguments of a call are read back, whether they are written or left out. -/
lemma readsUpTo_arguments {ts : List Tree} {inner : Option Text} (hne : ts ≠ [])
    (hts : ∀ t ∈ ts, ¬t.IsOmitted → ExpressionBack site t)
    (hlast : ∀ t, ts.getLast? = some t → t.IsOmitted → inner = none) {b : Bool}
    {xs : List Spaced} {ms : List Mark} (hneat : Neat b xs)
    (hxs : site.marks? xs = some ((argumentMarks ts inner).filter Mark.isWritten ++ ms)) :
    ReadsUpTo site (.arguments ts inner) xs ms := by
  -- The last argument is closed by the parenthesis and every other one by a separator. Of one that
  -- is left out nothing else can be seen.
  induction ts generalizing b xs with
  | nil => exact absurd rfl hne
  | cons t ts ih =>
    obtain ⟨ht, hts'⟩ := List.forall_mem_cons.mp hts
    cases ts with
    | nil =>
      rw [filter_argumentMarks_singleton, List.append_assoc, List.append_assoc] at hxs
      by_cases homitted : t.IsOmitted
      · obtain rfl := hlast t rfl homitted
        obtain ⟨lead, rfl⟩ := homitted
        rw [spelling_omitted] at hxs
        obtain ⟨x, ys, rfl, rfl, hx, hys⟩ := lexeme_of_marks? _ _ hneat rfl hxs
        exact ⟨ys, .lastOmitted hx, hys, hneat.tail_of_ne (by simp [hx])⟩
      · obtain ⟨ys, hread, hys, hneatys⟩ := ht homitted b xs _ hneat
          (stops_spaces_append rfl ⟨nofun, nofun, nofun⟩ inner ms) hxs
        obtain ⟨y, ys, rfl, rfl, hy, hys⟩ := lexeme_of_marks? _ _ hneatys rfl hys
        exact ⟨ys, .lastArgument hread hy, hys, hneatys.tail_of_ne (by simp [hy])⟩
    | cons u ts =>
      have hne' : u :: ts ≠ [] := List.cons_ne_nil _ _
      rw [List.getLast?_cons_of_ne_nil hne'] at hlast
      rw [filter_argumentMarks_cons hne', List.append_assoc, List.cons_append] at hxs
      by_cases homitted : t.IsOmitted
      · obtain ⟨lead, rfl⟩ := homitted
        rw [spelling_omitted] at hxs
        obtain ⟨x, ys, rfl, rfl, hx, hys⟩ := lexeme_of_marks? _ _ hneat rfl hxs
        obtain ⟨zs, hread, hzs, hneatzs⟩ := ih hne' hts' hlast (hneat.tail_of_eq hx) hys
        exact ⟨zs, .omitted hx hread, hzs, hneatzs⟩
      · obtain ⟨ys, hread, hys, hneatys⟩ := ht homitted b xs _ hneat
          (stops_cons rfl ⟨nofun, nofun, nofun⟩ _) hxs
        obtain ⟨y, ys, rfl, -, hy, hys⟩ :=
          lexeme_of_marks? none .argumentSeparator hneatys rfl hys
        obtain ⟨zs, hread', hzs, hneatzs⟩ := ih hne' hts' hlast (hneatys.tail_of_eq hy) hys
        exact ⟨zs, .argument hread hy hread', hzs, hneatzs⟩

/-- The last member of the last row is spelled in front of the closing brace. -/
lemma filter_rowMarks_singleton (t : Tree) (inner : Option Text) :
    (rowMarks [[t]] inner).filter Mark.isWritten =
      t.spelling ++ (Mark.spaces inner ++ [.closeBrace]) := by
  rw [rowMarks, List.map_cons, List.map_nil, List.map_cons, List.map_nil,
    List.intercalate_singleton, List.intercalate_singleton, List.append_assoc, List.filter_append,
    filter_spaces_append rfl]
  rfl

/-- The last member of a row is spelled in front of a separator and the other rows. -/
lemma filter_rowMarks_cons {t : Tree} {rows : List (List Tree)} (h : rows ≠ [])
    (inner : Option Text) :
    (rowMarks ([t] :: rows) inner).filter Mark.isWritten =
      t.spelling ++ .rowSeparator :: (rowMarks rows inner).filter Mark.isWritten := by
  rw [rowMarks_cons h, List.filter_append, List.filter_cons_of_pos rfl]
  rfl

/-- A member of a row is spelled in front of a separator and the rest of the row. -/
lemma filter_rowMarks_cons_cons (t u : Tree) (row : List Tree) (rows : List (List Tree))
    (inner : Option Text) :
    (rowMarks ((t :: u :: row) :: rows) inner).filter Mark.isWritten =
      t.spelling ++
        .columnSeparator :: (rowMarks ((u :: row) :: rows) inner).filter Mark.isWritten := by
  have h := rowMarks_intoFirstRow (t := t) ⟨u, row, rows, rfl⟩ inner
  rw [intoFirstRow] at h
  rw [h, List.filter_append, List.filter_cons_of_pos rfl]
  rfl

/-- The rows of an array are read back, given that the rows behind the first one are. -/
lemma readsUpTo_row {row : List Tree} {rows : List (List Tree)} {inner : Option Text}
    {ms : List Mark} (hne : row ≠ []) (hrow : ∀ t ∈ row, ExpressionBack site t)
    (hrows : rows ≠ [] → ∀ xs, Neat false xs →
      site.marks? xs = some ((rowMarks rows inner).filter Mark.isWritten ++ ms) →
        ReadsUpTo site (.rows rows inner) xs ms) {xs : List Spaced} (hneat : Neat false xs)
    (hxs : site.marks? xs = some ((rowMarks (row :: rows) inner).filter Mark.isWritten ++ ms)) :
    ReadsUpTo site (.rows (row :: rows) inner) xs ms := by
  -- Only the last tree of the row has the rows behind it to care for.
  induction row generalizing xs with
  | nil => exact absurd rfl hne
  | cons t row ih =>
    obtain ⟨ht, hrow⟩ := List.forall_mem_cons.mp hrow
    cases row with
    | cons u row =>
      rw [filter_rowMarks_cons_cons, List.append_assoc, List.cons_append] at hxs
      obtain ⟨ys, hread, hys, hneatys⟩ := ht false xs _ hneat
        (stops_cons rfl ⟨nofun, nofun, nofun⟩ _) hxs
      obtain ⟨y, ys, rfl, -, hy, hys⟩ :=
        lexeme_of_marks? none .columnSeparator hneatys rfl hys
      obtain ⟨zs, hread', hzs, hneatzs⟩ :=
        ih (List.cons_ne_nil _ _) hrow (hneatys.tail_of_ne (by simp [hy])) hys
      exact ⟨zs, .column hread hy hread', hzs, hneatzs⟩
    | nil =>
      by_cases hlast : rows = []
      · subst hlast
        rw [filter_rowMarks_singleton, List.append_assoc, List.append_assoc] at hxs
        obtain ⟨ys, hread, hys, hneatys⟩ := ht false xs _ hneat
          (stops_spaces_append rfl ⟨nofun, nofun, nofun⟩ inner ms) hxs
        obtain ⟨y, ys, rfl, rfl, hy, hys⟩ := lexeme_of_marks? _ _ hneatys rfl hys
        exact ⟨ys, .lastRow hread hy, hys, hneatys.tail_of_ne (by simp [hy])⟩
      · rw [filter_rowMarks_cons hlast, List.append_assoc, List.cons_append] at hxs
        obtain ⟨ys, hread, hys, hneatys⟩ := ht false xs _ hneat
          (stops_cons rfl ⟨nofun, nofun, nofun⟩ _) hxs
        obtain ⟨y, ys, rfl, -, hy, hys⟩ :=
          lexeme_of_marks? none .rowSeparator hneatys rfl hys
        obtain ⟨zs, hread', hzs, hneatzs⟩ :=
          hrows hlast ys (hneatys.tail_of_ne (by simp [hy])) hys
        exact ⟨zs, .row hread hy hread', hzs, hneatzs⟩

/-- The spelling of rows is read as these rows. -/
lemma readsUpTo_rows {rows : List (List Tree)} {inner : Option Text} {ms : List Mark}
    (hne : rows ≠ []) (hrow : ∀ row ∈ rows, row ≠ [])
    (hrows : ∀ row ∈ rows, ∀ t ∈ row, ExpressionBack site t) {xs : List Spaced}
    (hneat : Neat false xs)
    (hxs : site.marks? xs = some ((rowMarks rows inner).filter Mark.isWritten ++ ms)) :
    ReadsUpTo site (.rows rows inner) xs ms := by
  induction rows generalizing xs with
  | nil => exact absurd rfl hne
  | cons row rows ih =>
    obtain ⟨hrow, hrow'⟩ := List.forall_mem_cons.mp hrow
    obtain ⟨hts, hrows⟩ := List.forall_mem_cons.mp hrows
    exact readsUpTo_row hrow hts (fun hne xs hneat hxs => ih hne hrow' hrows hneat hxs) hneat hxs

/-- A call is read back if its arguments are. -/
lemma back_call (lead : Option Text) (function : Text) {ts : List Tree} {inner : Option Text}
    (hts : ∀ t ∈ ts, ¬t.IsOmitted → ExpressionBack site t)
    (hsole : ∀ t, ts = [t] → ¬t.IsOmitted)
    (hlast : ∀ t, ts.getLast? = some t → t.IsOmitted → inner = none) :
    Back site (.call lead function ts inner) := by
  refine .of_reads fun b xs ms hneat _ hxs => ?_
  rw [Tree.spelling_call, List.append_assoc, List.cons_append] at hxs
  obtain ⟨x, ys, rfl, rfl, hx, hys⟩ := lexeme_of_marks? _ _ hneat rfl hxs
  have hneatys := hneat.tail_of_ne (by simp [hx])
  by_cases hne : ts = []
  · -- The blanks between the parentheses are read as those of an omitted argument.
    subst hne
    have hmarks : (argumentMarks [] inner).filter Mark.isWritten =
        (argumentMarks [.atom inner .omitted] none).filter Mark.isWritten := by
      cases inner <;> rfl
    rw [hmarks] at hys
    obtain ⟨zs, hread, hzs, hneatzs⟩ := readsUpTo_arguments (List.cons_ne_nil _ _)
      (fun t ht hno => absurd ⟨inner, List.mem_singleton.mp ht⟩ hno) (fun _ _ _ => rfl)
      hneatys hys
    exact ⟨zs, .call hx hread, hzs, hneatzs⟩
  · obtain ⟨zs, hread, hzs, hneatzs⟩ := readsUpTo_arguments hne hts hlast hneatys hys
    rcases withoutSoleOmission_cases ts inner with ⟨lead, rfl, -⟩ | ⟨-, heq⟩
    · exact absurd ⟨lead, rfl⟩ (hsole _ rfl)
    · have hcall := Reads.call hx hread
      rw [heq] at hcall
      exact ⟨zs, hcall, hzs, hneatzs⟩

/-- An array is read back if its members are. -/
lemma back_array (lead : Option Text) {rows : List (List Tree)} {inner : Option Text}
    (hne : rows ≠ []) (hrow : ∀ row ∈ rows, row ≠ [])
    (hrows : ∀ row ∈ rows, ∀ t ∈ row, ExpressionBack site t) (heven : areEven rows = true) :
    Back site (.array lead rows inner) := by
  refine .of_reads fun b xs ms hneat _ hxs => ?_
  rw [Tree.spelling_array, List.append_assoc, List.cons_append] at hxs
  obtain ⟨x, ys, rfl, rfl, hx, hys⟩ := lexeme_of_marks? _ _ hneat rfl hxs
  obtain ⟨zs, hread, hzs, hneatzs⟩ :=
    readsUpTo_rows hne hrow hrows (hneat.tail_of_ne (by simp [hx])) hys
  exact ⟨zs, .array hx hread heven, hzs, hneatzs⟩

/-! ## All canonical trees -/

/-- Every canonical tree is read back from the marks that it spells. -/
theorem back_of_canonical {t : Tree} (h : t.Canonical) : Back site t := by
  induction t using Tree.memberInduction with
  | atom lead a =>
    cases h with
    | atom ha => exact back_atom lead ha
  | signed lead sign t ih =>
    cases h with
    | signed ht hlevel => exact back_signed lead sign (ih ht) hlevel
  | percent lead t ih =>
    cases h with
    | percent ht hlevel => exact back_percent lead (ih ht) hlevel
  | binary lead op s t ihs iht =>
    cases h with
    | binary hs ht hslevel htlevel => exact back_binary lead op (ihs hs) (iht ht) hslevel htlevel
  | call lead function ts inner ih =>
    cases h with
    | call hts hsole hlast =>
      exact back_call lead function (fun t ht hno => (ih t ht (hts t ht hno)).expression) hsole hlast
  | parens lead t inner ih =>
    cases h with
    | parens ht => exact back_parens lead inner (ih ht)
  | array lead rows inner ih =>
    cases h with
    | array hne hrow hrows heven =>
      exact back_array lead hne hrow
        (fun row hmem t ht => (ih row hmem t ht (hrows row hmem t ht)).expression) heven

/-- Lexemes that make the marks of a canonical tree behind an equals sign are its formula. -/
theorem formula_of_marks? {xs : List Spaced} {t : Tree} (ht : t.Canonical) (hneat : Neat false xs)
    (h : site.marks? xs = some (.operator .equal :: t.spelling)) : formula site xs = .ok t := by
  rw [← List.append_nil t.spelling] at h
  obtain ⟨x, ys, rfl, hlead, hx, hys⟩ :=
    lexeme_of_marks? none (.operator .equal) hneat rfl h
  obtain ⟨zs, hread, hzs, -⟩ := (back_of_canonical ht).expression false ys []
    (hneat.tail_of_ne (by simp [hx])) stops_nil hys
  obtain rfl := eq_nil_of_marks? hzs
  exact formula_eq_ok_iff.mpr ⟨x, ys, rfl, hx, hlead, hread⟩

/-- The tree of a formula without offsets is the only canonical tree that spells its marks. -/
theorem eq_of_spelling_eq {xs : List Spaced} {s t : Tree} (hs : formula site xs = .ok s)
    (hneat : Neat false xs) (hfree : ∀ x ∈ xs, x.symbol ≠ .offsetCall) (ht : t.Canonical)
    (h : s.spelling = t.spelling) : s = t := by
  obtain ⟨ms, hmarks, hms⟩ := marks?_of_formula hs hneat
  rw [hms hfree, h] at hmarks
  exact Except.ok.inj (hs.symm.trans (formula_of_marks? ht hneat hmarks))

end Reader

end GridFormula
