import GridFormula.Lexeme.Scan
import GridFormula.Proofs.Formula.Readback

/-!
# How the marks of a tree follow each other

A formula can be cut into its marks again because of what follows each of them: blanks end where
something else starts, an atom is followed by something that cannot go on with it, and an operator
by an operand. One character may separate arguments as well as parts of an array; which of the two
it does follows from what is open where it stands. All this is said here of a list of marks as a
whole, and holds for the marks of every canonical tree.
-/

namespace GridFormula

/-- Every open call was opened inside no more braces than are open. -/
def Nesting.Sound (n : Nesting) : Prop :=
  ∀ braces, .call braces ∈ n.groups → braces ≤ n.braces

namespace Nesting

/-- Where nothing is open, no call is. -/
lemma sound_empty : empty.Sound := nofun

/-- A call may be opened inside of the braces that are open. -/
lemma Sound.enter_call {n : Nesting} (h : n.Sound) : (n.enter (.call n.braces)).Sound := by
  intro braces hmem
  rcases List.mem_cons.mp hmem with heq | hmem
  · exact Nat.le_of_eq (Group.call.inj heq)
  · exact h braces hmem

/-- A parenthesis may be opened anywhere. -/
lemma Sound.enter_plain {n : Nesting} (h : n.Sound) : (n.enter .plain).Sound := by
  intro braces hmem
  rcases List.mem_cons.mp hmem with heq | hmem
  · cases heq
  · exact h braces hmem

/-- A brace may be opened anywhere. -/
lemma Sound.enterBrace {n : Nesting} (h : n.Sound) : n.enterBrace.Sound :=
  fun braces hmem => Nat.le_succ_of_le (h braces hmem)

/-- Behind the parenthesis of a call one is in the call. -/
lemma inCall_enter_call (n : Nesting) : (n.enter (.call n.braces)).inCall = true := by
  simp [inCall, enter]

/-- Directly inside a brace one is not inside a call. -/
lemma Sound.inCall_enterBrace {n : Nesting} (h : n.Sound) : n.enterBrace.inCall = false := by
  unfold inCall
  rw [decide_eq_false_iff_not]
  intro hhead
  have hle := h _ (List.mem_of_mem_head? hhead)
  exact Nat.not_succ_le_self n.braces hle

end Nesting

namespace Mark

/-- Whether an operand starts with the mark. -/
def startsOperand : Mark → Bool
  | atom _ | call _ | openParen | openBrace | operator .plus | operator .minus => true
  | _ => false

/-- Whether the mark can stand behind an operand. -/
def endsOperand : Mark → Bool
  | operator _ | percent | argumentSeparator | columnSeparator | rowSeparator | closeParen
  | closeBrace => true
  | _ => false

/-- The mark can be followed by the marks `ms`. -/
def Meets (ms : List Mark) : Mark → Prop
  | space _ => ∃ m ∈ ms.head?, m.isSpace = false
  | atom _ => ∀ m ∈ next ms, m.endsOperand = true
  | operator _ => ∃ m ∈ next ms, m.startsOperand = true
  | _ => True

/-- Whether the mark can stand at a place: a separator of arguments directly inside a call, and one
of array parts directly inside braces. No tree has a colon or an offset. -/
def fits (n : Nesting) : Mark → Bool
  | argumentSeparator => n.inCall
  | columnSeparator | rowSeparator => decide (0 < n.braces) && !n.inCall
  | colon | offsetCall => false
  | _ => true

/-- What is open behind the mark. -/
def inside (n : Nesting) : Mark → Nesting
  | call _ | offsetCall => n.enter (.call n.braces)
  | openParen => n.enter .plain
  | closeParen => n.leave
  | openBrace => n.enterBrace
  | closeBrace => n.leaveBrace
  | _ => n

end Mark

/-- Each of the marks can stand where it stands and can be followed by what follows it. It is given
what is open in front of them. -/
def Flows : Nesting → List Mark → Prop
  | _, [] => True
  | n, m :: ms => m.fits n = true ∧ m.Meets ms ∧ Flows (m.inside n) ms

/-- The marks go on with something that can stand behind an operand. -/
def FollowOperand (ms : List Mark) : Prop :=
  ∀ m ∈ Mark.next ms, m.endsOperand = true

/-- An operand may stand at the end. -/
lemma followOperand_nil : FollowOperand [] := fun m hm => absurd hm (Option.not_mem_none m)

/-- An operand may stand in front of blanks and what ends an operand. -/
lemma followOperand_spaces_append {m : Mark} (hm : m.isSpace = false) (h : m.endsOperand = true)
    (lead : Option Text) (ms : List Mark) : FollowOperand (Mark.spaces lead ++ m :: ms) := by
  intro m' hm'
  rw [Mark.next_spaces_append lead m ms hm] at hm'
  cases hm'
  exact h

/-- An operand may stand in front of what ends an operand. -/
lemma followOperand_cons {m : Mark} (hm : m.isSpace = false) (h : m.endsOperand = true)
    (ms : List Mark) : FollowOperand (m :: ms) :=
  followOperand_spaces_append hm h none ms

/-- Blanks may stand in front of anything else. -/
lemma Flows.spaces_append {n : Nesting} {m : Mark} {ms : List Mark} (hm : m.isSpace = false)
    (h : Flows n (m :: ms)) (lead : Option Text) : Flows n (Mark.spaces lead ++ m :: ms) := by
  cases lead with
  | none => exact h
  | some blanks => exact ⟨rfl, ⟨m, rfl, hm⟩, h⟩

/-- A closing parenthesis, behind blanks or not. -/
lemma Flows.closeParen {n : Nesting} {ms : List Mark} (h : Flows n.leave ms)
    (inner : Option Text) : Flows n (Mark.spaces inner ++ .closeParen :: ms) :=
  Flows.spaces_append rfl (m := .closeParen) ⟨rfl, trivial, h⟩ inner

/-- A closing brace, behind blanks or not. -/
lemma Flows.closeBrace {n : Nesting} {ms : List Mark} (h : Flows n.leaveBrace ms)
    (inner : Option Text) : Flows n (Mark.spaces inner ++ .closeBrace :: ms) :=
  Flows.spaces_append rfl (m := .closeBrace) ⟨rfl, trivial, h⟩ inner

namespace Tree

/-- The first mark of a tree that is no blank starts an operand. -/
lemma Canonical.next_spelling {t : Tree} (h : t.Canonical) (ms : List Mark) :
    ∃ m ∈ Mark.next (t.spelling ++ ms), m.startsOperand = true := by
  induction t using memberInduction generalizing ms with
  | atom lead a =>
    cases h with
    | atom ha =>
      rw [spelling_atom ha, List.append_assoc, List.singleton_append,
        Mark.next_spaces_append _ _ _ rfl]
      exact ⟨_, rfl, rfl⟩
  | signed lead sign t ih =>
    rw [spelling_signed, List.append_assoc, List.cons_append, Mark.next_spaces_append _ _ _ rfl]
    refine ⟨_, rfl, ?_⟩
    cases sign <;> rfl
  | percent lead t ih =>
    cases h with
    | percent ht hlevel =>
      rw [spelling_percent, List.append_assoc]
      exact ih ht _
  | binary lead op s t ihs iht =>
    cases h with
    | binary hs ht hslevel htlevel =>
      rw [spelling_binary, List.append_assoc]
      exact ihs hs _
  | call lead function ts inner ih =>
    rw [spelling_call, List.append_assoc, List.cons_append, Mark.next_spaces_append _ _ _ rfl]
    exact ⟨_, rfl, rfl⟩
  | parens lead t inner ih =>
    rw [spelling_parens, List.append_assoc, List.cons_append, Mark.next_spaces_append _ _ _ rfl]
    exact ⟨_, rfl, rfl⟩
  | array lead rows inner ih =>
    rw [spelling_array, List.append_assoc, List.cons_append, Mark.next_spaces_append _ _ _ rfl]
    exact ⟨_, rfl, rfl⟩

/-- The marks of the tree flow into whatever can stand behind an operand. -/
def FlowsOn (t : Tree) : Prop :=
  ∀ n ms, n.Sound → FollowOperand ms → Flows n ms → Flows n (t.spelling ++ ms)

/-- The marks of arguments flow, whether the arguments are written or left out. -/
lemma flows_arguments {ts : List Tree} {inner : Option Text} {n : Nesting} {ms : List Mark}
    (hts : ∀ t ∈ ts, ¬t.IsOmitted → t.FlowsOn)
    (hlast : ∀ t, ts.getLast? = some t → t.IsOmitted → inner = none) (hn : n.Sound)
    (hcall : n.inCall = true) (h : Flows n.leave ms) :
    Flows n ((Reader.argumentMarks ts inner).filter Mark.isWritten ++ ms) := by
  have hclose := h.closeParen
  induction ts with
  | nil =>
    rw [Reader.argumentMarks, List.map_nil, List.intercalate_nil, List.nil_append,
      filter_spaces_append rfl, List.append_assoc]
    exact hclose inner
  | cons t ts ih =>
    obtain ⟨ht, hts'⟩ := List.forall_mem_cons.mp hts
    by_cases hne : ts = []
    · subst hne
      rw [Reader.filter_argumentMarks_singleton, List.append_assoc, List.append_assoc]
      by_cases homitted : t.IsOmitted
      · obtain rfl := hlast t rfl homitted
        obtain ⟨lead, rfl⟩ := homitted
        rw [Reader.spelling_omitted]
        exact hclose lead
      · exact ht homitted n _ hn (followOperand_spaces_append rfl rfl inner ms) (hclose inner)
    · rw [List.getLast?_cons_of_ne_nil hne] at hlast
      have hrest : Flows n (.argumentSeparator ::
          ((Reader.argumentMarks ts inner).filter Mark.isWritten ++ ms)) :=
        ⟨hcall, trivial, ih hts' hlast⟩
      rw [Reader.filter_argumentMarks_cons hne, List.append_assoc, List.cons_append]
      by_cases homitted : t.IsOmitted
      · obtain ⟨lead, rfl⟩ := homitted
        rw [Reader.spelling_omitted]
        exact hrest.spaces_append rfl lead
      · exact ht homitted n _ hn (followOperand_cons rfl rfl _) hrest

/-- The marks of one row flow into those of the next. -/
lemma flows_row {row : List Tree} {rows : List (List Tree)} {inner : Option Text} {n : Nesting}
    {ms : List Mark} (hne : row ≠ []) (hrow : ∀ t ∈ row, t.FlowsOn) (hn : n.Sound)
    (hbraces : 0 < n.braces) (hcall : n.inCall = false)
    (hclose : Flows n (Mark.spaces inner ++ .closeBrace :: ms))
    (hrows : rows ≠ [] → Flows n ((Reader.rowMarks rows inner).filter Mark.isWritten ++ ms)) :
    Flows n ((Reader.rowMarks (row :: rows) inner).filter Mark.isWritten ++ ms) := by
  have hfits : (decide (0 < n.braces) && !n.inCall) = true := by
    rw [hcall, decide_eq_true hbraces]
    rfl
  induction row with
  | nil => exact absurd rfl hne
  | cons t row ih =>
    obtain ⟨ht, hrow⟩ := List.forall_mem_cons.mp hrow
    cases row with
    | cons u row =>
      rw [Reader.filter_rowMarks_cons_cons, List.append_assoc, List.cons_append]
      exact ht n _ hn (followOperand_cons rfl rfl _)
        ⟨hfits, trivial, ih (List.cons_ne_nil _ _) hrow⟩
    | nil =>
      by_cases hlast : rows = []
      · subst hlast
        rw [Reader.filter_rowMarks_singleton, List.append_assoc, List.append_assoc]
        exact ht n _ hn (followOperand_spaces_append rfl rfl inner ms) hclose
      · rw [Reader.filter_rowMarks_cons hlast, List.append_assoc, List.cons_append]
        exact ht n _ hn (followOperand_cons rfl rfl _) ⟨hfits, trivial, hrows hlast⟩

/-- The rows of an array flow into whatever flows behind the closing brace. -/
lemma flows_rows {rows : List (List Tree)} {inner : Option Text} {n : Nesting} {ms : List Mark}
    (hne : rows ≠ []) (hrow : ∀ row ∈ rows, row ≠ [])
    (hrows : ∀ row ∈ rows, ∀ t ∈ row, t.FlowsOn) (hn : n.Sound) (hbraces : 0 < n.braces)
    (hcall : n.inCall = false) (h : Flows n.leaveBrace ms) :
    Flows n ((Reader.rowMarks rows inner).filter Mark.isWritten ++ ms) := by
  have hclose := h.closeBrace inner
  induction rows with
  | nil => exact absurd rfl hne
  | cons row rows ih =>
    obtain ⟨hrow, hrow'⟩ := List.forall_mem_cons.mp hrow
    obtain ⟨hts, hrows⟩ := List.forall_mem_cons.mp hrows
    exact flows_row hrow hts hn hbraces hcall hclose fun hne => ih hne hrow' hrows

/-- The marks of a canonical tree flow. -/
theorem Canonical.flowsOn {t : Tree} (h : t.Canonical) : t.FlowsOn := by
  -- The invariant is about the marks `ms` behind the tree: they have to be able to follow an
  -- operand. Every node hands this on to its last part.
  induction t using memberInduction with
  | atom lead a =>
    intro n ms hn hend hms
    cases h with
    | atom ha =>
      rw [spelling_atom ha, List.append_assoc]
      refine Flows.spaces_append rfl ?_ lead
      exact ⟨rfl, hend, hms⟩
  | signed lead sign t ih =>
    intro n ms hn hend hms
    cases h with
    | signed ht hlevel =>
      rw [spelling_signed, List.append_assoc]
      refine Flows.spaces_append rfl ?_ lead
      exact ⟨rfl, ht.next_spelling ms, ih ht n ms hn hend hms⟩
  | percent lead t ih =>
    intro n ms hn hend hms
    cases h with
    | percent ht hlevel =>
      rw [spelling_percent, List.append_assoc, List.append_assoc]
      refine ih ht n _ hn (followOperand_spaces_append rfl rfl lead ms)
        (Flows.spaces_append rfl ?_ lead)
      exact ⟨rfl, trivial, hms⟩
  | binary lead op s t ihs iht =>
    intro n ms hn hend hms
    cases h with
    | binary hs ht hslevel htlevel =>
      rw [spelling_binary, List.append_assoc, List.append_assoc]
      refine ihs hs n _ hn (followOperand_spaces_append rfl rfl lead _)
        (Flows.spaces_append rfl ?_ lead)
      exact ⟨rfl, ht.next_spelling ms, iht ht n ms hn hend hms⟩
  | call lead function ts inner ih =>
    intro n ms hn _ hms
    cases h with
    | call hts hsole hlast =>
      rw [spelling_call, List.append_assoc]
      refine Flows.spaces_append rfl ?_ lead
      refine ⟨rfl, trivial, ?_⟩
      exact flows_arguments (fun t ht hno => ih t ht (hts t ht hno)) hlast hn.enter_call
        n.inCall_enter_call hms
  | parens lead t inner ih =>
    intro n ms hn _ hms
    cases h with
    | parens ht =>
      rw [spelling_parens, List.append_assoc, List.cons_append, List.append_assoc,
        List.append_assoc]
      refine Flows.spaces_append rfl ?_ lead
      refine ⟨rfl, trivial, ?_⟩
      exact ih ht _ _ hn.enter_plain (followOperand_spaces_append rfl rfl inner ms)
        (Flows.closeParen (n := n.enter .plain) hms inner)
  | array lead rows inner ih =>
    intro n ms hn _ hms
    cases h with
    | array hne hrow hrows heven =>
      rw [spelling_array, List.append_assoc]
      refine Flows.spaces_append rfl ?_ lead
      refine ⟨rfl, trivial, ?_⟩
      exact flows_rows hne hrow (fun row hmem t ht => ih row hmem t ht (hrows row hmem t ht))
        hn.enterBrace (Nat.succ_pos _) hn.inCall_enterBrace hms

/-- The marks of a canonical tree flow from where nothing is open. -/
theorem Canonical.flows {t : Tree} (h : t.Canonical) : Flows .empty t.spelling := by
  have hflows := h.flowsOn .empty [] Nesting.sound_empty followOperand_nil trivial
  rwa [List.append_nil] at hflows

end Tree

end GridFormula
