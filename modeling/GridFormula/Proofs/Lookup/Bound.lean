import GridFormula.Lookup.Bound
import Mathlib.Data.Int.ConditionallyCompleteOrder
import Mathlib.Data.List.Sort
import Mathlib.Order.Bounds.Basic
import Mathlib.Order.ConditionallyCompleteLattice.Basic

/-!
# Halving finds the border

Halving looks at few members of a list, so what it finds says something about the list only if the
members that satisfy the test come first. Then it finds the border: in front of it stand those that
satisfy the test, and behind it those that do not. In a list of rows that ascend, the rows below a
bound come first, and so the bounds cut the list where they should.
-/

namespace GridFormula

/-! ## The border -/

/-- The members that satisfy `p` come before all others. -/
def ComesFirst {α : Type} (p : α → Bool) (xs : List α) : Prop :=
  xs.Pairwise fun a b => p b = true → p a = true

/-- The place found lies in the part that is searched, and it is the border there. -/
lemma partitionPoint_spec (p : Nat → Bool) (base size : Nat)
    (hp : ∀ i j, base ≤ i → i ≤ j → j < base + size → p j = true → p i = true) :
    partitionPoint p base size ≤ base + size ∧
      (∀ i, base ≤ i → i < partitionPoint p base size → p i = true) ∧
      ∀ i, partitionPoint p base size ≤ i → i < base + size → p i = false := by
  fun_induction partitionPoint p base size with
  | case1 base size hsize hlast =>
    obtain ⟨rfl, hbase⟩ := hlast
    refine ⟨le_rfl, fun i hi hi' => ?_, fun i hi hi' => by omega⟩
    obtain rfl : i = base := by omega
    exact hbase
  | case2 base size hsize hlast =>
    refine ⟨by omega, fun i hi hi' => by omega, fun i hi hi' => ?_⟩
    obtain rfl : i = base := by omega
    have hone : size = 1 := by omega
    simpa [hone] using hlast
  | case3 base size hsize half ih =>
    -- The test in the middle decides one half, and the border is searched for in the other one.
    by_cases hmid : p (base + half) = true
    · rw [dif_pos hmid] at ih
      rw [if_pos hmid]
      obtain ⟨hhigh, hbelow, habove⟩ := ih fun i j hi hij hj => hp i j (by omega) hij (by omega)
      refine ⟨by omega, fun i hi hi' => ?_, fun i hi hi' => habove i hi (by omega)⟩
      by_cases hfar : base + half ≤ i
      · exact hbelow i hfar hi'
      · exact hp i (base + half) hi (by omega) (by omega) hmid
    · rw [dif_neg hmid] at ih
      rw [if_neg hmid]
      obtain ⟨hhigh, hbelow, habove⟩ := ih fun i j hi hij hj => hp i j hi hij (by omega)
      refine ⟨by omega, hbelow, fun i hi hi' => ?_⟩
      by_cases hnear : i < base + (size - half)
      · exact habove i hi hnear
      · by_contra hpi
        exact hmid (hp (base + half) i (by omega) (by omega) hi' (by simpa using hpi))

section

variable {α : Type} {p : α → Bool} {xs : List α}

/-- In front of the border stand those that satisfy the test, behind it those that do not. -/
lemma partitionLength_spec (h : ComesFirst p xs) :
    partitionLength p xs ≤ xs.length ∧ (∀ x ∈ xs.take (partitionLength p xs), p x = true) ∧
      ∀ x ∈ xs.drop (partitionLength p xs), p x = false := by
  have hindex : ∀ i j, 0 ≤ i → i ≤ j → j < 0 + xs.length →
      (xs[j]?.any p) = true → (xs[i]?.any p) = true := by
    intro i j _ hij hj hpj
    rcases hij.lt_or_eq with hij | rfl
    · have hj : j < xs.length := by omega
      rw [List.getElem?_eq_getElem hj, Option.any_some] at hpj
      rw [List.getElem?_eq_getElem (hij.trans hj), Option.any_some]
      exact List.pairwise_iff_getElem.mp h i j (hij.trans hj) hj hij hpj
    · exact hpj
  have hspec := partitionPoint_spec _ 0 xs.length hindex
  rw [show partitionPoint (fun i => xs[i]?.any p) 0 xs.length = partitionLength p xs from rfl]
    at hspec
  obtain ⟨hle, hbelow, habove⟩ := hspec
  refine ⟨by omega, fun x hx => ?_, fun x hx => ?_⟩
  · obtain ⟨i, hi, rfl⟩ := List.mem_take_iff_getElem.mp hx
    have hpi := hbelow i (Nat.zero_le i) (by omega)
    rwa [List.getElem?_eq_getElem (by omega), Option.any_some] at hpi
  · obtain ⟨i, hi, rfl⟩ := List.mem_drop_iff_getElem.mp hx
    have hpi := habove (partitionLength p xs + i) (Nat.le_add_right _ i) (by omega)
    rwa [List.getElem?_eq_getElem (by omega), Option.any_some] at hpi

/-- What stands in front of the border. -/
lemma take_partitionLength (h : ComesFirst p xs) :
    xs.take (partitionLength p xs) = xs.filter p := by
  obtain ⟨-, htake, hdrop⟩ := partitionLength_spec h
  conv_rhs => rw [← List.take_append_drop (partitionLength p xs) xs, List.filter_append]
  rw [List.filter_eq_self.mpr htake, List.filter_eq_nil_iff.mpr fun x hx => by simp [hdrop x hx],
    List.append_nil]

/-- What stands behind the border. -/
lemma drop_partitionLength (h : ComesFirst p xs) :
    xs.drop (partitionLength p xs) = xs.filter fun x => !p x := by
  obtain ⟨-, htake, hdrop⟩ := partitionLength_spec h
  conv_rhs => rw [← List.take_append_drop (partitionLength p xs) xs, List.filter_append]
  rw [List.filter_eq_nil_iff.mpr fun x hx => by simp [htake x hx],
    List.filter_eq_self.mpr fun x hx => by simp [hdrop x hx], List.nil_append]

end

/-! ## Rows that ascend -/

section

variable {rows : List Int} {row : Int}

/-- The last of rows that ascend is the greatest one. -/
lemma getLast?_eq_some_iff_of_sortedLT (h : rows.SortedLT) :
    rows.getLast? = some row ↔ IsGreatest {r | r ∈ rows} row := by
  rcases List.eq_nil_or_concat' rows with rfl | ⟨rows, r, rfl⟩
  · simp [IsGreatest]
  · have hle := (List.pairwise_append.mp h.pairwise).2.2
    rw [List.getLast?_concat]
    constructor
    · rintro hr
      cases hr
      refine ⟨by simp, fun r' hr' => ?_⟩
      rcases List.mem_append.mp hr' with hr' | hr'
      · exact (hle r' hr' row (List.mem_singleton_self row)).le
      · exact (List.mem_singleton.mp hr').le
    · rintro ⟨hmem, hgreatest⟩
      rcases List.mem_append.mp hmem with hmem | hmem
      · have hlt := hle row hmem r (List.mem_singleton_self r)
        exact absurd hlt (not_lt.mpr (hgreatest (by simp)))
      · rw [List.mem_singleton.mp hmem]

variable (h : rows.SortedLT) (key : Int)
include h

/-- In rows that ascend those below a key come first. -/
lemma comesFirst_lt : ComesFirst (fun row : Int => decide (row < key)) rows :=
  h.pairwise.imp fun hab hb => by
    simp only [decide_eq_true_eq] at hb ⊢
    exact hab.trans hb

/-- In rows that ascend those up to a key come first. -/
lemma comesFirst_le : ComesFirst (fun row : Int => decide (row ≤ key)) rows :=
  h.pairwise.imp fun hab hb => by
    simp only [decide_eq_true_eq] at hb ⊢
    exact hab.le.trans hb

/-- The rows in front of the upper bound. -/
lemma take_upperBound : rows.take (upperBound rows key) = rows.filter fun row => row < key :=
  take_partitionLength (comesFirst_lt h key)

/-- The rows from the upper bound on. -/
lemma drop_upperBound : rows.drop (upperBound rows key) = rows.filter fun row => key ≤ row := by
  rw [upperBound, drop_partitionLength (comesFirst_lt h key)]
  refine List.filter_congr fun row _ => ?_
  simp [← decide_not]

/-- The upper bound counts the rows below `key`. -/
lemma upperBound_eq_countP : upperBound rows key = rows.countP fun row => row < key := by
  have hle := (partitionLength_spec (comesFirst_lt h key)).1
  rw [List.countP_eq_length_filter, ← take_upperBound h, List.length_take]
  exact (min_eq_left hle).symm

/-- A greater key has no smaller upper bound. -/
lemma upperBound_le_upperBound {key key' : Int} (hkey : key ≤ key') :
    upperBound rows key ≤ upperBound rows key' := by
  rw [upperBound_eq_countP h, upperBound_eq_countP h]
  refine List.countP_mono_left fun row _ hrow => ?_
  simp only [decide_eq_true_eq] at hrow ⊢
  exact hrow.trans_le hkey

/-- The lower bound leads to the last row up to `key`. -/
lemma getElem?_lowerBound?_eq_some_iff :
    ((lowerBound? rows key).bind fun n => rows[n]?) = some row ↔
      IsGreatest {r | r ∈ rows ∧ r ≤ key} row := by
  have hle := (partitionLength_spec (comesFirst_le h key)).1
  have hlast : ((lowerBound? rows key).bind fun n => rows[n]?) =
      (rows.filter fun row => row ≤ key).getLast? := by
    rw [← take_partitionLength (comesFirst_le h key), List.getLast?_take]
    unfold lowerBound?
    split
    · next hzero => simp [hzero]
    · next n hn =>
      rw [hn] at hle ⊢
      rw [if_neg (Nat.succ_ne_zero n), Option.bind_some, Nat.succ_sub_one,
        List.getElem?_eq_getElem (by omega)]
      rfl
  rw [hlast, getLast?_eq_some_iff_of_sortedLT (h.pairwise.filter _).sortedLT]
  simp

end

end GridFormula
