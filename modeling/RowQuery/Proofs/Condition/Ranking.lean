import RowQuery.Condition.Matching
import RowQuery.Proofs.Condition.Fragment
import RowQuery.Proofs.Scalar.Loose

/-!
# Comparisons of numbers

Numbers that compare as they are sorted are compared by every operator as they are sorted: each asks
for an order (`Operator.admits?`) or for an equal value in a list. `Comparison.FollowsSorting` says so
of all numbers but those that are rounded together (`Comparison.numbers_follow_sorting`).
Those are found equal although they are sorted one behind the other
(`Comparison.rounded_number_found_equal`).
-/

namespace RowQuery

open Binary64 (Extended)
open Scalar (RoundedTogether)

variable {a b : Scalar} {bs : List Scalar} {row : Row} {column : String}

/-- The orders that an operator admits, if it asks for an order. -/
def Operator.admits? : Operator → Option (Ordering → Bool)
  | .eq => some Ordering.isEq
  | .ne => some Ordering.isNe
  | .gt => some Ordering.isGT
  | .ge => some Ordering.isGE
  | .lt => some Ordering.isLT
  | .le => some Ordering.isLE
  | _ => none

/-- Scalars with an order are not null. -/
theorem Scalar.isNull_of_looseCompare? {o : Ordering} (h : a.looseCompare? b = some o) :
    a.isNull = false ∧ b.isNull = false := by
  cases a with
  | null => cases h
  | bool | int | float | text =>
    cases b with
    | null => cases h
    | bool | int | float | text => exact ⟨rfl, rfl⟩

/-- A number is not null. -/
theorem Scalar.isNull_of_extended? {v : Extended} (h : a.extended? = some v) : a.isNull = false := by
  cases a with
  | null => cases h
  | bool | int | float | text => rfl

/-- An operator that asks for an order holds of scalars with an order when it admits that one. -/
theorem Operator.holds_of_order {op : Operator} {admits : Ordering → Bool} {o : Ordering}
    (hop : op.admits? = some admits) (h : a.looseCompare? b = some o) :
    op.holds a b = .ok (admits o) := by
  obtain ⟨ha, hb⟩ := Scalar.isNull_of_looseCompare? h
  unfold holds
  rw [h, ha, hb]
  cases op <;> cases hop <;> cases o <;> rfl

namespace Comparison

/-- A comparison with one value holds when its operator does. -/
theorem holds_single {op : Operator} (hcell : row.cell column = .ok a) :
    (⟨column, op, .single b⟩ : Comparison).holds row = op.holds a b := by
  unfold holds
  rw [hcell]
  cases op <;> rfl

/-- A comparison with a list holds when the cell is equal to one of the values. -/
theorem holds_isIn (hcell : row.cell column = .ok a) (hne : bs ≠ []) :
    (⟨column, .isIn, .list bs⟩ : Comparison).holds row = .ok (bs.any a.looseEq) := by
  have hoperand : (⟨column, .isIn, .list bs⟩ : Comparison).listOperand = .ok bs :=
    listOperand_eq_ok.2 ⟨rfl, rfl, hne⟩
  unfold holds
  rw [hcell, hoperand]
  rfl

/-- A negated comparison with a list holds when there is no null and the cell is equal to none of
the values. -/
theorem holds_notIn (hcell : row.cell column = .ok a) (hne : bs ≠ []) :
    (⟨column, .notIn, .list bs⟩ : Comparison).holds row =
      .ok (!a.isNull && !bs.any Scalar.isNull && !bs.any a.looseEq) := by
  have hoperand : (⟨column, .notIn, .list bs⟩ : Comparison).listOperand = .ok bs :=
    listOperand_eq_ok.2 ⟨rfl, rfl, hne⟩
  unfold holds
  rw [hcell, hoperand]
  rfl

/-! ## Numbers -/

/-- Numbers that are not rounded together compare as they are sorted. -/
theorem compare_of_apart {v w : Extended} (ha : a.extended? = some v) (hb : b.extended? = some w)
    (h : ¬ RoundedTogether a b) : a.looseCompare? b = some (a.sortCompare b) :=
  (Scalar.looseCompare?_eq_sortCompare_iff ha hb).2 h

/-- Among numbers that are not rounded together with one, the ones equal to it are those that sorting
finds equal. -/
theorem any_looseEq {v : Extended} (ha : a.extended? = some v)
    (h : ∀ b ∈ bs, (∃ w, b.extended? = some w) ∧ ¬ RoundedTogether a b) :
    bs.any a.looseEq = bs.any fun b => a.sortCompare b == .eq := by
  induction bs with
  | nil => rfl
  | cons b bs ih =>
    obtain ⟨⟨w, hw⟩, happart⟩ := h b List.mem_cons_self
    rw [List.any_cons, List.any_cons, Scalar.looseEq_eq (compare_of_apart ha hw happart),
      ih fun c hc => h c (List.mem_cons_of_mem b hc)]

/-- What comparisons say of a number: they find numbers before, behind or equal to it as sorting does,
unless the two are rounded together. -/
structure FollowsSorting (a : Scalar) : Prop where
  /-- It compares with a number as it is sorted exactly when they are not rounded together. -/
  order : ∀ b w, b.extended? = some w →
    (a.looseCompare? b = some (a.sortCompare b) ↔ ¬ RoundedTogether a b)
  /-- Only an integer of more than 53 bits and a floating-point number are rounded together. -/
  large : ∀ b, RoundedTogether a b → ∃ (i : Int64) (x : Binary64),
    (a = .int i ∧ b = .float x ∨ a = .float x ∧ b = .int i) ∧ 2 ^ 53 < i.toInt.natAbs
  /-- Integers compare exactly. -/
  integers : ∀ i j : Int64, a = .int i →
    a.looseCompare? (.int j) = some (compare i.toInt j.toInt)
  /-- An operator that asks for an order holds when it admits that of sorting. -/
  single : ∀ (row : Row) column b w, row.cell column = .ok a → b.extended? = some w →
    ¬ RoundedTogether a b → ∀ (op : Operator) admits, op.admits? = some admits →
    (⟨column, op, .single b⟩ : Comparison).holds row = .ok (admits (a.sortCompare b))
  /-- A list holds it when sorting finds it equal to one of the values. -/
  isIn : ∀ (row : Row) column bs, row.cell column = .ok a → bs ≠ [] →
    (∀ b ∈ bs, (∃ w, b.extended? = some w) ∧ ¬ RoundedTogether a b) →
    (⟨column, .isIn, .list bs⟩ : Comparison).holds row =
      .ok (bs.any fun b => a.sortCompare b == .eq)
  /-- A list does not hold it when sorting finds it equal to none of the values. -/
  notIn : ∀ (row : Row) column bs, row.cell column = .ok a → bs ≠ [] →
    (∀ b ∈ bs, (∃ w, b.extended? = some w) ∧ ¬ RoundedTogether a b) →
    (⟨column, .notIn, .list bs⟩ : Comparison).holds row =
      .ok (!bs.any fun b => a.sortCompare b == .eq)
  /-- What is equal to a number that it is equal to, it is equal to. -/
  trans : ∀ (b c : Scalar) v w, b.extended? = some v → c.extended? = some w →
    ¬ RoundedTogether a b → ¬ RoundedTogether b c →
    a.looseEq b = true → b.looseEq c = true → a.looseEq c = true

/-- Comparisons find numbers in the order in which they are sorted, unless two are rounded
together. -/
theorem numbers_follow_sorting {u : Extended} (ha : a.extended? = some u) : FollowsSorting a where
  order b w hb := Scalar.looseCompare?_eq_sortCompare_iff ha hb
  large b h := h.exists_large
  integers i j hi := by
    subst hi
    rfl
  single row column b w hcell hb happart op admits hop := by
    rw [holds_single hcell, Operator.holds_of_order hop (compare_of_apart ha hb happart)]
  isIn row column bs hcell hne hbs := by
    rw [holds_isIn hcell hne, any_looseEq ha hbs]
  notIn row column bs hcell hne hbs := by
    have hnull : bs.any Scalar.isNull = false := by
      refine List.any_eq_false.2 fun b hb hbnull => ?_
      obtain ⟨⟨w, hw⟩, -⟩ := hbs b hb
      rw [Scalar.isNull_of_extended? hw] at hbnull
      cases hbnull
    rw [holds_notIn hcell hne, hnull, Scalar.isNull_of_extended? ha, any_looseEq ha hbs]
    rfl
  trans b c v w hb hc hab hbc heq heq' := by
    rw [Scalar.looseEq_eq (compare_of_apart ha hb hab), beq_iff_eq] at heq
    rw [Scalar.looseEq_eq (compare_of_apart hb hc hbc), beq_iff_eq] at heq'
    have hsorted : a.sortCompare c = .eq := Std.TransCmp.eq_trans heq heq'
    have happart : ¬ RoundedTogether a c := fun h =>
      h.value_ne ha hc (compare_eq_iff_eq.1 (Scalar.sortCompare_of_values ha hc ▸ hsorted))
    rw [Scalar.looseEq_eq (compare_of_apart ha hc happart), hsorted]
    rfl

/-- The integer 2 ^ 53 + 1 is not rounded together with the float 2 ^ 53 + 2, before which it is
sorted and found less. -/
theorem numbers_follow_sorting_of_near :
    let i : Scalar := .int 9007199254740993
    let x : Scalar := .float (.ofFields false 1076 1)
    let row := Row.ofScalars [("a", i)]
    ¬ RoundedTogether i x ∧ i.sortCompare x = .lt ∧
      (⟨"a", .lt, .single x⟩ : Comparison).holds row = .ok (i.sortCompare x).isLT := by
  have happart : ¬ RoundedTogether (.int 9007199254740993) (.float (.ofFields false 1076 1)) := by
    rw [Scalar.roundedTogether_iff (by decide +kernel)]
    decide +kernel
  have hfollows : FollowsSorting (.int 9007199254740993) := numbers_follow_sorting rfl
  exact ⟨happart, by decide +kernel,
    hfollows.single _ "a" _ _ rfl rfl happart .lt _ rfl⟩

/-- The integer 2 ^ 53 + 1 sorts behind the float 2 ^ 53 and is found equal to it, as 2 ^ 53 is,
which is not equal to 2 ^ 53 + 1. -/
theorem rounded_number_found_equal :
    let i : Scalar := .int 9007199254740993
    let x : Scalar := .float (.ofFields false 1076 0)
    let j : Scalar := .int 9007199254740992
    i.looseCompare? x = some .eq ∧ i.sortCompare x = .gt ∧
      i.looseEq x = true ∧ x.looseEq j = true ∧ i.looseEq j = false := by
  decide +kernel

end Comparison

end RowQuery
