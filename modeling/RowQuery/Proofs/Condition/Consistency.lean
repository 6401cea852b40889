import Mathlib
import RowQuery.Proofs.Condition.Agreement
import RowQuery.Proofs.Condition.Ranking

/-!
# The operators beside each other

The operators that ask for an order (`Operator.admits?`) read one partial order of scalars
(`Operator.holds_eq`), so they are consistent with each other: from right to left each says what its
converse says (`Operator.converse`), and of `<`, `=` and `>` at most one holds. A list operator says of
a list what a group says that compares with its elements one by one (`Condition.holds_group`), with
null in the cell or among the elements too. `operators_consistent` puts this together.
-/

namespace RowQuery

variable {a b : Scalar} {row : Row} {column : String} {values : List Scalar}

/-! ## The order of scalars -/

/-- A number is equal to itself. -/
theorem Binary64.compare?_self {x : Binary64} (h : ¬ x.IsNaN) : x.compare? x = some .eq := by
  rw [compare?, if_neg (not_or.2 ⟨h, h⟩)]
  exact congrArg some Std.ReflCmp.compare_self

/-- A scalar that is neither null nor a not-a-number is equal to itself. -/
theorem Scalar.looseCompare?_self (hnull : a.isNull = false)
    (hnumber : ∀ x, a = .float x → ¬ x.IsNaN) : a.looseCompare? a = some .eq := by
  cases a with
  | null => cases hnull
  | bool b =>
    rw [looseCompare?_of_number? (by simp) (by simp) rfl rfl]
    exact Binary64.compare?_self (Binary64.not_isNaN_ofInt _)
  | int i => exact congrArg some Std.ReflCmp.compare_self
  | float x =>
    rw [looseCompare?_of_number? (by simp) (by simp) rfl rfl]
    exact Binary64.compare?_self (hnumber x rfl)
  | text s => exact congrArg some Std.ReflCmp.compare_self

/-! ## Operators -/

namespace Operator

variable {op : Operator}

/-- Without an order, an operator that asks for one holds only if it is `!=` and there is no null. -/
theorem holds_of_no_order (hop : op.admits?.isSome) (h : a.looseCompare? b = none) :
    op.holds a b = .ok (decide (op = .ne) && (!a.isNull && !b.isNull)) := by
  unfold holds
  rw [h]
  cases op with
  | ne => exact congrArg Except.ok (Bool.and_comm _ _)
  | eq | gt | ge | lt | le => rfl
  | is | isNot | like | notLike | isIn | notIn => cases hop

/-- What an operator that asks for an order answers. -/
theorem holds_eq {admits : Ordering → Bool} (hop : op.admits? = some admits) (a b : Scalar) :
    op.holds a b = .ok ((a.looseCompare? b).elim
      (decide (op = .ne) && (!a.isNull && !b.isNull)) admits) := by
  cases h : a.looseCompare? b with
  | none => exact holds_of_no_order (Option.isSome_of_eq_some hop) h
  | some o => exact holds_of_order hop h

/-- The operator that says from right to left what an operator that asks for an order says. -/
def converse : Operator → Operator
  | .gt => .lt
  | .ge => .le
  | .lt => .gt
  | .le => .ge
  | op => op

/-- The converse of an operator admits the orders that the operator admits from right to left. -/
theorem admits?_converse {admits : Ordering → Bool} (hop : op.admits? = some admits) :
    op.converse.admits? = some fun o => admits o.swap := by
  cases op <;> cases hop <;> exact congrArg some (funext fun o => by cases o <;> rfl)

/-- Only `!=` has `!=` as its converse. -/
theorem converse_eq_ne_iff : op.converse = .ne ↔ op = .ne := by
  cases op <;> simp [converse]

/-- An operator that asks for an order says what its converse says from right to left. -/
theorem holds_converse (hop : op.admits?.isSome) : op.holds a b = op.converse.holds b a := by
  obtain ⟨admits, hop⟩ := Option.isSome_iff_exists.1 hop
  rw [holds_eq hop, holds_eq (admits?_converse hop), Scalar.looseCompare?_swap a b]
  cases a.looseCompare? b with
  | none =>
    rw [Option.map_none, Option.elim_none, Option.elim_none, Bool.and_comm (!b.isNull)]
    simp only [converse_eq_ne_iff]
  | some o => rw [Option.map_some, Option.elim_some, Option.elim_some, Ordering.swap_swap]

end Operator

/-! ## Lists -/

/-- Two properties that no element has are absent together from each. -/
theorem not_any_and_not_any {α : Type} (p q : α → Bool) (l : List α) :
    (!l.any p && !l.any q) = l.all fun a => !p a && !q a := by
  induction l with
  | nil => rfl
  | cons a l ih =>
    rw [List.all_cons, ← ih, List.any_cons, List.any_cons]
    cases p a <;> cases q a <;> simp

namespace Condition

/-- A comparison that stands alone is decided as such. -/
theorem holds_compare (c : Comparison) : (compare c).holds row = c.holds row := by
  show ((c.holds row).map some).map _ = _
  cases c.holds row <;> rfl

/-- A group that compares a column with values one by one combines the answers of the operator. -/
theorem holds_group {op : Operator} {answer : Scalar → Bool} (hcell : row.cell column = .ok a)
    (hop : ∀ v, op.holds a v = .ok (answer v)) (conjunction : Conjunction) (values : List Scalar) :
    (group conjunction (values.map (compareWith column op))).holds row =
      .ok ((conjunction.combine (values.map answer)).getD true) := by
  have hmembers : (values.map (compareWith column op)).mapM (evaluate row 1) =
      .ok (values.map fun v => some (answer v)) := by
    rw [mapM_eq_ok, List.forall₂_map_left_iff, List.forall₂_map_right_iff, List.forall₂_same]
    intro v _
    show ((Comparison.holds ⟨column, op, .single v⟩ row).map some) = _
    rw [Comparison.holds_single hcell, hop]
    rfl
  have hanswers : (values.map fun v => some (answer v)).filterMap id = values.map answer := by
    rw [List.filterMap_map]
    exact congrFun List.filterMap_eq_map values
  rw [holds, evaluate, if_neg (by decide), evaluateAll_eq_mapM, hmembers]
  show Except.ok ((conjunction.combine ((values.map _).filterMap id)).getD true) = _
  rw [hanswers]

/-- A list has the cell among its values when the group of comparisons for equality holds. -/
theorem holds_isIn (hcell : row.cell column = .ok a) (hne : values ≠ []) :
    ∃ answer, (isIn column values).holds row = .ok answer ∧
      (group .or (values.map (equal column))).holds row = .ok answer := by
  have heq : ∀ v, Operator.eq.holds a v = .ok (a.looseEq v) := fun _ => rfl
  refine ⟨values.any a.looseEq, ?_, ?_⟩
  · exact (holds_compare _).trans (Comparison.holds_isIn hcell hne)
  · refine (holds_group hcell heq .or values).trans ?_
    simp [Conjunction.combine, hne]

/-- A list has the cell not among its values when the group of comparisons with `!=` holds. -/
theorem holds_notIn (hcell : row.cell column = .ok a) (hne : values ≠ []) :
    ∃ answer, (notIn column values).holds row = .ok answer ∧
      (group .and (values.map (compareWith column .ne))).holds row = .ok answer := by
  have hnot : ∀ v, Operator.ne.holds a v = .ok (!a.isNull && (!v.isNull && !a.looseEq v)) :=
    fun v => congrArg Except.ok (Bool.and_assoc _ _ _)
  refine ⟨!a.isNull && (!values.any Scalar.isNull && !values.any a.looseEq), ?_, ?_⟩
  · refine (holds_compare _).trans ((Comparison.holds_notIn hcell hne).trans ?_)
    rw [Bool.and_assoc]
  · refine (holds_group hcell hnot .and values).trans ?_
    rw [not_any_and_not_any]
    -- a null cell differs from none of the values, of which there is one
    cases a.isNull with
    | true =>
      obtain ⟨v, rest, rfl⟩ := List.exists_cons_of_ne_nil hne
      simp [Conjunction.combine]
    | false => simp [Conjunction.combine, hne]

end Condition

/-! ## The result -/

open Condition

/-- What the operators say of a cell with other scalars, beside each other. -/
structure Scalar.Consistent (a : Scalar) : Prop where
  /-- The order is reversed from right to left. -/
  order_swap : ∀ b : Scalar, b.looseCompare? a = (a.looseCompare? b).map Ordering.swap
  /-- A comparison on a row says what its operator says of the cell. -/
  compared : ∀ (row : Row) column b op, row.cell column = .ok a → op.admits?.isSome →
    (compareWith column op b).holds row = op.holds a b
  /-- The operators that ask for an order have an answer. -/
  decided : ∀ b (op : Operator), op.admits?.isSome → ∃ answer, op.holds a b = .ok answer
  /-- From right to left each says what its converse says. -/
  converse : ∀ b (op : Operator), op.admits?.isSome → op.holds a b = op.converse.holds b a
  /-- `<=` is `<` or `=`. -/
  le_iff : ∀ b, Operator.le.holds a b = .ok true ↔
    Operator.lt.holds a b = .ok true ∨ Operator.eq.holds a b = .ok true
  /-- `>=` is `>` or `=`. -/
  ge_iff : ∀ b, Operator.ge.holds a b = .ok true ↔
    Operator.gt.holds a b = .ok true ∨ Operator.eq.holds a b = .ok true
  /-- No two of `<`, `=` and `>` hold. -/
  exclusive : ∀ b, [Operator.lt, .eq, .gt].Pairwise fun op other =>
    ¬ (op.holds a b = .ok true ∧ other.holds a b = .ok true)
  /-- Without null, `!=` holds when `=` does not. -/
  ne_iff : ∀ b, a.isNull = false → b.isNull = false →
    (Operator.ne.holds a b = .ok true ↔ ¬ Operator.eq.holds a b = .ok true)
  /-- None of them holds of a null. -/
  null : ∀ b (op : Operator), (a.isNull || b.isNull) = true → op.admits?.isSome →
    op.holds a b = .ok false
  /-- A scalar that is neither null nor a not-a-number is equal to itself. -/
  self : a.isNull = false → (∀ x, a = .float x → ¬ x.IsNaN) → Operator.eq.holds a a = .ok true
  /-- `IN` a list says what an `OR` of comparisons for equality with its values says. -/
  isIn : ∀ (row : Row) column values, row.cell column = .ok a → values ≠ [] →
    ∃ answer, (isIn column values).holds row = .ok answer ∧
      (group .or (values.map (equal column))).holds row = .ok answer
  /-- `NOT IN` a list says what an `AND` of comparisons with `!=` with its values says. -/
  notIn : ∀ (row : Row) column values, row.cell column = .ok a → values ≠ [] →
    ∃ answer, (notIn column values).holds row = .ok answer ∧
      (group .and (values.map (compareWith column .ne))).holds row = .ok answer

/-- The operators are consistent with each other on every cell. -/
theorem operators_consistent (a : Scalar) : a.Consistent where
  order_swap b := Scalar.looseCompare?_swap a b
  compared row column b op hcell _ := (holds_compare _).trans (Comparison.holds_single hcell)
  decided b op hop := by
    obtain ⟨admits, hop⟩ := Option.isSome_iff_exists.1 hop
    exact ⟨_, Operator.holds_eq hop a b⟩
  converse b op hop := Operator.holds_converse hop
  le_iff b := by
    rw [Operator.holds_eq rfl, Operator.holds_eq rfl, Operator.holds_eq rfl]
    cases a.looseCompare? b with
    | none => simp
    | some o => cases o <;> simp
  ge_iff b := by
    rw [Operator.holds_eq rfl, Operator.holds_eq rfl, Operator.holds_eq rfl]
    cases a.looseCompare? b with
    | none => simp
    | some o => cases o <;> simp
  exclusive b := by
    simp only [List.pairwise_cons, List.mem_cons, forall_eq_or_imp, List.not_mem_nil]
    rw [Operator.holds_eq rfl, Operator.holds_eq rfl, Operator.holds_eq rfl]
    cases a.looseCompare? b with
    | none => simp
    | some o => cases o <;> simp
  ne_iff b ha hb := by
    rw [Operator.holds_eq rfl, Operator.holds_eq rfl, ha, hb]
    cases a.looseCompare? b with
    | none => simp
    | some o => cases o <;> simp
  null b op hnull hop := by
    rw [Operator.holds_of_no_order hop (Scalar.looseCompare?_of_isNull hnull), ← Bool.not_or, hnull]
    simp
  self hnull hnumber := by
    rw [Operator.holds_eq rfl, Scalar.looseCompare?_self hnull hnumber]
    rfl
  isIn row column values hcell hne := holds_isIn hcell hne
  notIn row column values hcell hne := holds_notIn hcell hne

/-- A text is before another one exactly as the other is behind it, and with a null among the values
neither `NOT IN` nor the group of comparisons with `!=` holds. -/
theorem operators_consistent_of_null_element :
    let row := Row.ofScalars [("a", .text "y")]
    let values : List Scalar := [.text "x", .null]
    row.cell "a" = .ok (.text "y") ∧ Operator.gt.holds (.text "y") (.text "x") = .ok true ∧
      Operator.lt.holds (.text "x") (.text "y") = .ok true ∧ values ≠ [] ∧
      (notIn "a" values).holds row = .ok false ∧
      (group .and (values.map (compareWith "a" .ne))).holds row = .ok false := by
  intro row values
  have hcell : row.cell "a" = .ok (.text "y") := by cbv
  have hbehind : Operator.gt.holds (.text "y") (.text "x") = .ok true := by cbv
  have hconverse := (operators_consistent (.text "y")).converse (.text "x") .gt rfl
  have hnot : (notIn "a" values).holds row = .ok false := by cbv
  obtain ⟨answer, hlist, hgroup⟩ := (operators_consistent (.text "y")).notIn row "a" values hcell
    (List.cons_ne_nil _ _)
  have hanswer : false = answer := Except.ok.inj (hnot.symm.trans hlist)
  exact ⟨hcell, hbehind, hconverse.symm.trans hbehind, List.cons_ne_nil _ _, hnot, hanswer ▸ hgroup⟩

end RowQuery
