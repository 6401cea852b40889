import RowQuery.Proofs.Condition.Decoding
import RowQuery.Proofs.Sql.Truth

/-!
# Deciding a condition agrees with its SQL

A condition holds of a row exactly when the SQL that it is written as is true on that row
(`holds_iff_sql_true`). Where SQL is unknown, the condition does not hold: the two agree on which
comparisons are true (`Comparison.holds_eq_isTrue`), and conjunctions of conditions keep that
(`Condition.evaluate_normalForm`).
-/

namespace RowQuery

/-! ## Comparisons -/

namespace Scalar

/-- Nothing is known of how a null compares. -/
theorem looseCompare?_of_isNull {cell value : Scalar}
    (h : (cell.isNull || value.isNull) = true) : cell.looseCompare? value = none := by
  cases cell with
  | null => rfl
  | _ => cases value with
    | null => rfl
    | _ => cases h

/-- `IS` holds of two scalars that are the same. -/
theorem same_eq (cell value : Scalar) :
    cell.same value = if value.isNull then cell.isNull else cell.looseEq value := by
  unfold same looseEq
  by_cases h : (cell.isNull || value.isNull) = true
  · rw [if_pos h, looseCompare?_of_isNull h]
    rcases Bool.or_eq_true _ _ ▸ h with hcell | hvalue
    · rw [hcell, Bool.true_and]
      cases value.isNull <;> rfl
    · rw [hvalue, Bool.and_true]
      rfl
  · have hvalue : ¬ value.isNull = true := fun hv => h (by rw [hv, Bool.or_true])
    rw [if_neg h, if_neg hvalue]

/-- A cell is one of some values when it equals one. -/
theorem isTrue_membership (cell : Scalar) (values : List Scalar) :
    (cell.membership values).isTrue = values.any cell.looseEq := by
  show Truth.isTrue (if values.any cell.looseEq then _ else _) = _
  cases values.any cell.looseEq with
  | true => rfl
  | false => cases cell.isNull || values.any isNull <;> rfl

/-- A cell is none of some values when no null is involved and it equals none. -/
theorem isTrue_not_membership (cell : Scalar) (values : List Scalar) :
    (cell.membership values).not.isTrue =
      (!cell.isNull && !values.any isNull && !values.any cell.looseEq) := by
  show (Truth.not (if values.any cell.looseEq then _ else _)).isTrue = _
  cases values.any cell.looseEq <;> cases cell.isNull <;> cases values.any isNull <;> rfl

end Scalar

/-- An operator with one value holds of a cell when its comparison is true. -/
theorem Operator.holds_eq_isTrue {op : Operator} {cell value : Scalar}
    (single : op.takesList = false)
    (fits : op = .like ∨ op = .notLike → Text.fitsPattern (likeText value) = true) :
    op.holds cell value = .ok (op.truth cell value).isTrue := by
  cases op with
  | isIn | notIn => cases single
  | is => simp [holds, truth, Scalar.same_eq]
  | isNot =>
    simp only [holds, truth, Truth.isTrue_not_ofBool, Scalar.same_eq]
    split <;> rfl
  | like | notLike =>
    have hfits := fits (by simp)
    by_cases hnull : (cell.isNull || value.isNull) = true
    · simp [holds, truth, likeMatch?, hnull, Except.map]
    · simp [holds, truth, relates, likeMatch?, hnull, hfits, Except.map]
  | _ =>
    have hknown : (!cell.isNull && !value.isNull) = !(cell.isNull || value.isNull) :=
      (Bool.not_or _ _).symm
    by_cases hnull : (cell.isNull || value.isNull) = true
    · simp [holds, truth, hknown, hnull, Scalar.looseCompare?_of_isNull hnull]
    · simp [holds, truth, relates, hknown, hnull]

namespace Comparison

/-- A comparison holds of a row when it is true of its cell there. -/
theorem holds_eq_isTrue {c : Comparison} {row : Row} {cell : Scalar}
    (hcell : row.cell c.column = .ok cell) (suited : c.Suited)
    (fits : ∀ p ∈ c.patterns, Text.fitsPattern (Operator.likeText p) = true) :
    ∃ t, c.truth? cell = some t ∧ c.holds row = .ok t.isTrue := by
  obtain ⟨column, operator, operand⟩ := c
  cases operand with
  | single value =>
    have single : operator.takesList = false := suited
    have htruth : truth? ⟨column, operator, .single value⟩ cell =
        some (operator.truth cell value) := by
      cases operator <;> first | rfl | cases single
    have hholds : holds ⟨column, operator, .single value⟩ row = operator.holds cell value := by
      rw [holds, hcell]
      cases operator <;> rfl
    refine ⟨_, htruth, hholds.trans (Operator.holds_eq_isTrue single fun hop => ?_)⟩
    exact fits value (by simp [patterns, hop, Operand.values])
  | list values =>
    have hvalues : listOperand ⟨column, operator, .list values⟩ = .ok values :=
      listOperand_eq_ok.2 ⟨suited.1, rfl, suited.2⟩
    rw [holds, hcell]
    cases operator with
    | isIn =>
      refine ⟨_, rfl, ?_⟩
      rw [Scalar.isTrue_membership]
      exact bind_eq_ok.2 ⟨cell, rfl, bind_eq_ok.2 ⟨values, hvalues, rfl⟩⟩
    | notIn =>
      refine ⟨_, rfl, ?_⟩
      rw [Scalar.isTrue_not_membership]
      exact bind_eq_ok.2 ⟨cell, rfl, bind_eq_ok.2 ⟨values, hvalues, rfl⟩⟩
    | _ => cases suited.1

end Comparison

/-! ## Conditions -/

namespace Condition

variable {row : Row} {depth : Nat}

/-- The answer is whether the condition is true on the row. -/
def Answers (row : Row) (answer : Bool) (n : Condition) : Prop :=
  ∃ t, n.truth? row = some t ∧ t.isTrue = answer

/-- The members of a group are decided one by one. -/
theorem evaluateAll_eq_mapM (row : Row) (depth : Nat) (children : List Condition) :
    evaluateAll row depth children = children.mapM (evaluate row depth) := by
  induction children with
  | nil => rfl
  | cons c children ih => rw [evaluateAll, List.mapM_cons, ih]

/-- The truths of conditions whose answers are known. -/
theorem exists_truths {answers : List Bool} {members : List Condition}
    (h : List.Forall₂ (Answers row) answers members) :
    ∃ truths, members.mapM (truth? row) = some truths ∧ answers = truths.map Truth.isTrue := by
  induction h with
  | nil => exact ⟨[], rfl, rfl⟩
  | @cons answer m answers members hm _ ih =>
    obtain ⟨t, ht, rfl⟩ := hm
    obtain ⟨truths, htruths, rfl⟩ := ih
    refine ⟨t :: truths, ?_, rfl⟩
    rw [List.mapM_cons, ht, htruths]
    rfl

/-- The answer of a group is whether what is left of it is true. -/
theorem answers_collapse (conjunction : Conjunction) {answers : List Bool}
    {members : List Condition} (h : List.Forall₂ (Answers row) answers members) :
    Option.Rel (Answers row) (conjunction.combine answers) (collapse conjunction members) := by
  obtain ⟨truths, htruths, rfl⟩ := exists_truths h
  match members, truths, h with
  | [], [], _ => exact .none
  | [m], [t], .cons hm _ =>
    have hsingle : conjunction.combine [t.isTrue] = some t.isTrue := by
      cases conjunction <;> simp [Conjunction.combine]
    exact hsingle ▸ .some hm
  | m :: m' :: rest, t :: t' :: truths, _ =>
    rw [conjunction.combine_isTrue (List.cons_ne_nil _ _)]
    refine .some ⟨_, ?_, rfl⟩
    rw [truth?, truths?_eq_mapM, htruths]
    rfl

/-- What is written as SQL is decided on a row of scalar cells, and the answer is whether its normal
form is true there. -/
theorem evaluate_normalForm {c : Condition} (free : c.RawFree) {f : Fragment}
    (h : c.fragment depth = .ok f)
    (cells : ∀ column ∈ c.columns, ∃ cell, row.cell column = .ok cell)
    (fits : ∀ p ∈ c.patterns, Text.fitsPattern (Operator.likeText p) = true) :
    ∃ answer, c.evaluate row depth = .ok answer ∧
      Option.Rel (Answers row) answer c.normalForm := by
  induction c using recMembers generalizing depth f with
  | raw sql values => exact absurd free not_rawFree_raw
  | compare c =>
    obtain ⟨hdepth, hc⟩ := fragment_compare_eq_ok.1 h
    obtain ⟨-, hsuited, -⟩ := Comparison.fragment_eq_ok.1 hc
    obtain ⟨cell, hcell⟩ := cells c.column (List.mem_singleton.2 rfl)
    obtain ⟨t, ht, hholds⟩ := Comparison.holds_eq_isTrue hcell hsuited fun p hp =>
      fits p (List.mem_flatMap.2 ⟨c, List.mem_singleton.2 rfl, hp⟩)
    refine ⟨some t.isTrue, ?_, .some ⟨t, ?_, rfl⟩⟩
    · rw [evaluate, if_neg (Nat.not_lt.2 hdepth), hholds]
      rfl
    · rw [truth?, hcell]
      exact ht
  | group conjunction children ih =>
    obtain ⟨hdepth, fs, hfs, -⟩ := fragment_group_eq_ok.1 h
    have hchildren : ∀ c ∈ children, ∃ answer, c.evaluate row (depth + 1) = .ok answer ∧
        Option.Rel (Answers row) answer c.normalForm := by
      intro c hc
      obtain ⟨g, -, hg⟩ := exists_of_forall₂ hfs hc
      refine ih c hc (free.member hc) hg (fun column hcolumn => ?_) (fun p hp => ?_)
      · obtain ⟨comparison, hcomparison, rfl⟩ := List.mem_map.1 hcolumn
        exact cells _ (List.mem_map_of_mem (mem_comparisons_group hc hcomparison))
      · obtain ⟨comparison, hcomparison, hp⟩ := List.mem_flatMap.1 hp
        exact fits p (List.mem_flatMap.2 ⟨comparison, mem_comparisons_group hc hcomparison, hp⟩)
    obtain ⟨answers, hanswers, hrel⟩ := exists_mapM_eq_ok hchildren
    -- a member that says nothing has neither an answer nor a normal form: both drop the same ones
    have hmembers : List.Forall₂ (Answers row) (answers.filterMap id)
        (children.filterMap normalForm) := List.rel_filterMap (fun _ _ hr => hr) hrel
    refine ⟨conjunction.combine (answers.filterMap id), ?_, ?_⟩
    · rw [evaluate, if_neg (Nat.not_lt.2 hdepth), evaluateAll_eq_mapM, hanswers]
      rfl
    · rw [normalForm_group]
      exact answers_collapse conjunction hmembers

/-- A condition without raw fragments that is written as SQL holds of a row of scalar cells exactly
when that SQL is true on the row, and does not hold when it is false or unknown. -/
theorem holds_iff_sql_true {c : Condition} {row : Row} {f : Fragment} (free : c.RawFree)
    (h : c.fragment 0 = .ok f)
    (cells : ∀ column ∈ c.columns, ∃ cell, row.cell column = .ok cell)
    (fits : ∀ p ∈ c.patterns, Text.fitsPattern (Operator.likeText p) = true) :
    ∃ t, Sql.truth? row f.sql f.values = some t ∧ c.holds row = .ok (decide (t = .true)) := by
  obtain ⟨answer, hanswer, hrel⟩ := evaluate_normalForm free h cells fits
  rw [Sql.truth?, restriction?_fragment free h, Option.bind_some, holds, hanswer]
  cases hn : c.normalForm with
  | none =>
    rw [hn] at hrel
    cases hrel
    exact ⟨.true, rfl, rfl⟩
  | some n =>
    rw [hn] at hrel
    cases hrel with
    | some hanswer =>
      obtain ⟨t, ht, rfl⟩ := hanswer
      exact ⟨t, ht, rfl⟩

/-- A null among the values makes the first member unknown, and the second decides. -/
theorem holds_iff_sql_true_of_null :
    let c := group .or [notIn "a" [.int 1, .null], group .and [],
      group .and [compareWith "b" .like (.text "X%"), isNotNull "a"]]
    let row := Row.ofScalars [("a", .int 2), ("b", .text "xy")]
    let f : Fragment := {
      sql := "`a` NOT IN (?, ?) OR (`b` LIKE ? AND `a` IS NOT ?)"
      values := [.int 1, .null, .text "X%", .null]
      needsParens := true }
    c.fragment 0 = .ok f ∧
      ∃ t, Sql.truth? row f.sql f.values = some t ∧ c.holds row = .ok (decide (t = .true)) := by
  intro c row f
  have h : c.fragment 0 = .ok f := rfl
  have free : c.RawFree := fun sql values => by
    simp [c, leaves, memberLeaves, compareWith, notIn, isNotNull, compareList]
  have cells : ∀ column ∈ ["a", "b", "a"], ∃ cell, row.cell column = .ok cell := by
    have ha : row.cell "a" = .ok (.int 2) := rfl
    have hb : row.cell "b" = .ok (.text "xy") := rfl
    simp [ha, hb]
  have fits : ∀ p ∈ [Scalar.text "X%"], Text.fitsPattern (Operator.likeText p) = true := by
    intro p hp
    rw [List.mem_singleton.1 hp]
    decide
  exact ⟨h, holds_iff_sql_true free h cells fits⟩

end Condition

end RowQuery
