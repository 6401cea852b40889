import RowQuery.Change.Delete
import RowQuery.Proofs.Condition.Fault
import RowQuery.Select.Answer
import RowQuery.Select.Statement

/-!
# Conditions that are not too high

A condition that is not higher than the limit has no node that stands too deep: what is wrong with
it is wrong with one of its leaves (`firstFault?_of_height_le`), so neither writing nor deciding it
fails because of its depth, and a select or a delete with such a filter does not either.
-/

namespace RowQuery

/-- The error is not that a condition is nested too deep. -/
def QueryError.NotTooDeep (e : QueryError) : Prop := ∀ limit, e ≠ .conditionTooDeep limit

/-! ## Faults -/

namespace Condition

variable {depth : Nat}

/-- In a condition that is not too high, the first fault is that of the first leaf that has one. -/
theorem firstFault?_of_height_le {leafFault? : Leaf → Option QueryError} {c : Condition}
    (h : depth + c.height ≤ maxDepth) :
    c.firstFault? leafFault? depth = c.leaves.findSome? leafFault? := by
  have hdepth : ¬ maxDepth < depth := Nat.not_lt.2 (Nat.le_trans (Nat.le_add_right _ _) h)
  induction c using recMembers generalizing depth with
  | raw sql values =>
    rw [leaves, List.findSome?_singleton]
    exact (firstFault?_leaf (.raw sql values)).trans (if_neg hdepth)
  | compare c =>
    rw [leaves, List.findSome?_singleton]
    exact (firstFault?_leaf (.compare c)).trans (if_neg hdepth)
  | group conjunction children ih =>
    rw [height, add_memberHeight_le_iff] at h
    have hchildren : ∀ c ∈ children,
        c.firstFault? leafFault? (depth + 1) = c.leaves.findSome? leafFault? := by
      intro c hc
      exact ih c hc (h.2 c hc) (Nat.not_lt.2 (Nat.le_trans (Nat.le_add_right _ _) (h.2 c hc)))
    rw [firstFault?_group, if_neg hdepth, leaves_group]
    clear ih h
    induction children with
    | nil => rfl
    | cons c children ihs =>
      rw [List.forall_mem_cons] at hchildren
      rw [findSome?_cons_eq_or, hchildren.1, ihs hchildren.2, List.flatMap_cons,
        List.findSome?_append]

end Condition

/-! ## Writing and deciding -/

/-- A name that cannot be quoted is all that is wrong with a name. -/
theorem Sql.failsOnly_quoteIdentifier (name : String) :
    FailsOnly QueryError.NotTooDeep (quoteIdentifier name) := by
  unfold quoteIdentifier
  split
  · exact .error fun _ => QueryError.noConfusion
  · exact .ok _

namespace Comparison

/-- What is wrong with the value to compare with is not a depth. -/
theorem failsOnly_scalarOperand (c : Comparison) :
    FailsOnly QueryError.NotTooDeep c.scalarOperand := by
  unfold scalarOperand
  split
  · exact .error fun _ => QueryError.noConfusion
  · split
    · exact .ok _
    · exact .error fun _ => QueryError.noConfusion

/-- What is wrong with the values to compare with is not a depth. -/
theorem failsOnly_listOperand (c : Comparison) : FailsOnly QueryError.NotTooDeep c.listOperand := by
  unfold listOperand
  split
  · split
    · exact .error fun _ => QueryError.noConfusion
    · exact .ok _
    · exact .error fun _ => QueryError.noConfusion
  · exact .error fun _ => QueryError.noConfusion

/-- A comparison is not refused for a depth. -/
theorem failsOnly_fragment (c : Comparison) : FailsOnly QueryError.NotTooDeep c.fragment := by
  unfold fragment
  refine (Sql.failsOnly_quoteIdentifier c.column).bind fun column _ => ?_
  split
  · exact (failsOnly_listOperand c).bind fun values _ => .ok _
  · exact (failsOnly_scalarOperand c).bind fun value _ => .ok _

end Comparison

/-- What is wrong with a cell is not a depth. -/
theorem Row.failsOnly_cell (row : Row) (column : String) :
    FailsOnly QueryError.NotTooDeep (row.cell column) := by
  unfold cell
  split
  · exact .error fun _ => QueryError.noConfusion
  · exact .mapError (fun _ _ => QueryError.noConfusion) _

/-- What is wrong with an operator on two scalars is not a depth. -/
theorem Operator.failsOnly_holds (op : Operator) (cell value : Scalar) :
    FailsOnly QueryError.NotTooDeep (op.holds cell value) := by
  have hlike : FailsOnly QueryError.NotTooDeep (likeMatch? cell value) := by
    unfold likeMatch?
    split
    · exact .ok _
    · split
      · exact .ok _
      · exact .error fun _ => QueryError.noConfusion
  cases op with
  | like | notLike => exact hlike.map _
  | isIn | notIn => exact .error fun _ => QueryError.noConfusion
  | _ => exact .ok _

/-- What is wrong with a comparison on a row is not a depth. -/
theorem Comparison.failsOnly_holds (c : Comparison) (row : Row) :
    FailsOnly QueryError.NotTooDeep (c.holds row) := by
  unfold holds
  refine (row.failsOnly_cell c.column).bind fun cell _ => ?_
  split
  · exact (failsOnly_listOperand c).bind fun values _ => .ok _
  · exact (failsOnly_listOperand c).bind fun values _ => .ok _
  · exact (failsOnly_scalarOperand c).bind fun value _ => Operator.failsOnly_holds _ cell value

namespace Condition

variable {c : Condition} {depth : Nat}

/-- A computation that fails with the first fault of a condition that is not too high fails with
something else than a depth, if the leaves do. -/
theorem failsOnly_of_height_le {α : Type} {x : Except QueryError α}
    {leafFault? : Leaf → Option QueryError} (hx : Reports x (c.firstFault? leafFault? depth))
    (h : depth + c.height ≤ maxDepth)
    (hleaf : ∀ leaf e, leafFault? leaf = some e → e.NotTooDeep) :
    FailsOnly QueryError.NotTooDeep x := by
  intro e he
  have hfault := (hx e).1 he
  rw [firstFault?_of_height_le h] at hfault
  obtain ⟨leaf, -, hleafFault⟩ := List.exists_of_findSome?_eq_some hfault
  exact hleaf leaf e hleafFault

/-- A condition that is not too high is not refused for its depth. -/
theorem failsOnly_fragment (h : depth + c.height ≤ maxDepth) :
    FailsOnly QueryError.NotTooDeep (c.fragment depth) := by
  refine failsOnly_of_height_le (reports_fragment fun leaf _ => .failure? _) h fun leaf e he => ?_
  have hfails := (Reports.failure? (leaf.condition.fragment 0) e).2 he
  cases leaf with
  | raw sql values => exact FailsOnly.ok _ e hfails
  | compare comparison => exact comparison.failsOnly_fragment e hfails

/-- A condition that is not too high is decided on every row or fails for something else than its
depth. -/
theorem failsOnly_holds (h : c.height ≤ maxDepth) (row : Row) :
    FailsOnly QueryError.NotTooDeep (c.holds row) := by
  have hdepth : 0 + c.height ≤ maxDepth := by rwa [Nat.zero_add]
  refine (failsOnly_of_height_le (reports_evaluate fun leaf _ => .failure? _) hdepth
    fun leaf e he => ?_).map _
  have hfails := (Reports.failure? (leaf.condition.evaluate row 0) e).2 he
  cases leaf with
  | raw sql values => exact FailsOnly.error (fun _ => QueryError.noConfusion) e hfails
  | compare comparison => exact (comparison.failsOnly_holds row).map some e hfails

/-- A filter that is not too high is not refused for its depth. -/
theorem failsOnly_filterFragment {filter? : Option Condition}
    (h : ∀ c ∈ filter?, c.height ≤ maxDepth) :
    FailsOnly QueryError.NotTooDeep (filterFragment filter?) := by
  cases filter? with
  | none => exact .ok _
  | some c => exact failsOnly_fragment (by simpa using h c rfl)

end Condition

/-! ## Statements and answers -/

/-- What is wrong with a list of names is not a depth. -/
theorem Sql.failsOnly_quoteList (names : List String) :
    FailsOnly QueryError.NotTooDeep (quoteList names) :=
  (FailsOnly.mapM fun name _ => failsOnly_quoteIdentifier name).bind fun _ _ => .ok _

/-- A delete with a filter that is not too high is not refused for its depth. -/
theorem Delete.failsOnly_statement {delete : Delete}
    (h : ∀ c ∈ delete.filter?, c.height ≤ Condition.maxDepth) :
    FailsOnly QueryError.NotTooDeep delete.statement :=
  (Condition.failsOnly_filterFragment h).bind fun _ _ => .ok _

namespace Select

variable {s : Select}

/-- A select with a filter that is not too high is not refused for its depth. -/
theorem failsOnly_statement (h : ∀ c ∈ s.filter?, c.height ≤ Condition.maxDepth) :
    FailsOnly QueryError.NotTooDeep s.statement := by
  have hfields : FailsOnly QueryError.NotTooDeep s.fieldsLine := by
    unfold fieldsLine
    dsimp only
    split
    · exact .ok _
    · exact (Sql.failsOnly_quoteList s.fields).bind fun _ _ => .ok _
  have hgroup : FailsOnly QueryError.NotTooDeep s.groupLine := by
    unfold groupLine
    split
    · exact .ok _
    · exact (Sql.failsOnly_quoteList s.groupBy).map _
  have horder : FailsOnly QueryError.NotTooDeep s.orderLine := by
    unfold orderLine
    split
    · exact .ok _
    · exact (FailsOnly.mapM fun key _ => (Sql.failsOnly_quoteIdentifier key.column).map _).map _
  refine hfields.bind fun _ _ => ?_
  refine (Condition.failsOnly_filterFragment h).bind fun _ _ => ?_
  exact hgroup.bind fun _ _ => horder.bind fun _ _ => .ok _

/-- What is wrong with the rows under a filter that is not too high is not a depth. -/
theorem failsOnly_filtered {filter? : Option Condition}
    (h : ∀ c ∈ filter?, c.height ≤ Condition.maxDepth) (rows : List Row) :
    FailsOnly QueryError.NotTooDeep (filtered filter? rows) := by
  induction rows with
  | nil => exact .ok _
  | cons row rows ih =>
    refine FailsOnly.bind ?_ fun _ _ => ih.bind fun _ _ => .ok _
    cases filter? with
    | none => exact .ok _
    | some c => exact Condition.failsOnly_holds (h c rfl) row

/-- What is missing in a row is not a depth. -/
theorem failsOnly_mapM_get? {α : Type} (names : List String) (row : Row) (f : String → Json → α) :
    FailsOnly QueryError.NotTooDeep (names.mapM fun name =>
      match row.get? name with
      | some value => .ok (f name value)
      | none => .error (.missingField name)) := by
  refine .mapM fun name _ => ?_
  split
  · exact .ok _
  · exact .error fun _ => QueryError.noConfusion

/-- A select with a filter that is not too high is answered or fails for something else than its
depth. -/
theorem failsOnly_answer (h : ∀ c ∈ s.filter?, c.height ≤ Condition.maxDepth) (rows : List Row) :
    FailsOnly QueryError.NotTooDeep (s.answer rows) := by
  have hgrouped (kept : List Row) : FailsOnly QueryError.NotTooDeep (grouped s.groupBy kept) := by
    unfold grouped
    split
    · exact .ok _
    · refine (FailsOnly.mapM fun row _ => ?_).bind fun _ _ => .ok _
      exact (failsOnly_mapM_get? s.groupBy row fun _ value => value.compact).map _
  have hsorted (firsts : List Row) : FailsOnly QueryError.NotTooDeep (sorted s.orderBy firsts) := by
    unfold sorted
    split
    · exact .ok _
    · refine (FailsOnly.mapM fun row _ => ?_).bind fun _ _ => .ok _
      exact (FailsOnly.mapM fun key _ => row.failsOnly_cell key.column).map _
  have hproject (row : Row) : FailsOnly QueryError.NotTooDeep (row.project s.fields) := by
    unfold Row.project
    split
    · exact .ok _
    · exact (failsOnly_mapM_get? s.fields row fun name value => (name, value)).bind fun _ _ => .ok _
  unfold answer
  dsimp only
  split
  · exact .error fun _ => QueryError.noConfusion
  · refine (failsOnly_filtered h rows).bind fun kept _ => ?_
    refine (hgrouped kept).bind fun firsts _ => ?_
    exact (hsorted firsts).bind fun ordered _ => .mapM fun row _ => hproject row

end Select

end RowQuery
