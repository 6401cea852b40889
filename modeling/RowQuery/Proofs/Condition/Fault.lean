import RowQuery.Proofs.Condition.Agreement
import RowQuery.Proofs.Condition.Verdict

/-!
# The node at fault

A condition is refused because of one of its nodes, whether it is to be written as SQL or to be
decided on a row. `Condition.nodes` lists its nodes in preorder, each with the number of groups it
stands in. A node is at fault if it stands in too many groups, or else if it is a leaf and something
is wrong with the leaf (`Condition.nodeFault?`). Writing and deciding both meet the nodes in this
order and stop at the first that is at fault (`reports_fragment`, `reports_evaluate`); what is wrong
with a leaf is a parameter, since the two look at different things.

Where the columns can be quoted and the cells are scalars, what is left to be wrong with a leaf is
its operand (`Leaf.operandFault?`), for both: they refuse the same conditions for the same reasons,
and what one leaves out the other ignores (`refused_alike`).
-/

namespace RowQuery

/-! ## Nodes -/

namespace Condition

mutual

/-- The nodes of a condition that stands in `depth` groups, in preorder, each with the number of
groups it stands in. -/
def nodes (depth : Nat) : Condition → List (Nat × Condition)
  | .raw sql values => [(depth, .raw sql values)]
  | .compare c => [(depth, .compare c)]
  | .group conjunction children =>
    (depth, .group conjunction children) :: memberNodes (depth + 1) children

/-- The nodes of the members of a group. -/
def memberNodes (depth : Nat) : List Condition → List (Nat × Condition)
  | [] => []
  | c :: rest => nodes depth c ++ memberNodes depth rest

end

/-- What is wrong with a node itself: that it stands too deep, before its content is looked at. -/
def nodeFault? (leafFault? : Leaf → Option QueryError) (node : Nat × Condition) :
    Option QueryError :=
  if maxDepth < node.1 then some (.conditionTooDeep maxDepth)
  else match node.2 with
    | .raw sql values => leafFault? (.raw sql values)
    | .compare c => leafFault? (.compare c)
    | .group _ _ => none

/-- What is wrong with the first node in preorder that is at fault. -/
def firstFault? (leafFault? : Leaf → Option QueryError) (depth : Nat) (c : Condition) :
    Option QueryError :=
  (c.nodes depth).findSome? (nodeFault? leafFault?)

variable {leafFault? : Leaf → Option QueryError} {depth : Nat}

/-- A leaf is at fault if it stands too deep or something is wrong with it. -/
theorem firstFault?_leaf (leaf : Leaf) : leaf.condition.firstFault? leafFault? depth =
    if maxDepth < depth then some (.conditionTooDeep maxDepth) else leafFault? leaf := by
  cases leaf <;> exact List.findSome?_singleton

/-- A group is at fault if it stands too deep, and then so is the first of its members that is. -/
theorem firstFault?_group (conjunction : Conjunction) (children : List Condition) :
    (group conjunction children).firstFault? leafFault? depth =
      if maxDepth < depth then some (.conditionTooDeep maxDepth)
      else children.findSome? (firstFault? leafFault? (depth + 1)) := by
  have hmembers : (memberNodes (depth + 1) children).findSome? (nodeFault? leafFault?) =
      children.findSome? (firstFault? leafFault? (depth + 1)) := by
    induction children with
    | nil => rfl
    | cons c children ih =>
      rw [memberNodes, List.findSome?_append, ih, List.findSome?_cons]
      show (c.firstFault? leafFault? (depth + 1)).or _ = _
      cases c.firstFault? leafFault? (depth + 1) <;> rfl
  rw [firstFault?, nodes, List.findSome?_cons, hmembers]
  unfold nodeFault?
  by_cases h : maxDepth < depth
  · rw [if_pos h, if_pos h]
  · rw [if_neg h, if_neg h]

/-! ## Writing and deciding -/

/-- Writing a condition as SQL fails with the fault of the first node that has one, if the leaves
taken alone fail with theirs. -/
theorem reports_fragment {c : Condition}
    (h : ∀ leaf ∈ c.leaves, Reports (leaf.condition.fragment 0) (leafFault? leaf)) :
    Reports (c.fragment depth) (c.firstFault? leafFault? depth) := by
  induction c using recMembers generalizing depth with
  | raw sql values =>
    rw [fragment]
    exact firstFault?_leaf (.raw sql values) ▸ (h _ (List.mem_singleton.2 rfl)).guarded _ _
  | compare c =>
    rw [fragment]
    exact firstFault?_leaf (.compare c) ▸ (h _ (List.mem_singleton.2 rfl)).guarded _ _
  | group conjunction children ih =>
    rw [fragment, firstFault?_group, fragments_eq_mapM]
    refine ((Reports.mapM fun c hc => ?_).map _).guarded _ _
    exact ih c hc fun leaf hleaf => h leaf (mem_leaves_group hc hleaf)

/-- Deciding a condition on a row fails with the fault of the first node that has one, if the leaves
taken alone fail with theirs. -/
theorem reports_evaluate {c : Condition} {row : Row}
    (h : ∀ leaf ∈ c.leaves, Reports (leaf.condition.evaluate row 0) (leafFault? leaf)) :
    Reports (c.evaluate row depth) (c.firstFault? leafFault? depth) := by
  induction c using recMembers generalizing depth with
  | raw sql values =>
    rw [evaluate]
    exact firstFault?_leaf (.raw sql values) ▸ (h _ (List.mem_singleton.2 rfl)).guarded _ _
  | compare c =>
    rw [evaluate]
    exact firstFault?_leaf (.compare c) ▸ (h _ (List.mem_singleton.2 rfl)).guarded _ _
  | group conjunction children ih =>
    rw [evaluate, firstFault?_group, evaluateAll_eq_mapM]
    refine ((Reports.mapM fun c hc => ?_).map _).guarded _ _
    exact ih c hc fun leaf hleaf => h leaf (mem_leaves_group hc hleaf)

end Condition

/-! ## Operands -/

namespace Comparison

/-- What is wrong with the operand, if it does not suit the operator. -/
def operandFault? (c : Comparison) : Option OperandFault :=
  match c.operator.takesList, c.operand with
  | true, .list (_ :: _) | false, .single _ => none
  | true, .list [] => some .emptyList
  | true, .single _ => some .expectedList
  | false, .list _ => some .expectedSingle

/-- What is wrong with a comparison because of its operand. -/
def fault? (c : Comparison) : Option QueryError :=
  c.operandFault?.map (.invalidOperand c.operator)

/-- An operator with one value finds what is wrong with the operand. -/
theorem reports_scalarOperand {c : Comparison} (single : c.operator.takesList = false) :
    Reports c.scalarOperand c.fault? := by
  obtain ⟨column, operator, operand⟩ := c
  simp only at single
  cases operand with
  | single v =>
    simp only [scalarOperand, fault?, operandFault?, single]
    exact .ok v
  | list values =>
    simp only [scalarOperand, fault?, operandFault?, single]
    exact .error _

/-- An operator with a list finds what is wrong with the operand. -/
theorem reports_listOperand {c : Comparison} (several : c.operator.takesList = true) :
    Reports c.listOperand c.fault? := by
  obtain ⟨column, operator, operand⟩ := c
  simp only at several
  match operand with
  | .single v =>
    simp only [listOperand, fault?, operandFault?, several]
    exact .error _
  | .list [] =>
    simp only [listOperand, fault?, operandFault?, several]
    exact .error _
  | .list (v :: values) =>
    simp only [listOperand, fault?, operandFault?, several]
    exact .ok (v :: values)

/-- A comparison whose column can be quoted is written unless its operand is wrong. -/
theorem reports_fragment {c : Comparison} (name : Sql.backquote ∉ c.column.toList) :
    Reports c.fragment c.fault? := by
  have hcolumn : Sql.quoteIdentifier c.column = .ok (Sql.quoted c.column) :=
    Sql.quoteIdentifier_eq_ok.2 ⟨name, rfl⟩
  rw [fragment, hcolumn]
  show Reports (if c.operator.takesList then _ else _) _
  split
  · next several => exact (reports_listOperand several).bind fun _ _ => ⟨_, rfl⟩
  · next single =>
    exact (reports_scalarOperand (Bool.eq_false_iff.2 single)).bind fun _ _ => ⟨_, rfl⟩

/-- A comparison of a scalar cell is decided unless its operand is wrong. -/
theorem reports_holds {c : Comparison} {row : Row} {cell : Scalar}
    (hcell : row.cell c.column = .ok cell)
    (fits : ∀ p ∈ c.patterns, Text.fitsPattern (Operator.likeText p) = true) :
    Reports (c.holds row) c.fault? := by
  have hscalar (single : c.operator.takesList = false) :
      Reports (c.scalarOperand >>= c.operator.holds cell) c.fault? := by
    refine (reports_scalarOperand single).bind fun value hvalue => ?_
    refine ⟨_, Operator.holds_eq_isTrue single fun hop => fits value ?_⟩
    rw [patterns, if_pos hop, (scalarOperand_eq_ok.1 hvalue).2]
    exact List.mem_singleton.2 rfl
  rw [holds, hcell]
  cases hop : c.operator with
  | isIn | notIn =>
    have several : c.operator.takesList = true := by rw [hop]; rfl
    exact (reports_listOperand several).bind fun _ _ => ⟨_, rfl⟩
  | _ =>
    have single : c.operator.takesList = false := by rw [hop]; rfl
    have h := hscalar single
    rw [hop] at h
    exact h

end Comparison

/-- What is wrong with a leaf because of its operand. -/
def Leaf.operandFault? : Leaf → Option QueryError
  | .raw _ _ => none
  | .compare c => c.fault?

namespace Condition

/-- The leaves of a condition without raw fragments are its comparisons. -/
theorem exists_comparison_of_mem_leaves {c : Condition} (free : c.RawFree) {leaf : Leaf}
    (h : leaf ∈ c.leaves) : ∃ comparison ∈ c.comparisons, leaf = .compare comparison := by
  cases leaf with
  | raw sql values => exact absurd h (free sql values)
  | compare comparison => exact ⟨comparison, List.mem_filterMap.2 ⟨_, h, rfl⟩, rfl⟩

/-- Where all columns can be quoted and all cells are scalars, a condition is written as SQL exactly
when it is decided, both fail with the fault of the first node in preorder that stands too deep or
has an operand that does not suit its operator, and a condition that is written as nothing is one
that is vacuous on the row. -/
theorem refused_alike {c : Condition} {row : Row} (free : c.RawFree)
    (names : ∀ column ∈ c.columns, Sql.backquote ∉ column.toList)
    (cells : ∀ column ∈ c.columns, ∃ cell, row.cell column = .ok cell)
    (fits : ∀ p ∈ c.patterns, Text.fitsPattern (Operator.likeText p) = true) :
    ((∃ f, c.fragment 0 = .ok f) ↔ ∃ answer, c.holds row = .ok answer) ∧
    (∀ e, c.fragment 0 = .error e ↔ c.firstFault? Leaf.operandFault? 0 = some e) ∧
    (∀ e, c.holds row = .error e ↔ c.firstFault? Leaf.operandFault? 0 = some e) ∧
    ∀ f answer, c.fragment 0 = .ok f → c.evaluate row 0 = .ok answer →
      (f.isEmpty = true ↔ answer = none) := by
  have hwritten : Reports (c.fragment 0) (c.firstFault? Leaf.operandFault? 0) :=
    Condition.reports_fragment fun leaf hleaf => by
      obtain ⟨comparison, hmem, rfl⟩ := exists_comparison_of_mem_leaves free hleaf
      exact Comparison.reports_fragment (names _ (List.mem_map_of_mem hmem))
  have hevaluated : Reports (c.evaluate row 0) (c.firstFault? Leaf.operandFault? 0) :=
    Condition.reports_evaluate fun leaf hleaf => by
      obtain ⟨comparison, hmem, rfl⟩ := exists_comparison_of_mem_leaves free hleaf
      obtain ⟨cell, hcell⟩ := cells _ (List.mem_map_of_mem hmem)
      exact (Comparison.reports_holds hcell fun p hp =>
        fits p (List.mem_flatMap.2 ⟨comparison, hmem, hp⟩)).map some
  have hdecided : Reports (c.holds row) (c.firstFault? Leaf.operandFault? 0) := hevaluated.map _
  refine ⟨hwritten.exists_ok_iff.trans hdecided.exists_ok_iff.symm, hwritten, hdecided, ?_⟩
  intro f answer hf hanswer
  -- what is written and what is answered are both read off the normal form
  have hsays := says_normalForm free hf
  rw [evaluate_eq_verdict (height_le_of_fragment hf)] at hanswer
  cases hn : c.normalForm with
  | none =>
    rw [hn] at hsays hanswer
    obtain rfl : f = {} := hsays
    cases hanswer
    simp [Fragment.isEmpty]
  | some n =>
    rw [hn] at hsays hanswer
    have hwrites : f.Writes n := hsays
    obtain ⟨b, -, rfl⟩ := map_eq_ok.1 hanswer
    simp [hwrites.nonempty]

/-- Of two members with operands that do not suit them, behind one that says nothing, the first is
what is wrong, on both ways. -/
theorem refused_alike_of_two_faults :
    let c := group .and [group .or [], group .or [compareWith "a" .isIn (.int 1), isNull "b"],
      notIn "b" []]
    let row := Row.ofScalars [("a", .int 1), ("b", .null)]
    c.fragment 0 = .error (.invalidOperand .isIn .expectedList) ∧
      c.holds row = .error (.invalidOperand .isIn .expectedList) := by
  intro c row
  have free : c.RawFree := fun sql values => by
    simp [c, leaves, memberLeaves, compareWith, notIn, isNull, compareList]
  have names : ∀ column ∈ ["a", "b", "b"], Sql.backquote ∉ column.toList := by decide
  have cells : ∀ column ∈ ["a", "b", "b"], ∃ cell, row.cell column = .ok cell := by
    have ha : row.cell "a" = .ok (.int 1) := rfl
    have hb : row.cell "b" = .ok .null := rfl
    simp [ha, hb]
  obtain ⟨-, hwritten, hdecided, -⟩ := refused_alike free names cells (List.forall_mem_nil _)
  have hfault : c.firstFault? Leaf.operandFault? 0 = some (.invalidOperand .isIn .expectedList) := rfl
  exact ⟨(hwritten _).2 hfault, (hdecided _).2 hfault⟩

end Condition

end RowQuery
