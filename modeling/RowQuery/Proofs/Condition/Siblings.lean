import Mathlib
import RowQuery.Proofs.Condition.Fault
import RowQuery.Proofs.Outcome

/-!
# Conditions and the order of their members

Every member of a group is decided, whatever the members before it say. So a condition is decided on
a row exactly when each of its nodes is in order by itself: none stands too deep, none is a raw
fragment, and every comparison is decided when it stands alone. And so the order of the members of a
group does not matter, at any level: a condition is decided as every condition is that has the same
members in another order (`Condition.Reordered`). `holds_ignores_siblings` says both.
-/

namespace RowQuery

/-- The answer of a group is that of its members in any order. -/
theorem Conjunction.combine_perm (conjunction : Conjunction) {answers answers' : List Bool}
    (h : answers.Perm answers') : conjunction.combine answers = conjunction.combine answers' := by
  unfold combine
  rw [h.isEmpty_eq, h.all_eq, h.any_eq]

namespace Condition

variable {c c' : Condition} {row : Row} {depth : Nat}

/-! ## Node by node -/

/-- The nodes of a group are the group and those of its members. -/
theorem nodes_group (conjunction : Conjunction) (children : List Condition) :
    (group conjunction children).nodes depth =
      (depth, group conjunction children) :: children.flatMap (nodes (depth + 1)) := by
  have hmembers : memberNodes (depth + 1) children = children.flatMap (nodes (depth + 1)) := by
    induction children with
    | nil => rfl
    | cons c children ih => rw [memberNodes, ih, List.flatMap_cons]
  rw [nodes, hmembers]

/-- Nothing is wrong where nothing stands too deep and nothing else is wrong. -/
theorem guarded_eq_none_iff {fault? : Option QueryError} :
    (if maxDepth < depth then some (.conditionTooDeep maxDepth) else fault?) = none ↔
      depth ≤ maxDepth ∧ fault? = none := by
  split
  · next hdeep => simp [Nat.not_le.2 hdeep]
  · next hdepth => simp [Nat.not_lt.1 hdepth]

/-- Nothing is wrong with a condition when no node stands too deep and nothing is wrong with a
leaf. -/
theorem firstFault?_eq_none_iff {leafFault? : Leaf → Option QueryError} :
    c.firstFault? leafFault? depth = none ↔
      (∀ node ∈ c.nodes depth, node.1 ≤ maxDepth) ∧ ∀ leaf ∈ c.leaves, leafFault? leaf = none := by
  have hleaf (leaf : Leaf) (depth : Nat) : leaf.condition.firstFault? leafFault? depth = none ↔
      depth ≤ maxDepth ∧ leafFault? leaf = none :=
    firstFault?_leaf leaf ▸ guarded_eq_none_iff
  induction c using recMembers generalizing depth with
  | raw sql values =>
    rw [nodes, leaves, List.forall_mem_singleton, List.forall_mem_singleton]
    exact hleaf (.raw sql values) depth
  | compare c =>
    rw [nodes, leaves, List.forall_mem_singleton, List.forall_mem_singleton]
    exact hleaf (.compare c) depth
  | group conjunction children ih =>
    have hmembers : children.findSome? (firstFault? leafFault? (depth + 1)) = none ↔
        ∀ c ∈ children, (∀ node ∈ c.nodes (depth + 1), node.1 ≤ maxDepth) ∧
          ∀ leaf ∈ c.leaves, leafFault? leaf = none := by
      rw [List.findSome?_eq_none_iff]
      exact forall₂_congr fun c hc => ih c hc
    rw [firstFault?_group, guarded_eq_none_iff, hmembers, nodes_group, leaves_group,
      List.forall_mem_cons, List.forall_mem_flatMap, List.forall_mem_flatMap, forall₂_and,
      and_assoc]

/-- What is said of the leaves of a condition without raw fragments is said of its comparisons. -/
theorem forall_leaves_iff {P : Leaf → Prop} (hraw : ∀ sql values, ¬ P (.raw sql values)) :
    (∀ leaf ∈ c.leaves, P leaf) ↔
      c.RawFree ∧ ∀ comparison ∈ c.comparisons, P (.compare comparison) := by
  constructor
  · intro h
    refine ⟨fun sql values hleaf => hraw sql values (h _ hleaf), fun comparison hmem => ?_⟩
    obtain ⟨leaf, hleaf, heq⟩ := List.mem_filterMap.1 hmem
    cases leaf with
    | raw sql values => cases heq
    | compare comparison' =>
      cases heq
      exact h _ hleaf
  · rintro ⟨free, h⟩ leaf hleaf
    obtain ⟨comparison, hmem, rfl⟩ := exists_comparison_of_mem_leaves free hleaf
    exact h comparison hmem

/-- A condition is decided when none of its nodes stands too deep, none is a raw fragment, and every
comparison is decided when it stands alone. -/
theorem exists_holds_iff : (∃ b, c.holds row = .ok b) ↔
    (∀ node ∈ c.nodes 0, node.1 ≤ maxDepth) ∧ c.RawFree ∧
      ∀ comparison ∈ c.comparisons, ∃ b, (compare comparison).holds row = .ok b := by
  have hreports : Reports (c.holds row)
      (c.firstFault? (fun leaf => failure? (leaf.condition.evaluate row 0)) 0) :=
    (reports_evaluate fun leaf _ => .failure? _).map _
  have halone (c : Condition) : failure? (c.evaluate row 0) = none ↔ ∃ b, c.holds row = .ok b :=
    ((Reports.failure? _).map _).exists_ok_iff.symm
  rw [hreports.exists_ok_iff, firstFault?_eq_none_iff]
  refine and_congr_right fun _ => ?_
  simp only [halone]
  refine forall_leaves_iff fun sql values h => ?_
  obtain ⟨b, hb⟩ := h
  cases hb

/-! ## Members in another order -/

/-- The condition with the members of its groups in another order, at any levels. -/
inductive Reordered : Condition → Condition → Prop
  /-- A leaf has no members. -/
  | leaf (leaf : Leaf) : Reordered leaf.condition leaf.condition
  /-- The members of a group, each with its members in another order, in another order. -/
  | group (conjunction : Conjunction) {children members children' : List Condition}
      (h : List.Forall₂ Reordered children members) (hperm : members.Perm children') :
      Reordered (.group conjunction children) (.group conjunction children')

/-- A leaf stays as it is. -/
theorem Reordered.eq_of_leaf (leaf : Leaf) (h : leaf.condition.Reordered c') :
    leaf.condition = c' := by
  generalize hc : leaf.condition = c at h
  cases h with
  | leaf => rfl
  | group => cases leaf <;> cases hc

/-- A group stays a group by the same conjunction. -/
theorem Reordered.exists_members {conjunction : Conjunction} {children : List Condition}
    (h : (Condition.group conjunction children).Reordered c') :
    ∃ members children', List.Forall₂ Reordered children members ∧ members.Perm children' ∧
      .group conjunction children' = c' := by
  generalize hc : Condition.group conjunction children = c at h
  cases h with
  | leaf leaf => cases leaf <;> cases hc
  | group _ h hperm =>
    cases hc
    exact ⟨_, _, h, hperm, rfl⟩

/-- A condition is answered as it is with its members in another order. -/
theorem Reordered.evaluate (h : Reordered c c') :
    SameOutcome Eq (c.evaluate row depth) (c'.evaluate row depth) := by
  induction c using recMembers generalizing c' depth with
  | raw sql values =>
    obtain rfl := eq_of_leaf (.raw sql values) h
    exact .same _
  | compare comparison =>
    obtain rfl := eq_of_leaf (.compare comparison) h
    exact .same _
  | group conjunction children ih =>
    obtain ⟨members, children', hpointwise, hperm, rfl⟩ := h.exists_members
    have hmembers : SameOutcome (List.Forall₂ Eq)
        (children.mapM (Condition.evaluate row (depth + 1)))
        (members.mapM (Condition.evaluate row (depth + 1))) :=
      .mapM (forall₂_imp_of_mem hpointwise fun c hc m _ hcm => ih c hc hcm)
    have hanswers := hmembers.trans (SameOutcome.mapM_perm _ hperm)
    rw [Condition.evaluate, Condition.evaluate, evaluateAll_eq_mapM, evaluateAll_eq_mapM]
    split
    · exact .same _
    · refine hanswers.map fun answers answers' hrelated => ?_
      obtain ⟨between, hequal, hperm⟩ := hrelated
      rw [List.forall₂_eq_eq_eq] at hequal
      exact conjunction.combine_perm (hequal ▸ hperm.filterMap id)

/-! ## The result -/

/-- A condition is decided on a row exactly when no node stands too deep, there is no raw fragment,
and every comparison is decided when it stands alone; and with its members in another order, at any
levels, it is decided alike. -/
theorem holds_ignores_siblings (c : Condition) (row : Row) :
    ((∃ b, c.holds row = .ok b) ↔
      (∀ node ∈ c.nodes 0, node.1 ≤ maxDepth) ∧ c.RawFree ∧
        ∀ comparison ∈ c.comparisons, ∃ b, (compare comparison).holds row = .ok b) ∧
    ∀ c', c.Reordered c' → ∀ b, c'.holds row = .ok b ↔ c.holds row = .ok b := by
  refine ⟨exists_holds_iff, fun c' h b => ?_⟩
  have hholds : SameOutcome Eq (c.holds row) (c'.holds row) :=
    h.evaluate.map fun answer answer' heq => heq ▸ rfl
  exact hholds.eq_ok_iff.symm

/-- An alternative that holds does not hide that the other names a column that is not there, and two
alternatives are decided alike from right to left. -/
theorem holds_ignores_siblings_of_alternatives :
    let row := Row.ofScalars [("a", .int 1), ("b", .null)]
    let c := group .or [equal "a" (.int 1), equal "z" (.int 1)]
    let d := group .or [equal "a" (.int 1), group .and [isNull "b", equal "a" (.int 2)]]
    let d' := group .or [group .and [equal "a" (.int 2), isNull "b"], equal "a" (.int 1)]
    (¬ ∃ b, c.holds row = .ok b) ∧ d.Reordered d' ∧ d'.holds row = .ok true := by
  intro row c d d'
  have hmissing : (equal "z" (.int 1)).holds row = .error (.missingField "z") := by cbv
  have hreordered : d.Reordered d' := by
    have hinner : (group .and [isNull "b", equal "a" (.int 2)]).Reordered
        (group .and [equal "a" (.int 2), isNull "b"]) :=
      .group .and (.cons (.leaf (.compare _)) (.cons (.leaf (.compare _)) .nil)) (.swap _ _ _)
    exact .group .or (.cons (.leaf (.compare _)) (.cons hinner .nil)) (.swap _ _ _)
  have hholds : d.holds row = .ok true := by cbv
  refine ⟨fun h => ?_, hreordered, ((holds_ignores_siblings d row).2 d' hreordered true).2 hholds⟩
  obtain ⟨-, -, halone⟩ := (holds_ignores_siblings c row).1.1 h
  obtain ⟨b, hb⟩ := halone ⟨"z", .eq, .single (.int 1)⟩ (by
    simp [c, comparisons, leaves, memberLeaves, equal, compareWith, Leaf.comparison?])
  cases hmissing.symm.trans hb

end Condition

end RowQuery
