import Mathlib
import RowQuery.Proofs.Condition.Height
import RowQuery.Proofs.Condition.Siblings

/-!
# How deep a condition may be nested

Writing a condition as SQL counts the groups that it has entered, and refuses a node below more than
`Condition.maxDepth` of them. From any count on, this refuses exactly the conditions whose height
passes the limit (`nodes_le_iff`), it leaves no trace in what is written (`fragment_congr_depth`), and
of several nodes at fault the first in preorder is reported (`depth_guard_exact`).
-/

namespace RowQuery

/-- What is wrong with a leaf that is to be written as SQL: what its comparison is refused for. -/
def Leaf.writingFault? : Leaf → Option QueryError
  | .raw _ _ => none
  | .compare c => failure? c.fragment

namespace Condition

variable {c : Condition} {depth : Nat}

/-- The nodes stand in no more groups than a limit when the height does not pass it. -/
theorem nodes_le_iff {limit : Nat} :
    (∀ node ∈ c.nodes depth, node.1 ≤ limit) ↔ depth + c.height ≤ limit := by
  induction c using recMembers generalizing depth with
  | raw sql values => simp [nodes, height]
  | compare c => simp [nodes, height]
  | group conjunction children ih =>
    rw [nodes_group, List.forall_mem_cons, List.forall_mem_flatMap, height, add_memberHeight_le_iff]
    exact and_congr_right fun _ => forall₂_congr fun c hc => ih c hc

/-- The groups that a condition stands in do not matter to what it is written as, or refused for,
while it does not pass the limit. -/
theorem fragment_congr_depth {depth' : Nat} (h : depth + c.height ≤ maxDepth)
    (h' : depth' + c.height ≤ maxDepth) : c.fragment depth = c.fragment depth' := by
  induction c using recMembers generalizing depth depth' with
  | raw sql values =>
    rw [fragment, fragment, if_neg (Nat.not_lt.2 (Nat.le_of_add_right_le h)),
      if_neg (Nat.not_lt.2 (Nat.le_of_add_right_le h'))]
  | compare c =>
    rw [fragment, fragment, if_neg (Nat.not_lt.2 (Nat.le_of_add_right_le h)),
      if_neg (Nat.not_lt.2 (Nat.le_of_add_right_le h'))]
  | group conjunction children ih =>
    obtain ⟨hdepth, hlow⟩ := add_memberHeight_le_iff.1 h
    obtain ⟨hdepth', hlow'⟩ := add_memberHeight_le_iff.1 h'
    have hmembers : children.mapM (fragment (depth + 1)) = children.mapM (fragment (depth' + 1)) :=
      mapM_congr fun c hc => ih c hc (hlow c hc) (hlow' c hc)
    rw [fragment, fragment, if_neg (Nat.not_lt.2 hdepth), if_neg (Nat.not_lt.2 hdepth'),
      fragments_eq_mapM, fragments_eq_mapM, hmembers]

/-- Writing a leaf that stands in no group finds what is wrong with it. -/
theorem reports_writing (leaf : Leaf) :
    Reports (leaf.condition.fragment 0) leaf.writingFault? := by
  cases leaf with
  | raw sql values => exact .ok _
  | compare c => exact .failure? c.fragment

/-- A condition in some groups is written as SQL exactly when they and its height do not pass the
limit and every comparison is written; the groups do not matter to what it is written as; and what it
is refused for is what is wrong with the first node in preorder that is at fault, where a node that
stands too deep is at fault whatever it is. -/
theorem depth_guard_exact (c : Condition) (depth : Nat) :
    ((∃ f, c.fragment depth = .ok f) ↔ depth + c.height ≤ maxDepth ∧
      ∀ comparison ∈ c.comparisons, ∃ f, comparison.fragment = .ok f) ∧
    (∀ depth' f f', c.fragment depth = .ok f → c.fragment depth' = .ok f' → f = f') ∧
    ∀ e, c.fragment depth = .error e ↔ ∃ before node after,
      c.nodes depth = before ++ node :: after ∧
      nodeFault? Leaf.writingFault? node = some e ∧
      ∀ node ∈ before, nodeFault? Leaf.writingFault? node = none := by
  refine ⟨exists_fragment_iff, fun depth' f f' h h' => ?_, fun e => ?_⟩
  · have hsame := fragment_congr_depth (height_le_of_fragment h) (height_le_of_fragment h')
    rw [h, h'] at hsame
    exact Except.ok.inj hsame
  · have hreports : Reports (c.fragment depth) (c.firstFault? Leaf.writingFault? depth) :=
      reports_fragment fun leaf _ => reports_writing leaf
    exact (hreports e).trans List.findSome?_eq_some_iff

/-- In front of a comparison that is refused, an empty group that stands too deep is reported, and
behind it the comparison is. -/
theorem depth_guard_exact_of_two_faults :
    let deep := group .or [group .and []]
    let bad := compareList "a" .isIn []
    (group .and [deep, bad]).fragment 99 = .error (.conditionTooDeep 100) ∧
      (group .and [bad, deep]).fragment 99 = .error (.invalidOperand .isIn .emptyList) ∧
      ∃ f, (group .and [deep, equal "a" (.int 1)]).fragment 98 = .ok f := by
  intro deep bad
  refine ⟨((depth_guard_exact _ 99).2.2 _).2 ?_, ((depth_guard_exact _ 99).2.2 _).2 ?_,
    (depth_guard_exact _ 98).1.2 ⟨by decide, ?_⟩⟩
  · exact ⟨[(99, group .and [deep, bad]), (100, deep)], (101, group .and []), [(100, bad)], rfl, rfl,
      List.forall_mem_cons.2 ⟨rfl, List.forall_mem_singleton.2 rfl⟩⟩
  · exact ⟨[(99, group .and [bad, deep])], (100, bad), [(100, deep), (101, group .and [])], rfl, rfl,
      List.forall_mem_singleton.2 rfl⟩
  · exact List.forall_mem_singleton.2 ⟨_, rfl⟩

end Condition

end RowQuery
