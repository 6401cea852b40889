import RowQuery.Condition.Matching
import RowQuery.Proofs.Condition.Fragment
import RowQuery.Proofs.Condition.NormalForm

/-!
# The verdict of a normal form

How a condition is decided on a row depends on its normal form only (`Condition.evaluate_eq_verdict`):
where no node stands too deep, what remains of it are its leaves, in the order in which they are
decided, and the conjunctions of several members. `Condition.verdict` decides a normal form without a
depth, and what is wrong with a leaf is wrong with both.
-/

namespace RowQuery.Condition

variable {row : Row}

mutual

/-- Whether a normal form holds of a row; a raw fragment cannot be decided. -/
def verdict (row : Row) : Condition → Except QueryError Bool
  | .raw _ _ => .error .rawSqlNotEvaluable
  | .compare c => c.holds row
  | .group conjunction members =>
    (verdicts row members).map fun answers => (conjunction.combine answers).getD true

/-- The verdicts of the members of a group, from left to right. -/
def verdicts (row : Row) : List Condition → Except QueryError (List Bool)
  | [] => .ok []
  | m :: rest => do
    let answer ← verdict row m
    let answers ← verdicts row rest
    return answer :: answers

end

/-- The verdict of what is left of a condition, if anything is. -/
def verdict? (row : Row) : Option Condition → Except QueryError (Option Bool)
  | none => .ok none
  | some n => (verdict row n).map some

/-- The answers of the members of a group that are not vacuous are the verdicts of the normal forms
that the members have. -/
theorem evaluateAll_eq_verdicts {depth : Nat} {children : List Condition}
    (h : ∀ c ∈ children, c.evaluate row depth = verdict? row c.normalForm) :
    (evaluateAll row depth children).map (List.filterMap id) =
      verdicts row (children.filterMap normalForm) := by
  induction children with
  | nil => rfl
  | cons c children ih =>
    rw [List.forall_mem_cons] at h
    specialize ih h.2
    rw [evaluateAll, h.1]
    cases hn : c.normalForm with
    | none =>
      rw [List.filterMap_cons_none hn, ← ih]
      show (evaluateAll row depth children >>= _).map _ = _
      cases evaluateAll row depth children <;> rfl
    | some n =>
      rw [List.filterMap_cons_some hn, verdicts, ← ih]
      show (((verdict row n).map some) >>= _).map _ = _
      cases verdict row n with
      | error e => rfl
      | ok answer => cases evaluateAll row depth children <;> rfl

/-- Verdicts combined are the verdict of what is left of their group. -/
theorem combine_verdicts (conjunction : Conjunction) (members : List Condition) :
    (verdicts row members).map conjunction.combine =
      verdict? row (collapse conjunction members) := by
  match members with
  | [] => rfl
  | [m] =>
    have hsingle (answer : Bool) : conjunction.combine [answer] = some answer := by
      cases conjunction <;> simp [Conjunction.combine]
    show ((verdict row m >>= _).map _) = (verdict row m).map some
    cases verdict row m with
    | error e => rfl
    | ok answer => exact congrArg Except.ok (hsingle answer)
  | m :: m' :: rest =>
    show _ = (verdict row (.group conjunction (m :: m' :: rest))).map some
    rw [verdict, verdicts]
    cases verdict row m with
    | error e => rfl
    | ok answer =>
      -- with an answer at hand the group is not vacuous
      cases verdicts row (m' :: rest) with
      | error e => rfl
      | ok answers => cases conjunction <;> rfl

/-- A condition without a node that stands too deep is decided as its normal form. -/
theorem evaluate_eq_verdict {c : Condition} {depth : Nat} (h : depth + c.height ≤ maxDepth) :
    c.evaluate row depth = verdict? row c.normalForm := by
  induction c using recMembers generalizing depth with
  | raw sql values =>
    rw [evaluate, if_neg (Nat.not_lt.2 (Nat.le_of_add_right_le h))]
    rfl
  | compare c =>
    rw [evaluate, if_neg (Nat.not_lt.2 (Nat.le_of_add_right_le h))]
    rfl
  | group conjunction children ih =>
    obtain ⟨hdepth, hlow⟩ := add_memberHeight_le_iff.1 h
    have hchildren : ∀ c ∈ children, c.evaluate row (depth + 1) = verdict? row c.normalForm :=
      fun c hc => ih c hc (hlow c hc)
    rw [evaluate, if_neg (Nat.not_lt.2 hdepth), normalForm_group, ← combine_verdicts,
      ← evaluateAll_eq_verdicts hchildren]
    cases evaluateAll row (depth + 1) children <;> rfl

/-- Whether a filter that is written as SQL keeps a row is the verdict of its normal form; one that
says nothing keeps it. -/
theorem keeps_eq_verdict {filter? : Option Condition} {f : Fragment}
    (h : filterFragment filter? = .ok f) (row : Row) :
    keeps filter? row =
      (verdict? row (filter?.bind normalForm)).map fun answer => answer.getD true := by
  cases filter? with
  | none => rfl
  | some c =>
    show (c.evaluate row 0).map _ = _
    rw [evaluate_eq_verdict (height_le_of_fragment h)]
    rfl

end RowQuery.Condition
