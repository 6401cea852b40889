import RowQuery.Proofs.Condition.Leaves
import Mathlib.Data.List.Forall2

/-!
# The normal form of a condition

Groups that are left without members say nothing, and a group that is left with one member says what
that member says. `Condition.normalForm` removes the first and replaces the second, from the leaves
up; what remains, if anything does, is a tree in which every group has several members
(`Condition.Normal`), with the same leaves.
-/

namespace RowQuery.Condition

/-- A group with these members, or what stands for it when it has fewer than two. -/
def collapse (conjunction : Conjunction) : List Condition → Option Condition
  | [] => none
  | [member] => some member
  | several => some (.group conjunction several)

mutual

/-- The condition without groups of fewer than two members, if anything is left of it. -/
def normalForm : Condition → Option Condition
  | .raw sql values => some (.raw sql values)
  | .compare c => some (.compare c)
  | .group conjunction children => collapse conjunction (normalForms children)

/-- The normal forms of the members of a group that have one. -/
def normalForms : List Condition → List Condition
  | [] => []
  | c :: rest => (normalForm c).toList ++ normalForms rest

end

/-- `normalForms` keeps what is left of each member. -/
theorem normalForms_eq (children : List Condition) :
    normalForms children = children.filterMap normalForm := by
  induction children with
  | nil => rfl
  | cons c children ih =>
    rw [normalForms, ih, List.filterMap_cons]
    cases c.normalForm <;> rfl

/-- The normal form of a group collapses those of its members. -/
theorem normalForm_group (conjunction : Conjunction) (children : List Condition) :
    (group conjunction children).normalForm =
      collapse conjunction (children.filterMap normalForm) := by
  rw [normalForm, normalForms_eq]

/-- Every group in the condition has several members. -/
inductive Normal : Condition → Prop
  | raw (sql : String) (values : List Scalar) : Normal (.raw sql values)
  | compare (c : Comparison) : Normal (.compare c)
  | group (conjunction : Conjunction) {members : List Condition} (several : 2 ≤ members.length)
      (normal : ∀ m ∈ members, Normal m) : Normal (.group conjunction members)

/-- What is left of normal members is normal. -/
theorem normal_of_collapse {conjunction : Conjunction} {members : List Condition} {n : Condition}
    (h : collapse conjunction members = some n) (normal : ∀ m ∈ members, m.Normal) : n.Normal := by
  match members, h with
  | [m], h =>
    obtain rfl : m = n := Option.some.inj h
    exact normal m List.mem_cons_self
  | m :: m' :: rest, h =>
    obtain rfl : Condition.group conjunction (m :: m' :: rest) = n := Option.some.inj h
    exact .group conjunction (by simp) normal

/-- A normal form is normal. -/
theorem normal_of_normalForm {c n : Condition} (h : c.normalForm = some n) : n.Normal := by
  induction c using recMembers generalizing n with
  | raw sql values =>
    cases h
    exact .raw sql values
  | compare c =>
    cases h
    exact .compare c
  | group conjunction children ih =>
    rw [normalForm_group] at h
    refine normal_of_collapse h fun m hm => ?_
    obtain ⟨c, hc, hcm⟩ := List.mem_filterMap.1 hm
    exact ih c hc hcm

/-- Collapsing keeps the leaves. -/
theorem leaves_of_collapse (conjunction : Conjunction) (members : List Condition) :
    (collapse conjunction members).toList.flatMap leaves = members.flatMap leaves := by
  match members with
  | [] => rfl
  | [_] => rfl
  | m :: m' :: rest =>
    show [group conjunction (m :: m' :: rest)].flatMap leaves = _
    rw [List.flatMap_singleton, leaves_group]

/-- The normal form has the same leaves. -/
theorem leaves_normalForm (c : Condition) : c.normalForm.toList.flatMap leaves = c.leaves := by
  induction c using recMembers with
  | raw sql values => rfl
  | compare c => rfl
  | group conjunction children ih =>
    rw [normalForm_group, leaves_of_collapse, leaves_group]
    induction children with
    | nil => rfl
    | cons c children ihs =>
      have hc := ih c List.mem_cons_self
      have hrest := ihs fun c' hc' => ih c' (List.mem_cons_of_mem _ hc')
      rw [List.flatMap_cons, ← hrest, ← hc, List.filterMap_cons]
      cases c.normalForm <;> simp

/-- The leaves of a normal form are leaves of the condition. -/
theorem leaves_of_normalForm {c n : Condition} (h : c.normalForm = some n) :
    n.leaves = c.leaves := by
  have hc := leaves_normalForm c
  rwa [h, Option.toList_some, List.flatMap_singleton] at hc

end RowQuery.Condition
