import RowQuery.Condition.Basic

/-!
# The leaves of a condition

A condition is a tree of groups whose leaves are raw fragments and comparisons
(`Condition.leaves`, from left to right). What a condition is about is said of its leaves: its
columns, the patterns it matches with, the values it supplies. `Condition.height` counts the groups
above the deepest node. `Condition.recMembers` is the induction principle that gives the hypothesis
at each member of a group.
-/

namespace RowQuery

/-- A condition without members. -/
inductive Leaf where
  /-- A fragment of SQL with the values of its markers. -/
  | raw (sql : String) (values : List Scalar)
  /-- A comparison of a column. -/
  | compare (comparison : Comparison)
deriving DecidableEq, Repr

namespace Leaf

/-- The values that a leaf supplies, in order. -/
def values : Leaf → List Scalar
  | .raw _ values => values
  | .compare c => c.operand.values

/-- The leaf as a condition. -/
def condition : Leaf → Condition
  | .raw sql values => .raw sql values
  | .compare c => .compare c

/-- The comparison that a leaf is, if it is one. -/
def comparison? : Leaf → Option Comparison
  | .raw _ _ => none
  | .compare c => some c

end Leaf

/-- The scalars that a comparison matches cells with as patterns. -/
def Comparison.patterns (c : Comparison) : List Scalar :=
  if c.operator = .like ∨ c.operator = .notLike then c.operand.values else []

namespace Condition

/-- Induction on a condition with the hypothesis at each member of a group. -/
@[elab_as_elim]
theorem recMembers {motive : Condition → Prop} (raw : ∀ sql values, motive (.raw sql values))
    (compare : ∀ c, motive (.compare c))
    (group : ∀ conjunction children, (∀ c ∈ children, motive c) →
      motive (.group conjunction children)) : ∀ c, motive c
  | .raw sql values => raw sql values
  | .compare c => compare c
  | .group conjunction children =>
    group conjunction children fun c _ => recMembers raw compare group c

/-! ## Height -/

mutual

/-- How many groups stand above the deepest node. -/
def height : Condition → Nat
  | .raw _ _ => 0
  | .compare _ => 0
  | .group _ children => memberHeight children

/-- How many groups stand above the deepest node of a member, the group that it is in included. -/
def memberHeight : List Condition → Nat
  | [] => 0
  | c :: rest => max (height c + 1) (memberHeight rest)

end

/-- The height of a group does not pass a limit when its members are lower. -/
theorem memberHeight_le_iff {limit : Nat} {children : List Condition} :
    memberHeight children ≤ limit ↔ ∀ c ∈ children, c.height < limit := by
  induction children with
  | nil => simp [memberHeight]
  | cons c children ih => rw [memberHeight, Nat.max_le, ih, List.forall_mem_cons, Nat.succ_le_iff]

/-- A member is lower than its group. -/
theorem height_lt_of_mem {children : List Condition} {c : Condition} (hc : c ∈ children) :
    c.height < memberHeight children :=
  memberHeight_le_iff.1 (Nat.le_refl _) c hc

/-- A group in some groups does not pass a limit when neither they nor its members, in one group
more, do. -/
theorem add_memberHeight_le_iff {depth limit : Nat} {children : List Condition} :
    depth + memberHeight children ≤ limit ↔
      depth ≤ limit ∧ ∀ c ∈ children, depth + 1 + c.height ≤ limit := by
  have hsplit : depth + memberHeight children ≤ limit ↔
      depth ≤ limit ∧ memberHeight children ≤ limit - depth := by omega
  rw [hsplit, memberHeight_le_iff]
  refine and_congr_right fun hdepth => forall₂_congr fun c _ => ?_
  omega

/-! ## Leaves -/

mutual

/-- The leaves of a condition, from left to right. -/
def leaves : Condition → List Leaf
  | .raw sql values => [.raw sql values]
  | .compare c => [.compare c]
  | .group _ children => memberLeaves children

/-- The leaves of the members of a group. -/
def memberLeaves : List Condition → List Leaf
  | [] => []
  | c :: rest => leaves c ++ memberLeaves rest

end

/-- The leaves of a group are those of its members. -/
theorem leaves_group (conjunction : Conjunction) (children : List Condition) :
    (group conjunction children).leaves = children.flatMap leaves := by
  rw [leaves]
  induction children with
  | nil => rfl
  | cons c children ih => rw [memberLeaves, ih, List.flatMap_cons]

/-- A member's leaves are leaves of the group. -/
theorem mem_leaves_group {conjunction : Conjunction} {children : List Condition} {c : Condition}
    (hc : c ∈ children) {leaf : Leaf} (h : leaf ∈ c.leaves) :
    leaf ∈ (group conjunction children).leaves := by
  rw [leaves_group]
  exact List.mem_flatMap.2 ⟨c, hc, h⟩

/-- The comparisons of a condition, from left to right. -/
def comparisons (c : Condition) : List Comparison := c.leaves.filterMap Leaf.comparison?

/-- The columns that a condition names. -/
def columns (c : Condition) : List String := c.comparisons.map (·.column)

/-- The scalars that a condition matches cells with as patterns. -/
def patterns (c : Condition) : List Scalar := c.comparisons.flatMap Comparison.patterns

/-- No leaf is a raw fragment. -/
def RawFree (c : Condition) : Prop := ∀ sql values, Leaf.raw sql values ∉ c.leaves

/-- A raw fragment is none without raw fragments. -/
theorem not_rawFree_raw {sql : String} {values : List Scalar} : ¬ (raw sql values).RawFree :=
  fun h => h sql values (List.mem_singleton.2 rfl)

/-- The members of a condition without raw fragments have none. -/
theorem RawFree.member {conjunction : Conjunction} {children : List Condition}
    (h : (group conjunction children).RawFree) {c : Condition} (hc : c ∈ children) : c.RawFree :=
  fun sql values hl => h sql values (mem_leaves_group hc hl)

/-- The comparisons of a group are those of its members. -/
theorem comparisons_group (conjunction : Conjunction) (children : List Condition) :
    (group conjunction children).comparisons = children.flatMap comparisons := by
  rw [comparisons, leaves_group, List.filterMap_flatMap]
  rfl

/-- A member's comparisons are comparisons of the group. -/
theorem mem_comparisons_group {conjunction : Conjunction} {children : List Condition}
    {c : Condition} (hc : c ∈ children) {comparison : Comparison} (h : comparison ∈ c.comparisons) :
    comparison ∈ (group conjunction children).comparisons := by
  rw [comparisons_group]
  exact List.mem_flatMap.2 ⟨c, hc, h⟩

end Condition

end RowQuery
