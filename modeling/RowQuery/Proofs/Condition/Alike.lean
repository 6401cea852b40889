import RowQuery.Proofs.Condition.Fragment
import RowQuery.Proofs.Sql.Congruence

/-!
# Conditions that are written alike

Two conditions are alike when they differ only in the scalars that they supply and in the names of
their columns, which are related by `ρ` (`Condition.Alike`). They are written alike, both or
neither, as texts that are related by every relation that writing keeps
(`Condition.Alike.fragment`).
-/

namespace RowQuery

/-! ## Conditions that differ in scalars and names -/

/-- The operands are both single values, or lists of as many. -/
def Operand.Alike : Operand → Operand → Prop
  | .single _, .single _ => True
  | .list values, .list values' => values.length = values'.length
  | _, _ => False

/-- The comparisons differ only in their scalars and in their columns, which are related. -/
structure Comparison.Alike (ρ : String → String → Prop) (c c' : Comparison) : Prop where
  column : ρ c.column c'.column
  operator : c.operator = c'.operator
  operand : c.operand.Alike c'.operand

/-- The conditions differ only in their scalars and in their columns, which are related. -/
inductive Condition.Alike (ρ : String → String → Prop) : Condition → Condition → Prop
  | raw (sql : String) (values values' : List Scalar) : Alike ρ (.raw sql values) (.raw sql values')
  | compare {c c' : Comparison} (h : c.Alike ρ c') : Alike ρ (.compare c) (.compare c')
  | group (conjunction : Conjunction) {children children' : List Condition}
      (h : List.Forall₂ (Alike ρ) children children') :
      Alike ρ (.group conjunction children) (.group conjunction children')

/-- The text of a leaf that is written as it is given. -/
def Leaf.text? : Leaf → Option String
  | .raw sql _ => some sql
  | .compare _ => none

/-- The texts of a condition that are written as they are given. -/
def Condition.texts (c : Condition) : List String := c.leaves.filterMap Leaf.text?

/-- A member's texts are texts of the group. -/
theorem Condition.mem_texts_group {conjunction : Conjunction} {children : List Condition}
    {c : Condition} (hc : c ∈ children) {text : String} (h : text ∈ c.texts) :
    text ∈ (group conjunction children).texts := by
  obtain ⟨leaf, hleaf, htext⟩ := List.mem_filterMap.1 h
  exact List.mem_filterMap.2 ⟨leaf, mem_leaves_group hc hleaf, htext⟩

/-! ## Fragments -/

variable {ρ r : String → String → Prop}

/-- The fragments have related texts, which both need parentheses or do not. -/
structure Fragment.Alike (r : String → String → Prop) (f f' : Fragment) : Prop where
  sql : r f.sql f'.sql
  needsParens : f.needsParens = f'.needsParens

namespace Fragment

/-- Of alike fragments both are empty, or neither is. -/
theorem Alike.isEmpty_eq (hr : Sql.Congruence ρ r) {f f' : Fragment} (h : f.Alike r f') :
    f.isEmpty = f'.isEmpty := hr.isEmpty h.sql

/-- Alike fragments stand beside others as related texts. -/
theorem Alike.wrapped (hr : Sql.Congruence ρ r) {f f' : Fragment} (h : f.Alike r f') :
    r f.wrapped f'.wrapped := by
  unfold Fragment.wrapped
  rw [h.needsParens]
  split
  · exact hr.parenthesized h.sql
  · exact h.sql

/-- Of alike fragments the same ones are left when the empty ones are removed. -/
theorem alike_filter (hr : Sql.Congruence ρ r) {fs fs' : List Fragment}
    (h : List.Forall₂ (Alike r) fs fs') :
    List.Forall₂ (Alike r) (fs.filter (! ·.isEmpty)) (fs'.filter (! ·.isEmpty)) := by
  induction h with
  | nil => exact .nil
  | @cons f f' fs fs' hf _ ih =>
    have hempty := hf.isEmpty_eq hr
    cases he : f.isEmpty with
    | true =>
      rw [he] at hempty
      rwa [List.filter_cons_of_neg (by simp [he]), List.filter_cons_of_neg (by simp [← hempty])]
    | false =>
      rw [he] at hempty
      rw [List.filter_cons_of_pos (by simp [he]), List.filter_cons_of_pos (by simp [← hempty])]
      exact .cons hf ih

/-- Alike members make alike groups. -/
theorem alike_join (hr : Sql.Congruence ρ r) (conjunction : Conjunction) {fs fs' : List Fragment}
    (h : List.Forall₂ (Alike r) fs fs') :
    (join conjunction fs).Alike r (join conjunction fs') := by
  have hkept := alike_filter hr h
  have hconjunction : Sql.backquote ∉ (" " ++ conjunction.text ++ " ").toList := by
    cases conjunction <;> decide
  unfold join
  -- as many members are left on both sides, so both are written in the same way
  generalize fs.filter (! ·.isEmpty) = kept, fs'.filter (! ·.isEmpty) = kept' at hkept
  cases hkept with
  | nil =>
    exact ⟨hr.empty, rfl⟩
  | cons hf hrest =>
    cases hrest with
    | nil => exact hf
    | cons hf' hrest =>
      have hwrapped := (List.Forall₂.cons hf (.cons hf' hrest)).imp fun _ _ hf => hf.wrapped hr
      rw [← List.forall₂_map_right_iff, ← List.forall₂_map_left_iff] at hwrapped
      have hjoined := hr.intercalate hconjunction hwrapped
      exact ⟨hjoined, rfl⟩

/-- Alike fragments have related clauses, or none. -/
theorem Alike.whereClause? (hr : Sql.Congruence ρ r) {f f' : Fragment} (h : f.Alike r f') :
    Option.Rel r f.whereClause? f'.whereClause? := by
  unfold Fragment.whereClause?
  rw [h.isEmpty_eq hr]
  split
  · exact .none
  · exact .some (hr.after (by decide) (h.wrapped hr))

end Fragment

/-! ## Comparisons -/

namespace Comparison

variable {c c' : Comparison}

/-- Alike comparisons both have one value where their operator takes one, or neither has. -/
theorem Alike.scalarOperand (h : c.Alike ρ c') :
    SameOutcome (fun _ _ => True) c.scalarOperand c'.scalarOperand := by
  have hoperand := h.operand
  unfold Comparison.scalarOperand
  rw [h.operator]
  split
  · exact .error _ _
  · cases ho : c.operand <;> cases ho' : c'.operand
    · exact .ok trivial
    · simp [ho, ho', Operand.Alike] at hoperand
    · simp [ho, ho', Operand.Alike] at hoperand
    · exact .error _ _

/-- Alike comparisons have lists of as many values where their operator takes one, or neither
has. -/
theorem Alike.listOperand (h : c.Alike ρ c') :
    SameOutcome (fun values values' => values.length = values'.length) c.listOperand
      c'.listOperand := by
  have hoperand := h.operand
  unfold Comparison.listOperand
  rw [h.operator]
  split
  · cases ho : c.operand <;> cases ho' : c'.operand
    · exact .error _ _
    · simp [ho, ho', Operand.Alike] at hoperand
    · simp [ho, ho', Operand.Alike] at hoperand
    · next values values' =>
      have hlength : values.length = values'.length := by rwa [ho, ho'] at hoperand
      cases values <;> cases values'
      · exact .error _ _
      · cases hlength
      · cases hlength
      · exact .ok hlength
  · exact .error _ _

/-- Alike comparisons are written alike. -/
theorem Alike.fragment (hr : Sql.Congruence ρ r) (h : c.Alike ρ c') :
    SameOutcome (Fragment.Alike r) c.fragment c'.fragment := by
  have hoperator : Sql.backquote ∉ c'.operator.text.toList := by
    cases c'.operator <;> decide
  unfold Comparison.fragment
  refine (hr.name h.column).bind fun column column' hcolumn => ?_
  have hname : r (column ++ " " ++ c'.operator.text) (column' ++ " " ++ c'.operator.text) :=
    hr.before (hr.before hcolumn (by decide)) hoperator
  rw [h.operator]
  split
  · refine h.listOperand.bind fun values values' hlength => .ok ⟨?_, rfl⟩
    dsimp only
    rw [hlength]
    exact hr.before (hr.append (hr.before hname (by decide)) (hr.markers _)) (by decide)
  · refine h.scalarOperand.bind fun _ _ _ => .ok ⟨?_, rfl⟩
    exact hr.before hname (by decide)

end Comparison

/-! ## Conditions -/

namespace Condition

/-- Conditions that are alike are written alike, both or neither. -/
theorem Alike.fragment (hr : Sql.Congruence ρ r) {c c' : Condition} (h : c.Alike ρ c')
    (given : ∀ text ∈ c.texts, r text text) (depth : Nat) :
    SameOutcome (Fragment.Alike r) (c.fragment depth) (c'.fragment depth) := by
  induction c using recMembers generalizing c' depth with
  | raw sql values =>
    cases h with
    | raw _ _ values' =>
      rw [Condition.fragment, Condition.fragment]
      split
      · exact .error _ _
      · have hsql : r sql sql := given sql (List.mem_singleton.2 rfl)
        exact .ok ⟨hr.parenthesized hsql, rfl⟩
  | compare c =>
    cases h with
    | compare h =>
      rw [Condition.fragment, Condition.fragment]
      split
      · exact .error _ _
      · exact h.fragment hr
  | group conjunction children ih =>
    cases h with
    | group _ h =>
      rw [Condition.fragment, Condition.fragment]
      split
      · exact .error _ _
      · have hmembers := (List.forall₂_and_left _ _).2 ⟨fun c (hc : c ∈ children) => hc, h⟩
        have hfragments := hmembers.imp fun c c' h =>
          ih c h.1 h.2 (fun text ht => given text (mem_texts_group h.1 ht)) (depth + 1)
        rw [fragments_eq_mapM, fragments_eq_mapM]
        exact (SameOutcome.mapM hfragments).map fun fs fs' hfs =>
          Fragment.alike_join hr conjunction hfs

/-- Filters that are alike are written alike, both or neither. -/
theorem alike_filterFragment (hr : Sql.Congruence ρ r) {filter? filter?' : Option Condition}
    (h : Option.Rel (Alike ρ) filter? filter?')
    (given : ∀ text ∈ filter?.toList.flatMap texts, r text text) :
    SameOutcome (Fragment.Alike r) (filterFragment filter?) (filterFragment filter?') := by
  cases h with
  | none =>
    exact .ok ⟨hr.empty, rfl⟩
  | some h =>
    rw [Option.toList_some, List.flatMap_singleton] at given
    exact h.fragment hr given 0

end Condition

end RowQuery
