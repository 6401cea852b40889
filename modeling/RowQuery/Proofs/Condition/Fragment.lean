import RowQuery.Condition.Fragment
import RowQuery.Proofs.Condition.Leaves
import RowQuery.Proofs.Steps
import RowQuery.Proofs.Sql.Identifier

/-!
# What the SQL of a condition is

One lemma for each form of a condition says when it is written as SQL and what its fragment then is
(`fragment_raw_eq_ok`, `fragment_compare_eq_ok`, `fragment_group_eq_ok`). A comparison is written
when its column can be quoted and its operand suits its operator (`Comparison.fragment_eq_ok`), as
the quoted column, the operator and the markers of the operand. A condition is written when it is not
too high and its comparisons are (`exists_fragment_iff`).
-/

namespace RowQuery

/-! ## Comparisons -/

/-- The markers of an operand as they are written. -/
def Operand.places : Operand → String
  | .single _ => "?"
  | .list values => "(" ++ Sql.markers values.length ++ ")"

namespace Comparison

/-- The operand is of the kind that the operator compares with. -/
def Suited (c : Comparison) : Prop :=
  match c.operand with
  | .single _ => c.operator.takesList = false
  | .list values => c.operator.takesList = true ∧ values ≠ []

/-- A comparison with its column quoted and a marker for every value. -/
def written (c : Comparison) : Fragment where
  sql := Sql.quoted c.column ++ " " ++ c.operator.text ++ " " ++ c.operand.places
  values := c.operand.values

/-- A suited comparison with one value has it as its scalar. -/
theorem scalarOperand_eq_ok {c : Comparison} {v : Scalar} :
    c.scalarOperand = .ok v ↔ c.operator.takesList = false ∧ c.operand = .single v := by
  unfold scalarOperand
  cases c.operator.takesList with
  | true => simp
  | false => cases h : c.operand <;> simp

/-- A suited comparison with a list has its values. -/
theorem listOperand_eq_ok {c : Comparison} {values : List Scalar} :
    c.listOperand = .ok values ↔
      c.operator.takesList = true ∧ c.operand = .list values ∧ values ≠ [] := by
  unfold listOperand
  cases c.operator.takesList with
  | false => simp
  | true =>
    cases h : c.operand with
    | single v => simp
    | list vs =>
      cases vs with
      | nil =>
        simp only [if_true, reduceCtorEq, true_and, false_iff, not_and, not_not]
        intro he
        exact (Operand.list.inj he).symm
      | cons v vs =>
        simp only [if_true, Except.ok.injEq, true_and, Operand.list.injEq]
        exact ⟨fun he => ⟨he, he ▸ List.cons_ne_nil v vs⟩, And.left⟩

/-- When a comparison is written as SQL, and how. -/
theorem fragment_eq_ok {c : Comparison} {f : Fragment} :
    c.fragment = .ok f ↔ Sql.backquote ∉ c.column.toList ∧ c.Suited ∧ f = c.written := by
  have hplace : " ?" = " " ++ "?" := rfl
  have hopen : " (" = " " ++ "(" := rfl
  unfold fragment
  simp only [bind_eq_ok, Sql.quoteIdentifier_eq_ok]
  constructor
  · rintro ⟨column, ⟨hcolumn, rfl⟩, h⟩
    refine ⟨hcolumn, ?_⟩
    by_cases htakes : c.operator.takesList = true
    · rw [if_pos htakes, bind_eq_ok] at h
      obtain ⟨values, hvalues, hf⟩ := h
      obtain ⟨-, hoperand, hne⟩ := listOperand_eq_ok.1 hvalues
      refine ⟨by rw [Suited, hoperand]; exact ⟨htakes, hne⟩, ?_⟩
      cases hf
      simp only [written, hoperand, Operand.places, Operand.values, hopen, String.append_assoc]
    · rw [if_neg htakes, bind_eq_ok] at h
      obtain ⟨v, hv, hf⟩ := h
      obtain ⟨htakes, hoperand⟩ := scalarOperand_eq_ok.1 hv
      refine ⟨by rw [Suited, hoperand]; exact htakes, ?_⟩
      cases hf
      simp only [written, hoperand, Operand.places, Operand.values, hplace, String.append_assoc]
  · rintro ⟨hcolumn, hsuited, rfl⟩
    refine ⟨_, ⟨hcolumn, rfl⟩, ?_⟩
    unfold Suited at hsuited
    cases hoperand : c.operand with
    | single v =>
      rw [hoperand] at hsuited
      rw [if_neg (by rw [hsuited]; decide), bind_eq_ok]
      refine ⟨v, scalarOperand_eq_ok.2 ⟨hsuited, hoperand⟩, ?_⟩
      simp only [written, hoperand, Operand.places, Operand.values, hplace, String.append_assoc]
      rfl
    | list values =>
      rw [hoperand] at hsuited
      rw [if_pos hsuited.1, bind_eq_ok]
      refine ⟨values, listOperand_eq_ok.2 ⟨hsuited.1, hoperand, hsuited.2⟩, ?_⟩
      simp only [written, hoperand, Operand.places, Operand.values, hopen, String.append_assoc]
      rfl

/-- The text of a comparison is not empty. -/
theorem written_sql_ne_empty (c : Comparison) : c.written.sql ≠ "" := by
  intro h
  exact Sql.quoted_ne_empty c.column (by simp [written] at h)

end Comparison

/-! ## Conditions -/

namespace Condition

variable {depth : Nat} {f : Fragment}

/-- When a raw fragment is written as SQL, and how. -/
theorem fragment_raw_eq_ok {sql : String} {values : List Scalar} :
    fragment depth (.raw sql values) = .ok f ↔
      depth ≤ maxDepth ∧ f = { sql := "(" ++ sql ++ ")", values } := by
  rw [fragment]
  split
  · next h => simp [Nat.not_le.2 h]
  · next h => simp [Nat.not_lt.1 h, eq_comm]

/-- When a comparison that stands in groups is written as SQL, and how. -/
theorem fragment_compare_eq_ok {c : Comparison} :
    fragment depth (.compare c) = .ok f ↔ depth ≤ maxDepth ∧ c.fragment = .ok f := by
  rw [fragment]
  split
  · next h => simp [Nat.not_le.2 h]
  · next h => simp [Nat.not_lt.1 h]

/-- The members of a group are written one by one. -/
theorem fragments_eq_mapM (depth : Nat) (children : List Condition) :
    fragments depth children = children.mapM (fragment depth) := by
  induction children with
  | nil => rfl
  | cons c children ih => rw [fragments, List.mapM_cons, ih]

/-- When a group is written as SQL, and how. -/
theorem fragment_group_eq_ok {conjunction : Conjunction} {children : List Condition} :
    fragment depth (.group conjunction children) = .ok f ↔
      depth ≤ maxDepth ∧ ∃ fs,
        List.Forall₂ (fun c f => fragment (depth + 1) c = .ok f) children fs ∧
          Fragment.join conjunction fs = f := by
  rw [fragment]
  split
  · next h => simp [Nat.not_le.2 h]
  · next h => simp [Nat.not_lt.1 h, map_eq_ok, fragments_eq_mapM, mapM_eq_ok]

/-- A condition is written as SQL when no node stands too deep and every comparison is written. -/
theorem exists_fragment_iff {c : Condition} : (∃ f, c.fragment depth = .ok f) ↔
    depth + c.height ≤ maxDepth ∧
      ∀ comparison ∈ c.comparisons, ∃ f, comparison.fragment = .ok f := by
  induction c using recMembers generalizing depth with
  | raw sql values =>
    simp [fragment_raw_eq_ok, height, comparisons, leaves, Leaf.comparison?]
  | compare c =>
    simp [fragment_compare_eq_ok, height, comparisons, leaves, Leaf.comparison?]
  | group conjunction children ih =>
    have hwritten : (∃ f, fragment depth (.group conjunction children) = .ok f) ↔
        depth ≤ maxDepth ∧
          ∃ fs, List.Forall₂ (fun c f => fragment (depth + 1) c = .ok f) children fs := by
      constructor
      · rintro ⟨f, hf⟩
        obtain ⟨hdepth, fs, hfs, -⟩ := fragment_group_eq_ok.1 hf
        exact ⟨hdepth, fs, hfs⟩
      · rintro ⟨hdepth, fs, hfs⟩
        exact ⟨_, fragment_group_eq_ok.2 ⟨hdepth, fs, hfs, rfl⟩⟩
    rw [hwritten, exists_forall₂_iff, forall₂_congr fun c hc => ih c hc, forall₂_and, height,
      add_memberHeight_le_iff, comparisons_group, List.forall_mem_flatMap, and_assoc]

/-- No node of a condition that is written as SQL stands too deep. -/
theorem height_le_of_fragment {c : Condition} (h : c.fragment depth = .ok f) :
    depth + c.height ≤ maxDepth :=
  (exists_fragment_iff.1 ⟨f, h⟩).1

/-- What is written as SQL has columns that can be quoted and operands that suit their
operators. -/
theorem suited_of_fragment {c : Condition} (h : c.fragment depth = .ok f) {comparison : Comparison}
    (hc : comparison ∈ c.comparisons) :
    Sql.backquote ∉ comparison.column.toList ∧ comparison.Suited := by
  induction c using recMembers generalizing depth f with
  | raw sql values => cases hc
  | compare c =>
    obtain ⟨-, hf⟩ := fragment_compare_eq_ok.1 h
    obtain ⟨hcolumn, hsuited, -⟩ := Comparison.fragment_eq_ok.1 hf
    rw [List.mem_singleton.1 hc]
    exact ⟨hcolumn, hsuited⟩
  | group conjunction children ih =>
    obtain ⟨-, fs, hfs, -⟩ := fragment_group_eq_ok.1 h
    obtain ⟨leaf, hleaf, he⟩ := List.mem_filterMap.1 hc
    rw [leaves_group] at hleaf
    obtain ⟨c, hmem, hleaf⟩ := List.mem_flatMap.1 hleaf
    obtain ⟨g, -, hg⟩ := exists_of_forall₂ hfs hmem
    exact ih c hmem hg (List.mem_filterMap.2 ⟨leaf, hleaf, he⟩)

end Condition

end RowQuery
