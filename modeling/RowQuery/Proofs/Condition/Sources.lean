import RowQuery.Proofs.Condition.Fragment
import RowQuery.Proofs.Sql.Correspondence

/-!
# The leaves of a condition as sources of its SQL

The SQL of a condition is put together from the texts of its leaves, and its values are theirs, from
left to right (`Condition.gathers_leaves`). Raw fragments are written as they are, so they must have
as many markers as values (`Condition.Paired`); of a comparison this holds for every column that can
be quoted.
-/

namespace RowQuery

/-! ## Leaves -/

/-- The fragment that a leaf is written as. -/
def Leaf.source : Leaf → Fragment
  | .raw sql values => { sql := "(" ++ sql ++ ")", values }
  | .compare c => c.written

/-- A raw fragment has as many markers as values, outside of quoted segments that are all closed. -/
def Leaf.Paired : Leaf → Prop
  | .raw sql values => Sql.Paired sql values
  | .compare _ => True

/-- Every raw fragment of the condition has as many markers as values. -/
def Condition.Paired (c : Condition) : Prop := ∀ leaf ∈ c.leaves, leaf.Paired

/-- The leaves are written as these fragments. -/
def Leaf.Written (leaves : List Leaf) (sources : List Fragment) : Prop :=
  List.Forall₂ (fun leaf f => leaf.condition.fragment 0 = .ok f) leaves sources

/-- The values are those of the leaves in order, and every marker of the text stands in the text of
the leaf that supplied its value. -/
structure Leaf.Supply (leaves : List Leaf) (sql : String) (values : List Scalar) : Prop where
  values_eq : values = leaves.flatMap Leaf.values
  corresponds : ∃ sources, Leaf.Written leaves sources ∧ Sql.Corresponds sql values sources

/-- The values of a leaf are those of its source. -/
theorem Leaf.source_values (leaf : Leaf) : leaf.source.values = leaf.values := by
  cases leaf <;> rfl

/-- The text of a leaf is not empty. -/
theorem Leaf.source_sql_ne_empty (leaf : Leaf) : leaf.source.sql ≠ "" := by
  cases leaf with
  | raw sql values =>
    intro h
    simp [source] at h
  | compare c => exact c.written_sql_ne_empty

/-- A leaf is written as its source wherever it stands. -/
theorem Leaf.fragment_condition {c : Condition} {depth : Nat} {f : Fragment}
    (h : c.fragment depth = .ok f) {leaf : Leaf} (hleaf : leaf ∈ c.leaves) :
    leaf.condition.fragment 0 = .ok leaf.source := by
  cases leaf with
  | raw sql values => exact Condition.fragment_raw_eq_ok.2 ⟨Nat.zero_le _, rfl⟩
  | compare comparison =>
    have hc : comparison ∈ c.comparisons := List.mem_filterMap.2 ⟨_, hleaf, rfl⟩
    obtain ⟨hcolumn, hsuited⟩ := Condition.suited_of_fragment h hc
    exact Condition.fragment_compare_eq_ok.2
      ⟨Nat.zero_le _, Comparison.fragment_eq_ok.2 ⟨hcolumn, hsuited, rfl⟩⟩

/-- A comparison has as many markers as values, whatever characters its column holds. -/
theorem Comparison.paired_written {c : Comparison} (h : Sql.backquote ∉ c.column.toList) :
    Sql.Paired c.written.sql c.written.values := by
  have hoperator : Sql.Paired (" " ++ c.operator.text ++ " ") [] := by
    cases c.operator <;> exact .plain (by decide)
  have hplaces : Sql.Paired c.operand.places c.operand.values := by
    cases c.operand with
    | single v => exact .marker v
    | list values =>
      exact (Sql.Paired.markers values).parenthesized
  have hall : Sql.Paired (Sql.quoted c.column ++ (" " ++ c.operator.text ++ " ") ++
      c.operand.places) c.written.values := ((Sql.Paired.quoted h).append hoperator).append hplaces
  simpa only [written, String.append_assoc] using hall

/-- The source of a leaf has as many markers as values. -/
theorem Leaf.paired_source {leaf : Leaf} (paired : leaf.Paired) {f : Fragment}
    (h : leaf.condition.fragment 0 = .ok f) : Sql.Paired leaf.source.sql leaf.source.values := by
  cases leaf with
  | raw sql values =>
    exact Sql.Paired.parenthesized paired
  | compare c =>
    obtain ⟨-, hc⟩ := Condition.fragment_compare_eq_ok.1 h
    exact Comparison.paired_written (Comparison.fragment_eq_ok.1 hc).1

/-! ## Conditions -/

namespace Fragment

/-- The fragment is put together from the texts of the leaves and supplies their values. -/
structure Gathers (f : Fragment) (leaves : List Leaf) : Prop where
  laid : Sql.Laid f.sql (leaves.map Leaf.source)
  values_eq : f.values = leaves.flatMap Leaf.values

variable {f : Fragment} {fs : List Fragment} {leaves : List Leaf} {parts : List (List Leaf)}

/-- An empty fragment is put together from no leaves. -/
theorem Gathers.eq_nil_of_isEmpty (h : f.Gathers leaves) (hempty : f.isEmpty = true) :
    leaves = [] := by
  cases leaves with
  | nil => rfl
  | cons leaf leaves =>
    have hsql : f.sql = "" := String.isEmpty_iff.1 hempty
    exact absurd ((hsql ▸ h.laid).eq_empty_of_mem List.mem_cons_self) leaf.source_sql_ne_empty

/-- A fragment beside others is put together from the same leaves. -/
theorem Gathers.laid_wrapped (h : f.Gathers leaves) :
    Sql.Laid f.wrapped (leaves.map Leaf.source) := by
  unfold wrapped
  split
  · exact h.laid.parenthesized
  · exact h.laid

/-- The clause of a fragment is put together from the same leaves. -/
theorem Gathers.laid_whereClause (h : f.Gathers leaves) {clause : String}
    (hclause : f.whereClause? = some clause) : Sql.Laid clause (leaves.map Leaf.source) := by
  unfold whereClause? at hclause
  split at hclause
  · cases hclause
  · cases hclause
    exact h.laid_wrapped.after (by decide)

/-- A fragment without a clause is put together from no leaves. -/
theorem Gathers.eq_nil_of_whereClause (h : f.Gathers leaves) (hclause : f.whereClause? = none) :
    leaves = [] := by
  unfold whereClause? at hclause
  split at hclause
  · next hempty => exact h.eq_nil_of_isEmpty hempty
  · cases hclause

/-- The line of a clause, which may be empty, is put together from the same leaves. -/
theorem Gathers.laid_whereLine (h : f.Gathers leaves) :
    Sql.Laid (f.whereClause?.getD "") (leaves.map Leaf.source) := by
  cases hclause : f.whereClause? with
  | none =>
    rw [h.eq_nil_of_whereClause hclause]
    exact .nil
  | some clause => exact h.laid_whereClause hclause

/-- The leaves of a fragment supply the values of any text that is put together from their texts. -/
theorem Gathers.supply (h : f.Gathers leaves)
    (written : Leaf.Written leaves (leaves.map Leaf.source)) {sql : String}
    (laid : Sql.Laid sql (leaves.map Leaf.source)) : Leaf.Supply leaves sql f.values := by
  have hvalues : (leaves.map Leaf.source).flatMap values = f.values := by
    rw [h.values_eq, List.flatMap_map]
    exact congrArg leaves.flatMap (funext Leaf.source_values)
  exact ⟨h.values_eq, _, written, hvalues ▸ laid.corresponds⟩

/-- Without empty fragments the leaves are the same. -/
theorem gathers_filter (h : List.Forall₂ Gathers fs parts) :
    ∃ kept, List.Forall₂ Gathers (fs.filter (! ·.isEmpty)) kept ∧
      kept.flatten = parts.flatten := by
  induction h with
  | nil => exact ⟨[], .nil, rfl⟩
  | @cons f leaves fs parts hf _ ih =>
    obtain ⟨kept, hkept, hflatten⟩ := ih
    by_cases hempty : f.isEmpty = true
    · refine ⟨kept, ?_, ?_⟩
      · rwa [List.filter_cons_of_neg (by simp [hempty])]
      · rw [hflatten, List.flatten_cons, hf.eq_nil_of_isEmpty hempty, List.nil_append]
    · refine ⟨leaves :: kept, ?_, by rw [List.flatten_cons, hflatten, List.flatten_cons]⟩
      rw [List.filter_cons_of_pos (by simp [hempty])]
      exact .cons hf hkept

/-- Fragments have the values of the leaves that they are put together from. -/
theorem flatMap_values_of_gathers (h : List.Forall₂ Gathers fs parts) :
    fs.flatMap values = parts.flatten.flatMap Leaf.values := by
  induction h with
  | nil => rfl
  | cons hf _ ih =>
    rw [List.flatMap_cons, List.flatten_cons, List.flatMap_append, hf.values_eq, ih]

/-- A group is put together from the leaves of its members. -/
theorem gathers_join (conjunction : Conjunction) (h : List.Forall₂ Gathers fs parts) :
    (join conjunction fs).Gathers parts.flatten := by
  obtain ⟨kept, hkept, hflatten⟩ := gathers_filter h
  have hconjunction : Sql.Paired (" " ++ conjunction.text ++ " ") [] := by
    cases conjunction <;> exact .plain (by decide)
  have hvalues := flatMap_values_of_gathers hkept
  have hwrapped : List.Forall₂ Sql.Laid ((fs.filter (! ·.isEmpty)).map wrapped)
      (kept.map (·.map Leaf.source)) := by
    rw [List.forall₂_map_left_iff, List.forall₂_map_right_iff]
    exact hkept.imp fun _ _ hg => hg.laid_wrapped
  have hlaid := Sql.Laid.intercalate hconjunction hwrapped
  rw [← List.map_flatten] at hlaid
  unfold join
  rw [← hflatten]
  generalize fs.filter (! ·.isEmpty) = members at *
  cases hkept with
  | nil => exact ⟨.nil, rfl⟩
  | cons hg hrest =>
    cases hrest with
    | nil =>
      rw [List.flatten_singleton]
      exact hg
    | cons hg' hrest => exact ⟨hlaid, hvalues⟩

end Fragment

namespace Condition

variable {depth : Nat} {f : Fragment}

/-- The members of a paired condition are paired. -/
theorem Paired.member {conjunction : Conjunction} {children : List Condition}
    (h : (group conjunction children).Paired) {c : Condition} (hc : c ∈ children) : c.Paired :=
  fun leaf hleaf => h leaf (mem_leaves_group hc hleaf)

/-- The SQL of a condition is put together from the texts of its leaves. -/
theorem gathers_leaves {c : Condition} (paired : c.Paired) (h : c.fragment depth = .ok f) :
    f.Gathers c.leaves := by
  induction c using recMembers generalizing depth f with
  | raw sql values =>
    obtain ⟨-, rfl⟩ := fragment_raw_eq_ok.1 h
    have hleaf : Leaf.raw sql values ∈ (raw sql values).leaves := List.mem_singleton.2 rfl
    exact {
      laid := .source (Leaf.paired_source (paired _ hleaf) (Leaf.fragment_condition h hleaf))
      values_eq := (List.append_nil values).symm }
  | compare c =>
    have hleaf : Leaf.compare c ∈ (compare c).leaves := List.mem_singleton.2 rfl
    obtain ⟨-, hc⟩ := fragment_compare_eq_ok.1 h
    obtain ⟨-, -, rfl⟩ := Comparison.fragment_eq_ok.1 hc
    exact {
      laid := .source (Leaf.paired_source (paired _ hleaf) (Leaf.fragment_condition h hleaf))
      values_eq := (List.append_nil c.operand.values).symm }
  | group conjunction children ih =>
    obtain ⟨-, fs, hfs, rfl⟩ := fragment_group_eq_ok.1 h
    have hmembers := (List.forall₂_and_left _ _).2 ⟨fun c (hc : c ∈ children) => hc, hfs⟩
    have hgathers : List.Forall₂ Fragment.Gathers fs (children.map leaves) := by
      rw [List.forall₂_map_right_iff]
      exact (hmembers.imp fun c f h => ih c h.1 (paired.member h.1) h.2).flip
    rw [leaves_group, List.flatMap_def]
    exact Fragment.gathers_join conjunction hgathers

/-- The leaves of what is written as SQL are written as their sources. -/
theorem written_leaves {c : Condition} (h : c.fragment depth = .ok f) :
    Leaf.Written c.leaves (c.leaves.map Leaf.source) := by
  rw [Leaf.Written, List.forall₂_map_right_iff]
  exact List.forall₂_same.2 fun leaf hleaf => Leaf.fragment_condition h hleaf

/-! ## Filters -/

/-- The leaves of a filter, which may be absent. -/
def filterLeaves (filter? : Option Condition) : List Leaf := filter?.toList.flatMap leaves

/-- The SQL of a filter is put together from the texts of its leaves, which are written so. -/
theorem gathers_filterLeaves {filter? : Option Condition} (paired : ∀ c ∈ filter?, c.Paired)
    (h : filterFragment filter? = .ok f) :
    f.Gathers (filterLeaves filter?) ∧
      Leaf.Written (filterLeaves filter?) ((filterLeaves filter?).map Leaf.source) := by
  cases filter? with
  | none =>
    cases h
    exact ⟨⟨.nil, rfl⟩, .nil⟩
  | some c =>
    rw [filterLeaves, Option.toList_some, List.flatMap_singleton]
    exact ⟨gathers_leaves (paired c rfl) h, written_leaves h⟩

end Condition

end RowQuery
