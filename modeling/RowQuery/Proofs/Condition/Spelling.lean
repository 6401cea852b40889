import RowQuery.Proofs.Condition.Fragment
import RowQuery.Proofs.Condition.NormalForm
import RowQuery.Proofs.Sql.Token

/-!
# What the SQL of a condition spells

A normal form has tokens of its own (`Condition.tokens`): those of its comparisons, joined by the
word of the conjunction, with parentheses around a member that is itself a group. The fragment that
a condition without raw fragments is written as spells the tokens of its normal form, and is the
empty fragment if there is none (`says_normalForm`).
-/

namespace RowQuery

/-! ## Tokens of conditions -/

/-- The tokens of an operand. -/
def Operand.tokens : Operand → List Sql.Token
  | .single v => [.value v]
  | .list values =>
    .opening :: ([Sql.Token.comma].intercalate (values.map fun v => [.value v]) ++ [.closing])

/-- The tokens of a comparison. -/
def Comparison.tokens (c : Comparison) : List Sql.Token :=
  Sql.nameTokens c.column ++ Sql.operatorTokens c.operator ++ c.operand.tokens

namespace Condition

/-- Whether the condition is a group. -/
def isGroup : Condition → Bool
  | .group _ _ => true
  | _ => false

mutual

/-- The tokens of a normal form; a raw fragment has none. -/
def tokens : Condition → List Sql.Token
  | .raw _ _ => []
  | .compare c => c.tokens
  | .group conjunction members =>
    [Sql.conjunctionToken conjunction].intercalate (memberTokens members)

/-- The tokens of the members of a group, with parentheses around those that are groups. -/
def memberTokens : List Condition → List (List Sql.Token)
  | [] => []
  | m :: rest =>
    (if m.isGroup then .opening :: (tokens m ++ [.closing]) else tokens m) :: memberTokens rest

end

/-- The tokens of a condition as a member of a group. -/
def wrappedTokens (m : Condition) : List Sql.Token :=
  if m.isGroup then .opening :: (m.tokens ++ [.closing]) else m.tokens

/-- The tokens of a group are those of its members, joined. -/
theorem tokens_group (conjunction : Conjunction) (members : List Condition) :
    (group conjunction members).tokens =
      [Sql.conjunctionToken conjunction].intercalate (members.map wrappedTokens) := by
  rw [tokens]
  congr 1
  induction members with
  | nil => rfl
  | cons m members ih => rw [memberTokens, ih, List.map_cons, wrappedTokens]

end Condition

/-! ## Fragments that spell conditions -/

/-- A comparison as it is written spells its tokens. -/
theorem Comparison.spells_written {c : Comparison} (h : Sql.backquote ∉ c.column.toList) :
    Sql.Spells c.written.sql c.written.values c.tokens := by
  have hplaces : Sql.Spells c.operand.places c.operand.values c.operand.tokens := by
    cases c.operand with
    | single v => exact .marker v
    | list values => exact (Sql.Spells.markers values).parentheses
  have hall := ((Sql.Spells.quoted h).append (.operator c.operator)).append hplaces
  have htext : c.written.sql =
      Sql.quoted c.column ++ (" " ++ c.operator.text ++ " ") ++ c.operand.places := by
    simp only [written, String.append_assoc]
  rw [htext]
  exact hall

namespace Fragment

/-- The fragment is what a normal form is written as. -/
structure Writes (f : Fragment) (n : Condition) : Prop where
  spells : Sql.Spells f.sql f.values n.tokens
  needsParens : f.needsParens = n.isGroup
  nonempty : f.isEmpty = false

/-- The fragment is what a normal form is written as, or empty if there is none. -/
def Says (f : Fragment) : Option Condition → Prop
  | none => f = {}
  | some n => f.Writes n

/-- As a member of a group, a fragment spells the tokens of the condition as a member. -/
theorem Writes.spells_wrapped {f : Fragment} {n : Condition} (h : f.Writes n) :
    Sql.Spells f.wrapped f.values n.wrappedTokens := by
  unfold wrapped Condition.wrappedTokens
  rw [h.needsParens]
  split
  · exact h.spells.parentheses
  · exact h.spells

/-- What the members of a group say, those that say nothing left out. -/
theorem says_filter {fs : List Fragment} {children : List Condition}
    (h : List.Forall₂ (fun c f => f.Says c.normalForm) children fs) :
    List.Forall₂ Writes (fs.filter (! ·.isEmpty)) (children.filterMap Condition.normalForm) := by
  induction h with
  | nil => exact .nil
  | @cons c f children fs hc _ ih =>
    cases hn : c.normalForm with
    | none =>
      rw [hn] at hc
      rw [List.filterMap_cons_none hn, List.filter_cons_of_neg (by rw [hc]; decide)]
      exact ih
    | some n =>
      rw [hn] at hc
      rw [List.filterMap_cons_some hn, List.filter_cons_of_pos (by rw [hc.nonempty]; rfl)]
      exact .cons hc ih

/-- Several members joined write the group of what they write. -/
theorem writes_several {conjunction : Conjunction} {f f' : Fragment} {fs : List Fragment}
    {members : List Condition} (h : List.Forall₂ Writes (f :: f' :: fs) members) :
    Writes
      { sql := (" " ++ conjunction.text ++ " ").intercalate ((f :: f' :: fs).map wrapped)
        values := (f :: f' :: fs).flatMap values
        needsParens := true } (.group conjunction members) where
  spells := by
    rw [Condition.tokens_group]
    exact (Sql.Spells.conjunction conjunction).intercalate (h.imp fun _ _ hw => hw.spells_wrapped)
  needsParens := rfl
  nonempty := by
    rw [isEmpty, List.map_cons, List.map_cons, String.intercalate_cons_cons,
      String.isEmpty_eq_false_iff]
    intro he
    simp at he

/-- What a group is written as says what is left of its members. -/
theorem says_join {conjunction : Conjunction} {fs : List Fragment} {members : List Condition}
    (h : List.Forall₂ Writes (fs.filter (! ·.isEmpty)) members) :
    (join conjunction fs).Says (Condition.collapse conjunction members) := by
  unfold join
  generalize fs.filter (! ·.isEmpty) = kept at h
  cases h with
  | nil => rfl
  | cons h hrest =>
    cases hrest with
    | nil => exact h
    | cons h' hrest => exact writes_several (.cons h (.cons h' hrest))

end Fragment

/-- A condition without raw fragments is written as what its normal form spells. -/
theorem Condition.says_normalForm {c : Condition} (free : c.RawFree) {depth : Nat} {f : Fragment}
    (h : c.fragment depth = .ok f) : f.Says c.normalForm := by
  induction c using recMembers generalizing depth f with
  | raw sql values => exact absurd free not_rawFree_raw
  | compare c =>
    obtain ⟨-, hc⟩ := fragment_compare_eq_ok.1 h
    obtain ⟨hcolumn, -, rfl⟩ := Comparison.fragment_eq_ok.1 hc
    exact {
      spells := Comparison.spells_written hcolumn
      needsParens := rfl
      nonempty := String.isEmpty_eq_false_iff.2 c.written_sql_ne_empty }
  | group conjunction children ih =>
    obtain ⟨-, fs, hfs, rfl⟩ := fragment_group_eq_ok.1 h
    rw [normalForm_group]
    have hmembers := (List.forall₂_and_left _ _).2 ⟨fun c (hc : c ∈ children) => hc, hfs⟩
    refine Fragment.says_join (Fragment.says_filter ?_)
    exact hmembers.imp fun c f h => ih c h.1 (free.member h.1) h.2

end RowQuery
