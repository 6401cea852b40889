import RowQuery.Proofs.Condition.Spelling
import RowQuery.Proofs.Sql.Grammar

/-!
# The SQL of a condition can be read back

`Sql.restriction?` reads the normal form of a condition from the text and the values that the
condition is written as (`restriction?_fragment`), whatever characters its column names hold. The
text of a comparison is sorted into its own parts (`Comparison.parts`), and a group that stands
between parentheses into one part, so a condition is read from its own parts and those of its
members (`expression?_parts`), by induction on the normal form (`nests_parts`).
-/

namespace RowQuery

/-! ## Comparisons -/

/-- The part that an operand is sorted into. -/
def Operand.part : Operand → Sql.Part
  | .single v => .token (.value v)
  | .list values => .list values

namespace Comparison

/-- The parts that a comparison is sorted into. -/
def parts (c : Comparison) : List Sql.Part :=
  (Sql.nameTokens c.column).map .token ++
    ((Sql.operatorTokens c.operator).map .token ++ [c.operand.part])

/-- A comparison is read from its parts. -/
theorem comparison?_parts {c : Comparison} (h : c.Suited) :
    Sql.comparison? c.parts = some (.compare c) := by
  have hoperator : (((Sql.operatorTokens c.operator).map Sql.Part.token ++
      [c.operand.part]).takeWhile Sql.Part.isName = []) ∧
      (((Sql.operatorTokens c.operator).map Sql.Part.token ++
        [c.operand.part]).dropWhile Sql.Part.isName =
          (Sql.operatorTokens c.operator).map Sql.Part.token ++ [c.operand.part]) := by
    cases c.operator <;> exact ⟨rfl, rfl⟩
  have hword : ∀ p ∈ (Sql.operatorTokens c.operator).map Sql.Part.token,
      p.word?.isSome = true := by
    intro p hp
    obtain ⟨t, ht, rfl⟩ := List.mem_map.1 hp
    obtain ⟨run, -, rfl⟩ := List.mem_map.1 ht
    rfl
  have hoperand : [c.operand.part].takeWhile (·.word?.isSome) = [] ∧
      [c.operand.part].dropWhile (·.word?.isSome) = [c.operand.part] := by
    cases c.operand <;> exact ⟨rfl, rfl⟩
  have hname : ∀ p ∈ (Sql.nameTokens c.column).map Sql.Part.token, p.isName = true :=
    fun p hp => Sql.isName_of_mem_nameTokens hp
  unfold Sql.comparison? parts
  rw [List.takeWhile_append_of_pos hname, List.dropWhile_append_of_pos hname, hoperator.1,
    hoperator.2, List.append_nil, Sql.name?_nameTokens]
  simp only [Option.bind_eq_bind, Option.bind_some]
  rw [List.takeWhile_append_of_pos hword, List.dropWhile_append_of_pos hword, hoperand.1,
    hoperand.2, List.append_nil, Sql.operator?_operatorTokens, Option.bind_some]
  obtain ⟨column, operator, operand⟩ := c
  cases operand with
  | single v =>
    have htakes : operator.takesList = false := h
    simp [Operand.part, Sql.operand?, htakes]
  | list values =>
    have htakes : operator.takesList = true := h.1
    simp [Operand.part, Sql.operand?, htakes]

/-- No part of a comparison is the word of a conjunction. -/
theorem not_conjunction_of_mem_parts {c : Comparison} {p : Sql.Part} (h : p ∈ c.parts)
    (conjunction : Conjunction) : p.is (Sql.conjunctionToken conjunction) = false := by
  rcases List.mem_append.1 h with hname | h
  · have hp := Sql.isName_of_mem_nameTokens hname
    obtain ⟨t, -, rfl⟩ := List.mem_map.1 hname
    cases t <;> first | rfl | cases hp
  rcases List.mem_append.1 h with hoperator | hoperand
  · have hwords : ∀ (operator : Operator) (conjunction : Conjunction),
        ∀ p ∈ (Sql.operatorTokens operator).map Sql.Part.token,
          p.is (Sql.conjunctionToken conjunction) = false := by
      intro operator conjunction
      cases operator <;> cases conjunction <;> decide
    exact hwords c.operator conjunction p hoperator
  · rw [List.mem_singleton.1 hoperand]
    cases c.operand <;> rfl

/-- The tokens of a comparison are sorted into its parts. -/
theorem nests_parts {c : Comparison} (h : c.Suited) : Sql.Nests c.tokens c.parts := by
  have hname : Sql.Nests (Sql.nameTokens c.column) ((Sql.nameTokens c.column).map .token) := by
    refine .plain fun t ht => ?_
    have hp := Sql.isName_of_mem_nameTokens (List.mem_map_of_mem ht)
    constructor <;> (rintro rfl; cases hp)
  have hoperator : Sql.Nests (Sql.operatorTokens c.operator)
      ((Sql.operatorTokens c.operator).map .token) := by
    refine .plain fun t ht => ?_
    obtain ⟨run, -, rfl⟩ := List.mem_map.1 ht
    exact ⟨nofun, nofun⟩
  have hoperand : Sql.Nests c.operand.tokens [c.operand.part] := by
    unfold Suited at h
    cases hc : c.operand with
    | single v => exact .plain fun t ht => List.mem_singleton.1 ht ▸ ⟨nofun, nofun⟩
    | list values =>
      rw [hc] at h
      refine Sql.Nests.parentheses (.plain fun t ht => ?_) (Sql.close?_values h.2)
      rcases Text.of_mem_intercalate ht with hcomma | ⟨part, hpart, ht⟩
      · rw [List.mem_singleton.1 hcomma]
        exact ⟨nofun, nofun⟩
      · obtain ⟨v, -, rfl⟩ := List.mem_map.1 hpart
        rw [List.mem_singleton.1 ht]
        exact ⟨nofun, nofun⟩
  rw [tokens, List.append_assoc]
  exact hname.append (hoperator.append hoperand)

end Comparison

/-! ## Groups -/

namespace Condition

/-- The parts that a condition is sorted into as a member of a group. -/
def memberParts : Condition → List Sql.Part
  | .compare c => c.parts
  | m => [.inner m]

/-- The parts that a condition is sorted into. -/
def parts : Condition → List Sql.Part
  | .group conjunction members =>
    [Sql.Part.token (Sql.conjunctionToken conjunction)].intercalate (members.map memberParts)
  | m => m.memberParts

/-- A member of a group is read from its parts. -/
theorem member?_memberParts {m : Condition} (h : ∀ c ∈ m.comparisons, c.Suited) :
    Sql.member? m.memberParts = some m := by
  cases m with
  | raw sql values => rfl
  | group conjunction members => rfl
  | compare c =>
    unfold memberParts Sql.member?
    split
    · next inner hparts =>
      have hmem : c.operand.part ∈ [Sql.Part.inner inner] :=
        hparts ▸ List.mem_append_right _ (List.mem_append_right _ (List.mem_singleton.2 rfl))
      cases hoperand : c.operand <;> simp [hoperand, Operand.part] at hmem
    · exact Comparison.comparison?_parts (h c (List.mem_singleton.2 rfl))

/-- No part of a member of a group is the word of a conjunction. -/
theorem not_conjunction_of_mem_memberParts {m : Condition} {p : Sql.Part} (h : p ∈ m.memberParts)
    (conjunction : Conjunction) : p.is (Sql.conjunctionToken conjunction) = false := by
  cases m with
  | compare c => exact Comparison.not_conjunction_of_mem_parts h conjunction
  | raw sql values | group conjunction' members =>
    rw [List.mem_singleton.1 h]
    rfl

/-- Parts without a conjunction are read as by themselves. -/
theorem joined?_of_absent {conjunction : Conjunction} {parts : List Sql.Part} {m : Condition}
    {read : List Sql.Part → Option Condition}
    (absent : ∀ p ∈ parts, p.is (Sql.conjunctionToken conjunction) = false)
    (h : read parts = some m) : Sql.joined? conjunction read parts = some m := by
  rw [Sql.joined?, Text.pieces_eq_singleton absent, List.mapM_cons, h]
  rfl

/-- Several members between occurrences of a conjunction are read as their group. -/
theorem joined?_intercalate {conjunction : Conjunction} {members : List Condition}
    {read : List Sql.Part → Option Condition} (several : 2 ≤ members.length)
    (h : ∀ m ∈ members, read m.memberParts = some m) :
    Sql.joined? conjunction read ([Sql.Part.token (Sql.conjunctionToken conjunction)].intercalate
      (members.map memberParts)) = some (.group conjunction members) := by
  have hpieces : Text.pieces (Sql.Part.is (Sql.conjunctionToken conjunction))
      ([Sql.Part.token (Sql.conjunctionToken conjunction)].intercalate
        (members.map memberParts)) = members.map memberParts := by
    refine Text.pieces_intercalate (by simp [Sql.Part.is]) ?_ ?_
    · intro part hpart p hp
      obtain ⟨m, -, rfl⟩ := List.mem_map.1 hpart
      exact not_conjunction_of_mem_memberParts hp conjunction
    · rw [ne_eq, List.map_eq_nil_iff]
      rintro rfl
      simp at several
  rw [Sql.joined?, hpieces, mapM_map_eq_some h, Option.bind_some]
  match members, several with
  | _ :: _ :: _, _ => rfl

/-- A normal condition is read from its parts. -/
theorem expression?_parts {n : Condition} (normal : n.Normal)
    (h : ∀ c ∈ n.comparisons, c.Suited) : Sql.expression? n.parts = some n := by
  have hmember : ∀ m : Condition, (∀ c ∈ m.comparisons, c.Suited) →
      Sql.joined? .and Sql.member? m.memberParts = some m := fun m hm =>
    joined?_of_absent (fun p hp => not_conjunction_of_mem_memberParts hp .and)
      (member?_memberParts hm)
  have hleaf : ∀ m : Condition, (∀ c ∈ m.comparisons, c.Suited) →
      Sql.expression? m.memberParts = some m := fun m hm =>
    joined?_of_absent (fun p hp => not_conjunction_of_mem_memberParts hp .or) (hmember m hm)
  cases normal with
  | raw sql values => exact hleaf (.raw sql values) h
  | compare c => exact hleaf (.compare c) h
  | @group conjunction members several normal =>
    have hmembers : ∀ m ∈ members, ∀ c ∈ m.comparisons, c.Suited :=
      fun m hm c hc => h c (mem_comparisons_group hm hc)
    cases conjunction with
    | or => exact joined?_intercalate several fun m hm => hmember m (hmembers m hm)
    | and =>
      -- `OR` does not occur outside of the parentheses, so the whole group is one member of it
      refine joined?_of_absent (fun p hp => ?_)
        (joined?_intercalate several fun m hm => member?_memberParts (hmembers m hm))
      rcases Text.of_mem_intercalate hp with hand | ⟨part, hpart, hp⟩
      · rw [List.mem_singleton.1 hand]
        rfl
      · obtain ⟨m, -, rfl⟩ := List.mem_map.1 hpart
        exact not_conjunction_of_mem_memberParts hp .or

/-- What stands between parentheses is a condition if it is a group of several members. -/
theorem close?_parts {conjunction : Conjunction} {members : List Condition}
    (normal : (group conjunction members).Normal)
    (h : ∀ c ∈ (group conjunction members).comparisons, c.Suited) :
    Sql.close? (group conjunction members).parts = some (.inner (.group conjunction members)) := by
  have hread := expression?_parts normal h
  have hconjunction : Sql.Part.token (Sql.conjunctionToken conjunction) ∈
      (group conjunction members).parts := by
    cases normal with
    | group _ several _ =>
      match members, several with
      | m :: m' :: rest, _ =>
        rw [parts, List.map_cons, List.map_cons, List.intercalate_cons_cons]
        exact List.mem_append_left _ (List.mem_append_right _ List.mem_cons_self)
  have hlisted : (group conjunction members).parts.all Sql.Part.isListed = false :=
    List.all_eq_false.2 ⟨_, hconjunction, by cases conjunction <;> decide⟩
  rw [Sql.close?, hlisted, hread]
  rfl

/-- The tokens of a condition as a member of a group are sorted into its parts as such. -/
theorem nests_wrappedTokens {m : Condition} (nests : Sql.Nests m.tokens m.parts)
    (normal : m.Normal) (h : ∀ c ∈ m.comparisons, c.Suited) (free : m.RawFree) :
    Sql.Nests m.wrappedTokens m.memberParts := by
  cases m with
  | raw sql values => exact absurd free not_rawFree_raw
  | compare c => exact nests
  | group conjunction members => exact nests.parentheses (close?_parts normal h)

/-- The tokens of a normal condition are sorted into its parts. -/
theorem nests_tokens {n : Condition} (normal : n.Normal) (h : ∀ c ∈ n.comparisons, c.Suited)
    (free : n.RawFree) : Sql.Nests n.tokens n.parts := by
  induction normal with
  | raw sql values => exact absurd free not_rawFree_raw
  | compare c => exact Comparison.nests_parts (h c (List.mem_singleton.2 rfl))
  | group conjunction several normal ih =>
    rw [tokens_group, parts]
    refine Sql.Nests.intercalate (.plain fun t ht => ?_) fun m hm => ?_
    · rw [List.mem_singleton.1 ht]
      exact ⟨nofun, nofun⟩
    · have hm' := fun c hc => h c (mem_comparisons_group hm hc)
      exact nests_wrappedTokens (ih m hm hm' (free.member hm)) (normal m hm) hm' (free.member hm)

/-! ## Whole conditions -/

/-- The normal form of a condition without raw fragments has none. -/
theorem RawFree.of_normalForm {c n : Condition} (free : c.RawFree) (hn : c.normalForm = some n) :
    n.RawFree := fun sql values => leaves_of_normalForm hn ▸ free sql values

/-- In a condition that is written as SQL, the comparisons of the normal form have the operands that
their operators take. -/
theorem suited_of_normalForm {c n : Condition} {depth : Nat} {f : Fragment}
    (h : c.fragment depth = .ok f) (hn : c.normalForm = some n) :
    ∀ comparison ∈ n.comparisons, comparison.Suited := fun comparison hc =>
  (suited_of_fragment h (by rwa [comparisons, ← leaves_of_normalForm hn])).2

/-- The SQL of a condition without raw fragments is read as its normal form. -/
theorem restriction?_fragment {c : Condition} (free : c.RawFree) {depth : Nat} {f : Fragment}
    (h : c.fragment depth = .ok f) : Sql.restriction? f.sql f.values = some c.normalForm := by
  have hsays := says_normalForm free h
  cases hn : c.normalForm with
  | none =>
    rw [hn] at hsays
    obtain rfl : f = {} := hsays
    rfl
  | some n =>
    rw [hn] at hsays
    have hwrites : f.Writes n := hsays
    have hsuited := suited_of_normalForm h hn
    have hnormal := normal_of_normalForm hn
    have hnest := (nests_tokens hnormal hsuited (free.of_normalForm hn)).nest_eq
    have hnonempty : f.sql.isEmpty = false := hwrites.nonempty
    rw [Sql.restriction?, hnonempty, hwrites.spells.boundTokens, Option.bind_some, hnest,
      Option.bind_some, expression?_parts hnormal hsuited]
    rfl

/-- The SQL of a condition without raw fragments determines its normal form: it can be read back
from the text and the values, so conditions that are written alike have the same one. -/
theorem normalForm_from_sql :
    (∀ (c : Condition) (depth : Nat) (f : Fragment), c.RawFree → c.fragment depth = .ok f →
      Sql.restriction? f.sql f.values = some c.normalForm) ∧
    ∀ (c c' : Condition) (depth depth' : Nat) (f f' : Fragment), c.RawFree → c'.RawFree →
      c.fragment depth = .ok f → c'.fragment depth' = .ok f' → f.sql = f'.sql →
      f.values = f'.values → c.normalForm = c'.normalForm := by
  refine ⟨fun c depth f free h => restriction?_fragment free h, ?_⟩
  intro c c' depth depth' f f' free free' h h' hsql hvalues
  have hread := restriction?_fragment free h
  have hread' := restriction?_fragment free' h'
  rw [hsql, hvalues, hread'] at hread
  exact (Option.some.inj hread).symm

/-- Two conditions that differ in a group that says nothing are written alike and have one normal
form, though the name of a column in them looks like SQL. -/
theorem normalForm_from_sql_of_hostile_column :
    let c := group .or [compareWith "x = ? OR (*.y) AND 'z" .lt (.int 1), group .and [],
      group .and [isNull "*", isIn "a.*" [.null, .bool true]]]
    let c' := group .or [compareWith "x = ? OR (*.y) AND 'z" .lt (.int 1),
      group .and [group .or [isNull "*"], isIn "a.*" [.null, .bool true]]]
    let f : Fragment := {
      sql := "`x = ? OR (*`.`y) AND 'z` < ? OR (* IS ? AND `a`.* IN (?, ?))"
      values := [.int 1, .null, .null, .bool true]
      needsParens := true }
    c.fragment 0 = .ok f ∧ c'.fragment 97 = .ok f ∧
      Sql.restriction? f.sql f.values = some c.normalForm ∧ c.normalForm = c'.normalForm := by
  intro c c' f
  have h : c.fragment 0 = .ok f := rfl
  have h' : c'.fragment 97 = .ok f := rfl
  have free : c.RawFree := fun sql values => by
    simp [c, leaves, memberLeaves, compareWith, isNull, isIn, compareList]
  have free' : c'.RawFree := fun sql values => by
    simp [c', leaves, memberLeaves, compareWith, isNull, isIn, compareList]
  exact ⟨h, h', normalForm_from_sql.1 c 0 f free h,
    normalForm_from_sql.2 c c' 0 97 f f free free' h h' rfl rfl⟩

end Condition

end RowQuery
